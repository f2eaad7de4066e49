import Stencil.Plugin.CommandTable

namespace Stencil

namespace Script

variable {ε η ω α β : Type}

/-- Whether code ends with a value, if it is given the right answers. -/
inductive MayEnd : Script ε η ω α → α → Prop
  | done {a : α} : MayEnd (done a) a
  | emit {output : ε} {next : Script ε η ω α} {a : α} (hnext : MayEnd next a) :
      MayEnd (emit output next) a
  | render {text : Text} {next : Except RenderError Text → Script ε η ω α} {a : α}
      {result : Except RenderError Text} (hnext : MayEnd (next result) a) :
      MayEnd (render text next) a
  | load {name : Text} {next : Except RenderError Unit → Script ε η ω α} {a : α}
      {result : Except RenderError Unit} (hnext : MayEnd (next result) a) :
      MayEnd (load name next) a
  | register {name : Text} {plugin : η} {next : Except RenderError Bool → Script ε η ω α} {a : α}
      {result : Except RenderError Bool} (hnext : MayEnd (next result) a) :
      MayEnd (register name plugin next) a
  | settle {next : Except RenderError Unit → Script ε η ω α} {a : α}
      {result : Except RenderError Unit} (hnext : MayEnd (next result) a) :
      MayEnd (settle next) a
  | setBase {dir : Text} {next : Script ε η ω α} {a : α} (hnext : MayEnd next a) :
      MayEnd (setBase dir next) a
  | read {path : Text} {next : Except ReadError Text → Script ε η ω α} {a : α}
      {result : Except ReadError Text} (hnext : MayEnd (next result) a) :
      MayEnd (read path next) a
  | observe {next : View ω → Script ε η ω α} {a : α} {view : View ω}
      (hnext : MayEnd (next view) a) : MayEnd (observe next) a
  | update {change : ω → ω} {next : Script ε η ω α} {a : α} (hnext : MayEnd next a) :
      MayEnd (update change next) a

section Nodes

variable {a b : α} {next : Script ε η ω α}

@[simp] theorem mayEnd_done_iff : (done a : Script ε η ω α).MayEnd b ↔ b = a :=
  ⟨fun hend => by cases hend; rfl, fun heq => heq ▸ .done⟩

@[simp] theorem mayEnd_emit_iff {output : ε} : (emit output next).MayEnd a ↔ next.MayEnd a :=
  ⟨fun hend => by cases hend; assumption, .emit⟩

@[simp] theorem mayEnd_render_iff {text : Text} {next : Except RenderError Text → Script ε η ω α} :
    (render text next).MayEnd a ↔ ∃ result, (next result).MayEnd a :=
  ⟨fun hend => by cases hend; exact ⟨_, ‹_›⟩, fun ⟨_, hnext⟩ => .render hnext⟩

@[simp] theorem mayEnd_load_iff {name : Text} {next : Except RenderError Unit → Script ε η ω α} :
    (load name next).MayEnd a ↔ ∃ result, (next result).MayEnd a :=
  ⟨fun hend => by cases hend; exact ⟨_, ‹_›⟩, fun ⟨_, hnext⟩ => .load hnext⟩

@[simp] theorem mayEnd_register_iff {name : Text} {plugin : η}
    {next : Except RenderError Bool → Script ε η ω α} :
    (register name plugin next).MayEnd a ↔ ∃ result, (next result).MayEnd a :=
  ⟨fun hend => by cases hend; exact ⟨_, ‹_›⟩, fun ⟨_, hnext⟩ => .register hnext⟩

@[simp] theorem mayEnd_settle_iff {next : Except RenderError Unit → Script ε η ω α} :
    (settle next).MayEnd a ↔ ∃ result, (next result).MayEnd a :=
  ⟨fun hend => by cases hend; exact ⟨_, ‹_›⟩, fun ⟨_, hnext⟩ => .settle hnext⟩

@[simp] theorem mayEnd_setBase_iff {dir : Text} : (setBase dir next).MayEnd a ↔ next.MayEnd a :=
  ⟨fun hend => by cases hend; assumption, .setBase⟩

@[simp] theorem mayEnd_read_iff {path : Text} {next : Except ReadError Text → Script ε η ω α} :
    (read path next).MayEnd a ↔ ∃ result, (next result).MayEnd a :=
  ⟨fun hend => by cases hend; exact ⟨_, ‹_›⟩, fun ⟨_, hnext⟩ => .read hnext⟩

@[simp] theorem mayEnd_observe_iff {next : View ω → Script ε η ω α} :
    (observe next).MayEnd a ↔ ∃ view, (next view).MayEnd a :=
  ⟨fun hend => by cases hend; exact ⟨_, ‹_›⟩, fun ⟨_, hnext⟩ => .observe hnext⟩

@[simp] theorem mayEnd_update_iff {change : ω → ω} :
    (update change next).MayEnd a ↔ next.MayEnd a :=
  ⟨fun hend => by cases hend; assumption, .update⟩

@[simp] theorem mayEnd_pure_iff : (pure a : Script ε η ω α).MayEnd b ↔ b = a :=
  mayEnd_done_iff

end Nodes

/-- One script after another ends as the second may after an ending of the first. -/
@[simp] theorem mayEnd_bind_iff {first : Script ε η ω α} {second : α → Script ε η ω β} {b : β} :
    (first >>= second).MayEnd b ↔ ∃ a, first.MayEnd a ∧ (second a).MayEnd b := by
  change (first.andThen second).MayEnd b ↔ _
  induction first with
  | done a => simp [andThen]
  | emit output next ih => simp [andThen, ih]
  | render text next ih =>
    simp only [andThen, mayEnd_render_iff, ih, ← exists_and_right]
    exact exists_comm
  | load name next ih =>
    simp only [andThen, mayEnd_load_iff, ih, ← exists_and_right]
    exact exists_comm
  | register name plugin next ih =>
    simp only [andThen, mayEnd_register_iff, ih, ← exists_and_right]
    exact exists_comm
  | settle next ih =>
    simp only [andThen, mayEnd_settle_iff, ih, ← exists_and_right]
    exact exists_comm
  | setBase dir next ih => simp [andThen, ih]
  | read path next ih =>
    simp only [andThen, mayEnd_read_iff, ih, ← exists_and_right]
    exact exists_comm
  | observe next ih =>
    simp only [andThen, mayEnd_observe_iff, ih, ← exists_and_right]
    exact exists_comm
  | update change next ih => simp [andThen, ih]

end Script

end Stencil
