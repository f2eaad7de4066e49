import Stencil.Plugin.Scripted
import Stencil.Proofs.Plugin.Folding
import Stencil.Proofs.Run.Progress
import Stencil.Files.Shelf

namespace Stencil

/-- What a context replies to code. -/
inductive Reply (ω : Type)
  | rendered (result : Except RenderError Text)
  | loaded (result : Except RenderError Unit)
  | registered (result : Except RenderError Bool)
  | settled (result : Except RenderError Unit)
  | contents (result : Except ReadError Text)
  | seen (view : View ω)

/-- What code emits, in order, and ends with if it is given some replies; nothing if they are not
the replies to what it asks. -/
def Script.replay {ε η ω α : Type} : Script ε η ω α → List (Reply ω) → Option (List ε × α)
  | done a, [] => some ([], a)
  | emit output next, replies =>
    (next.replay replies).map fun (outputs, a) => (output :: outputs, a)
  | render _ next, .rendered result :: replies => (next result).replay replies
  | load _ next, .loaded result :: replies => (next result).replay replies
  | register _ _ next, .registered result :: replies => (next result).replay replies
  | settle next, .settled result :: replies => (next result).replay replies
  | setBase _ next, replies => next.replay replies
  | read _ next, .contents result :: replies => (next result).replay replies
  | observe next, .seen view :: replies => (next view).replay replies
  | update _ next, replies => next.replay replies
  | _, _ => none

namespace Engine

variable {η ω ε α β : Type}

/-- Notes the answer of the context to something and what is replied from then on. -/
def heard (reply : β → Reply ω) (answer : Option (β × Context η ω))
    (later : β → Context η ω → Option (List (Reply ω) × Context η ω)) :
    Option (List (Reply ω) × Context η ω) :=
  answer.bind fun (result, ctx) =>
    (later result ctx).map fun (replies, ctx) => (reply result :: replies, ctx)

theorem heard_eq_some_iff {reply : β → Reply ω} {answer : Option (β × Context η ω)}
    {later : β → Context η ω → Option (List (Reply ω) × Context η ω)} {replies : List (Reply ω)}
    {ctx' : Context η ω} :
    heard reply answer later = some (replies, ctx') ↔
      ∃ result ctx rest, answer = some (result, ctx) ∧ later result ctx = some (rest, ctx') ∧
        replies = reply result :: rest := by
  rw [heard, Option.bind_eq_some_iff]
  constructor
  · rintro ⟨⟨result, ctx⟩, hanswer, hlater⟩
    obtain ⟨⟨rest, ctx''⟩, hrest, heq⟩ := Option.map_eq_some_iff.mp hlater
    cases heq
    exact ⟨result, ctx, rest, hanswer, hrest, rfl⟩
  · rintro ⟨result, ctx, rest, hanswer, hrest, rfl⟩
    exact ⟨_, hanswer, Option.map_eq_some_iff.mpr ⟨_, hrest, rfl⟩⟩

variable [Reads ω] [Offers η]

/-- What the context replies to code, and the context that the code leaves. What other code emits
that is run meanwhile is no reply. -/
def replies (below : Engine η ω) :
    Script ε η ω α → Context η ω → Option (List (Reply ω) × Context η ω)
  | .done _, ctx => some ([], ctx)
  | .emit _ next, ctx => below.replies next ctx
  | .render text next, ctx =>
    heard .rendered (below.render text ctx) fun result ctx => below.replies (next result) ctx
  | .load name next, ctx =>
    heard .loaded (below.load name ctx) fun result ctx => below.replies (next result) ctx
  | .register name plugin next, ctx =>
    heard .registered (below.register name plugin ctx) fun result ctx =>
      below.replies (next result) ctx
  | .settle next, ctx =>
    heard .settled (below.settle ctx) fun result ctx => below.replies (next result) ctx
  | .setBase dir next, ctx => below.replies next { ctx with baseDir := dir }
  | .read path next, ctx =>
    heard .contents (some (ctx.read path)) fun result ctx => below.replies (next result) ctx
  | .observe next, ctx =>
    heard .seen (some (ctx.view, ctx)) fun view ctx => below.replies (next view) ctx
  | .update change next, ctx => below.replies next { ctx with world := change ctx.world }

/-- What code comes to if it comes to what follows from the replies. -/
def replayed (script : Script ε η ω α) (answered : Option (List (Reply ω) × Context η ω)) :
    Option (α × List ε × Context η ω) :=
  answered.bind fun (replies, ctx') =>
    (script.replay replies).map fun (outputs, a) => (a, outputs, ctx')

omit [Reads ω] [Offers η] in
theorem replayed_heard {asking : Script ε η ω α} {next : β → Script ε η ω α}
    {reply : β → Reply ω}
    (hreplay : ∀ result replies, asking.replay (reply result :: replies) =
      (next result).replay replies)
    (answer : Option (β × Context η ω))
    (later : β → Context η ω → Option (List (Reply ω) × Context η ω)) :
    replayed asking (heard reply answer later) =
      answer.bind fun (result, ctx) => replayed (next result) (later result ctx) := by
  simp only [replayed, heard, Option.bind_assoc, Option.bind_map]
  refine Option.bind_congr fun asked _ => Option.bind_congr fun answered _ => ?_
  simp only [Function.comp_apply, hreplay]

/-- Code comes to what follows from the replies that it is given. -/
theorem run_eq_replayed (below : Engine η ω) (script : Script ε η ω α) (ctx : Context η ω) :
    below.run script ctx = replayed script (below.replies script ctx) := by
  induction script generalizing ctx with
  | done a => rfl
  | emit output next ih =>
    rw [run, ih, replies]
    cases below.replies next ctx with
    | none => rfl
    | some answered => simp [replayed, Script.replay, Function.comp_def]
  | render text next ih =>
    rw [replies, replayed_heard fun _ _ => rfl, run]
    exact Option.bind_congr fun asked _ => ih _ _
  | load name next ih =>
    rw [replies, replayed_heard fun _ _ => rfl, run]
    exact Option.bind_congr fun asked _ => ih _ _
  | register name plugin next ih =>
    rw [replies, replayed_heard fun _ _ => rfl, run]
    exact Option.bind_congr fun asked _ => ih _ _
  | settle next ih =>
    rw [replies, replayed_heard fun _ _ => rfl, run]
    exact Option.bind_congr fun asked _ => ih _ _
  | setBase dir next ih => exact ih _
  | read path next ih =>
    rw [replies, replayed_heard fun _ _ => rfl]
    exact ih _ _
  | observe next ih =>
    rw [replies, replayed_heard fun _ _ => rfl]
    exact ih _ _
  | update change next ih => exact ih _

/-- The replies that code is given are those to what it asks. -/
theorem exists_replay_of_replies {below : Engine η ω} {script : Script ε η ω α}
    {ctx ctx' : Context η ω} {replies : List (Reply ω)}
    (hreplies : below.replies script ctx = some (replies, ctx')) :
    ∃ outputs a, script.replay replies = some (outputs, a) := by
  induction script generalizing ctx replies with
  | done a =>
    cases hreplies
    exact ⟨[], a, rfl⟩
  | emit output next ih =>
    obtain ⟨outputs, a, hreplay⟩ := ih hreplies
    exact ⟨output :: outputs, a, by rw [Script.replay, hreplay]; rfl⟩
  | render text next ih =>
    obtain ⟨result, ctx₁, rest, -, hrest, rfl⟩ := heard_eq_some_iff.mp hreplies
    exact ih result hrest
  | load name next ih =>
    obtain ⟨result, ctx₁, rest, -, hrest, rfl⟩ := heard_eq_some_iff.mp hreplies
    exact ih result hrest
  | register name plugin next ih =>
    obtain ⟨result, ctx₁, rest, -, hrest, rfl⟩ := heard_eq_some_iff.mp hreplies
    exact ih result hrest
  | settle next ih =>
    obtain ⟨result, ctx₁, rest, -, hrest, rfl⟩ := heard_eq_some_iff.mp hreplies
    exact ih result hrest
  | setBase dir next ih => exact ih hreplies
  | read path next ih =>
    obtain ⟨result, ctx₁, rest, -, hrest, rfl⟩ := heard_eq_some_iff.mp hreplies
    exact ih result hrest
  | observe next ih =>
    obtain ⟨view, ctx₁, rest, -, hrest, rfl⟩ := heard_eq_some_iff.mp hreplies
    exact ih view hrest
  | update change next ih => exact ih hreplies

/-- What is put in the place of a directive whose command is run follows from the code of the
command and the replies that it is given. -/
theorem dispatch_eq_replayed [Handler η ω] (below : Engine η ω) {directive : Directive}
    {ctx : Context η ω} {call : Call η} (hcall : directive.call? ctx = some call) :
    let script := Handler.invoke call.plugin call.method call.params
    below.dispatch directive ctx =
      (replayed script (below.replies script { ctx with registry := call.registry })).map
        fun ended =>
          let (resolution, ctx) := closeCall call.name ended
          (.ok resolution, ctx) := by
  intro script
  rw [dispatch_eq, hcall]
  simp only [run_eq_replayed]
  rfl

/-- What is put in the place of a directive by a command that ends like this, when it has emitted
something before, with the plugin and the context that it leaves. -/
def reported (out : Text) (ended : (η × Except PluginError Text) × List Text × Context η ω) :
    Text × η × Context η ω :=
  let ((plugin, result), outputs, ctx) := ended
  (replacement (result.map (· ++ (out ++ outputs.flatten))), plugin, ctx)

/-- Commands of which one can be put in the place of the other do the same and report the same. -/
theorem run_of_folds (below : Engine η ω) {out out' : Text}
    {script script' : Command η ω (η × Except PluginError Text)}
    (hfolds : script.Folds out out' script') (ctx : Context η ω) :
    (below.run script ctx).map (reported out) = (below.run script' ctx).map (reported out') := by
  induction hfolds generalizing ctx with
  | succeeds plugin hsame => simp [run, reported, replacement, Except.map, hsame]
  | fails plugin cause => rfl
  | words plugin cause => simp [run, reported, replacement, Except.map]
  | emits hnext ih =>
    rw [run, Option.map_map, ← ih]
    congr 1
    funext ended
    simp [reported]
  | emits' hnext ih =>
    rw [run, Option.map_map, ih]
    congr 1
    funext ended
    simp [reported]
  | render text hnext ih =>
    rw [run, run, Option.map_bind, Option.map_bind]
    exact Option.bind_congr fun replied _ => ih _ _
  | load name hnext ih =>
    rw [run, run, Option.map_bind, Option.map_bind]
    exact Option.bind_congr fun replied _ => ih _ _
  | register name plugin hnext ih =>
    rw [run, run, Option.map_bind, Option.map_bind]
    exact Option.bind_congr fun replied _ => ih _ _
  | settle hnext ih =>
    rw [run, run, Option.map_bind, Option.map_bind]
    exact Option.bind_congr fun replied _ => ih _ _
  | setBase dir hnext ih => exact ih _
  | read path hnext ih => exact ih _ _
  | observe hnext ih => exact ih _ _
  | update change hnext ih => exact ih _

end Engine

section Exchange

variable {η ω : Type} [Reads ω] [Offers η]

/-- Whether the plugins do the same in both ways of running them, and report the same. -/
structure Handler.Folds (H H' : Handler η ω) : Prop where
  command : ∀ plugin method params?,
    (H.invoke plugin method params?).Folds [] [] (H'.invoke plugin method params?)
  hook : ∀ plugin, H.loaded plugin = H'.loaded plugin

variable {H H' : Handler η ω}

namespace Engine

theorem dispatch_of_folds (hfolds : H.Folds H') (below : Engine η ω) (directive : Directive)
    (ctx : Context η ω) :
    @dispatch η ω _ _ H below directive ctx = @dispatch η ω _ _ H' below directive ctx := by
  rw [@dispatch_eq η ω _ _ H, @dispatch_eq η ω _ _ H']
  cases directive.call? ctx with
  | none => rfl
  | some call =>
    have hrun := below.run_of_folds (hfolds.command call.plugin call.method call.params)
      { ctx with registry := call.registry }
    have hclose := congrArg (Option.map fun (text, plugin, ctx') =>
      ((.ok (.replace text), Context.restore ctx' call.name plugin) :
        Except RenderError Resolution × Context η ω)) hrun
    rw [Option.map_map, Option.map_map] at hclose
    exact hclose

theorem dispatchAll_of_folds (hfolds : H.Folds H') (below : Engine η ω)
    (directives : List Directive) (ctx : Context η ω) :
    @dispatchAll η ω _ _ H below directives ctx = @dispatchAll η ω _ _ H' below directives ctx := by
  induction directives generalizing ctx with
  | nil => rfl
  | cons directive rest ih =>
    rw [@dispatchAll.eq_2 η ω _ _ H, @dispatchAll.eq_2 η ω _ _ H', dispatch_of_folds hfolds]
    refine Option.bind_congr fun found _ => ?_
    obtain ⟨result, ctx₁⟩ := found
    cases result with
    | error cause => rfl
    | ok resolution => exact congrArg (Option.map _) (ih ctx₁)

theorem engine_of_folds (hfolds : H.Folds H') (depth : Nat) :
    @engine η ω _ _ H depth = @engine η ω _ _ H' depth := by
  induction depth with
  | zero => rfl
  | succ depth ih =>
    have hrender : @renderStep η ω _ _ H (@engine η ω _ _ H depth) =
        @renderStep η ω _ _ H' (@engine η ω _ _ H' depth) := by
      funext text ctx
      rw [ih]
      exact congrArg (Option.map _) (dispatchAll_of_folds hfolds _ (Directive.scan text) ctx)
    have hhooks : @runHooksStep η ω _ _ H (@engine η ω _ _ H depth) =
        @runHooksStep η ω _ _ H' (@engine η ω _ _ H' depth) := by
      funext ctx
      rw [ih, @runHooksStep.eq_1 η ω _ _ H, @runHooksStep.eq_1 η ω _ _ H']
      cases ctx.registry.nextUninitialized? with
      | none => rfl
      | some waiting =>
        simp only [hfolds.hook]
    exact (congrArg (Engine.mk · _) hrender).trans (congrArg (Engine.mk _) hhooks)

end Engine

end Exchange

/-- Every plugin with its commands folded. -/
abbrev Handler.folded {η ω : Type} [Offers η] (H : Handler η ω) : Handler η ω where
  invoke plugin method params? := (H.invoke plugin method params?).folded []
  loaded := H.loaded

theorem Handler.folds_folded {η ω : Type} [Offers η] (H : Handler η ω) : H.Folds H.folded where
  command _ _ _ := Script.folds_folded _ _
  hook _ := rfl

/-- Plugins that do the same and report the same, whether they fail or not, whether they emit what
they report or not, cannot be told apart by anything that an engine of any depth does: not by a
render, its output or its failure, nor by the context and the plugins that it leaves. And what is
put in the place of a directive whose command is run are the value and behind it the texts that the
command itself emits, in that order, or the wording of its failure alone; what it emits follows from
its code and the replies that it is given, among which is the result of every render that it starts,
but nothing that other commands emit meanwhile. -/
theorem commands_known_by_reports {η ω : Type} [Reads ω] [Offers η] (H H' : Handler η ω)
    (hfolds : H.Folds H') :
    (∀ depth, @engine η ω _ _ H depth = @engine η ω _ _ H' depth) ∧
    ∀ depth directive ctx call, directive.call? ctx = some call →
      let below := @engine η ω _ _ H depth
      let script := H.invoke call.plugin call.method call.params
      let begun := { ctx with registry := call.registry }
      (below.replies script begun = none → @Engine.dispatch η ω _ _ H below directive ctx = none) ∧
      ∀ replies ctx', below.replies script begun = some (replies, ctx') →
        ∃ outputs plugin result, script.replay replies = some (outputs, plugin, result) ∧
          @Engine.dispatch η ω _ _ H below directive ctx =
            some (.ok (.replace (match result with
              | .ok value => value ++ outputs.flatten
              | .error cause => cause.message)), ctx'.restore call.name plugin) := by
  refine ⟨Engine.engine_of_folds hfolds, fun depth directive ctx call hcall => ?_⟩
  intro below script begun
  rw [@Engine.dispatch_eq_replayed η ω _ _ H below directive ctx call hcall]
  constructor
  · intro hnone
    exact congrArg (fun answered => Option.map _ (Engine.replayed script answered)) hnone
  · intro replies ctx' hreplies
    obtain ⟨outputs, ⟨plugin, result⟩, hreplay⟩ := Engine.exists_replay_of_replies hreplies
    refine ⟨outputs, plugin, result, hreplay, ?_⟩
    have hended : Engine.replayed script (below.replies script begun) =
        some ((plugin, result), outputs, ctx') := by
      simp only [Engine.replayed, hreplies, Option.bind_some, hreplay, Option.map_some]
    refine (congrArg (Option.map _) hended).trans ?_
    cases result <;> rfl

/-- One plugin renders the directives of another one, of which one fails and the other emits
something behind its value. With commands that emit nothing and never fail it is the same. -/
theorem commands_known_by_reports_failing_inside :
    let lost : RawMethod := ⟨"lost", .error (.other "gone ")⟩
    let kept : RawMethod := ⟨"!", .ok "here"⟩
    let inner : Guest := .raw [(['f'], lost), (['e'], kept)]
    let outer : Guest := .bound ⟨['B'], ⟨[(['r'], .render)]⟩, .new []⟩
    let text : Text := "\x7b\x7bB.r(text=\x7b\x7bA.f&#125;&#125;\x7b\x7bA.e&#125;&#125;)\x7d\x7d"
    let H : Handler Guest (Noted Shelf) := inferInstance
    let ctx : Context Guest (Noted Shelf) :=
      { Context.new Context.defaultRoot Context.defaultBase [] ⟨⟨[]⟩, []⟩ with
        registry :=
          (Registry.empty.add ⟨['A'], some inner, true⟩ rfl).add ⟨['B'], some outer, true⟩ rfl }
    H.Folds H.folded ∧
    (H.invoke inner ['f'] none).replay [] =
      some ([lost.output], inner, .error (.other "gone ")) ∧
    (H.folded.invoke inner ['f'] none).replay [] = some ([], inner, .ok "gone ") ∧
    (@Context.render _ _ _ _ H.folded 2 text ctx).map (fun ended => ended.1.toOption) =
      some (some "gone here!".toList) := by
  intro lost kept inner outer text H ctx
  obtain ⟨hengine, -⟩ := commands_known_by_reports H H.folded H.folds_folded
  refine ⟨H.folds_folded, rfl, rfl, ?_⟩
  have hrender : (@Context.render _ _ _ _ H 2 text ctx).map (fun ended => ended.1.toOption) =
      some (some "gone here!".toList) := by decide +kernel
  rwa [@Context.render.eq_1 _ _ _ _ H, hengine] at hrender

end Stencil
