import Stencil.Proofs.Run.Moment

namespace Stencil.Moment

variable {η ω α : Type}

/-- The names of the catalog entries from which the next step makes plugins. -/
def makes : Moment η ω α → List Text
  | code _ (.load name _) ctx =>
    match ctx.catalog.activate? name with
    | some catalog => Catalog.names (catalog.pending ctx.registry)
    | none =>
      if ctx.registry.contains name then Catalog.names (ctx.catalog.pending ctx.registry) else []
  | code _ (.register name plugin _) ctx =>
    Catalog.names (ctx.catalog.pending
      ((ctx.registry.register? name plugin).getD ctx.registry))
  | code _ (.settle _) ctx => Catalog.names (ctx.catalog.pending ctx.registry)
  | _ => []

variable [Reads ω] [Offers η] [Handler η ω]

/-- The names of the catalog entries from which plugins were made up to the moment after a number of
steps, in order. -/
def made (first : Moment η ω α) : Nat → List Text
  | 0 => []
  | n + 1 => first.made n ++ (first.after n).elim [] fun (_, m) => m.makes

theorem made_add {first m m' : Moment η ω α} {n k : Nat} {past further : List Event}
    (hfirst : first.after n = some (past, m)) (hsecond : m.after k = some (further, m')) :
    first.made (n + k) = first.made n ++ m.made k := by
  induction k generalizing further m' with
  | zero => exact (List.append_nil _).symm
  | succ k ih =>
    obtain ⟨further', m₁, event, hfurther, -, -⟩ := after_succ_eq_some_iff.mp hsecond
    rw [← Nat.add_assoc, made, made, ih hfurther, after_add hfirst hfurther, hfurther,
      List.append_assoc]
    rfl

/-- A later moment of the same run, with the names of the catalog entries from which plugins are
made on the way. -/
def Passes (m m' : Moment η ω α) (names : List Text) : Prop :=
  ∃ n events, m.after n = some (events, m') ∧ m.made n = names

namespace Passes

variable {m m' m'' : Moment η ω α} {names names' : List Text}

theorem refl (m : Moment η ω α) : m.Passes m [] :=
  ⟨0, [], rfl, rfl⟩

theorem trans (hfirst : m.Passes m' names) (hsecond : m'.Passes m'' names') :
    m.Passes m'' (names ++ names') := by
  obtain ⟨n, past, hpast, rfl⟩ := hfirst
  obtain ⟨k, further, hfurther, rfl⟩ := hsecond
  exact ⟨n + k, past ++ further, after_add hpast hfurther, made_add hpast hfurther⟩

theorem step {event : Option Event} (hstep : m.step = some (event, m'))
    (hrest : m'.Passes m'' names) : m.Passes m'' (m.makes ++ names) := by
  have hone : m.Passes m' m.makes :=
    ⟨1, event.toList, after_succ_eq_some_iff.mpr ⟨[], m, event, rfl, hstep, rfl⟩, rfl⟩
  exact hone.trans hrest

/-- A step before which nothing is made. -/
theorem step_of_makes_eq_nil {event : Option Event} (hstep : m.step = some (event, m'))
    (hmakes : m.makes = []) (hrest : m'.Passes m'' names) : m.Passes m'' names := by
  have hpasses := hrest.step hstep
  rw [hmakes, List.nil_append] at hpasses
  exact hpasses

end Passes

end Stencil.Moment
