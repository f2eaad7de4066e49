import Stencil.Proofs.Render.Failure

namespace Stencil

/-- A call of a plugin that is not registered, and no include of a file. -/
def Directive.Unknown {η ω : Type} (directive : Directive) (ctx : Context η ω) : Prop :=
  ∃ plugin method params, directive.target = .call plugin method params ∧
    ctx.registry.contains plugin = false ∧
    (plugin = Engine.includeName → params.get "file" = none)

theorem Directive.unknown_iff_of_call {η ω : Type} {directive : Directive} {plugin method : Text}
    {params : ParamSet} (htarget : directive.target = .call plugin method params)
    (ctx : Context η ω) : directive.Unknown ctx ↔
      ctx.registry.contains plugin = false ∧
        (plugin = Engine.includeName → params.get "file" = none) := by
  rw [Unknown, htarget]
  constructor
  · rintro ⟨plugin', method', params', heq, hunknown⟩
    cases heq
    exact hunknown
  · exact fun hunknown => ⟨plugin, method, params, rfl, hunknown⟩

namespace Engine

variable {η ω : Type} [Reads ω] [Offers η] [Handler η ω] {below : Engine η ω}

theorem dispatchAll_append_eq_ok_iff {front back : List Directive}
    {resolved : List (Directive × Resolution)} {ctx ctx' : Context η ω} :
    below.dispatchAll (front ++ back) ctx = some (.ok resolved, ctx') ↔
      ∃ done reached results, below.dispatchAll front ctx = some (.ok done, reached) ∧
        below.dispatchAll back reached = some (.ok results, ctx') ∧
        resolved = done ++ results := by
  induction front generalizing ctx resolved with
  | nil => simp [dispatchAll]
  | cons first front ih =>
    simp only [List.cons_append, dispatchAll_cons_eq_ok_iff, ih]
    constructor
    · rintro ⟨resolution, ctx₁, _, hfirst, ⟨done, reached, results, hfront, hback, rfl⟩, rfl⟩
      exact ⟨(first, resolution) :: done, reached, results, ⟨resolution, ctx₁, done, hfirst, hfront,
        rfl⟩, hback, rfl⟩
    · rintro ⟨_, reached, results, ⟨resolution, ctx₁, done, hfirst, hfront, rfl⟩, hback, rfl⟩
      exact ⟨resolution, ctx₁, done ++ results, hfirst,
        ⟨done, reached, results, hfront, hback, rfl⟩, rfl⟩

/-- When the turn of a directive is, those in front of it have been resolved. -/
theorem exists_turn {directives : List Directive} {before after : List (Directive × Resolution)}
    {directive : Directive} {resolution : Resolution} {ctx ctx' : Context η ω}
    (hresolved : below.dispatchAll directives ctx =
      some (.ok (before ++ (directive, resolution) :: after), ctx')) :
    ∃ reached next, below.dispatchAll (before.map Prod.fst) ctx = some (.ok before, reached) ∧
      below.dispatch directive reached = some (.ok resolution, next) := by
  have hsplit : directives = before.map Prod.fst ++ directive :: after.map Prod.fst := by
    rw [← map_fst_of_dispatchAll hresolved, List.map_append, List.map_cons]
  rw [hsplit, dispatchAll_append_eq_ok_iff] at hresolved
  obtain ⟨done, reached, results, hfront, hback, heq⟩ := hresolved
  obtain ⟨resolution', next, results', hfirst, -, rfl⟩ := dispatchAll_cons_eq_ok_iff.mp hback
  have hlength : before.length = done.length := by
    have hdone := congrArg List.length (map_fst_of_dispatchAll hfront)
    rwa [List.length_map, List.length_map, eq_comm] at hdone
  obtain ⟨rfl, hrest⟩ := List.append_inj heq hlength
  cases hrest
  exact ⟨reached, next, hfront, hfirst⟩

/-- Only unknown directives are left as they are written. -/
theorem dispatch_eq_inert_iff {directive : Directive} {ctx ctx' : Context η ω} :
    below.dispatch directive ctx = some (.ok .inert, ctx') ↔
      directive.Unknown ctx ∧ ctx' = ctx := by
  cases htarget : directive.target with
  | bare name => simp [dispatch, htarget, Directive.Unknown]
  | call plugin method params =>
    rw [Directive.unknown_iff_of_call htarget, dispatch, htarget]
    simp only
    by_cases hcontains : ctx.registry.contains plugin
    · simp [hcontains]
    have hfree : ctx.registry.contains plugin = false := by simpa using hcontains
    rw [if_neg hcontains]
    by_cases hname : plugin = includeName
    · rw [if_pos hname]
      cases hfile : params.get "file" with
      | none => simp [hfree, eq_comm]
      | some file =>
        simp only
        obtain ⟨cause | text, ctx₁⟩ := includeFile file ctx <;> simp [hname, Except.map]
    · rw [if_neg hname]
      simp [hfree, hname, eq_comm]

/-- A file that can be read is what its include is replaced by, unless a plugin has taken the name
under which files are included. -/
theorem dispatch_include {directive : Directive} {method file text : Text} {params : ParamSet}
    {ctx ctx' : Context η ω} (htarget : directive.target = .call includeName method params)
    (hfile : params.get "file" = some file)
    (hfree : ctx.registry.contains includeName = false)
    (hread : ctx.read (includePath ctx.baseDir file) = (.ok text, ctx')) :
    below.dispatch directive ctx = some (.ok (.replace text), ctx') := by
  rw [dispatch, htarget]
  simp only [hfree, hfile, includeFile, hread]
  rfl

end Engine

end Stencil
