import Stencil.Proofs.Render.Substitution
import Stencil.Proofs.Run.Agreement

namespace Stencil

namespace Directive

variable {η ω : Type} [Reads ω]

theorem includeFile_eq_error_iff {file : Text} {ctx ctx' : Context η ω} {failure : RenderError} :
    Engine.includeFile file ctx = (.error failure, ctx') ↔
      ∃ cause, ctx.read (Engine.includePath ctx.baseDir file) = (.error cause, ctx') ∧
        failure = .unreadable (Engine.includePath ctx.baseDir file) cause := by
  rw [Engine.includeFile]
  obtain ⟨cause | text, ctx₁⟩ := ctx.read (Engine.includePath ctx.baseDir file)
  · simp [Except.mapError, and_comm, eq_comm]
  · simp [Except.mapError]

/-- The only answer that is a failure is that of an include whose file cannot be read. -/
theorem answer_eq_error_iff {directive : Directive} {ctx ctx' : Context η ω}
    {failure : RenderError} :
    directive.answer ctx = (.error failure, ctx') ↔
      ∃ method params file cause,
        directive.target = .call Engine.includeName method params ∧
        params.get "file" = some file ∧ ctx.registry.contains Engine.includeName = false ∧
        ctx.read (Engine.includePath ctx.baseDir file) = (.error cause, ctx') ∧
        failure = .unreadable (Engine.includePath ctx.baseDir file) cause := by
  rw [answer]
  cases htarget : directive.target with
  | bare name => simp
  | call name method params =>
    simp only [Target.call.injEq]
    by_cases hcontains : ctx.registry.contains name
    · grind
    rw [if_neg hcontains]
    by_cases hname : name = Engine.includeName
    · subst hname
      rw [if_pos rfl]
      cases hfile : params.get "file" with
      | none => grind
      | some file =>
        have hinclude : ∀ included : Except RenderError Text × Context η ω,
            (included.1.map Resolution.replace, included.2) = (.error failure, ctx') ↔
              included = (.error failure, ctx') := by
          rintro ⟨cause | text, ctx₁⟩ <;> simp [Except.map]
        simp only
        rw [hinclude, includeFile_eq_error_iff]
        grind
    · grind

omit [Reads ω] in
theorem call?_of_free [Offers η] {directive : Directive} {ctx : Context η ω}
    {name method : Text} {params : ParamSet} (htarget : directive.target = .call name method params)
    (hfree : ctx.registry.contains name = false) : directive.call? ctx = none := by
  have hlookup : ctx.registry.lookup name = none := Registry.lookup_eq_none_iff.mpr hfree
  have hlend : ctx.registry.lend? name = none := by
    rw [Registry.lend?, hlookup]
    rfl
  rw [call?, htarget]
  simp only [hlend]

end Directive

namespace Engine

variable {η ω : Type} [Reads ω] [Offers η] [Handler η ω]

/-- A command that fails is replaced by the wording of its failure; so what a directive starts never
makes its dispatch fail, at whatever depth something goes wrong. -/
theorem dispatch_eq_error_iff {below : Engine η ω} {directive : Directive}
    {ctx ctx' : Context η ω} {failure : RenderError} :
    below.dispatch directive ctx = some (.error failure, ctx') ↔
      directive.call? ctx = none ∧ directive.answer ctx = (.error failure, ctx') := by
  rw [dispatch_eq]
  cases hcall : directive.call? ctx with
  | none => simp
  | some call =>
    simp only [Option.map_eq_some_iff, reduceCtorEq, false_and, iff_false]
    rintro ⟨ended, -, heq⟩
    cases heq

theorem dispatchAll_cons_eq_ok_iff {below : Engine η ω} {first : Directive} {rest : List Directive}
    {resolved : List (Directive × Resolution)} {ctx ctx' : Context η ω} :
    below.dispatchAll (first :: rest) ctx = some (.ok resolved, ctx') ↔
      ∃ resolution ctx₁ results, below.dispatch first ctx = some (.ok resolution, ctx₁) ∧
        below.dispatchAll rest ctx₁ = some (.ok results, ctx') ∧
        resolved = (first, resolution) :: results := by
  rw [dispatchAll, Option.bind_eq_some_iff]
  constructor
  · rintro ⟨⟨cause | resolution, ctx₁⟩, hfirst, hrest⟩
    · cases hrest
    · obtain ⟨⟨cause | results, ctx₂⟩, hresults, heq⟩ := Option.map_eq_some_iff.mp hrest
      · cases heq
      · cases heq
        exact ⟨resolution, ctx₁, results, hfirst, hresults, rfl⟩
  · rintro ⟨resolution, ctx₁, results, hfirst, hresults, rfl⟩
    exact ⟨_, hfirst, Option.map_eq_some_iff.mpr ⟨_, hresults, rfl⟩⟩

theorem dispatchAll_cons_eq_error_iff {below : Engine η ω} {first : Directive}
    {rest : List Directive} {ctx ctx' : Context η ω} {failure : RenderError} :
    below.dispatchAll (first :: rest) ctx = some (.error failure, ctx') ↔
      below.dispatch first ctx = some (.error failure, ctx') ∨
        ∃ resolution ctx₁, below.dispatch first ctx = some (.ok resolution, ctx₁) ∧
          below.dispatchAll rest ctx₁ = some (.error failure, ctx') := by
  rw [dispatchAll, Option.bind_eq_some_iff]
  constructor
  · rintro ⟨⟨cause | resolution, ctx₁⟩, hfirst, hrest⟩
    · cases hrest
      exact .inl hfirst
    · obtain ⟨⟨cause | results, ctx₂⟩, hresults, heq⟩ := Option.map_eq_some_iff.mp hrest
      · cases heq
        exact .inr ⟨resolution, ctx₁, hfirst, hresults⟩
      · cases heq
  · rintro (hfirst | ⟨resolution, ctx₁, hfirst, hresults⟩)
    · exact ⟨_, hfirst, rfl⟩
    · exact ⟨_, hfirst, Option.map_eq_some_iff.mpr ⟨_, hresults, rfl⟩⟩

/-- Directives fail to be resolved just when one of them does, those before it being resolved. -/
theorem dispatchAll_eq_error_iff {below : Engine η ω} {directives : List Directive}
    {ctx ctx' : Context η ω} {failure : RenderError} :
    below.dispatchAll directives ctx = some (.error failure, ctx') ↔
      ∃ before directive after resolved reached,
        directives = before ++ directive :: after ∧
        below.dispatchAll before ctx = some (.ok resolved, reached) ∧
        below.dispatch directive reached = some (.error failure, ctx') := by
  induction directives generalizing ctx with
  | nil => simp [dispatchAll]
  | cons first rest ih =>
    rw [dispatchAll_cons_eq_error_iff]
    constructor
    · rintro (hfirst | ⟨resolution, ctx₁, hfirst, hrest⟩)
      · exact ⟨[], first, rest, [], ctx, rfl, rfl, hfirst⟩
      · obtain ⟨before, directive, after, resolved, reached, rfl, hbefore, hfails⟩ := ih.mp hrest
        exact ⟨first :: before, directive, after, (first, resolution) :: resolved, reached, rfl,
          dispatchAll_cons_eq_ok_iff.mpr ⟨resolution, ctx₁, resolved, hfirst, hbefore, rfl⟩, hfails⟩
    · rintro ⟨before, directive, after, resolved, reached, hsplit, hbefore, hfails⟩
      cases before with
      | nil =>
        cases hsplit
        cases hbefore
        exact .inl hfails
      | cons first' before =>
        cases hsplit
        obtain ⟨resolution, ctx₁, results, hfirst, hresults, rfl⟩ :=
          dispatchAll_cons_eq_ok_iff.mp hbefore
        exact .inr ⟨resolution, ctx₁, hfirst,
          ih.mpr ⟨before, directive, after, results, reached, rfl, hresults, hfails⟩⟩

/-- A render fails just when one of its directives does. -/
theorem render_eq_error_iff {lower : Nat} {text : Text} {ctx ctx' : Context η ω}
    {failure : RenderError} :
    ctx.render (lower + 1) text = some (.error failure, ctx') ↔
      (engine lower).dispatchAll (Directive.scan text) ctx = some (.error failure, ctx') := by
  change Option.map _ _ = _ ↔ _
  rw [Option.map_eq_some_iff]
  constructor
  · rintro ⟨⟨result, ctx₁⟩, hdispatch, heq⟩
    cases result with
    | ok resolved => cases heq
    | error cause =>
      cases heq
      exact hdispatch
  · intro hdispatch
    exact ⟨_, hdispatch, rfl⟩

end Engine

open Moment

variable {η ω : Type} [Reads ω] [Offers η] [Handler η ω]

/-- While directives are resolved, a run is at one after the other. -/
theorem Engine.Followed.dispatchAll {α : Type} {below : Engine η ω} (hbelow : below.Followed α)
    {role : Role} (stack : Stack η ω α role) (next : Except RenderError Text → Code η ω α role)
    {text : Text} {before rest : List Directive} {done resolved : List (Directive × Resolution)}
    {ctx reached : Context η ω}
    (hbefore : below.dispatchAll before ctx = some (.ok resolved, reached)) :
    (rendering stack next ⟨text, done, before ++ rest⟩ ctx).Leads
      (rendering stack next ⟨text, done ++ resolved, rest⟩ reached) := by
  induction before generalizing ctx done resolved with
  | nil =>
    cases hbefore
    rw [List.append_nil]
    exact .refl _
  | cons directive before ih =>
    obtain ⟨resolution, ctx₁, results, hdispatch, hresults, rfl⟩ :=
      Engine.dispatchAll_cons_eq_ok_iff.mp hbefore
    have hrest : (rendering stack next
          ⟨text, done ++ [(directive, resolution)], before ++ rest⟩ ctx₁).Leads
        (rendering stack next ⟨text, done ++ [(directive, resolution)] ++ results, rest⟩ reached) :=
      ih hresults
    rw [List.append_assoc] at hrest
    refine .trans ?_ hrest
    rw [Engine.dispatch_eq] at hdispatch
    cases hcall : directive.call? ctx with
    | none =>
      rw [hcall] at hdispatch
      exact .step (step_rendering_of_ok rfl hcall (Option.some.inj hdispatch)) (.refl _)
    | some call =>
      rw [hcall] at hdispatch
      obtain ⟨⟨⟨plugin, answered⟩, outputs, ctx₂⟩, hrun, heq⟩ :=
        Option.map_eq_some_iff.mp hdispatch
      cases heq
      have hcommand := hbelow.run
        (.command call.name call.method [] ⟨text, done, directive :: before ++ rest⟩ stack next)
        _ hrun
      rw [Stack.foldl_emit_command] at hcommand
      exact .step (step_rendering_of_call rfl hcall) (hcommand.trans (.step rfl (.refl _)))

/-- A render fails just when it comes to a directive that includes a file which cannot be read, and
no plugin has the name under which files are included. It fails with the path and the cause. The
distinct directives in front have been resolved, in their order, each once, and the step that is
taken at the turn of the failing one ends the render, so that none behind it is looked at. Nothing
else makes a render fail: neither plugins that are unknown or cannot be loaded, nor commands, hooks
and nested renders that fail, at whatever depth. -/
theorem render_eq_error_iff_unreadable_include {depth : Nat} {text : Text} {ctx ctx' : Context η ω}
    {failure : RenderError} :
    ctx.render depth text = some (.error failure, ctx') ↔
      ∃ lower before directive after resolved reached method params file cause,
        depth = lower + 1 ∧
        Directive.scan text = before ++ directive :: after ∧
        ((Directive.scan text).map Directive.raw).Nodup ∧
        resolved.map Prod.fst = before ∧
        (engine lower).dispatchAll before ctx = some (.ok resolved, reached) ∧
        directive.target = .call Engine.includeName method params ∧
        params.get "file" = some file ∧
        reached.registry.contains Engine.includeName = false ∧
        (let named := file.filter fun c => c ≠ '"' && c ≠ '\''
          let path := Path.join reached.baseDir (named.dropWhile fun c => c = '/' || c = '\\')
          reached.read path = (.error cause, ctx') ∧ failure = .unreadable path cause) ∧
        ∀ {α : Type} {role : Role} (stack : Stack η ω α role)
          (next : Except RenderError Text → Code η ω α role),
          let turn := rendering stack next ⟨text, resolved, directive :: after⟩ reached
          (rendering stack next (.begin text) ctx).Leads turn ∧
            turn.step = some (none, code stack (next (.error failure)) ctx') := by
  constructor
  · intro hrender
    cases depth with
    | zero => cases hrender
    | succ lower =>
      obtain ⟨before, directive, after, resolved, reached, hscan, hbefore, hfails⟩ :=
        Engine.dispatchAll_eq_error_iff.mp (Engine.render_eq_error_iff.mp hrender)
      obtain ⟨hcall, hanswer⟩ := Engine.dispatch_eq_error_iff.mp hfails
      obtain ⟨method, params, file, cause, htarget, hfile, hfree, hread, hfailure⟩ :=
        Directive.answer_eq_error_iff.mp hanswer
      refine ⟨lower, before, directive, after, resolved, reached, method, params, file, cause, rfl,
        hscan, Directive.nodup_map_raw_scan text, Engine.map_fst_of_dispatchAll hbefore, hbefore,
        htarget, hfile, hfree, ⟨hread, hfailure⟩, fun stack next => ⟨?_, ?_⟩⟩
      · rw [Rendering.begin, hscan]
        exact (followed_engine lower).dispatchAll stack next hbefore
      · exact step_rendering_of_error rfl hcall hanswer
  · rintro ⟨lower, before, directive, after, resolved, reached, method, params, file, cause, rfl,
      hscan, -, -, hbefore, htarget, hfile, hfree, ⟨hread, hfailure⟩, -⟩
    have hfails : (engine lower).dispatch directive reached = some (.error failure, ctx') :=
      Engine.dispatch_eq_error_iff.mpr ⟨Directive.call?_of_free htarget hfree,
        Directive.answer_eq_error_iff.mpr
          ⟨method, params, file, cause, htarget, hfile, hfree, hread, hfailure⟩⟩
    exact Engine.render_eq_error_iff.mpr (Engine.dispatchAll_eq_error_iff.mpr
      ⟨before, directive, after, resolved, reached, hscan, hbefore, hfails⟩)

end Stencil
