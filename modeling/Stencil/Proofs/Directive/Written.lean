import Stencil.Proofs.Directive.Distinct
import Stencil.Proofs.Directive.Params
import Stencil.Proofs.Entity.Encode

namespace Stencil

namespace Target

/-- The payload that asks for a target. -/
def write : Target → Text
  | bare name => name
  | call plugin method [] => plugin ++ '.' :: method
  | call plugin method params => plugin ++ '.' :: (method ++ '(' :: (params.write ++ [')']))

/-- The token of a target: its payload with ampersands and closing braces encoded. -/
def token (target : Target) : Text :=
  Directive.token (Entity.encode target.write)

/-- The directive that a target is read back as. -/
def directive (target : Target) : Directive :=
  ⟨target.token, target.write, target⟩

/-- Targets that can be told from their written form. -/
def Writable : Target → Prop
  | bare name => '.' ∉ name
  | call plugin method params => '.' ∉ plugin ∧ '(' ∉ method ∧ params.Writable

/-- A target is read back from its payload. -/
theorem parse_write {target : Target} (htarget : target.Writable) :
    parse target.write = target := by
  cases target with
  | bare name => simp only [parse, write, Text.cutFirst_eq_none htarget]
  | call plugin method params =>
    obtain ⟨hplugin, hmethod, hparams⟩ := htarget
    cases params with
    | nil =>
      simp only [parse, write, Text.cutFirst_append hplugin, Text.cutFirst_eq_none hmethod]
    | cons first params =>
      have hcall : ParamSet.ofCall
          (method ++ '(' :: (ParamSet.write (first :: params) ++ [')'])) = first :: params := by
        simp only [ParamSet.ofCall, Text.cutFirst_append hmethod, Text.cutLast_append_singleton]
        exact ParamSet.parse_write hparams (by simp)
      simp only [parse, write, Text.cutFirst_append hplugin, Text.cutFirst_append hmethod, hcall]

theorem token_injective_of_writable {target target' : Target} (htarget : target.Writable)
    (htarget' : target'.Writable) (htoken : target.token = target'.token) : target = target' := by
  have hencode := Directive.token_injective htoken
  have hwrite := congrArg Entity.decode hencode
  rw [Entity.decode_encode, Entity.decode_encode] at hwrite
  rw [← parse_write htarget, hwrite, parse_write htarget']

theorem parse_token {target : Target} (htarget : target.Writable) :
    Directive.parse target.token (Entity.encode target.write) = target.directive := by
  simp only [Directive.parse, Entity.decode_encode, parse_write htarget, directive]

end Target

namespace Directive

theorem quiet_of_not_mem {s : Text} (hs : '{' ∉ s) (rest : Text) : Text.Quiet tokenAt s rest := by
  induction s with
  | nil => exact Text.quiet_nil _ _
  | cons c s ih =>
    obtain ⟨hne, hs⟩ := not_or.mp (mt List.mem_cons.mpr hs)
    refine .cons ?_ (ih hs)
    unfold tokenAt
    split
    · exact absurd (List.cons.inj ‹_›).1.symm hne
    · rfl

/-- Tokens with text free of opening braces around them are found as they stand there. -/
theorem payloads_write {β : Type} {document : Layout β} {payload : β → Text}
    (hclosed : ∀ b, '}' ∉ payload b) (hgaps : ∀ gap ∈ document.gaps, '{' ∉ gap) :
    payloads (document.write fun b => token (payload b)) = document.marks.map payload := by
  obtain ⟨lead, places⟩ := document
  induction places generalizing lead with
  | nil =>
    have hlead := Text.matchesOf_append_of_quiet
      (quiet_of_not_mem (hgaps lead List.mem_cons_self) [])
    simpa [payloads, Layout.write, Layout.marks, Text.matchesOf] using hlead
  | cons place places ih =>
    obtain ⟨b, gap⟩ := place
    rw [Layout.write_cons, payloads,
      Text.matchesOf_append_of_quiet (quiet_of_not_mem (hgaps lead List.mem_cons_self) _),
      Text.matchesOf_append_of_match (length_token _) (tokenAt_token_append (hclosed b) _),
      ← payloads, ih gap fun g hg => hgaps g (List.mem_cons_of_mem _ hg)]
    rfl

/-- A document of written directives is scanned to the directives that were written, each once, in
the order in which they first stand there. -/
theorem scan_write {document : Layout Target}
    (htargets : ∀ target ∈ document.marks, target.Writable)
    (hgaps : ∀ gap ∈ document.gaps, '{' ∉ gap) :
    scan (document.write Target.token) = document.marks.eraseDups.map Target.directive ∧
    (scan (document.write Target.token)).map Directive.raw =
      (document.marks.map Target.token).eraseDups := by
  have hpayloads : payloads (document.write Target.token) =
      document.marks.map fun target => Entity.encode target.write :=
    payloads_write (fun target => Entity.not_mem_encode target.write) hgaps
  have hinjective : ∀ target ∈ document.marks, ∀ target' ∈ document.marks,
      target.token = target'.token → target = target' := fun target hmem target' hmem' =>
    Target.token_injective_of_writable (htargets target hmem) (htargets target' hmem')
  have hscan : scan (document.write Target.token) =
      document.marks.eraseDups.map Target.directive := by
    have hdistinct : (payloads (document.write Target.token)).eraseDups =
        document.marks.eraseDups.map fun target => Entity.encode target.write := by
      rw [hpayloads]
      apply eraseDups_map
      intro target hmem target' hmem' hencode
      exact hinjective target hmem target' hmem' (congrArg Directive.token hencode)
    rw [scan, hdistinct, List.map_map]
    apply List.map_congr_left
    intro target hmem
    exact Target.parse_token (htargets target (List.mem_eraseDups.mp hmem))
  refine ⟨hscan, ?_⟩
  rw [hscan, eraseDups_map hinjective, List.map_map]
  rfl

/-- A call whose key holds an escaped comma, and whose value holds a comma behind a backslash,
parentheses, braces, an equals sign and an ampersand, between two tokens of one bare name. -/
theorem scan_write_braces_and_commas :
    let call : Target := .call ['A'] ['f', '.', ')']
      [(['\\', ',', 'k'], .text ['\\', ',', '=', '(', ')', '}', '{', '&', 'a']), ([], .flag)]
    let document : Layout Target :=
      ⟨['}'], [(.bare ['{', '&'], []), (call, [',']), (.bare ['{', '&'], [])]⟩
    (∀ target ∈ document.marks, target.Writable) ∧ (∀ gap ∈ document.gaps, '{' ∉ gap) ∧
    scan (document.write Target.token) = [(Target.bare ['{', '&']).directive, call.directive] := by
  intro call document
  have hparams : ParamSet.Writable
      [(['\\', ',', 'k'], .text ['\\', ',', '=', '(', ')', '}', '{', '&', 'a']), ([], .flag)] := {
    distinct := by decide
    key := by simp [ParamSet.commasEscaped_iff_unbroken, ParamSet.Unbroken]
    inner := by simp [ParamSet.EndsInBackslash, ← ParamSet.endsEscaped_false_iff,
      ParamSet.endsEscaped] }
  have htargets : ∀ target ∈ document.marks, target.Writable := by
    have hbare : (Target.bare ['{', '&']).Writable := by simp [Target.Writable]
    have hcall : call.Writable := ⟨by decide, by decide, hparams⟩
    simpa [document, Layout.marks] using ⟨hbare, hcall, hbare⟩
  have hgaps : ∀ gap ∈ document.gaps, '{' ∉ gap := by decide
  exact ⟨htargets, hgaps, (scan_write htargets hgaps).1⟩

end Directive

end Stencil
