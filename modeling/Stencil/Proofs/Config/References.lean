import Stencil.Config.Environment
import Stencil.Proofs.Text.Cut
import Stencil.Proofs.Text.Parts

namespace Stencil.Environment

/-- A character of the name of a variable. -/
def isWordChar (c : Char) : Bool :=
  c.isAlphanum || c = '_'

/-- The name of a variable. -/
structure VariableName where
  text : Text
  ne_nil : text ≠ []
  wordChars : ∀ c ∈ text, isWordChar c = true

theorem VariableName.not_mem (name : VariableName) {c : Char} (hchar : isWordChar c = false) :
    c ∉ name.text := by
  intro hmem
  rw [name.wordChars c hmem] at hchar
  cases hchar

/-- A reference to a variable, with what is put in its place where the variable is not set. -/
structure Reference where
  name : VariableName
  default : Option Text
  closed : ∀ text ∈ default, '}' ∉ text

namespace Reference

/-- What stands between the braces. -/
def body (reference : Reference) : Text :=
  reference.name.text ++ match reference.default with
    | some text => [':', '-'] ++ text
    | none => []

def write (reference : Reference) : Text :=
  ['$', '{'] ++ (reference.body ++ ['}'])

/-- What a reference stands for, if it stands for anything. -/
def value? (env : Environment) (reference : Reference) : Option Text :=
  (env.get reference.name.text).or reference.default

theorem value?_eq_none_iff {env : Environment} {reference : Reference} :
    reference.value? env = none ↔
      env.get reference.name.text = none ∧ reference.default = none := by
  rw [value?, Option.or_eq_none_iff]

theorem not_mem_body (reference : Reference) : '}' ∉ reference.body := by
  have hname : '}' ∉ reference.name.text := reference.name.not_mem (by decide)
  rw [body]
  cases hdefault : reference.default with
  | none => simpa using hname
  | some text => simpa [hname] using reference.closed text hdefault

/-- Between its braces a reference is read as it was written. -/
theorem braced_body (env : Environment) (reference : Reference) :
    env.braced reference.body = match reference.value? env with
      | some value => .ok value
      | none => .error reference.name.text := by
  have hcolon : ':' ∉ reference.name.text := reference.name.not_mem (by decide)
  have hmark : ¬ [':'] ++ ['-'] <:+: reference.name.text := fun hwithin =>
    hcolon (hwithin.subset (by simp))
  have hname : reference.name.text.isEmpty = false := by simpa using reference.name.ne_nil
  rw [braced, value?, body]
  cases reference.default with
  | none =>
    have hcut : Text.cutAt ":-" reference.name.text = none := Text.cutAt_eq_none_iff.mpr hmark
    rw [List.append_nil, hcut, Option.or_none]
    rfl
  | some text =>
    have hcut : Text.cutAt ":-" (reference.name.text ++ ([':', '-'] ++ text)) =
        some (reference.name.text, text) := Text.cutAt_append (by decide) hmark text
    rw [hcut]
    simp only [hname, Bool.false_eq_true, if_false]
    cases env.get reference.name.text <;> rfl

end Reference

section Expand

variable (env : Environment)

/-- Characters that belong to a reference already replaced are passed over. -/
theorem expandFrom_eq_expandFrom_drop (skip : Nat) (t : Text) :
    env.expandFrom skip t = env.expandFrom 0 (t.drop skip) := by
  induction skip generalizing t with
  | zero => rfl
  | succ skip ih =>
    cases t with
    | nil => rfl
    | cons c t =>
      rw [expandFrom]
      exact ih t

theorem expandFrom_cons_of_ne {c : Char} (hc : c ≠ '$') (t : Text) :
    env.expandFrom 0 (c :: t) = (env.expandFrom 0 t).map (c :: ·) := by
  rw [expandFrom.eq_def]
  exact if_pos hc

theorem expandFrom_append_of_not_mem {a : Text} (ha : '$' ∉ a) (t : Text) :
    env.expandFrom 0 (a ++ t) = (env.expandFrom 0 t).map (a ++ ·) := by
  induction a with
  | nil => cases h : env.expandFrom 0 t <;> simp [h, Except.map]
  | cons c a ih =>
    obtain ⟨hne, ha⟩ := not_or.mp (mt List.mem_cons.mpr ha)
    rw [List.cons_append, expandFrom_cons_of_ne env (Ne.symm hne), ih ha]
    cases env.expandFrom 0 t <;> rfl

theorem expandFrom_write_append (reference : Reference) (t : Text) :
    env.expandFrom 0 (reference.write ++ t) = match reference.value? env with
      | some value => (env.expandFrom 0 t).map (value ++ ·)
      | none => .error reference.name.text := by
  have hwrite : reference.write ++ t = '$' :: '{' :: (reference.body ++ '}' :: t) := by
    simp [Reference.write]
  have hcut := Text.cutFirst_append reference.not_mem_body t
  have hdrop : ('{' :: (reference.body ++ '}' :: t)).drop (reference.body.length + 2) = t := by
    rw [show '{' :: (reference.body ++ '}' :: t) = ('{' :: (reference.body ++ ['}'])) ++ t by simp]
    exact List.drop_left' (by simp)
  rw [hwrite, expandFrom, if_neg (by simp), hcut]
  simp only [reference.braced_body]
  cases reference.value? env with
  | none => rfl
  | some value => simp only [expandFrom_eq_expandFrom_drop env (_ + 2), hdrop]

end Expand

/-- A value as it is written: a literal text, and references with literal texts behind them. -/
structure Template where
  lead : Text
  parts : List (Reference × Text)
  lead_literal : '$' ∉ lead
  parts_literal : ∀ part ∈ parts, '$' ∉ part.2

namespace Template

def write (template : Template) : Text :=
  template.lead ++ template.parts.flatMap fun (reference, text) => reference.write ++ text

/-- The references of a value, from left to right. -/
def references (template : Template) : List Reference :=
  template.parts.map Prod.fst

/-- What a value means whose references all stand for something. -/
def meaning (env : Environment) (template : Template) : Text :=
  template.lead ++ template.parts.flatMap fun (reference, text) =>
    (reference.value? env).getD [] ++ text

variable (env : Environment)

theorem expandFrom_parts {parts : List (Reference × Text)}
    (hliteral : ∀ part ∈ parts, '$' ∉ part.2) :
    env.expandFrom 0 (parts.flatMap fun (reference, text) => reference.write ++ text) =
      match (parts.map Prod.fst).find? fun reference => (reference.value? env).isNone with
      | some reference => .error reference.name.text
      | none => .ok (parts.flatMap fun (reference, text) =>
        (reference.value? env).getD [] ++ text) := by
  induction parts with
  | nil => rfl
  | cons part parts ih =>
    obtain ⟨reference, text⟩ := part
    obtain ⟨htext, hliteral⟩ := List.forall_mem_cons.mp hliteral
    rw [List.flatMap_cons, List.append_assoc, expandFrom_write_append,
      expandFrom_append_of_not_mem env htext, ih hliteral, List.map_cons, List.find?_cons]
    cases hvalue : reference.value? env with
    | none => rfl
    | some value =>
      cases (parts.map Prod.fst).find? fun reference => (reference.value? env).isNone with
      | some other => rfl
      | none => simp [Except.map, hvalue]

/-- A value is expanded part by part, up to the first reference that stands for nothing. -/
theorem expand_write (template : Template) :
    env.expand template.write =
      match template.references.find? fun reference => (reference.value? env).isNone with
      | some reference => .error reference.name.text
      | none => .ok (template.meaning env) := by
  have hfrom : env.expandFrom 0 template.write =
      match template.references.find? fun reference => (reference.value? env).isNone with
      | some reference => .error reference.name.text
      | none => .ok (template.meaning env) := by
    rw [write, expandFrom_append_of_not_mem env template.lead_literal,
      expandFrom_parts env template.parts_literal]
    unfold references meaning
    cases (template.parts.map Prod.fst).find? fun reference => (reference.value? env).isNone <;> rfl
  rw [expand]
  split
  · exact hfrom
  · -- without a reference the value is its literal text
    rename_i hnone
    rw [Text.holds_iff] at hnone
    obtain ⟨lead, parts, hlead, hparts⟩ := template
    cases parts with
    | nil => simp [write, references, meaning]
    | cons part parts =>
      refine absurd ?_ hnone
      exact ⟨lead, part.1.body ++ ['}'] ++ part.2 ++ parts.flatMap fun (reference, text) =>
        reference.write ++ text, by simp [write, Reference.write]⟩

end Template

/-- A value in which no reference between braces begins is not looked at. -/
theorem expand_eq_self {value : Text} (env : Environment) (hnone : ¬ ['$', '{'] <:+: value) :
    env.expand value = .ok value := by
  rw [expand, if_neg (mt Text.holds_iff.mp hnone)]

end Stencil.Environment
