import Mathlib.Data.List.Nodup
import Stencil.Directive.Params
import Stencil.Proofs.Text.Cut
import Stencil.Proofs.Text.Leftmost

namespace Stencil.ParamSet

/-- Whether a text whose predecessor is `escaped` ends right behind a backslash. -/
def endsEscaped : Bool → Text → Bool
  | escaped, [] => escaped
  | _, c :: rest => endsEscaped (c == '\\') rest

/-- Every comma of a text, whose predecessor is `escaped`, stands right behind a backslash. -/
def Unbroken : Bool → Text → Prop
  | _, [] => True
  | escaped, c :: rest => (c = ',' → escaped = true) ∧ Unbroken (c == '\\') rest

theorem splitFrom_cons_of_unbroken {escaped : Bool} {c : Char} {rest : Text} {piece : Text}
    {pieces : List Text} (hcomma : c = ',' → escaped = true)
    (hrest : splitFrom (c == '\\') rest = piece :: pieces) :
    splitFrom escaped (c :: rest) = (c :: piece) :: pieces := by
  have hnot : ¬ (c = ',' ∧ escaped = false) := by
    rintro ⟨hc, hescaped⟩
    rw [hcomma hc] at hescaped
    cases hescaped
  rw [splitFrom, if_neg hnot, hrest]

theorem splitFrom_of_unbroken {escaped : Bool} {t : Text} (ht : Unbroken escaped t) :
    splitFrom escaped t = [t] := by
  induction t generalizing escaped with
  | nil => rfl
  | cons c t ih => exact splitFrom_cons_of_unbroken ht.1 (ih ht.2)

/-- A comma divides behind a text that does not end in a backslash. -/
theorem splitFrom_append_comma {escaped : Bool} {t : Text} (ht : Unbroken escaped t)
    (hend : endsEscaped escaped t = false) (rest : Text) :
    splitFrom escaped (t ++ ',' :: rest) = t :: splitFrom false rest := by
  induction t generalizing escaped with
  | nil =>
    rw [endsEscaped] at hend
    rw [List.nil_append, splitFrom, if_pos ⟨rfl, hend⟩]
  | cons c t ih => exact splitFrom_cons_of_unbroken ht.1 (ih ht.2 hend)

theorem unbroken_append {escaped : Bool} {s t : Text} :
    Unbroken escaped (s ++ t) ↔ Unbroken escaped s ∧ Unbroken (endsEscaped escaped s) t := by
  induction s generalizing escaped with
  | nil => simp [Unbroken, endsEscaped]
  | cons c s ih => rw [List.cons_append, Unbroken, Unbroken, endsEscaped, ih, and_assoc]

theorem endsEscaped_append (escaped : Bool) (s t : Text) :
    endsEscaped escaped (s ++ t) = endsEscaped (endsEscaped escaped s) t := by
  induction s generalizing escaped with
  | nil => rfl
  | cons c s ih => exact ih _

theorem endsEscaped_false_iff {t : Text} : endsEscaped false t = false ↔ ¬ ['\\'] <:+ t := by
  rcases List.eq_nil_or_concat t with rfl | ⟨before, c, rfl⟩
  · simp [endsEscaped]
  · have hsuffix : ['\\'] <:+ before ++ [c] ↔ c = '\\' := by
      constructor
      · rintro ⟨before', hbefore⟩
        exact (List.cons.inj (List.append_inj_right' hbefore rfl)).1.symm
      · rintro rfl
        exact List.suffix_append _ _
    rw [List.concat_eq_append, hsuffix, endsEscaped_append, endsEscaped, endsEscaped,
      beq_eq_false_iff_ne]

/-- Every comma of a key is escaped within the key. -/
def CommasEscaped (key : Text) : Prop :=
  ∀ before after, key = before ++ ',' :: after → ['\\'] <:+ before

/-- Looking one character back finds the commas that are not escaped. -/
theorem commasEscaped_iff_unbroken {key : Text} : CommasEscaped key ↔ Unbroken false key := by
  constructor
  · intro hkey
    suffices h : ∀ before after, key = before ++ after →
        Unbroken (endsEscaped false before) after from h [] key rfl
    intro before after hsplit
    induction after generalizing before with
    | nil => trivial
    | cons c after ih =>
      refine ⟨?_, ?_⟩
      · rintro rfl
        by_contra hend
        rw [Bool.not_eq_true, endsEscaped_false_iff] at hend
        exact hend (hkey before after hsplit)
      · have hnext := ih (before ++ [c]) (by rw [hsplit, List.append_assoc]; rfl)
        rwa [endsEscaped_append] at hnext
  · rintro hkey before after rfl
    have hend := (unbroken_append.mp hkey).2.1 rfl
    by_contra hnot
    rw [endsEscaped_false_iff.mpr hnot] at hend
    cases hend

/-- A value as it is written: every comma gets a backslash. -/
def escape (value : Text) : Text :=
  value.flatMap fun c => if c = ',' then ['\\', ','] else [c]

theorem escape_cons_comma (value : Text) :
    escape (',' :: value) = '\\' :: ',' :: escape value := rfl

theorem escape_cons_of_ne {c : Char} (hne : c ≠ ',') (value : Text) :
    escape (c :: value) = c :: escape value := by
  rw [escape, List.flatMap_cons, if_neg hne]
  rfl

theorem unbroken_escape (escaped : Bool) (value : Text) : Unbroken escaped (escape value) := by
  induction value generalizing escaped with
  | nil => trivial
  | cons c value ih =>
    by_cases hc : c = ','
    · rw [hc, escape_cons_comma]
      exact ⟨by simp, by simp, ih _⟩
    · rw [escape_cons_of_ne hc]
      exact ⟨fun heq => absurd heq hc, ih _⟩

theorem endsEscaped_escape (escaped : Bool) (value : Text) :
    endsEscaped escaped (escape value) = endsEscaped escaped value := by
  induction value generalizing escaped with
  | nil => rfl
  | cons c value ih =>
    by_cases hc : c = ','
    · rw [hc, escape_cons_comma]
      exact ih _
    · rw [escape_cons_of_ne hc]
      exact ih _

/-- Escaped text does not begin with a comma, so a backslash in front of it is left alone. -/
theorem not_comma_leads_escape (value : Text) : ¬ [','] <+: escape value := by
  cases value with
  | nil => simp [escape]
  | cons c value =>
    by_cases hc : c = ','
    · rw [hc, escape_cons_comma, List.cons_prefix_cons]
      simp
    · rw [escape_cons_of_ne hc, List.cons_prefix_cons]
      exact fun hleads => hc hleads.1.symm

theorem unescape_escape (value : Text) : unescape (escape value) = value := by
  rw [unescape, Text.replaceAll_eq_replaceMatches (by simp)]
  induction value with
  | nil => rfl
  | cons c value ih =>
    by_cases hc : c = ','
    · have hmatch : Text.literal ['\\', ','] [','] (['\\', ','] ++ escape value) =
          some ([','], 1) := Text.literal_append [','] (escape value)
      rw [hc, escape_cons_comma]
      calc Text.replaceMatches _ (['\\', ','] ++ escape value)
          = [','] ++ Text.replaceMatches _ (escape value) :=
            Text.replaceMatches_append_of_match rfl hmatch
        _ = ',' :: value := by rw [ih]; rfl
    · have hnone : Text.literal ['\\', ','] [','] (c :: escape value) = none := by
        rw [Text.literal_eq_none_iff, List.cons_prefix_cons]
        exact fun hleads => not_comma_leads_escape value hleads.2
      rw [escape_cons_of_ne hc]
      calc Text.replaceMatches _ ([c] ++ escape value)
          = [c] ++ Text.replaceMatches _ (escape value) :=
            Text.replaceMatches_append_of_quiet (.cons hnone (Text.quiet_nil _ _))
        _ = c :: value := by rw [ih]; rfl

/-- An entry as it is written. -/
def writeEntry : Text × ParamValue → Text
  | (key, .flag) => key
  | (key, .text value) => key ++ '=' :: escape value

/-- A parameter list as it is written between parentheses. -/
def write (params : ParamSet) : Text :=
  [','].intercalate (params.map writeEntry)

/-- Whether what is written of an entry ends in a backslash. -/
def EndsInBackslash : Text × ParamValue → Prop
  | (key, .flag) => ['\\'] <:+ key
  | (_, .text value) => ['\\'] <:+ value

/-- Parameters that can be told from their written form. -/
structure Writable (params : ParamSet) : Prop where
  distinct : (params.map Prod.fst).Nodup
  key : ∀ entry ∈ params, '=' ∉ entry.1 ∧ CommasEscaped entry.1
  inner : ∀ entry ∈ params.dropLast, ¬ EndsInBackslash entry

theorem unbroken_writeEntry {written : Text × ParamValue} (hkey : CommasEscaped written.1) :
    Unbroken false (writeEntry written) := by
  obtain ⟨key, value | _⟩ := written
  · exact unbroken_append.mpr ⟨commasEscaped_iff_unbroken.mp hkey, by simp, unbroken_escape _ value⟩
  · exact commasEscaped_iff_unbroken.mp hkey

theorem endsEscaped_writeEntry {written : Text × ParamValue} (hend : ¬ EndsInBackslash written) :
    endsEscaped false (writeEntry written) = false := by
  obtain ⟨key, value | _⟩ := written
  · rw [writeEntry, endsEscaped_append, endsEscaped, endsEscaped_escape]
    exact endsEscaped_false_iff.mpr hend
  · exact endsEscaped_false_iff.mpr hend

theorem entry_writeEntry {written : Text × ParamValue} (hkey : '=' ∉ written.1) :
    entry (writeEntry written) = written := by
  obtain ⟨key, value | _⟩ := written
  · simp only [entry, writeEntry, Text.cutFirst_append hkey, unescape_escape]
  · simp only [entry, writeEntry, Text.cutFirst_eq_none hkey]

/-- A row of entries is divided at the commas between them and nowhere else. -/
theorem split_intercalate {entries : List Text} (hsome : entries ≠ [])
    (hinner : ∀ entry ∈ entries, CommasEscaped entry)
    (hbetween : ∀ entry ∈ entries.dropLast, ¬ ['\\'] <:+ entry) :
    split ([','].intercalate entries) = entries := by
  induction entries with
  | nil => exact absurd rfl hsome
  | cons first entries ih =>
    have hfirst := commasEscaped_iff_unbroken.mp (hinner first List.mem_cons_self)
    cases entries with
    | nil =>
      rw [List.intercalate_singleton]
      exact splitFrom_of_unbroken hfirst
    | cons second entries =>
      have hend := endsEscaped_false_iff.mpr (hbetween first (by simp))
      have hrest := ih (by simp) (fun entry hentry => hinner entry (List.mem_cons_of_mem _ hentry))
        (fun entry hentry => hbetween entry (List.mem_cons_of_mem _ hentry))
      rw [List.intercalate_cons_cons, List.append_assoc, List.singleton_append, split,
        splitFrom_append_comma hfirst hend, ← split, hrest]

/-- A written list is divided at the commas between its entries and nowhere else. -/
theorem split_write {params : ParamSet} (hparams : params.Writable) (hsome : params ≠ []) :
    split params.write = params.map writeEntry := by
  refine split_intercalate (mt List.map_eq_nil_iff.mp hsome) ?_ ?_
  · intro written hmem
    obtain ⟨entry, hentry, rfl⟩ := List.mem_map.mp hmem
    exact commasEscaped_iff_unbroken.mpr (unbroken_writeEntry (hparams.key entry hentry).2)
  · intro written hmem
    rw [← List.map_dropLast] at hmem
    obtain ⟨entry, hentry, rfl⟩ := List.mem_map.mp hmem
    exact endsEscaped_false_iff.mp (endsEscaped_writeEntry (hparams.inner entry hentry))

theorem insert_eq_append {params : ParamSet} {key : Text} (hfresh : key ∉ params.map Prod.fst)
    (value : ParamValue) : params.insert key value = params ++ [(key, value)] := by
  induction params with
  | nil => rfl
  | cons first params ih =>
    obtain ⟨hne, hfresh⟩ := not_or.mp (mt List.mem_cons.mpr hfresh)
    rw [insert, if_neg (Ne.symm hne), ih hfresh]
    rfl

/-- Entries with distinct keys are added one behind the other. -/
theorem insertAll_eq_append {params entries : ParamSet}
    (hdistinct : ((params ++ entries).map Prod.fst).Nodup) :
    insertAll params entries = params ++ entries := by
  induction entries generalizing params with
  | nil => simp [insertAll]
  | cons first entries ih =>
    have hfresh : first.1 ∉ params.map Prod.fst := by
      rw [List.map_append, List.map_cons] at hdistinct
      intro hmem
      exact (List.nodup_append.mp hdistinct).2.2 _ hmem _ List.mem_cons_self rfl
    have hstep : insertAll params (first :: entries) = insertAll (params ++ [first]) entries := by
      rw [← insert_eq_append hfresh first.2]
      rfl
    rw [hstep, ih (by simpa using hdistinct), List.append_assoc]
    rfl

/-- A parameter list that is not empty is read back from its written form. -/
theorem parse_write {params : ParamSet} (hparams : params.Writable) (hsome : params ≠ []) :
    parse params.write = params := by
  have hentries : (params.map writeEntry).map entry = params := by
    rw [List.map_map]
    conv_rhs => rw [← List.map_id params]
    exact List.map_congr_left fun written hmem => entry_writeEntry (hparams.key written hmem).1
  rw [parse, split_write hparams hsome, hentries]
  exact insertAll_eq_append hparams.distinct

end Stencil.ParamSet
