import Stencil.Proofs.Directive.Distinct
import Stencil.Proofs.Directive.Params

namespace Stencil.ParamSet

section Cutting

/-- The parts of a list between the commas that do not stand right behind a backslash. -/
structure Cuts (list : Text) (entries : List Text) : Prop where
  ne_nil : entries ≠ []
  join : [','].intercalate entries = list
  /-- a comma within an entry stands right behind a backslash -/
  inner : ∀ entry ∈ entries, CommasEscaped entry
  /-- a comma between two entries does not -/
  between : ∀ entry ∈ entries.dropLast, ¬ ['\\'] <:+ entry

variable {first list : Text} {entries : List Text}

theorem Cuts.singleton (hfirst : CommasEscaped first) : Cuts first [first] where
  ne_nil := List.cons_ne_nil _ _
  join := by simp
  inner := by simpa using hfirst
  between := by simp

theorem Cuts.cons (hfirst : CommasEscaped first) (hend : ¬ ['\\'] <:+ first)
    (hcuts : Cuts list entries) : Cuts (first ++ ',' :: list) (first :: entries) := by
  obtain ⟨second, others, rfl⟩ := List.exists_cons_of_ne_nil hcuts.ne_nil
  refine ⟨List.cons_ne_nil _ _, ?_, ?_, ?_⟩
  · rw [List.intercalate_cons_cons, hcuts.join, List.append_assoc, List.singleton_append]
  · exact List.forall_mem_cons.mpr ⟨hfirst, hcuts.inner⟩
  · rw [List.dropLast_cons_cons]
    exact List.forall_mem_cons.mpr ⟨hend, hcuts.between⟩

/-- A text goes on up to the first comma that divides it. -/
theorem unbroken_or_divides (escaped : Bool) (t : Text) :
    Unbroken escaped t ∨
      ∃ a b, t = a ++ ',' :: b ∧ Unbroken escaped a ∧ endsEscaped escaped a = false := by
  induction t generalizing escaped with
  | nil => exact .inl trivial
  | cons c t ih =>
    by_cases hdivides : c = ',' ∧ escaped = false
    · obtain ⟨rfl, rfl⟩ := hdivides
      exact .inr ⟨[], t, rfl, trivial, rfl⟩
    · have hcomma : c = ',' → escaped = true := by simpa using hdivides
      rcases ih (c == '\\') with hwhole | ⟨a, b, rfl, ha, hend⟩
      · exact .inl ⟨hcomma, hwhole⟩
      · exact .inr ⟨c :: a, b, rfl, ⟨hcomma, ha⟩, hend⟩

theorem cuts_split (list : Text) : Cuts list (split list) := by
  induction hlength : list.length using Nat.strongRecOn generalizing list with
  | _ length ih =>
    rcases unbroken_or_divides false list with hwhole | ⟨a, b, rfl, ha, hend⟩
    · rw [split, splitFrom_of_unbroken hwhole]
      exact .singleton (commasEscaped_iff_unbroken.mpr hwhole)
    · have hshorter : b.length < length := by
        rw [← hlength, List.length_append, List.length_cons]
        omega
      rw [split, splitFrom_append_comma ha hend]
      exact .cons (commasEscaped_iff_unbroken.mpr ha) (endsEscaped_false_iff.mp hend)
        (ih _ hshorter b rfl)

/-- A list is cut in one way only. -/
theorem cuts_iff_eq_split : Cuts list entries ↔ entries = split list := by
  constructor
  · rintro ⟨hne, rfl, hinner, hbetween⟩
    exact (split_intercalate hne hinner hbetween).symm
  · rintro rfl
    exact cuts_split list

end Cutting

section Meaning

/-- The key of an entry: what stands in front of its first `=`, or all of it. -/
def keyOf (written : Text) : Text :=
  written.takeWhile (· ≠ '=')

/-- A text in which every `\,` has become a comma. -/
def plainCommas : Text → Text
  | [] => []
  | '\\' :: ',' :: rest => ',' :: plainCommas rest
  | c :: rest => c :: plainCommas rest

/-- What an entry gives its key: without `=` it is a flag. -/
def valueOf (written : Text) : ParamValue :=
  match written.dropWhile (· ≠ '=') with
  | [] => .flag
  | _ :: value => .text (plainCommas value)

theorem unescape_eq_plainCommas (written : Text) : unescape written = plainCommas written := by
  rw [unescape, Text.replaceAll_eq_replaceMatches (by simp)]
  fun_induction plainCommas written with
  | case1 => rfl
  | case2 rest ih =>
    have hmatch : Text.literal ['\\', ','] [','] (['\\', ','] ++ rest) = some ([','], 1) :=
      Text.literal_append [','] rest
    calc Text.replaceMatches _ (['\\', ','] ++ rest)
        = [','] ++ Text.replaceMatches _ rest := Text.replaceMatches_append_of_match rfl hmatch
      _ = ',' :: plainCommas rest := by rw [ih]; rfl
  | case3 c rest hnot ih =>
    have hnone : Text.literal ['\\', ','] [','] (c :: rest) = none := by
      rw [Text.literal_eq_none_iff, List.cons_prefix_cons]
      rintro ⟨rfl, others, rfl⟩
      exact hnot others rfl rfl
    calc Text.replaceMatches _ ([c] ++ rest)
        = [c] ++ Text.replaceMatches _ rest :=
          Text.replaceMatches_append_of_quiet (.cons hnone (Text.quiet_nil _ _))
      _ = c :: plainCommas rest := by rw [ih]; rfl

theorem dropWhile_eq_nil_iff {written : Text} :
    written.dropWhile (· ≠ '=') = [] ↔ '=' ∉ written := by
  rw [List.dropWhile_eq_nil_iff]
  constructor
  · exact fun hall hmem => by simpa using hall _ hmem
  · exact fun hnot c hc => by simpa using fun heq : c = '=' => hnot (heq ▸ hc)

theorem entry_eq (written : Text) : entry written = (keyOf written, valueOf written) := by
  have hsplit := List.takeWhile_append_dropWhile (p := (· ≠ '=')) (l := written)
  cases hdrop : written.dropWhile (· ≠ '=') with
  | nil =>
    have hnot := dropWhile_eq_nil_iff.mp hdrop
    rw [hdrop, List.append_nil] at hsplit
    simp only [entry, Text.cutFirst_eq_none hnot, keyOf, valueOf, hdrop, hsplit]
  | cons c value =>
    have hc : c = '=' := by
      have hhead := List.head?_dropWhile_not (· ≠ '=') written
      rw [hdrop] at hhead
      simpa using hhead
    subst hc
    have hnot : '=' ∉ keyOf written := fun hmem => by
      simpa using List.mem_takeWhile_imp hmem
    have hcut : Text.cutFirst '=' written = some (keyOf written, value) := by
      rw [Text.cutFirst_eq_some_iff]
      exact ⟨hnot, by rw [keyOf, ← hdrop, hsplit]⟩
    simp only [entry, hcut, valueOf, hdrop, unescape_eq_plainCommas]

theorem valueOf_eq_flag_iff {written : Text} : valueOf written = .flag ↔ '=' ∉ written := by
  rw [← dropWhile_eq_nil_iff, valueOf]
  cases written.dropWhile (· ≠ '=') <;> simp

end Meaning

section Insert

variable (key : Text) (value : ParamValue) (params : ParamSet)

/-- A key that is there keeps its place. -/
theorem map_fst_insert : (params.insert key value).map Prod.fst =
    if key ∈ params.map Prod.fst then params.map Prod.fst else params.map Prod.fst ++ [key] := by
  induction params with
  | nil => rfl
  | cons first params ih =>
    obtain ⟨k, v⟩ := first
    by_cases hk : k = key
    · simp [insert, hk]
    · rw [insert, if_neg hk, List.map_cons, ih, List.map_cons]
      by_cases hmem : key ∈ params.map Prod.fst
      · rw [if_pos hmem, if_pos (List.mem_cons_of_mem k hmem)]
      · have hnot := List.not_mem_cons_of_ne_of_not_mem (Ne.symm hk) hmem
        rw [if_neg hmem, if_neg hnot, List.cons_append]

theorem value_cons (first : Text × ParamValue) (other : Text) :
    ParamSet.value (first :: params) other =
      if other = first.1 then some first.2 else params.value other := by
  rw [ParamSet.value, List.lookup_cons]
  by_cases hother : other = first.1
  · simp [hother]
  · rw [beq_eq_false_iff_ne.mpr hother, if_neg hother]
    rfl

/-- Only the value of the key changes. -/
theorem value_insert (other : Text) :
    (params.insert key value).value other =
      if other = key then some value else params.value other := by
  induction params with
  | nil => rw [insert, value_cons]
  | cons first params ih =>
    obtain ⟨k, v⟩ := first
    by_cases hk : k = key
    · rw [insert, if_pos hk, value_cons, value_cons, hk]
      by_cases hother : other = key
      · simp only [if_pos hother]
      · simp only [if_neg hother]
    · rw [insert, if_neg hk, value_cons, value_cons, ih]
      by_cases hother : other = k
      · simp only [if_pos hother, if_neg (hother ▸ hk)]
      · simp only [if_neg hother]

/-- New keys come behind those that were there, in the order in which they are first given. -/
theorem map_fst_insertAll (entries : List (Text × ParamValue)) :
    (insertAll params entries).map Prod.fst = params.map Prod.fst ++
      ((entries.map Prod.fst).filter (· ∉ params.map Prod.fst)).eraseDups := by
  induction entries generalizing params with
  | nil => simp [insertAll]
  | cons first entries ih =>
    obtain ⟨k, v⟩ := first
    have hstep : insertAll params ((k, v) :: entries) = insertAll (params.insert k v) entries := rfl
    rw [hstep, ih, map_fst_insert, List.map_cons]
    by_cases hmem : k ∈ params.map Prod.fst
    · rw [if_pos hmem, List.filter_cons_of_neg (by simpa using hmem)]
    · have hlater : (entries.map Prod.fst).filter (· ∉ params.map Prod.fst ++ [k]) =
          ((entries.map Prod.fst).filter (· ∉ params.map Prod.fst)).filter fun n => !n == k := by
        rw [List.filter_filter]
        refine List.filter_congr fun n _ => ?_
        rw [Bool.eq_iff_iff]
        simp [not_or, and_comm]
      rw [if_neg hmem, List.filter_cons_of_pos (by simpa using hmem), hlater, List.eraseDups_cons,
        List.append_assoc, List.singleton_append]

/-- The last entry of a key counts. -/
theorem value_insertAll (entries : List (Text × ParamValue)) (key : Text) :
    (insertAll params entries).value key =
      ((entries.reverse.find? fun entry => entry.1 = key).map Prod.snd).or (params.value key) := by
  induction entries generalizing params with
  | nil => rfl
  | cons first entries ih =>
    obtain ⟨k, v⟩ := first
    have hstep : insertAll params ((k, v) :: entries) = insertAll (params.insert k v) entries := rfl
    rw [hstep, ih, value_insert, List.reverse_cons, List.find?_append]
    cases entries.reverse.find? fun entry => entry.1 = key with
    | some last => rfl
    | none =>
      by_cases hk : key = k
      · simp [hk]
      · simp [hk, Ne.symm hk]

end Insert

/-- The last entry of a key. -/
def lastOf (key : Text) (entries : List Text) : Option Text :=
  entries.reverse.find? fun written => keyOf written = key

theorem map_fst_parse (list : Text) :
    (parse list).map Prod.fst = ((split list).map keyOf).eraseDups := by
  have hentries : ((split list).map entry).map Prod.fst = (split list).map keyOf := by
    rw [List.map_map]
    exact List.map_congr_left fun written _ => congrArg Prod.fst (entry_eq written)
  rw [parse, map_fst_insertAll, hentries]
  simp

theorem value_parse (list key : Text) :
    (parse list).value key = (lastOf key (split list)).map valueOf := by
  have hentry : (split list).map entry =
      (split list).map fun written => (keyOf written, valueOf written) :=
    List.map_congr_left fun written _ => entry_eq written
  rw [parse, value_insertAll, hentry, ← List.map_reverse, List.find?_map, Option.map_map]
  exact Option.or_none

/-- A parameter list is cut in one way at the commas that do not stand right behind a backslash.
What is read from it has a parameter for every key of the entries that come out, in the order in
which the keys come first, and answers for each key as the last entry of that key says. -/
theorem parse_answers_last_entry (list : Text) :
    ∃ entries, (∀ other, Cuts list other ↔ other = entries) ∧
      parse list ≠ [] ∧ ((parse list).map Prod.fst).Nodup ∧
      (parse list).map Prod.fst = (entries.map keyOf).eraseDups ∧
      ∀ key,
        (parse list).value key = (lastOf key entries).map valueOf ∧
        (parse list).get key = (lastOf key entries).bind (fun written => (valueOf written).asText) ∧
        (parse list).contains key = (lastOf key entries).isSome ∧
        ((parse list).isFlag key ↔ ∃ written ∈ lastOf key entries, '=' ∉ written) := by
  have hvalue := value_parse list
  refine ⟨split list, fun other => cuts_iff_eq_split, ?_, ?_, map_fst_parse list,
    fun key => ⟨hvalue key, ?_, ?_, ?_⟩⟩
  · intro hnil
    obtain ⟨first, others, hsplit⟩ := List.exists_cons_of_ne_nil (cuts_split list).ne_nil
    have hkeys := map_fst_parse list
    rw [hnil, hsplit, List.map_cons, List.eraseDups_cons] at hkeys
    cases hkeys
  · rw [map_fst_parse]
    exact Directive.nodup_eraseDups _
  · rw [get, hvalue, Option.bind_map]
    rfl
  · rw [contains, hvalue, Option.isSome_map]
  · rw [isFlag, hvalue, beq_iff_eq, Option.map_eq_some_iff]
    exact exists_congr fun written => and_congr Iff.rfl valueOf_eq_flag_iff

/-- Of a text and a later flag the flag counts, in the place of the text; the backslash at the end
keeps the comma behind it. -/
example : parse ['a', '=', '1', ',', 'b', '=', '\\', ',', '2', ',', 'a'] =
    [(['a'], .flag), (['b'], .text [',', '2'])] := by rfl

end Stencil.ParamSet
