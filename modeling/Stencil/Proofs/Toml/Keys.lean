import Stencil.Toml.Reader

namespace Stencil.Toml

/-- In every table of a value each key stands once. -/
inductive Value.Distinct : Value → Prop
  | string (text : Text) : Distinct (.string text)
  | scalar (inRange : Bool) : Distinct (.scalar inRange)
  | array {items : List Value} (hitems : ∀ item ∈ items, Distinct item) : Distinct (.array items)
  | table {kind : TableKind} {entries : List (Text × Value)}
    (hkeys : (entries.map Prod.fst).Nodup) (hvalues : ∀ entry ∈ entries, Distinct entry.2) :
    Distinct (.table kind entries)
  | tables {items : List (List (Text × Value))}
    (hkeys : ∀ entries ∈ items, (entries.map Prod.fst).Nodup)
    (hvalues : ∀ entries ∈ items, ∀ entry ∈ entries, Distinct entry.2) : Distinct (.tables items)

namespace Entries

/-- Each key stands once, and in the tables among the values as well. -/
def Distinct (entries : Entries) : Prop :=
  (entries.map Prod.fst).Nodup ∧ ∀ entry ∈ entries, entry.2.Distinct

variable {key : Text} {value : Value} {entries entries' : Entries} {kind kind' : TableKind}

theorem distinct_nil : Distinct [] :=
  ⟨List.nodup_nil, fun _ hentry => absurd hentry List.not_mem_nil⟩

theorem distinct_of_table (hvalue : (Value.table kind entries).Distinct) : Distinct entries := by
  cases hvalue with
  | table hkeys hvalues => exact ⟨hkeys, hvalues⟩

theorem distinct_tables_iff {items : List Entries} :
    (Value.tables items).Distinct ↔ ∀ entries ∈ items, Distinct entries := by
  constructor
  · rintro (_ | _ | _ | _ | ⟨hkeys, hvalues⟩)
    exact fun entries hentries => ⟨hkeys entries hentries, hvalues entries hentries⟩
  · intro hitems
    exact .tables (fun entries hentries => (hitems entries hentries).1)
      fun entries hentries => (hitems entries hentries).2

theorem Distinct.of_lookup (hentries : Distinct entries)
    (hfound : entries.lookup key = some value) : value.Distinct := by
  obtain ⟨before, behind, rfl, -⟩ := List.lookup_eq_some_iff.mp hfound
  exact hentries.2 (key, value) (by simp)

/-- A key that is new is put behind the others. -/
theorem Distinct.append (hentries : Distinct entries) (hnew : entries.lookup key = none)
    (hvalue : value.Distinct) : Distinct (entries ++ [(key, value)]) := by
  have hnot : key ∉ entries.map Prod.fst := by
    intro hmem
    obtain ⟨entry, hentry, rfl⟩ := List.mem_map.mp hmem
    simpa using List.lookup_eq_none_iff.mp hnew entry hentry
  constructor
  · rw [List.map_append, List.nodup_append]
    refine ⟨hentries.1, by simp, ?_⟩
    rintro other hother _ hkey rfl
    have heq : other = key := by simpa using hkey
    exact hnot (heq ▸ hother)
  · intro entry hentry
    rcases List.mem_append.mp hentry with hold | hlast
    · exact hentries.2 entry hold
    · rw [List.mem_singleton.mp hlast]
      exact hvalue

theorem map_fst_replace (key : Text) (value : Value) (entries : Entries) :
    (replace key value entries).map Prod.fst = entries.map Prod.fst := by
  induction entries with
  | nil => rfl
  | cons first entries ih =>
    obtain ⟨k, v⟩ := first
    rw [replace]
    split
    · rfl
    · rw [List.map_cons, ih, List.map_cons]

theorem mem_of_mem_replace {entry : Text × Value} (hentry : entry ∈ replace key value entries) :
    entry.2 = value ∨ entry ∈ entries := by
  induction entries with
  | nil => cases hentry
  | cons first entries ih =>
    obtain ⟨k, v⟩ := first
    rw [replace] at hentry
    split at hentry
    · rcases List.mem_cons.mp hentry with rfl | hlater
      · exact .inl rfl
      · exact .inr (List.mem_cons_of_mem _ hlater)
    · rcases List.mem_cons.mp hentry with rfl | hlater
      · exact .inr List.mem_cons_self
      · exact (ih hlater).imp_right (List.mem_cons_of_mem _)

theorem Distinct.replace (hentries : Distinct entries) (hvalue : value.Distinct) (key : Text) :
    Distinct (replace key value entries) := by
  refine ⟨map_fst_replace key value entries ▸ hentries.1, fun entry hentry => ?_⟩
  rcases mem_of_mem_replace hentry with hnew | hold
  · exact hnew ▸ hvalue
  · exact hentries.2 entry hold

/-- A change of one table that keeps its keys apart keeps those of the document apart. -/
theorem Distinct.descend {dotted : Bool}
    {change : TableKind → Entries → Option (TableKind × Entries)}
    (hchange : ∀ {kind entries kind' entries'}, Distinct entries →
      change kind entries = some (kind', entries') → Distinct entries')
    {path : List Text} (hentries : Distinct entries)
    (hdescend : Entries.descend dotted change path kind entries = some (kind', entries')) :
    Distinct entries' := by
  induction path generalizing kind entries kind' entries' with
  | nil => exact hchange hentries hdescend
  | cons key path ih =>
    rw [Entries.descend] at hdescend
    split at hdescend
    · rename_i hnew
      obtain ⟨⟨innerKind, inner⟩, hinner, heq⟩ := Option.map_eq_some_iff.mp hdescend
      cases heq
      have hdistinct := ih distinct_nil hinner
      exact hentries.append hnew (.table hdistinct.1 hdistinct.2)
    · rename_i innerKind inner hfound
      split at hdescend
      · cases hdescend
      · obtain ⟨⟨innerKind', inner'⟩, hinner, heq⟩ := Option.map_eq_some_iff.mp hdescend
        cases heq
        have hdistinct := ih (distinct_of_table (hentries.of_lookup hfound)) hinner
        exact hentries.replace (.table hdistinct.1 hdistinct.2) key
    · rename_i items hfound
      have hitems := distinct_tables_iff.mp (hentries.of_lookup hfound)
      split at hdescend
      · cases hdescend
      · rename_i last hlast
        obtain ⟨⟨lastKind', last'⟩, hinner, heq⟩ := Option.map_eq_some_iff.mp hdescend
        cases heq
        have hdistinct := ih (hitems last (List.mem_of_getLast? hlast)) hinner
        refine hentries.replace (distinct_tables_iff.mpr fun entries hmem => ?_) key
        rcases List.mem_append.mp hmem with hold | hnew
        · exact hitems entries (List.dropLast_subset _ hold)
        · exact List.mem_singleton.mp hnew ▸ hdistinct
    · cases hdescend

variable {path header : List Text}

theorem Distinct.assign (hentries : Distinct entries) (hvalue : value.Distinct)
    (hassign : Entries.assign path key value kind entries = some (kind', entries')) :
    Distinct entries' := by
  refine hentries.descend ?_ hassign
  intro kind entries kind' entries' hentries hput
  split at hput
  · cases hput
  · obtain ⟨grown, hgrown, heq⟩ := Option.map_eq_some_iff.mp hput
    cases heq
    rw [put] at hgrown
    split at hgrown
    · cases hgrown
    · rename_i hnew
      cases hgrown
      exact hentries.append (Option.not_isSome_iff_eq_none.mp hnew) hvalue

theorem Distinct.openTable (hentries : Distinct entries)
    (hopen : Entries.openTable path key entries = some entries') : Distinct entries' := by
  obtain ⟨⟨kind', grown⟩, hgrown, rfl⟩ := Option.map_eq_some_iff.mp hopen
  refine hentries.descend ?_ hgrown
  intro kind entries kind' entries' hentries hstep
  split at hstep
  · rename_i hnew
    cases hstep
    exact hentries.append hnew (.table distinct_nil.1 distinct_nil.2)
  · rename_i inner hfound
    cases hstep
    have hinner := distinct_of_table (hentries.of_lookup hfound)
    exact hentries.replace (.table hinner.1 hinner.2) key
  · cases hstep

theorem Distinct.openItem (hentries : Distinct entries)
    (hopen : Entries.openItem path key entries = some entries') : Distinct entries' := by
  obtain ⟨⟨kind', grown⟩, hgrown, rfl⟩ := Option.map_eq_some_iff.mp hopen
  refine hentries.descend ?_ hgrown
  intro kind entries kind' entries' hentries hstep
  split at hstep
  · rename_i hnew
    cases hstep
    exact hentries.append hnew (distinct_tables_iff.mpr (by simpa using distinct_nil))
  · rename_i items hfound
    cases hstep
    have hitems := distinct_tables_iff.mp (hentries.of_lookup hfound)
    refine hentries.replace (distinct_tables_iff.mpr fun entries hmem => ?_) key
    rcases List.mem_append.mp hmem with hold | hlast
    · exact hitems entries hold
    · exact List.mem_singleton.mp hlast ▸ distinct_nil
  · cases hstep

theorem Distinct.assignUnder (hentries : Distinct entries) (hvalue : value.Distinct)
    (hassign : Entries.assignUnder header path key value entries = some entries') :
    Distinct entries' := by
  obtain ⟨⟨kind', grown⟩, hgrown, rfl⟩ := Option.map_eq_some_iff.mp hassign
  exact hentries.descend (fun hentries hstep => hentries.assign hvalue hstep) hgrown

end Entries

section Reading

theorem readScalar_distinct {word : Text} {value : Value} (hread : readScalar word = some value) :
    value.Distinct := by
  rw [readScalar] at hread
  split at hread
  · cases hread
    exact .scalar true
  · split at hread
    · cases hread
      exact .scalar _
    · split at hread
      · cases hread
        exact .scalar _
      · obtain ⟨moment, -, rfl⟩ := Option.map_eq_some_iff.mp hread
        exact .table (by simp) (by simpa using Value.Distinct.string moment)

/-- What the readers of values, items and entries give, at a depth of calls. -/
structure ReadsDistinct (fuel : Nat) : Prop where
  value : ∀ {depth t value rest}, readValue fuel depth t = some (value, rest) → value.Distinct
  items : ∀ {depth t items rest}, readItems fuel depth t = some (items, rest) →
    ∀ item ∈ items, item.Distinct
  entries : ∀ {depth before t entries rest}, Entries.Distinct before →
    readEntries fuel depth before t = some (entries, rest) → Entries.Distinct entries

theorem readsDistinct (fuel : Nat) : ReadsDistinct fuel := by
  induction fuel with
  | zero => exact ⟨fun h => by simp [readValue] at h, fun h => by simp [readItems] at h,
      fun _ h => by simp [readEntries] at h⟩
  | succ fuel ih =>
    refine ⟨?_, ?_, ?_⟩
    · intro depth t value rest hread
      rw [readValue.eq_def] at hread
      dsimp only at hread
      split at hread
      · obtain ⟨⟨text, t⟩, -, heq⟩ := Option.map_eq_some_iff.mp hread
        cases heq
        exact .string text
      · obtain ⟨⟨text, t⟩, -, heq⟩ := Option.map_eq_some_iff.mp hread
        cases heq
        exact .string text
      · cases hread
      · obtain ⟨⟨items, t⟩, hitems, heq⟩ := Option.map_eq_some_iff.mp hread
        cases heq
        exact .array (ih.items hitems)
      · cases hread
      · obtain ⟨⟨entries, t⟩, hentries, heq⟩ := Option.map_eq_some_iff.mp hread
        cases heq
        have hdistinct := ih.entries Entries.distinct_nil hentries
        exact .table hdistinct.1 hdistinct.2
      · obtain ⟨scalar, hscalar, heq⟩ := Option.map_eq_some_iff.mp hread
        cases heq
        exact readScalar_distinct hscalar
    · intro depth t items rest hread
      rw [readItems] at hread
      obtain ⟨t₁, -, hread⟩ := Option.bind_eq_some_iff.mp hread
      split at hread
      · cases hread
        simp
      · obtain ⟨⟨value, t₂⟩, hvalue, hread⟩ := Option.bind_eq_some_iff.mp hread
        obtain ⟨t₃, -, hread⟩ := Option.bind_eq_some_iff.mp hread
        split at hread
        · obtain ⟨⟨others, t₄⟩, hothers, heq⟩ := Option.map_eq_some_iff.mp hread
          cases heq
          exact List.forall_mem_cons.mpr ⟨ih.value hvalue, ih.items hothers⟩
        · cases hread
          exact List.forall_mem_singleton.mpr (ih.value hvalue)
        · cases hread
    · intro depth before t entries rest hbefore hread
      rw [readEntries] at hread
      obtain ⟨t₁, -, hread⟩ := Option.bind_eq_some_iff.mp hread
      split at hread
      · cases hread
        exact hbefore
      · obtain ⟨⟨⟨path, key⟩, t₂⟩, -, hread⟩ := Option.bind_eq_some_iff.mp hread
        obtain ⟨t₃, -, hread⟩ := Option.bind_eq_some_iff.mp hread
        split at hread
        · obtain ⟨t₄, -, hread⟩ := Option.bind_eq_some_iff.mp hread
          obtain ⟨⟨value, t₅⟩, hvalue, hread⟩ := Option.bind_eq_some_iff.mp hread
          obtain ⟨⟨kind, grown⟩, hassign, hread⟩ := Option.bind_eq_some_iff.mp hread
          have hgrown := hbefore.assign (ih.value hvalue) hassign
          obtain ⟨t₆, -, hread⟩ := Option.bind_eq_some_iff.mp hread
          split at hread
          · exact ih.entries hgrown hread
          · cases hread
            exact hgrown
          · cases hread
        · cases hread

/-- Every step of reading a document keeps the keys of its tables apart. -/
theorem readDocument_distinct {fuel : Nat} {header : List Text} {before entries : Entries}
    {t : Text} (hbefore : Entries.Distinct before)
    (hread : readDocument fuel header before t = some entries) : Entries.Distinct entries := by
  induction fuel generalizing header before t with
  | zero => cases hread
  | succ fuel ih =>
    rw [readDocument] at hread
    obtain ⟨t₁, -, hread⟩ := Option.bind_eq_some_iff.mp hread
    split at hread
    · cases hread
      exact hbefore
    · obtain ⟨⟨⟨path, key⟩, t₂⟩, -, hread⟩ := Option.bind_eq_some_iff.mp hread
      dsimp only at hread
      split at hread
      · obtain ⟨grown, hgrown, hread⟩ := Option.bind_eq_some_iff.mp hread
        obtain ⟨t₃, -, hread⟩ := Option.bind_eq_some_iff.mp hread
        exact ih (hbefore.openItem hgrown) hread
      · cases hread
    · obtain ⟨⟨⟨path, key⟩, t₂⟩, -, hread⟩ := Option.bind_eq_some_iff.mp hread
      dsimp only at hread
      split at hread
      · obtain ⟨grown, hgrown, hread⟩ := Option.bind_eq_some_iff.mp hread
        obtain ⟨t₃, -, hread⟩ := Option.bind_eq_some_iff.mp hread
        exact ih (hbefore.openTable hgrown) hread
      · cases hread
    · obtain ⟨⟨⟨path, key⟩, t₂⟩, -, hread⟩ := Option.bind_eq_some_iff.mp hread
      dsimp only at hread
      split at hread
      · obtain ⟨⟨value, t₃⟩, hvalue, hread⟩ := Option.bind_eq_some_iff.mp hread
        obtain ⟨grown, hgrown, hread⟩ := Option.bind_eq_some_iff.mp hread
        obtain ⟨t₄, -, hread⟩ := Option.bind_eq_some_iff.mp hread
        exact ih (hbefore.assignUnder ((readsDistinct _).value hvalue) hgrown) hread
      · cases hread

theorem read_distinct {t : Text} {entries : Entries} (hread : read t = some entries) :
    Entries.Distinct entries :=
  readDocument_distinct Entries.distinct_nil hread

end Reading

end Stencil.Toml
