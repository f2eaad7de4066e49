import Mathlib.Data.List.Forall2
import Stencil.Config.Basic
import Stencil.Proofs.Config.References
import Stencil.Proofs.Toml.Keys

namespace Stencil

namespace Text

theorem notAfter_cons_cons_iff {c d : Char} {s t : Text} :
    notAfter (c :: s) (d :: t) = true ↔ c.toNat < d.toNat ∨ c = d ∧ notAfter s t = true := by
  rw [notAfter, Bool.or_eq_true, Bool.and_eq_true, decide_eq_true_iff, beq_iff_eq]

theorem notAfter_trans {s t u : Text} (hst : notAfter s t = true) (htu : notAfter t u = true) :
    notAfter s u = true := by
  induction s generalizing t u with
  | nil => rfl
  | cons c s ih =>
    cases t with
    | nil => cases hst
    | cons d t =>
      cases u with
      | nil => cases htu
      | cons e u =>
        rw [notAfter_cons_cons_iff] at hst htu ⊢
        rcases hst with hst | ⟨rfl, hst⟩
        · rcases htu with htu | ⟨rfl, -⟩
          · exact .inl (Nat.lt_trans hst htu)
          · exact .inl hst
        · rcases htu with htu | ⟨rfl, htu⟩
          · exact .inl htu
          · exact .inr ⟨rfl, ih hst htu⟩

theorem notAfter_total (s t : Text) : notAfter s t = true ∨ notAfter t s = true := by
  induction s generalizing t with
  | nil => exact .inl rfl
  | cons c s ih =>
    cases t with
    | nil => exact .inr rfl
    | cons d t =>
      rw [notAfter_cons_cons_iff, notAfter_cons_cons_iff]
      rcases Nat.lt_trichotomy c.toNat d.toNat with hlt | heq | hgt
      · exact .inl (.inl hlt)
      · obtain rfl : c = d := Char.toNat_inj.mp heq
        rcases ih t with hst | hts
        · exact .inl (.inr ⟨rfl, hst⟩)
        · exact .inr (.inr ⟨rfl, hts⟩)
      · exact .inr (.inl hgt)

end Text

namespace Config

section Document

theorem pairwise_sortByKey {entries : List (Text × Text)} (hkeys : (entries.map Prod.fst).Nodup) :
    (sortByKey entries).Pairwise fun a b => Text.notAfter a.1 b.1 = true ∧ a.1 ≠ b.1 := by
  have hsorted : (sortByKey entries).Pairwise fun a b => Text.notAfter a.1 b.1 = true := by
    apply List.pairwise_mergeSort
    · intro a b c hab hbc
      exact Text.notAfter_trans hab hbc
    · intro a b
      rw [Bool.or_eq_true]
      exact Text.notAfter_total a.1 b.1
  have hdistinct : (sortByKey entries).Pairwise fun a b => a.1 ≠ b.1 := by
    rw [← List.pairwise_map]
    exact ((List.mergeSort_perm entries _).map Prod.fst).nodup_iff.mpr hkeys
  exact hsorted.and hdistinct

theorem map_fst_of_mapM_settingOf {entries : List (Text × Toml.Value)}
    {settings : List (Text × Text)} (hread : entries.mapM settingOf = some settings) :
    settings.map Prod.fst = entries.map Prod.fst := by
  induction entries generalizing settings with
  | nil =>
    cases hread
    rfl
  | cons entry entries ih =>
    rw [List.mapM_cons] at hread
    obtain ⟨setting, hsetting, hread⟩ := Option.bind_eq_some_iff.mp hread
    obtain ⟨others, hothers, heq⟩ := Option.bind_eq_some_iff.mp hread
    obtain ⟨text, -, rfl⟩ := Option.map_eq_some_iff.mp hsetting
    cases heq
    rw [List.map_cons, ih hothers, List.map_cons]

theorem pairwise_of_readSettings {value : Toml.Value} (hvalue : value.Distinct)
    {settings : List (Text × Text)} (hread : readSettings value = some settings) :
    settings.Pairwise fun a b => Text.notAfter a.1 b.1 = true ∧ a.1 ≠ b.1 := by
  obtain ⟨entries, hentries, hread⟩ := Option.bind_eq_some_iff.mp hread
  obtain ⟨unsorted, hunsorted, rfl⟩ := Option.map_eq_some_iff.mp hread
  apply pairwise_sortByKey
  rw [map_fst_of_mapM_settingOf hunsorted]
  cases value with
  | table kind inner =>
    cases hentries
    exact (Toml.Entries.distinct_of_table hvalue).1
  | _ => cases hentries

/-- The settings of a document are in the order of their keys, and no key is there twice. -/
theorem pairwise_settings {text : Text} {document : Document}
    (hread : readDocument text = some document) :
    document.settings.Pairwise fun a b => Text.notAfter a.1 b.1 = true ∧ a.1 ≠ b.1 := by
  obtain ⟨entries, hentries, hread⟩ := Option.bind_eq_some_iff.mp hread
  have hdistinct := Toml.read_distinct hentries
  obtain ⟨tables, htables, hread⟩ := Option.bind_eq_some_iff.mp hread
  rw [valuesOf] at htables
  split at htables
  · cases htables
    obtain ⟨site, -, hread⟩ := Option.bind_eq_some_iff.mp hread
    obtain ⟨load, -, hread⟩ := Option.bind_eq_some_iff.mp hread
    obtain ⟨settings, hsettings, hread⟩ := Option.bind_eq_some_iff.mp hread
    cases hread
    dsimp only at hsettings
    cases hlookup : entries.lookup "settings".toList with
    | none =>
      rw [hlookup] at hsettings
      cases hsettings
      exact List.Pairwise.nil
    | some value =>
      rw [hlookup] at hsettings
      exact pairwise_of_readSettings (hdistinct.of_lookup hlookup) hsettings
  · cases htables

end Document

section Expanding

variable {ε α β : Type} {first : Except ε α} {next : α → Except ε β}

theorem bind_eq_ok_iff {b : β} :
    first >>= next = .ok b ↔ ∃ a, first = .ok a ∧ next a = .ok b := by
  cases first with
  | error cause =>
    constructor
    · rintro ⟨⟩
    · rintro ⟨a, ⟨⟩, -⟩
  | ok a =>
    constructor
    · exact fun h => ⟨a, rfl, h⟩
    · rintro ⟨a', ⟨⟩, h⟩
      exact h

theorem bind_eq_error_iff {cause : ε} :
    first >>= next = .error cause ↔
      first = .error cause ∨ ∃ a, first = .ok a ∧ next a = .error cause := by
  cases first with
  | error cause' =>
    constructor
    · rintro ⟨⟩
      exact .inl rfl
    · rintro (⟨⟨⟩⟩ | ⟨a, ⟨⟩, -⟩)
      rfl
  | ok a =>
    constructor
    · exact fun h => .inr ⟨a, rfl, h⟩
    · rintro (⟨⟨⟩⟩ | ⟨a', ⟨⟩, h⟩)
      exact h

variable (env : Environment)

/-- The field of a setting. -/
def settingField (key : Text) : Text :=
  "settings.".toList ++ key

theorem expandSettings_cons (key value : Text) (settings : List (Text × Text)) :
    expandSettings env ((key, value) :: settings) =
      (expandField env (settingField key) value >>= fun value =>
        expandSettings env settings >>= fun others => .ok ((key, value) :: others)) :=
  rfl

theorem expandSettings_eq_ok_iff {settings expanded : List (Text × Text)} :
    expandSettings env settings = .ok expanded ↔
      List.Forall₂ (fun setting result => result.1 = setting.1 ∧
        expandField env (settingField setting.1) setting.2 = .ok result.2) settings expanded := by
  induction settings generalizing expanded with
  | nil => simp [expandSettings, eq_comm]
  | cons setting settings ih =>
    obtain ⟨key, value⟩ := setting
    rw [expandSettings_cons, bind_eq_ok_iff, List.forall₂_cons_left_iff]
    constructor
    · rintro ⟨text, htext, hrest⟩
      obtain ⟨others, hothers, hok⟩ := bind_eq_ok_iff.mp hrest
      cases hok
      exact ⟨(key, text), others, ⟨rfl, htext⟩, ih.mp hothers, rfl⟩
    · rintro ⟨⟨_, text⟩, others, ⟨rfl, htext⟩, hothers, rfl⟩
      exact ⟨text, htext, bind_eq_ok_iff.mpr ⟨others, ih.mpr hothers, rfl⟩⟩

/-- Settings are expanded in their order, up to the first one that cannot be. -/
theorem expandSettings_eq_error_iff {settings : List (Text × Text)} {cause : ConfigError} :
    expandSettings env settings = .error cause ↔
      ∃ before key value behind, settings = before ++ (key, value) :: behind ∧
        (∀ earlier ∈ before, ∃ text,
          expandField env (settingField earlier.1) earlier.2 = .ok text) ∧
        expandField env (settingField key) value = .error cause := by
  induction settings with
  | nil => simp [expandSettings]
  | cons setting settings ih =>
    obtain ⟨key, value⟩ := setting
    rw [expandSettings_cons, bind_eq_error_iff]
    constructor
    · rintro (hfails | ⟨text, htext, hrest⟩)
      · exact ⟨[], key, value, settings, rfl, by simp, hfails⟩
      · rcases bind_eq_error_iff.mp hrest with hothers | ⟨others, -, hok⟩
        · obtain ⟨before, key', value', behind, rfl, hbefore, hfails⟩ := ih.mp hothers
          exact ⟨(key, value) :: before, key', value', behind, rfl,
            List.forall_mem_cons.mpr ⟨⟨text, htext⟩, hbefore⟩, hfails⟩
        · cases hok
    · rintro ⟨before, key', value', behind, hsplit, hbefore, hfails⟩
      cases before with
      | nil =>
        cases hsplit
        exact .inl hfails
      | cons first before =>
        cases hsplit
        obtain ⟨⟨text, htext⟩, hbefore⟩ := List.forall_mem_cons.mp hbefore
        have hothers := ih.mpr ⟨before, key', value', behind, rfl, hbefore, hfails⟩
        exact .inr ⟨text, htext, bind_eq_error_iff.mpr (.inl hothers)⟩

end Expanding

section Files

/-- What a configuration file says, with all references left as they are. -/
def written (path : Text) (document : Document) : Config :=
  let base := (Path.parent path).getD ['.']
  { rootPath := document.site.rootPath.getD defaultRoot
    skin := Path.join base (document.site.skin.getD defaultSkin)
    notFound := Path.join base (document.site.notFound.getD defaultNotFound)
    cssPath := document.site.cssPath.getD []
    jsPath := document.site.jsPath.getD []
    load := document.load
    settings := document.settings
    path := some path }

/-- The settings of a document with no other table, as they are written. -/
def unsortedSettings (text : Text) : Option (List (Text × Text)) := do
  let entries ← Toml.read text
  match ← valuesOf ["site", "plugins", "settings"] entries with
  | [none, none, some settings] => (← settings.entries?).mapM settingOf
  | _ => none

theorem readDocument_of_settings {text : Text} {settings : List (Text × Text)}
    (hsettings : unsortedSettings text = some settings) :
    readDocument text = some ⟨⟨none, none, none, none, none⟩, [], sortByKey settings⟩ := by
  obtain ⟨entries, hread, hrest⟩ := Option.bind_eq_some_iff.mp hsettings
  obtain ⟨tables, htables, hrest⟩ := Option.bind_eq_some_iff.mp hrest
  rw [readDocument, hread, Option.bind_some, ofEntries, htables, Option.bind_some]
  split at hrest
  · obtain ⟨written, hwritten, hrest⟩ := Option.bind_eq_some_iff.mp hrest
    simp [readSettings, hwritten, hrest]
  · cases hrest

/-- The field of the root path. -/
def rootField : Text := "site.root_path"

variable {env : Environment} {disk : Disk} {path : Text}

theorem ofFile_eq_bind :
    ofFile disk env path = ((disk.get path).mapError .unreadable >>= fun text =>
      match readDocument text with
      | none => .error .malformed
      | some document =>
        ofDocument env path document >>= fun config => config.validate >>= fun _ => .ok config) :=
  rfl

theorem validate_eq_ok_iff {config : Config} :
    config.validate = .ok () ↔ config.rootPath ≠ [] ∧ [] ∉ config.load := by
  have hload : config.load.any List.isEmpty = true ↔ [] ∈ config.load := by simp
  simp only [validate, hload, List.isEmpty_iff]
  split
  · simp_all
  · split <;> simp_all

theorem validate_eq_error {config : Config} {cause : ConfigError}
    (hfails : config.validate = .error cause) : ∃ field, cause = .emptyField field := by
  rw [validate] at hfails
  split at hfails
  · cases hfails
    exact ⟨_, rfl⟩
  · split at hfails
    · cases hfails
      exact ⟨_, rfl⟩
    · cases hfails

/-- A configuration comes out of a file exactly if the file holds a document in which all references
can be replaced, and a text stands where one has to be. -/
theorem ofFile_eq_ok_iff {config : Config} :
    ofFile disk env path = .ok config ↔
      ∃ text document, disk.get path = .ok text ∧ readDocument text = some document ∧
        ofDocument env path document = .ok config ∧ config.rootPath ≠ [] ∧ [] ∉ config.load := by
  rw [ofFile_eq_bind, bind_eq_ok_iff]
  constructor
  · rintro ⟨text, hget, hrest⟩
    cases hread : readDocument text with
    | none => simp [hread] at hrest
    | some document =>
      rw [hread] at hrest
      obtain ⟨config', hdocument, hrest⟩ := bind_eq_ok_iff.mp hrest
      obtain ⟨_, hvalid, hok⟩ := bind_eq_ok_iff.mp hrest
      cases hok
      refine ⟨text, document, ?_, hread, hdocument, validate_eq_ok_iff.mp hvalid⟩
      cases hfile : disk.get path <;> simp_all [Except.mapError]
  · rintro ⟨text, document, hget, hread, hdocument, hvalid⟩
    refine ⟨text, by rw [hget]; rfl, ?_⟩
    rw [hread]
    exact bind_eq_ok_iff.mpr ⟨config, hdocument,
      bind_eq_ok_iff.mpr ⟨(), validate_eq_ok_iff.mpr hvalid, rfl⟩⟩

/-- A file is refused for a variable exactly if its document is. -/
theorem ofFile_eq_unsetVariable_iff {field name : Text} :
    ofFile disk env path = .error (.unsetVariable field name) ↔
      ∃ text document, disk.get path = .ok text ∧ readDocument text = some document ∧
        ofDocument env path document = .error (.unsetVariable field name) := by
  rw [ofFile_eq_bind, bind_eq_error_iff]
  constructor
  · rintro (hget | ⟨text, hget, hrest⟩)
    · cases hfile : disk.get path <;> simp [hfile, Except.mapError] at hget
    · cases hread : readDocument text with
      | none => simp [hread] at hrest
      | some document =>
        rw [hread] at hrest
        refine ⟨text, document, ?_, hread, ?_⟩
        · cases hfile : disk.get path <;> simp_all [Except.mapError]
        · rcases bind_eq_error_iff.mp hrest with hdocument | ⟨config, -, hrest⟩
          · exact hdocument
          · rcases bind_eq_error_iff.mp hrest with hvalid | ⟨-, -, hok⟩
            · obtain ⟨field', hcause⟩ := validate_eq_error hvalid
              cases hcause
            · cases hok
  · rintro ⟨text, document, hget, hread, hdocument⟩
    refine .inr ⟨text, by rw [hget]; rfl, ?_⟩
    rw [hread]
    exact bind_eq_error_iff.mpr (.inl hdocument)

theorem expandField_defaultRoot (env : Environment) :
    expandField env rootField defaultRoot = .ok defaultRoot := by
  rw [expandField, Environment.expand_eq_self env (by decide)]
  rfl

theorem ofDocument_eq_bind (document : Document) :
    ofDocument env path document =
      (expandField env rootField (document.site.rootPath.getD defaultRoot) >>= fun rootPath =>
        expandSettings env document.settings >>= fun settings =>
          .ok { written path document with rootPath, settings }) :=
  rfl

/-- A document is refused for its root path, or else for the first setting that cannot be
expanded. -/
theorem ofDocument_eq_error_iff {document : Document} {cause : ConfigError} :
    ofDocument env path document = .error cause ↔
      (∃ given ∈ document.site.rootPath, expandField env rootField given = .error cause) ∨
      (∀ given ∈ document.site.rootPath, ∃ text, expandField env rootField given = .ok text) ∧
        ∃ before key value behind, document.settings = before ++ (key, value) :: behind ∧
          (∀ earlier ∈ before, ∃ text,
            expandField env (settingField earlier.1) earlier.2 = .ok text) ∧
          expandField env (settingField key) value = .error cause := by
  have hsettings : ∀ rootPath, (expandSettings env document.settings >>= fun settings =>
      .ok { written path document with rootPath, settings }) = .error cause ↔
        expandSettings env document.settings = .error cause := by
    intro rootPath
    rw [bind_eq_error_iff]
    exact or_iff_left fun ⟨_, _, hok⟩ => by cases hok
  rw [ofDocument_eq_bind, bind_eq_error_iff]
  simp only [hsettings, ← expandSettings_eq_error_iff]
  cases document.site.rootPath with
  | none => simp [expandField_defaultRoot]
  | some given => simp

/-- A document gives the configuration that is written in it, with the root path and the values of
the settings expanded. -/
theorem ofDocument_eq_ok_iff {document : Document} {config : Config} :
    ofDocument env path document = .ok config ↔
      expandField env rootField (document.site.rootPath.getD defaultRoot) = .ok config.rootPath ∧
      List.Forall₂ (fun setting result => result.1 = setting.1 ∧
        expandField env (settingField setting.1) setting.2 = .ok result.2)
        document.settings config.settings ∧
      config = { written path document with
        rootPath := config.rootPath, settings := config.settings } := by
  rw [ofDocument_eq_bind, bind_eq_ok_iff]
  constructor
  · rintro ⟨rootPath, hrootPath, hrest⟩
    obtain ⟨settings, hsettings, hok⟩ := bind_eq_ok_iff.mp hrest
    cases hok
    exact ⟨hrootPath, (expandSettings_eq_ok_iff env).mp hsettings, rfl⟩
  · rintro ⟨hrootPath, hsettings, hconfig⟩
    have hexpanded := (expandSettings_eq_ok_iff env).mpr hsettings
    refine ⟨config.rootPath, hrootPath, bind_eq_ok_iff.mpr ⟨config.settings, hexpanded, ?_⟩⟩
    exact congrArg Except.ok hconfig.symm

end Files

section References

variable (env : Environment)

theorem expandField_write {field : Text} {template : Environment.Template}
    (hvalues : ∀ reference ∈ template.references, reference.value? env ≠ none) :
    expandField env field template.write = .ok (template.meaning env) := by
  have hnone : template.references.find? (fun reference => (reference.value? env).isNone) = none :=
    List.find?_eq_none.mpr fun reference hmem => by simpa using hvalues reference hmem
  rw [expandField, Environment.Template.expand_write, hnone]
  rfl

/-- A value that cannot be expanded is refused for the leftmost of its references that stands for
nothing. -/
theorem expandField_write_eq_error_iff {field : Text} {template : Environment.Template}
    {cause : ConfigError} :
    expandField env field template.write = .error cause ↔
      ∃ before reference behind, template.references = before ++ reference :: behind ∧
        (∀ earlier ∈ before, earlier.value? env ≠ none) ∧ reference.value? env = none ∧
        cause = .unsetVariable field reference.name.text := by
  rw [expandField, Environment.Template.expand_write]
  constructor
  · intro hfails
    cases hfind : template.references.find? fun reference => (reference.value? env).isNone with
    | none =>
      rw [hfind] at hfails
      cases hfails
    | some reference =>
      rw [hfind] at hfails
      cases hfails
      obtain ⟨hvalue, before, behind, hsplit, hbefore⟩ :=
        List.find?_eq_some_iff_append.mp hfind
      refine ⟨before, reference, behind, hsplit, ?_, by simpa using hvalue, rfl⟩
      exact fun earlier hmem => by simpa [Option.isSome_iff_ne_none] using hbefore earlier hmem
  · rintro ⟨before, reference, behind, hsplit, hbefore, hvalue, rfl⟩
    have hfind : template.references.find? (fun reference => (reference.value? env).isNone) =
        some reference := by
      refine List.find?_eq_some_iff_append.mpr ⟨by simp [hvalue], before, behind, hsplit, ?_⟩
      exact fun earlier hmem => by simpa [Option.isSome_iff_ne_none] using hbefore earlier hmem
    rw [hfind]
    rfl

/-- References to variables are expanded. A value is expanded to what it means, or it is refused for
the leftmost reference that stands for nothing; without a reference between braces it stays as it
is. A file is refused for such a reference in its root path, or else in the first of its settings
that has one, and the root path and the settings are all that is expanded of a file. -/
theorem references_expanded :
    (∀ (field : Text) (template : Environment.Template),
      ((∀ reference ∈ template.references, reference.value? env ≠ none) →
        expandField env field template.write = .ok (template.meaning env)) ∧
      ∀ cause, expandField env field template.write = .error cause ↔
        ∃ before reference behind, template.references = before ++ reference :: behind ∧
          (∀ earlier ∈ before, earlier.value? env ≠ none) ∧
          env.get reference.name.text = none ∧ reference.default = none ∧
          cause = .unsetVariable field reference.name.text) ∧
    (∀ field value, ¬ ['$', '{'] <:+: value → expandField env field value = .ok value) ∧
    ∀ disk path,
      (∀ field name, ofFile disk env path = .error (.unsetVariable field name) ↔
        ∃ text document, disk.get path = .ok text ∧ readDocument text = some document ∧
          document.settings.Pairwise (fun a b => Text.notAfter a.1 b.1 = true ∧ a.1 ≠ b.1) ∧
          ((∃ given ∈ document.site.rootPath,
            expandField env rootField given = .error (.unsetVariable field name)) ∨
          (∀ given ∈ document.site.rootPath, ∃ text, expandField env rootField given = .ok text) ∧
            ∃ before key value behind, document.settings = before ++ (key, value) :: behind ∧
              (∀ earlier ∈ before, ∃ text,
                expandField env (settingField earlier.1) earlier.2 = .ok text) ∧
              expandField env (settingField key) value = .error (.unsetVariable field name))) ∧
      ∀ config, ofFile disk env path = .ok config →
        ∃ text document, disk.get path = .ok text ∧ readDocument text = some document ∧
          expandField env rootField (document.site.rootPath.getD defaultRoot) =
            .ok config.rootPath ∧
          List.Forall₂ (fun setting result => result.1 = setting.1 ∧
            expandField env (settingField setting.1) setting.2 = .ok result.2)
            document.settings config.settings ∧
          config = { written path document with
            rootPath := config.rootPath, settings := config.settings } := by
  refine ⟨fun field template => ⟨expandField_write env, fun cause => ?_⟩,
    fun field value hnone => ?_, fun disk path => ⟨fun field name => ?_, fun config hconfig => ?_⟩⟩
  · simp only [expandField_write_eq_error_iff, Environment.Reference.value?_eq_none_iff, and_assoc]
  · rw [expandField, Environment.expand_eq_self env hnone]
    rfl
  · rw [ofFile_eq_unsetVariable_iff]
    refine exists_congr fun text => exists_congr fun document => and_congr_right fun _ =>
      and_congr_right fun hread => ?_
    rw [ofDocument_eq_error_iff, and_iff_right (pairwise_settings hread)]
  · obtain ⟨text, document, hget, hread, hdocument, -⟩ := ofFile_eq_ok_iff.mp hconfig
    exact ⟨text, document, hget, hread, ofDocument_eq_ok_iff.mp hdocument⟩

/-- What stands in the place of a reference is not looked at again. -/
theorem references_expanded_once :
    let env : Environment := [("W", "$\x7b1\x7d $5")]
    let w : Environment.Reference := ⟨⟨"W", by decide, List.all_eq_true.mp rfl⟩, none, by simp⟩
    let x : Environment.Reference :=
      ⟨⟨"X", by decide, List.all_eq_true.mp rfl⟩, some "7", by decide⟩
    let y : Environment.Reference := ⟨⟨"Y", by decide, List.all_eq_true.mp rfl⟩, none, by simp⟩
    let value : Environment.Template := ⟨"a ", [(w, " b "), (x, "")], by decide, by decide⟩
    let refused : Environment.Template := ⟨[], [(w, []), (y, []), (w, [])], by decide, by decide⟩
    let disk : Disk := ⟨['/'], fun path => .ok (.file (some
      (if path = "/p".toList then "[site]\nroot_path='$\x7bW\x7d'".toList
      else "[settings]\nb='$\x7bY\x7d'\na='$\x7bW\x7d$\x7bY\x7d$\x7bW\x7d'".toList)))⟩
    ((∀ reference ∈ value.references, reference.value? env ≠ none) ∧
      expandField env "b" value.write = .ok "a $\x7b1\x7d $5 b 7".toList) ∧
    expandField env "b" refused.write = .error (.unsetVariable "b" "Y") ∧
    (¬ ['$', '{'] <:+: "costs $5".toList ∧
      expandField env "b" "costs $5".toList = .ok "costs $5".toList) ∧
    ofFile disk env "/q" = .error (.unsetVariable "settings.a" "Y") ∧
    ∃ config document, ofFile disk env "/p" = .ok config ∧
      config = { written "/p" document with
        rootPath := "$\x7b1\x7d $5", settings := config.settings } := by
  intro env w x y value refused disk
  obtain ⟨hvalues, hplain, hfiles⟩ := references_expanded env
  have hw : w.value? env ≠ none := by
    have hget : env.get w.name.text = some "$\x7b1\x7d $5".toList := rfl
    simp [Environment.Reference.value?, hget]
  have hx : x.value? env ≠ none := by simp [Environment.Reference.value?, x]
  have hmeant : ∀ reference ∈ value.references, reference.value? env ≠ none :=
    List.forall_mem_cons.mpr ⟨hw, List.forall_mem_cons.mpr ⟨hx, by simp⟩⟩
  have hrefused (field : Text) : expandField env field refused.write =
      .error (.unsetVariable field "Y") :=
    ((hvalues field refused).2 _).mpr ⟨[w], y, [w], rfl, by simpa using hw, rfl, rfl, rfl⟩
  have hcosts : ¬ ['$', '{'] <:+: "costs $5".toList := by
    rw [← Text.holds_iff]
    decide
  have hunsorted : unsortedSettings
      "[settings]\nb='$\x7bY\x7d'\na='$\x7bW\x7d$\x7bY\x7d$\x7bW\x7d'" =
      some [(['b'], "$\x7bY\x7d".toList), (['a'], refused.write)] := by
    decide +kernel
  have hsorted : sortByKey [(['b'], "$\x7bY\x7d".toList), (['a'], refused.write)] =
      [(['a'], refused.write), (['b'], "$\x7bY\x7d".toList)] := by
    simp [sortByKey, List.mergeSort, Text.notAfter]
  have hread := readDocument_of_settings hunsorted
  rw [hsorted] at hread
  have hroot : readDocument "[site]\nroot_path='$\x7bW\x7d'" =
      some ⟨⟨some "$\x7bW\x7d", none, none, none, none⟩, [], []⟩ := by
    decide +kernel
  have hconfig : ofFile disk env "/p" = .ok ⟨"$\x7b1\x7d $5", "/skin/default.html",
      "/app/error/error404.xml", [], [], [], [], some "/p"⟩ := by
    refine ofFile_eq_ok_iff.mpr ⟨_, _, by rfl, hroot, ?_, by simp, by simp⟩
    exact ofDocument_eq_ok_iff.mpr ⟨by rfl, .nil, by rfl⟩
  refine ⟨⟨hmeant, (hvalues "b" value).1 hmeant⟩, hrefused "b", ⟨hcosts, hplain _ _ hcosts⟩, ?_, ?_⟩
  · refine ((hfiles disk "/q").1 _ _).mpr ⟨_, _, rfl, hread, pairwise_settings hread, .inr ?_⟩
    exact ⟨by simp, [], "a", refused.write, _, rfl, by simp, hrefused _⟩
  · obtain ⟨_, document, -, -, -, -, hwritten⟩ := (hfiles disk "/p").2 _ hconfig
    exact ⟨_, document, hconfig, hwritten⟩

end References

end Config

end Stencil
