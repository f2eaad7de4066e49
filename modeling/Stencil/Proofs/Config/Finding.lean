import Stencil.Proofs.Config.Fields
import Stencil.Proofs.Path.Upwards

namespace Stencil.Config

section Discovery

variable {disk : Disk}

/-- A directory is the nearest one, from the working directory upwards, with something of the usual
name in it. -/
def IsNearest (disk : Disk) (dir : Text) : Prop :=
  ∃ steps, Path.up steps disk.workingDir = some dir ∧
    disk.isPresent (Path.join dir fileName) = true ∧
    ∀ fewer < steps, ∀ nearer ∈ Path.up fewer disk.workingDir,
      disk.isPresent (Path.join nearer fileName) = false

theorem discover_eq_map (disk : Disk) :
    discover disk = ((Path.ancestors disk.workingDir).find? fun dir =>
      disk.isPresent (Path.join dir fileName)).map fun dir => Path.join dir fileName :=
  List.find?_map

theorem IsNearest.discover_eq {dir : Text} (hnearest : IsNearest disk dir) :
    discover disk = some (Path.join dir fileName) := by
  obtain ⟨steps, hdir, hpresent, hnearer⟩ := hnearest
  rw [← Path.getElem?_ancestors] at hdir
  obtain ⟨hlength, hget⟩ := List.getElem?_eq_some_iff.mp hdir
  rw [discover_eq_map, Option.map_eq_some_iff]
  refine ⟨dir, List.find?_eq_some_iff_getElem.mpr ⟨hpresent, steps, hlength, hget, ?_⟩, rfl⟩
  intro fewer hfewer
  have hnear := hnearer fewer hfewer (Path.ancestors disk.workingDir)[fewer]
  rw [← Path.getElem?_ancestors] at hnear
  rw [hnear (List.getElem?_eq_getElem _)]
  rfl

theorem discover_eq_none (habsent : ∀ steps, ∀ dir ∈ Path.up steps disk.workingDir,
    disk.isPresent (Path.join dir fileName) = false) : discover disk = none := by
  rw [discover_eq_map, Option.map_eq_none_iff, List.find?_eq_none]
  intro dir hdir
  obtain ⟨steps, hget⟩ := List.mem_iff_getElem?.mp hdir
  rw [Path.getElem?_ancestors] at hget
  rw [habsent steps dir hget]
  exact Bool.false_ne_true

/-- Seen from a place in a tree, the nearest directory is the lowest place above with a file of the
usual name. -/
theorem isNearest_iff_of_place {place : List Text} (hplace : ∀ name ∈ place, Tree.IsName name)
    (hworking : disk.workingDir = Tree.pathOf place) {dir : Text} :
    IsNearest disk dir ↔
      ∃ above, above <+: place ∧ Tree.pathOf above = dir ∧
        disk.isPresent (Path.join dir fileName) = true ∧
        ∀ nearer, nearer <+: place → above.length < nearer.length →
          disk.isPresent (Path.join (Tree.pathOf nearer) fileName) = false := by
  rw [IsNearest, hworking]
  constructor
  · rintro ⟨steps, hdir, hpresent, hnearer⟩
    obtain ⟨above, habove, hlength, hpath⟩ := (Tree.up_pathOf_eq_some_iff hplace).mp hdir
    refine ⟨above, habove, hpath, hpresent, fun nearer hprefix hlower => ?_⟩
    have hle := hprefix.length_le
    refine hnearer (place.length - nearer.length) (by omega) (Tree.pathOf nearer) ?_
    exact (Tree.up_pathOf_eq_some_iff hplace).mpr ⟨nearer, hprefix, by omega, rfl⟩
  · rintro ⟨above, habove, hpath, hpresent, hnearer⟩
    have hle := habove.length_le
    refine ⟨place.length - above.length,
      (Tree.up_pathOf_eq_some_iff hplace).mpr ⟨above, habove, by omega, hpath⟩, hpresent, ?_⟩
    intro fewer hfewer dir' hdir
    obtain ⟨nearer, hprefix, hlength, rfl⟩ := (Tree.up_pathOf_eq_some_iff hplace).mp hdir
    exact hnearer nearer hprefix (by omega)

theorem isName_fileName : Tree.IsName fileName := by
  constructor <;> decide

/-- The file of the usual name in a directory lies in that directory. -/
theorem IsNearest.parent_eq {place : List Text} (hplace : ∀ name ∈ place, Tree.IsName name)
    (hworking : disk.workingDir = Tree.pathOf place) {dir : Text} (hnearest : IsNearest disk dir) :
    Path.parent (Path.join dir fileName) = some dir := by
  obtain ⟨above, habove, rfl, -⟩ := (isNearest_iff_of_place hplace hworking).mp hnearest
  have hnames : ∀ name ∈ above, Tree.IsName name := fun name hname =>
    hplace name (habove.subset hname)
  rw [Tree.join_pathOf hnames isName_fileName, Tree.parent_pathOf_append hnames isName_fileName]

end Discovery

section Overriding

variable {disk : Disk} {env : Environment} {path : Option Text}

theorem load?_eq_find : load? disk env path none = find disk env path := by
  rw [load?]
  cases find disk env path <;> rfl

theorem load?_eq_bind (given : Overrides) :
    load? disk env path (some given) = (find disk env path >>= fun config =>
      (config.override given).validate >>= fun _ => .ok (config.override given)) :=
  rfl

/-- Whatever is found has a root path, and names for all plugins to be loaded. -/
theorem valid_of_find {config : Config} (hfind : find disk env path = .ok config) :
    config.rootPath ≠ [] ∧ [] ∉ config.load := by
  have hfile : ∀ file, ofFile disk env file = .ok config →
      config.rootPath ≠ [] ∧ [] ∉ config.load := by
    intro file hok
    obtain ⟨text, document, -, -, -, hvalid⟩ := ofFile_eq_ok_iff.mp hok
    exact hvalid
  rw [find.eq_def] at hfind
  split at hfind
  · split at hfind
    · exact hfile _ hfind
    · cases hfind
  · split at hfind
    · exact hfile _ hfind
    · cases hfind
      exact ⟨List.cons_ne_nil _ _, List.not_mem_nil⟩

theorem validate_override {config : Config} (hroot : config.rootPath ≠ [])
    (hload : [] ∉ config.load) (given : Overrides) :
    (config.override given).validate =
      if given.rootPath = some [] then .error (.emptyField "site.root_path") else .ok () := by
  split
  · rename_i hempty
    simp [validate, override, hempty]
  · rename_i hempty
    refine validate_eq_ok_iff.mpr ⟨?_, hload⟩
    cases hgiven : given.rootPath with
    | none => simpa [override, hgiven] using hroot
    | some text =>
      rw [hgiven] at hempty
      simpa [override, hgiven] using hempty

end Overriding

/-- Without a given file the configuration is that of the nearest file upwards, whose directory its
paths are resolved against, or else the default one. Overrides fail where the configuration does, or
for an empty root path; otherwise they replace the values they have and leave all others. -/
theorem finds_and_overrides (disk : Disk) (env : Environment)
    (overrides : Option Overrides) :
    (∀ dir, IsNearest disk dir →
      load? disk env none overrides =
        load? disk env (some (Path.join dir fileName)) overrides ∧
      ∀ place, disk.workingDir = Tree.pathOf place → (∀ name ∈ place, Tree.IsName name) →
        ∀ config, load? disk env none none = .ok config →
          ∃ text document, disk.get (Path.join dir fileName) = .ok text ∧
            readDocument text = some document ∧
            config.skin = Path.join dir (document.site.skin.getD defaultSkin) ∧
            config.notFound = Path.join dir (document.site.notFound.getD defaultNotFound)) ∧
    ((∀ steps, ∀ dir ∈ Path.up steps disk.workingDir,
        disk.isPresent (Path.join dir fileName) = false) →
      load? disk env none none = .ok (defaultAt disk.workingDir)) ∧
    ∀ path,
      (∀ cause, load? disk env path none = .error cause →
        load? disk env path overrides = .error cause) ∧
      (∀ config, load? disk env path none = .ok config → ∀ given,
        load? disk env path (some given) =
          if given.rootPath = some [] then .error (.emptyField "site.root_path")
          else .ok { config with
            skin := given.skin.getD config.skin
            rootPath := given.rootPath.getD config.rootPath
            notFound := given.notFound.getD config.notFound }) ∧
      ∀ config, load? disk env path overrides = .ok config →
        config.rootPath ≠ [] ∧ [] ∉ config.load := by
  have hoverridden : ∀ path config, load? disk env path none = .ok config → ∀ given,
      load? disk env path (some given) =
        if given.rootPath = some [] then .error (.emptyField "site.root_path")
        else .ok (config.override given) := by
    intro path config hconfig given
    rw [load?_eq_find] at hconfig
    obtain ⟨hroot, hload⟩ := valid_of_find hconfig
    rw [load?_eq_bind, hconfig]
    change ((config.override given).validate >>= fun _ => _) = _
    rw [validate_override hroot hload]
    split <;> rfl
  refine ⟨fun dir hnearest => ⟨?_, fun place hworking hplace config hconfig => ?_⟩,
    fun habsent => ?_, fun path => ⟨fun cause hcause => ?_, hoverridden path, ?_⟩⟩
  · have hfind : find disk env none = find disk env (some (Path.join dir fileName)) := by
      obtain ⟨steps, -, hpresent, -⟩ := id hnearest
      simp only [find, hnearest.discover_eq, hpresent, if_true]
    rw [load?, load?, hfind]
  · rw [load?_eq_find, find, hnearest.discover_eq] at hconfig
    obtain ⟨text, document, hget, hread, hdocument, -⟩ := ofFile_eq_ok_iff.mp hconfig
    obtain ⟨-, -, hwritten⟩ := ofDocument_eq_ok_iff.mp hdocument
    have hparent := hnearest.parent_eq hplace hworking
    refine ⟨text, document, hget, hread, ?_, ?_⟩
    · rw [hwritten, written, hparent]
      rfl
    · rw [hwritten, written, hparent]
      rfl
  · rw [load?_eq_find, find, discover_eq_none habsent]
  · rw [load?_eq_find] at hcause
    cases overrides with
    | none => rw [load?_eq_find, hcause]
    | some given =>
      rw [load?_eq_bind, hcause]
      rfl
  · intro config hconfig
    cases overrides with
    | none => exact valid_of_find (load?_eq_find ▸ hconfig)
    | some given =>
      rw [load?_eq_bind] at hconfig
      obtain ⟨found, -, hrest⟩ := bind_eq_ok_iff.mp hconfig
      obtain ⟨_, hvalid, hok⟩ := bind_eq_ok_iff.mp hrest
      cases hok
      exact validate_eq_ok_iff.mp hvalid

/-- The file one directory up is found, and its skin is the one next to it. -/
theorem finds_and_overrides_above :
    let text : Text := "[site]\nskin='a.html'\nroot_path='/b/'"
    let disk : Disk := ⟨Tree.pathOf ["p", "q"], fun path =>
      if path = "/p/pageweave.toml" then .ok (.file (some text)) else .error .missing⟩
    let config : Config :=
      ⟨"/b/", "/p/a.html", "/p/app/error/error404.xml", [], [], [], [], some "/p/pageweave.toml"⟩
    let nameless : Overrides := ⟨none, some [], none⟩
    let skinned : Overrides := ⟨some "c.html", none, none⟩
    IsNearest disk "/p" ∧
    load? disk [] none (some skinned) =
      load? disk [] (some (Path.join "/p" fileName)) (some skinned) ∧
    (∃ document, readDocument text = some document ∧
      config.skin = Path.join "/p" (document.site.skin.getD defaultSkin)) ∧
    load? disk [] none none = .ok config ∧
    load? disk [] none (some skinned) = .ok { config with skin := "c.html" } ∧
    load? disk [] none (some nameless) = .error (.emptyField "site.root_path") ∧
    load? disk [] (some "/q") (some skinned) = .error (.missing "/q") ∧
    load? ⟨['/'], fun _ => .error .missing⟩ [] none none = .ok (defaultAt ['/']) := by
  intro text disk config nameless skinned
  have hplace : ∀ name ∈ [['p'], ['q']], Tree.IsName name := by
    simp only [List.forall_mem_cons]
    refine ⟨?_, ?_, by simp⟩ <;> constructor <;> decide
  have hnearest : IsNearest disk "/p" := by
    refine ⟨1, by decide, by decide, fun fewer hfewer nearer hnear => ?_⟩
    obtain rfl : fewer = 0 := by omega
    cases hnear
    decide
  have hconfig : load? disk [] none none = .ok config := by
    have hread : readDocument "[site]\nskin='a.html'\nroot_path='/b/'" =
        some ⟨⟨some "/b/", some "a.html", none, none, none⟩, [], []⟩ := by
      decide +kernel
    have hroot : expandField [] rootField "/b/" = .ok "/b/".toList := by rfl
    rw [load?_eq_find, find, hnearest.discover_eq]
    refine ofFile_eq_ok_iff.mpr ⟨text, _, by rfl, hread, ?_, by simp [config], by simp [config]⟩
    exact ofDocument_eq_ok_iff.mpr ⟨hroot, .nil, by rfl⟩
  have hmissing : load? disk [] (some "/q") none = .error (.missing "/q") := by rfl
  obtain ⟨hnear, -, hpaths⟩ := finds_and_overrides disk [] (some skinned)
  obtain ⟨hsame, hresolved⟩ := hnear _ hnearest
  obtain ⟨text', document, hget, hread, hskin, -⟩ :=
    hresolved [['p'], ['q']] rfl hplace config hconfig
  cases hget
  refine ⟨hnearest, hsame, ⟨document, hread, hskin⟩, hconfig, (hpaths none).2.1 _ hconfig skinned,
    (hpaths none).2.1 _ hconfig nameless, (hpaths _).1 _ hmissing, ?_⟩
  exact (finds_and_overrides _ _ none).2.1 fun _ _ _ => rfl

end Stencil.Config
