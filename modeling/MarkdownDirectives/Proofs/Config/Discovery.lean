import MarkdownDirectives.Config.Load
import MarkdownDirectives.Files.Tree
import MarkdownDirectives.Proofs.Files.Parents

/-!
# Where settings come from

A named file is the only one that is looked at. Without a name the settings are those of the
nearest file with the usual name on the way up from the working directory; whether that file can be
used makes no difference for the choice.

* `discover_eq_some_iff`, `discover_eq_none_iff` — what is found is nearest, and what is not found
  is nowhere on the way
* `ofFile_eq_iff`, `load_eq_iff` — what loading gives, rule by rule
* `load_finds_nearest` — discovery and loading for every view of the files
-/

namespace MarkdownDirectives

/-- A file stands at the path. A directory is none. -/
def FileView.HasFile (view : FileView) (path : String) : Prop :=
  ∃ text, view.find path = .ok (.file text)

theorem FileView.isFile_iff {view : FileView} {path : String} :
    view.isFile path = true ↔ view.HasFile path := by
  unfold isFile HasFile
  cases view.find path with
  | error e => simp
  | ok entry => cases entry <;> simp

theorem FileView.present_iff {view : FileView} {path : String} :
    view.present path = true ↔ ∃ entry, view.find path = .ok entry := by
  unfold present
  cases view.find path <;> simp [Except.isOk, Except.toBool]

namespace Config

variable {view : FileView}

/-! ## The nearest file -/

/-- The file is the first one with the usual name on the way up from a path. -/
def IsNearest (view : FileView) (start : Path) (found : String) : Prop :=
  ∃ steps directory, start.up steps = some directory ∧ directory.join fileName = found ∧
    view.HasFile found ∧
    ∀ fewer < steps, ∀ nearer, start.up fewer = some nearer → ¬ view.HasFile (nearer.join fileName)

/-- No file with the usual name is on the way up from a path. -/
def IsNowhere (view : FileView) (start : Path) : Prop :=
  ∀ steps directory, start.up steps = some directory → ¬ view.HasFile (directory.join fileName)

theorem getElem?_candidates (start : Path) (steps : Nat) :
    (start.ancestors.map (·.join fileName))[steps]? = (start.up steps).map (·.join fileName) := by
  rw [List.getElem?_map, Path.getElem?_ancestors]

theorem discover_eq_some_iff {start found : String} :
    discover view start = some found ↔ IsNearest view (.ofString start) found := by
  rw [discover, List.find?_eq_some_iff_getElem]
  constructor
  · rintro ⟨hfile, steps, hsteps, hfound, hbefore⟩
    have hcandidate := getElem?_candidates (.ofString start) steps
    rw [List.getElem?_eq_getElem hsteps, hfound] at hcandidate
    obtain ⟨directory, hup, hjoin⟩ := Option.map_eq_some_iff.mp hcandidate.symm
    refine ⟨steps, directory, hup, hjoin, FileView.isFile_iff.mp hfile, ?_⟩
    intro fewer hfewer nearer hnearer hthere
    have hcandidate := getElem?_candidates (.ofString start) fewer
    rw [List.getElem?_eq_getElem (Nat.lt_trans hfewer hsteps), hnearer, Option.map_some,
      Option.some.injEq] at hcandidate
    have hnone := hbefore fewer hfewer
    rw [hcandidate, FileView.isFile_iff.mpr hthere] at hnone
    cases hnone
  · rintro ⟨steps, directory, hup, rfl, hfile, hbefore⟩
    have hcandidate := getElem?_candidates (.ofString start) steps
    rw [hup, Option.map_some] at hcandidate
    obtain ⟨hsteps, hfound⟩ := List.getElem?_eq_some_iff.mp hcandidate
    refine ⟨FileView.isFile_iff.mpr hfile, steps, hsteps, hfound, fun fewer hfewer => ?_⟩
    have hcandidate := getElem?_candidates (.ofString start) fewer
    rw [List.getElem?_eq_getElem (Nat.lt_trans hfewer hsteps)] at hcandidate
    obtain ⟨nearer, hnearer, hjoin⟩ := Option.map_eq_some_iff.mp hcandidate.symm
    have hnone := mt FileView.isFile_iff.mp (hbefore fewer hfewer nearer hnearer)
    rw [← hjoin]
    simpa using hnone

theorem discover_eq_none_iff {start : String} :
    discover view start = none ↔ IsNowhere view (.ofString start) := by
  rw [discover, List.find?_eq_none]
  constructor
  · intro h steps directory hup hthere
    have hcandidate := getElem?_candidates (.ofString start) steps
    rw [hup, Option.map_some] at hcandidate
    exact h _ (List.mem_of_getElem? hcandidate) (FileView.isFile_iff.mpr hthere)
  · intro h path hpath hfile
    obtain ⟨steps, hcandidate⟩ := List.mem_iff_getElem?.mp hpath
    rw [getElem?_candidates] at hcandidate
    obtain ⟨directory, hup, rfl⟩ := Option.map_eq_some_iff.mp hcandidate
    exact h steps directory hup (FileView.isFile_iff.mp hfile)

/-! ## Loading -/

/-- What is made of the file at a path: it is read, then parsed, then validated. -/
inductive FromFile (view : FileView) (path : String) : Except ConfigError LoadedConfig → Prop
  | unreadable {e : FileError} (h : view.read path = .error e) :
      FromFile view path (.error (.file e))
  | malformed {text : String} (hread : view.read path = .ok text)
      (h : (Toml.Table.ofText text).bind ofTable = none) : FromFile view path (.error .malformed)
  | invalid {text : String} {config : Config} {fault : ConfigFault}
      (hread : view.read path = .ok text)
      (hparse : (Toml.Table.ofText text).bind ofTable = some config)
      (h : config.fault? = some fault) : FromFile view path (.error (.invalid fault))
  | usable {text : String} {config : Config} (hread : view.read path = .ok text)
      (hparse : (Toml.Table.ofText text).bind ofTable = some config)
      (h : config.fault? = none) : FromFile view path (.ok ⟨config, some path⟩)

/-- Where the settings come from: a named file, the nearest one, or nowhere. -/
inductive Loads (view : FileView) : Option String → Except ConfigError LoadedConfig → Prop
  | missing {path : String} {e : FileError} (h : view.find path = .error e) :
      Loads view (some path) (.error (.notFound path))
  | named {path : String} {entry : Entry} {result : Except ConfigError LoadedConfig}
      (h : view.find path = .ok entry) (hresult : FromFile view path result) :
      Loads view (some path) result
  | nearest {found : String} {result : Except ConfigError LoadedConfig}
      (h : IsNearest view (.ofString view.workingDirectory) found)
      (hresult : FromFile view found result) : Loads view none result
  | default (h : IsNowhere view (.ofString view.workingDirectory)) :
      Loads view none (.ok { config := {} })

theorem ofFile_eq_iff {path : String} {result : Except ConfigError LoadedConfig} :
    ofFile view path = result ↔ FromFile view path result := by
  constructor
  · rintro rfl
    unfold ofFile ofText
    cases hread : view.read path with
    | error e => exact .unreadable hread
    | ok text =>
      dsimp only
      cases hparse : (Toml.Table.ofText text).bind ofTable with
      | none => exact .malformed hread hparse
      | some config =>
        dsimp only
        cases hfault : config.fault? with
        | some fault => exact .invalid hread hparse hfault
        | none => exact .usable hread hparse hfault
  · rintro (h | ⟨hread, h⟩ | ⟨hread, hparse, h⟩ | ⟨hread, hparse, h⟩)
    · rw [ofFile, h]
    · simp only [ofFile, hread, ofText, h]
      rfl
    · simp only [ofFile, hread, ofText, hparse, h]
      rfl
    · simp only [ofFile, hread, ofText, hparse, h]
      rfl

theorem load_eq_iff {path : Option String} {result : Except ConfigError LoadedConfig} :
    load view path = result ↔ Loads view path result := by
  constructor
  · rintro rfl
    unfold load
    cases path with
    | some path =>
      dsimp only
      split
      · next hthere =>
        obtain ⟨entry, hentry⟩ := FileView.present_iff.mp hthere
        exact .named hentry (ofFile_eq_iff.mp rfl)
      · next hmissing =>
        cases hentry : view.find path with
        | error e => exact .missing hentry
        | ok entry => exact absurd (FileView.present_iff.mpr ⟨entry, hentry⟩) hmissing
    | none =>
      dsimp only
      split
      · next found hfound => exact .nearest (discover_eq_some_iff.mp hfound) (ofFile_eq_iff.mp rfl)
      · next hnone => exact .default (discover_eq_none_iff.mp hnone)
  · rintro (h | ⟨h, hresult⟩ | ⟨h, hresult⟩ | h)
    · rw [load, if_neg]
      intro hthere
      obtain ⟨entry, hentry⟩ := FileView.present_iff.mp hthere
      rw [h] at hentry
      cases hentry
    · rw [load, if_pos (FileView.present_iff.mpr ⟨_, h⟩)]
      exact ofFile_eq_iff.mpr hresult
    · simp only [load, discover_eq_some_iff.mpr h]
      exact ofFile_eq_iff.mpr hresult
    · simp only [load, discover_eq_none_iff.mpr h]

/-- Of a view of the files a named file needs what is at its path. -/
theorem load_congr {view' : FileView} {path : String} (h : view'.find path = view.find path) :
    load view' (some path) = load view (some path) := by
  have hpresent : view'.present path = view.present path := by
    rw [FileView.present, FileView.present, h]
  have hread : view'.read path = view.read path := by rw [FileView.read, FileView.read, h]
  rw [load, load, hpresent, ofFile, ofFile, hread]

/--
**Settings come from the file that is named, or else from the nearest one.**

The way up from a path has one step for every name in it, so the search ends. It finds the first
file with the usual name on that way, passing over directories, and nothing only if there is none.
Loading a named file looks at no other path. Without a name the nearest file counts even if it
cannot be used, and only without any such file the settings have their defaults.
-/
theorem load_finds_nearest (view : FileView) :
    (∀ (start : Path) (steps : Nat),
      ((start.up steps).isSome = true ↔ steps ≤ start.names.length) ∧
      ∀ directory, start.up steps = some directory → directory.IsAbove start steps) ∧
    (∀ start found, discover view start = some found ↔ IsNearest view (.ofString start) found) ∧
    (∀ start, discover view start = none ↔ IsNowhere view (.ofString start)) ∧
    (∀ path result, load view path = result ↔ Loads view path result) ∧
    (∀ (view' : FileView) (path : String), view'.find path = view.find path →
      load view' (some path) = load view (some path)) :=
  ⟨fun start steps => ⟨Path.isSome_up_iff start steps, fun _ => Path.isAbove_up⟩,
    fun _ _ => discover_eq_some_iff, fun _ => discover_eq_none_iff, fun _ _ => load_eq_iff,
    fun _ _ => load_congr⟩

/-! ### A file that cannot be used -/

/-- A directory with the usual name, a file above it that is no text, and a good one at the root. -/
def nestedTree : FileTree where
  entries := [(["site"], .directory), (["site", "docs"], .directory),
    (["site", "docs", "rds.toml"], .directory), (["site", "rds.toml"], .file none),
    (["rds.toml"], .file (some ""))]

/-- The directory is passed over and the file that is no text is not: its error is that of loading
without a name. The good file can be named, from anywhere. -/
theorem load_finds_nearest_nested :
    let view := nestedTree.view ["site", "docs"]
    let elsewhere := nestedTree.view []
    discover view "/site/docs" = some "/site/rds.toml" ∧
      load view none = .error (.file .notText) ∧
      load view (some "/rds.toml") = .ok { config := {}, path := some "/rds.toml" } ∧
      elsewhere.find "/rds.toml" = view.find "/rds.toml" ∧
      load elsewhere (some "/rds.toml") = load view (some "/rds.toml") := by
  intro view elsewhere
  obtain ⟨-, hdiscover, -, hload, hsame⟩ := load_finds_nearest view
  have hnearest : IsNearest view (.ofString "/site/docs") "/site/rds.toml" := by
    refine ⟨1, ⟨true, ["site".toList]⟩, by decide, by decide, ⟨none, by decide⟩, ?_⟩
    intro fewer hfewer nearer hnearer hthere
    obtain rfl : fewer = 0 := Nat.lt_one_iff.mp hfewer
    cases hnearer
    obtain ⟨text, htext⟩ := hthere
    have hdirectory : view.find ((Path.ofString "/site/docs").join fileName) = .ok .directory := by
      decide
    rw [hdirectory] at htext
    cases htext
  have hstart : view.workingDirectory = "/site/docs" := by decide
  have hbad : view.find "/site/rds.toml" = .ok (.file none) := by decide
  have hunreadable : view.read "/site/rds.toml" = .error .notText := by rw [FileView.read, hbad]
  have hgood : view.find "/rds.toml" = .ok (.file (some "")) := by decide
  have hread : view.read "/rds.toml" = .ok "" := by rw [FileView.read, hgood]
  have hparse : (Toml.Table.ofText "").bind ofTable = some {} := rfl
  have hvalid : ({} : Config).fault? = none := rfl
  have helsewhere : elsewhere.find "/rds.toml" = view.find "/rds.toml" := by decide
  refine ⟨(hdiscover _ _).mpr hnearest, (hload _ _).mpr (.nearest ?_ (.unreadable hunreadable)),
    (hload _ _).mpr (.named hgood (.usable hread hparse hvalid)), helsewhere,
    hsame _ _ helsewhere⟩
  rwa [hstart]

end Config

end MarkdownDirectives
