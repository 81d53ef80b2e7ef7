import MarkdownDirectives.Files.Tree

/-!
# Writing files

When a file can be written, and what becomes of the tree then. A path is `Writable` if the names in
front of its last one lead to a directory, and the last one can be that of a file there. Writing
puts the text at one place; the way to that place stays as it was, since only directories can be
gone through, so the same path leads to the text afterwards.

* `exists_write_iff` — writing works exactly at paths that are writable
* `entry?_set_of_ne` — the other places stay
* `Writable.read` — what was written is read
-/

namespace MarkdownDirectives.FileTree

variable {tree tree' : FileTree} {place other : Place} {entry : Entry}

/-! ## One place -/

theorem entry?_set_self (h : place ≠ []) :
    FileTree.entry? (tree.set place entry) place = some entry := by
  unfold entry?
  rw [if_neg (by simpa using h), set, List.lookup_cons_self]

theorem lookup_filter_of_ne {entries : List (Place × Entry)} (h : other ≠ place) :
    (entries.filter (·.1 != place)).lookup other = entries.lookup other := by
  induction entries with
  | nil => rfl
  | cons first rest ih =>
    by_cases hfirst : first.1 = place
    · -- what stands at the place is left out, and is not asked for
      have hne : (other == first.1) = false := by simpa [hfirst] using h
      rw [List.filter_cons_of_neg (by simpa using hfirst), ih, List.lookup_cons, hne]
    · rw [List.filter_cons_of_pos (by simpa using hfirst), List.lookup_cons, List.lookup_cons, ih]

theorem entry?_set_of_ne (h : other ≠ place) :
    FileTree.entry? (tree.set place entry) other = tree.entry? other := by
  have hne : (other == place) = false := by simpa using h
  unfold entry?
  rw [set, List.lookup_cons, hne]
  simp only [lookup_filter_of_ne h]

theorem isSome_entry?_set (h : (tree.entry? other).isSome) :
    (FileTree.entry? (tree.set place entry) other).isSome := by
  by_cases hplace : place = []
  · -- the root is there whatever is put at its place
    by_cases hother : other = []
    · rw [hother]
      rfl
    · rwa [entry?_set_of_ne (by rwa [hplace])]
  · by_cases heq : other = place
    · rw [heq, entry?_set_self hplace]
      rfl
    · rwa [entry?_set_of_ne heq]

/-! ## Paths -/

/-- One name of a path: where it leads to from a place. -/
def step (tree : FileTree) (place : Place) (name : String) : Except FileError Place :=
  match tree.entry? place with
  | none => .error .notFound
  | some (.file _) => .error .notDirectory
  | some .directory =>
    if name = "" || name = "." then .ok place
    else if name = ".." then .ok place.dropLast
    else if isLongName name then .error .nameTooLong
    else if (tree.entry? (place ++ [name])).isSome then .ok (place ++ [name])
    else .error .notFound

theorem walk_cons (start : Place) (name : String) (rest : List String) :
    tree.walk start (name :: rest) = (tree.step start name).bind (tree.walk · rest) := by
  rw [walk, step]
  cases tree.entry? start with
  | none => rfl
  | some found =>
    cases found with
    | file text => rfl
    | directory =>
      dsimp only
      repeat' split
      all_goals rfl

theorem walk_append (start : Place) (names more : List String) :
    tree.walk start (names ++ more) = (tree.walk start names).bind (tree.walk · more) := by
  induction names generalizing start with
  | nil => rfl
  | cons name rest ih =>
    rw [List.cons_append, walk_cons, walk_cons]
    cases tree.step start name with
    | error e => rfl
    | ok next => exact ih next

/-- A name in a directory. -/
theorem step_name {name : String} (hplace : tree.entry? place = some .directory)
    (hempty : name ≠ "") (hproper : isDirectoryName name = false) :
    tree.step place name =
      if isLongName name then .error .nameTooLong
      else if (tree.entry? (place ++ [name])).isSome then .ok (place ++ [name])
      else .error .notFound := by
  rw [isDirectoryName, Bool.or_eq_false_iff, decide_eq_false_iff_not,
    decide_eq_false_iff_not] at hproper
  have hstay : ¬ (decide (name = "") || decide (name = ".")) = true := by
    simpa using ⟨hempty, hproper.1⟩
  rw [step, hplace]
  dsimp only
  rw [if_neg hstay, if_neg hproper.2]

/-- Only directories can be gone through, so a step stays when something is put where there is no
directory. -/
theorem step_set (hplace : tree.entry? place ≠ some .directory) {start next : Place}
    {name : String} (h : tree.step start name = .ok next) :
    (tree.set place entry).step start name = .ok next := by
  have hstart : tree.entry? start = some .directory := by
    rw [step] at h
    split at h
    · cases h
    · cases h
    · assumption
  have hne : start ≠ place := by
    rintro rfl
    exact hplace hstart
  rw [step, hstart] at h
  rw [step, entry?_set_of_ne hne, hstart]
  dsimp only at h ⊢
  by_cases hthere : (tree.entry? (start ++ [name])).isSome = true
  · rw [if_pos hthere] at h
    rwa [if_pos (isSome_entry?_set hthere)]
  · rw [if_neg hthere] at h
    -- without the name in the tree the step is one that does not look for it
    split at h
    · next hstay => rwa [if_pos hstay]
    next hstay =>
    split at h
    · next hup => rwa [if_neg hstay, if_pos hup]
    · split at h <;> cases h

theorem walk_set (hplace : tree.entry? place ≠ some .directory) {start above : Place}
    {names : List String} (h : tree.walk start names = .ok above) :
    (tree.set place entry).walk start names = .ok above := by
  induction names generalizing start with
  | nil => exact h
  | cons name rest ih =>
    rw [walk_cons] at h ⊢
    cases hstep : tree.step start name with
    | error e =>
      rw [hstep] at h
      cases h
    | ok next =>
      rw [hstep] at h
      rw [step_set hplace hstep]
      exact ih h

/-! ## Writable paths -/

/-- A name that a file can have. -/
structure IsFileName (name : String) : Prop where
  nonempty : name ≠ ""
  proper : isDirectoryName name = false
  short : isLongName name = false

/-- The path leads to a directory and a name in it, and a file can stand there. -/
structure Writable (tree : FileTree) (workingDirectory : Place) (path : String) (above : Place)
    (name : String) : Prop where
  short : isLongPath path = false
  leads : ∃ names, namesOf (.ofString path) = names ++ [name] ∧
    tree.walk (startOf workingDirectory (.ofString path)) names = .ok above
  directory : tree.entry? above = some .directory
  fileName : IsFileName name
  /-- A file that is there already may be replaced, a directory may not. -/
  free : tree.entry? (above ++ [name]) ≠ some .directory

theorem trimNames_append {names : List String} {name : String} (h : name ≠ "") :
    trimNames (names ++ [name]) = names ++ [name] := by
  have hname : ¬ name.isEmpty = true := by simpa using h
  rw [trimNames, List.reverse_append, List.reverse_singleton, List.singleton_append,
    List.dropWhile_cons_of_neg hname, List.reverse_cons, List.reverse_reverse]

theorem exists_trimNames (names : List String) : ∃ blank, names = trimNames names ++ blank := by
  refine ⟨(names.reverse.takeWhile String.isEmpty).reverse, ?_⟩
  rw [trimNames, ← List.reverse_append, List.takeWhile_append_dropWhile, List.reverse_reverse]

theorem ne_empty_of_trimNames {names init : List String} {name : String}
    (h : trimNames names = init ++ [name]) : name ≠ "" := by
  have hhead : (names.reverse.dropWhile String.isEmpty).head? = some name := by
    rw [← List.getLast?_reverse, ← trimNames, h, List.getLast?_append]
    rfl
  have hnot := List.head?_dropWhile_not String.isEmpty names.reverse
  rw [hhead] at hnot
  simpa using hnot

variable {workingDirectory above : Place} {path name text : String}

theorem Writable.write (h : tree.Writable workingDirectory path above name) (text : String) :
    tree.write workingDirectory path text
      = .ok (tree.set (above ++ [name]) (.file (some text))) := by
  obtain ⟨names, hnames, hwalk⟩ := h.leads
  have hlength : (names ++ [name]).length = (Path.ofString path).parts.length := by
    rw [← hnames, namesOf, List.length_map]
  have hdirectory : (isDirectoryName name
      || decide ((names ++ [name]).length < (Path.ofString path).parts.length)) = false := by
    rw [h.fileName.proper, hlength]
    simp
  unfold FileTree.write
  simp only [hnames, trimNames_append h.fileName.nonempty, h.short, List.getLast?_concat,
    List.dropLast_concat, hwalk, h.directory, hdirectory, h.fileName.short, Bool.false_eq_true,
    if_false]
  split
  · next hthere => exact absurd hthere h.free
  · rfl

theorem writable_of_write (h : tree.write workingDirectory path text = .ok tree') :
    ∃ above name, tree.Writable workingDirectory path above name ∧
      tree' = tree.set (above ++ [name]) (.file (some text)) := by
  unfold FileTree.write at h
  dsimp only at h
  split at h
  · cases h
  next hshort =>
  split at h
  · cases h
  next name hlast =>
  split at h
  · cases h
  next above hwalk =>
  split at h
  · next hdirectory =>
    split at h
    · cases h
    next hproper =>
    split at h
    · cases h
    next hname =>
    split at h
    · cases h
    next hfree =>
    cases h
    rw [Bool.or_eq_true, not_or, decide_eq_true_eq, Nat.not_lt, Bool.not_eq_true] at hproper
    obtain ⟨hproper, hlength⟩ := hproper
    -- no name has been left out at the end
    obtain ⟨blank, hblank⟩ := exists_trimNames (namesOf (.ofString path))
    have hnone : blank = [] := by
      have hcount := congrArg List.length hblank
      rw [List.length_append, namesOf, List.length_map, ← namesOf] at hcount
      exact List.eq_nil_of_length_eq_zero (by omega)
    rw [hnone, List.append_nil] at hblank
    obtain ⟨names, hnames⟩ := List.getLast?_eq_some_iff.mp hlast
    rw [hnames, List.dropLast_concat] at hwalk
    exact ⟨above, name, ⟨by simpa using hshort, ⟨names, hblank.trans hnames, hwalk⟩, hdirectory,
      ⟨ne_empty_of_trimNames hnames, hproper, by simpa using hname⟩, hfree⟩, rfl⟩
  · cases h
  · cases h

/-- **A file can be written exactly at a path that is writable.** -/
theorem exists_write_iff :
    (∃ tree', tree.write workingDirectory path text = .ok tree') ↔
      ∃ above name, tree.Writable workingDirectory path above name := by
  constructor
  · rintro ⟨tree', h⟩
    obtain ⟨above, name, hwritable, -⟩ := writable_of_write h
    exact ⟨above, name, hwritable⟩
  · rintro ⟨above, name, hwritable⟩
    exact ⟨_, hwritable.write text⟩

/-! ## Reading again -/

/-- The path leads to what has been put at its place. -/
theorem Writable.find (h : tree.Writable workingDirectory path above name)
    (text : Option String) :
    (tree.set (above ++ [name]) (.file text)).find workingDirectory path = .ok (.file text) := by
  obtain ⟨names, hnames, hwalk⟩ := h.leads
  have hne : above ≠ above ++ [name] := by simp
  have hthere : FileTree.entry? (tree.set (above ++ [name]) (.file text)) (above ++ [name])
      = some (.file text) := entry?_set_self (by simp)
  have hdirectory :
      FileTree.entry? (tree.set (above ++ [name]) (.file text)) above = some .directory := by
    rw [entry?_set_of_ne hne, h.directory]
  have hlast : (tree.set (above ++ [name]) (.file text)).walk above [name]
      = .ok (above ++ [name]) := by
    rw [walk_cons, step_name hdirectory h.fileName.nonempty
      h.fileName.proper, h.fileName.short, hthere]
    rfl
  have hparts : (Path.ofString path).parts.isEmpty = false := by
    have hcons : namesOf (.ofString path) ≠ [] := by rw [hnames]; simp
    simpa [namesOf] using hcons
  unfold FileTree.find
  simp only [hparts, h.short, hnames, Bool.false_eq_true, if_false]
  rw [walk_append, walk_set h.free hwalk]
  simp only [Except.bind, hlast, hthere]

/-- **What has been written is read under the same path.** -/
theorem Writable.read (h : tree.Writable workingDirectory path above name) (text : String) :
    ((tree.set (above ++ [name]) (.file (some text))).view workingDirectory).read path
      = .ok text := by
  rw [FileView.read, view]
  simp only [h.find]

end MarkdownDirectives.FileTree
