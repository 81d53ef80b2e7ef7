import Mathlib
import MarkdownDirectives.Command.Render
import MarkdownDirectives.Proofs.Family.Names
import MarkdownDirectives.Proofs.Files.Writing
import MarkdownDirectives.Proofs.Walk.Complete

/-!
# All or nothing

Rendering goes through stages: the settings are loaded, the source is read, the options are made
usable and the document is transformed. A file is written behind all of them and only then, so a
stage that fails leaves the files as they were, an output of an earlier run among them.

* `Stages`, `renderText_eq_ok_iff` — the stages that go well, and the text they give
* `not_fails_iff` — otherwise one of them fails
* `render_on` — what becomes of the files, whatever the command sees of them
* `run_all_or_nothing` — the same from the arguments on
-/

namespace MarkdownDirectives.Command

variable {view : FileView} {stdin : Except FileError String} {a : RenderArguments}

/-! ## Stages -/

/-- All stages of rendering, none of which fails. -/
structure Stages (view : FileView) (stdin : Except FileError String) (a : RenderArguments) where
  loaded : LoadedConfig
  source : String
  transformer : Transformer
  report : Report
  load_eq : Config.load view a.config = .ok loaded
  readSource_eq : readSource view stdin a.input = .ok source
  ofOptions_eq : Transformer.ofOptions (.ofConfig loaded.config) = .ok transformer
  result_eq : (transformer.transform (.ofSource source)).result = .ok report

/-- The text that the stages end with. -/
def Stages.text (s : Stages view stdin a) : String :=
  a.format.write (s.transformer.transform (.ofSource s.source)).document

/-- One of the stages fails. The last two need what the stages in front of them give. -/
inductive Fails (view : FileView) (stdin : Except FileError String) (a : RenderArguments) : Prop
  | config {e : ConfigError} (h : Config.load view a.config = .error e)
  | source {e : FileError} (h : readSource view stdin a.input = .error e)
  | options {loaded : LoadedConfig} {e : DirectiveError}
      (hload : Config.load view a.config = .ok loaded)
      (h : Transformer.ofOptions (.ofConfig loaded.config) = .error e)
  | document {loaded : LoadedConfig} {source : String} {t : Transformer} {e : DirectiveError}
      (hload : Config.load view a.config = .ok loaded)
      (hsource : readSource view stdin a.input = .ok source)
      (ht : Transformer.ofOptions (.ofConfig loaded.config) = .ok t)
      (h : (t.transform (.ofSource source)).result = .error e)

theorem mapError_eq_ok_iff {ε ε' α : Type} {x : Except ε α} {f : ε → ε'} {r : α} :
    x.mapError f = .ok r ↔ x = .ok r := by
  cases x <;> simp [Except.mapError]

/-- **There is a text exactly if all stages go well, and it is theirs.** -/
theorem renderText_eq_ok_iff {text : String} :
    renderText view stdin a = .ok text ↔ ∃ s : Stages view stdin a, s.text = text := by
  constructor
  · intro h
    obtain ⟨loaded, hload, h⟩ := Transformer.ok_of_bind h
    obtain ⟨source, hsource, h⟩ := Transformer.ok_of_bind h
    rw [mapError_eq_ok_iff] at hload hsource h
    obtain ⟨t, ht, h⟩ := Transformer.ok_of_bind h
    obtain ⟨report, hresult, h⟩ := Transformer.ok_of_bind h
    cases h
    exact ⟨⟨loaded, source, t, report, hload, hsource, ht, hresult⟩, rfl⟩
  · rintro ⟨s, rfl⟩
    simp only [renderText, s.load_eq, s.readSource_eq, Except.mapError, bind, Except.bind,
      renderSource, s.ofOptions_eq, s.result_eq]
    rfl

theorem not_fails_of_stages (s : Stages view stdin a) : ¬ Fails view stdin a := by
  intro h
  cases h with
  | config h => cases s.load_eq.symm.trans h
  | source h => cases s.readSource_eq.symm.trans h
  | options hload h =>
    cases s.load_eq.symm.trans hload
    cases s.ofOptions_eq.symm.trans h
  | document hload hsource ht h =>
    cases s.load_eq.symm.trans hload
    cases s.readSource_eq.symm.trans hsource
    cases s.ofOptions_eq.symm.trans ht
    cases s.result_eq.symm.trans h

/-- **Either a stage fails, or all of them go well.** -/
theorem not_fails_iff : ¬ Fails view stdin a ↔ Nonempty (Stages view stdin a) := by
  constructor
  · intro h
    cases hload : Config.load view a.config with
    | error e => exact absurd (.config hload) h
    | ok loaded =>
      cases hsource : readSource view stdin a.input with
      | error e => exact absurd (.source hsource) h
      | ok source =>
        cases ht : Transformer.ofOptions (.ofConfig loaded.config) with
        | error e => exact absurd (.options hload ht) h
        | ok t =>
          cases hresult : (t.transform (.ofSource source)).result with
          | error e => exact absurd (.document hload hsource ht hresult) h
          | ok report => exact ⟨loaded, source, t, report, hload, hsource, ht, hresult⟩
  · rintro ⟨s⟩
    exact not_fails_of_stages s

/-- A stage that fails leaves no text. -/
theorem Fails.renderText (h : Fails view stdin a) : ∃ e, renderText view stdin a = .error e := by
  cases htext : Command.renderText view stdin a with
  | error e => exact ⟨e, rfl⟩
  | ok text =>
    obtain ⟨s, -⟩ := renderText_eq_ok_iff.mp htext
    exact absurd h (not_fails_of_stages s)

/-! ## Files -/

/-- What may become of a tree of files: all that was asked for, or nothing at all. -/
structure AllOrNothing (view : FileView) (stdin : Except FileError String) (a : RenderArguments)
    (tree : FileTree) (workingDirectory : Place) (tree' : FileTree) (answer : Answer) : Prop where
  /-- A stage that fails leaves no output, neither printed nor written. -/
  failed : Fails view stdin a → answer.code = 1 ∧ answer.stdout = "" ∧ tree' = tree
  /-- Otherwise there is a text. -/
  otherwise : ¬ Fails view stdin a → Nonempty (Stages view stdin a)
  /-- The text is printed, and no file is changed. -/
  printed : ∀ s : Stages view stdin a, a.output = none →
    answer.code = 0 ∧ answer.stdout = s.text ∧ tree' = tree
  /-- The text is written, and no other file is changed. -/
  written : ∀ (s : Stages view stdin a) (path : String) (above : Place) (name : String),
    a.output = some path → tree.Writable workingDirectory path above name →
      answer.code = 0 ∧ answer.stdout = "" ∧
        FileTree.entry? tree' (above ++ [name]) = some (.file (some s.text)) ∧
        (tree'.view workingDirectory).read path = .ok s.text ∧
        ∀ other, other ≠ above ++ [name] → FileTree.entry? tree' other = tree.entry? other

theorem run_render (view : FileView) (stdin : Except FileError String) {args : List String}
    (h : Request.ofArguments args = some (.render a)) :
    run view stdin args = render view stdin a := by
  rw [run, h]

/-- **Rendering is all or nothing, whatever the command sees of the files.** -/
theorem render_on (view : FileView) (stdin : Except FileError String) (a : RenderArguments)
    (tree : FileTree) (workingDirectory : Place) :
    AllOrNothing view stdin a tree workingDirectory
      ((render view stdin a).on tree workingDirectory).1
      ((render view stdin a).on tree workingDirectory).2 where
  failed h := by
    obtain ⟨e, herror⟩ := h.renderText
    rw [render, herror]
    exact ⟨rfl, rfl, rfl⟩
  otherwise := not_fails_iff.mp
  printed s houtput := by
    rw [render, renderText_eq_ok_iff.mpr ⟨s, rfl⟩, houtput]
    exact ⟨rfl, rfl, rfl⟩
  written s path above name houtput hwritable := by
    have hwrite := hwritable.write s.text
    rw [render, renderText_eq_ok_iff.mpr ⟨s, rfl⟩, houtput]
    dsimp only [Outcome.on]
    rw [hwrite]
    refine ⟨rfl, rfl, FileTree.entry?_set_self (by simp), hwritable.read s.text, ?_⟩
    intro other hother
    exact FileTree.entry?_set_of_ne hother

/--
**Rendering is all or nothing.**

If the settings, the source, the options or a directive fail, the command fails and neither prints
nor writes anything. Otherwise it prints the text, or it writes the text to one file, which may be
the source, and leaves every other file alone. This holds for every tree of files, and for whatever
else the command may see of its files.
-/
theorem run_all_or_nothing (tree : FileTree) (workingDirectory : Place)
    (stdin : Except FileError String) (args : List String) (a : RenderArguments)
    (h : Request.ofArguments args = some (.render a)) :
    AllOrNothing (tree.view workingDirectory) stdin a tree workingDirectory
        (runOn tree workingDirectory stdin args).1 (runOn tree workingDirectory stdin args).2 ∧
      ∀ view, AllOrNothing view stdin a tree workingDirectory
        ((run view stdin args).on tree workingDirectory).1
        ((run view stdin args).on tree workingDirectory).2 := by
  constructor
  · rw [runOn, run_render _ _ h]
    exact render_on _ stdin a tree workingDirectory
  · intro view
    rw [run_render _ _ h]
    exact render_on view stdin a tree workingDirectory

/-! ### A page that is its own output -/

/-- A path that can stand for itself among the arguments. -/
structure IsPlainPath (path : String) : Prop where
  plain : isPlain path.toList = true
  nonempty : path.toList.isEmpty = false

/-- A source and an output are all that has to be said. -/
theorem ofArguments_output {input output : String} (hin : IsPlainPath input)
    (hout : IsPlainPath output) :
    Request.ofArguments ["render", input, "-o", output]
      = some (.render { input, output := some output }) := by
  have hletter : isPlain "-o".toList = false := by decide
  have hitems : itemsOf "-o".toList = some [.option .output none] := by decide
  have hinput : ArgumentDraft.setInput {} input.toList = some { input := some input } := by
    simp [ArgumentDraft.setInput, setPath, hin.nonempty]
  have houtput : ArgumentDraft.set { input := some input } .output output.toList
      = some { input := some input, output := some output } := by
    simp [ArgumentDraft.set, setPath, hout.nonempty]
  change readRender {} [input, "-o", output] = _
  rw [readRender, if_pos hin.plain, hinput, Option.bind_some, readRender, hletter, hitems]
  simp only [Bool.false_eq_true, if_false, String.reduceEq, Option.bind_some, takeItems,
    if_pos hout.plain, houtput]
  rw [readRender]
  rfl

/-- A site with a page and with a draft whose badge has no text. -/
def siteTree : FileTree where
  entries := [(["site"], .directory), (["site", "page.md"], .file (some ":kbd[Esc]\n")),
    (["site", "draft.md"], .file (some ":badge[]\n"))]

/-- No file with settings is found above the site either. -/
theorem load_site : Config.load (siteTree.view ["site"]) none = .ok { config := {} } := by
  have hancestors : (Path.ofString (siteTree.view ["site"]).workingDirectory).ancestors
      = [⟨true, ["site".toList]⟩, ⟨true, []⟩] := by
    cbv
  have hnone : Config.discover (siteTree.view ["site"])
      (siteTree.view ["site"]).workingDirectory = none := by
    rw [Config.discover, hancestors]
    decide
  rw [Config.load, hnone]

/-- The paragraph of a mark in a line of its own. -/
def loneMark (name : String) (children : List Node) : Node :=
  .paragraph {} [.directive { kind := .text, name } children]

theorem ofSource_page : Document.ofSource ":kbd[Esc]\n" = ⟨[loneMark "kbd" [.text "Esc"]]⟩ := by
  cbv

theorem ofSource_draft : Document.ofSource ":badge[]\n" = ⟨[loneMark "badge" []]⟩ := by
  cbv

/-- The mark of the page becomes the element of its name. -/
theorem transform_page : Transformer.standard.transform (.ofSource ":kbd[Esc]\n")
    = ⟨⟨[.paragraph {} [(Transformer.applyFallback
        ⟨{ kind := .text, name := "kbd" }, [.text "Esc"]⟩).toNode]]⟩,
      [⟨"kbd", .text, .fallback⟩], .ok { fallback := 1 }⟩ := by
  have hmark := Transformer.Succeeds.directive (t := .standard)
    (d := ⟨{ kind := .text, name := "kbd" }, [.text "Esc"]⟩) rfl (.childless rfl .nil) .nil
  have hpage : Transformer.standard.Succeeds [loneMark "kbd" [.text "Esc"]] _ _ :=
    .plain (by rintro head children ⟨⟩) rfl hmark .nil
  rw [ofSource_page, Transformer.transform_of_succeeds hpage]
  rfl

/-- The mark of the draft cannot be resolved. -/
theorem result_draft : (Transformer.standard.transform (.ofSource ":badge[]\n")).result
    = .error (.invalid .badge .textMissing) := by
  have hmark : Transformer.standard.Fails (.invalid .badge .textMissing)
      [.directive { kind := .text, name := "badge" } []] _ _ :=
    .here (d := ⟨{ kind := .text, name := "badge" }, []⟩) rfl
  have hdraft : Transformer.standard.Fails _ [loneMark "badge" []] _ _ :=
    .insidePlain (by rintro head children ⟨⟩) rfl hmark
  rw [ofSource_draft, Transformer.transform_of_fails hdraft]

/-- The stages of the page. -/
def pageStages :
    Stages (siteTree.view ["site"]) (.ok "") { input := "page.md", output := some "page.md" } where
  loaded := { config := {} }
  source := ":kbd[Esc]\n"
  transformer := Transformer.standard
  report := { fallback := 1 }
  load_eq := load_site
  readSource_eq := rfl
  ofOptions_eq := Transformer.ofOptions_default
  result_eq := by rw [transform_page]

theorem text_pageStages : pageStages.text = "<p><kbd>Esc</kbd></p>\n" := by
  change Document.html (Transformer.standard.transform (.ofSource ":kbd[Esc]\n")).document = _
  rw [transform_page]
  decide

/-- The last stage of the draft fails. -/
theorem fails_draft :
    Fails (siteTree.view ["site"]) (.ok "") { input := "draft.md", output := some "page.md" } := by
  have hsource : readSource (siteTree.view ["site"]) (.ok "") "draft.md" = .ok ":badge[]\n" := rfl
  exact .document load_site hsource Transformer.ofOptions_default result_draft

/-- The page is written over its source, the draft over nothing. -/
theorem run_all_or_nothing_site :
    (runOn siteTree ["site"] (.ok "") ["render", "page.md", "-o", "page.md"]).2.code = 0 ∧
      ((runOn siteTree ["site"] (.ok "") ["render", "page.md", "-o", "page.md"]).1.view
        ["site"]).read "page.md" = .ok "<p><kbd>Esc</kbd></p>\n" ∧
      (runOn siteTree ["site"] (.ok "") ["render", "draft.md", "-o", "page.md"]).2.code = 1 ∧
      (runOn siteTree ["site"] (.ok "") ["render", "draft.md", "-o", "page.md"]).1
        = siteTree := by
  have hpage : IsPlainPath "page.md" := ⟨by decide, by decide⟩
  have hdraft : IsPlainPath "draft.md" := ⟨by decide, by decide⟩
  have hwritable : siteTree.Writable ["site"] "page.md" ["site"] "page.md" :=
    ⟨by decide, ⟨[], by decide, rfl⟩, by decide, ⟨by decide, by decide, by decide⟩, by decide⟩
  have hrun := (run_all_or_nothing siteTree ["site"] (.ok "") _ _
    (ofArguments_output hpage hpage)).1
  have hstop := (run_all_or_nothing siteTree ["site"] (.ok "") _ _
    (ofArguments_output hdraft hpage)).1
  obtain ⟨hcode, -, -, hread, -⟩ := hrun.written pageStages _ _ _ rfl hwritable
  obtain ⟨hfailed, -, htree⟩ := hstop.failed fails_draft
  rw [text_pageStages] at hread
  exact ⟨hcode, hread, hfailed, htree⟩

end MarkdownDirectives.Command
