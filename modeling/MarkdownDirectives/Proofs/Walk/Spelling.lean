import MarkdownDirectives.Proofs.Images.Content

/-!
# Aliases are spellings

Once the family and the suffix of a name are known, the name is not looked at any more. So a
directive is resolved alike under every name that belongs to the same family with the same suffix,
the family's own name and its aliases among them. The suffix does count: it is the tag of an image
container, the platform of a video and the preset of a badge.

* `Directive.sameContent_renamed` — a family reads the same under every name
* `resolve_renamed` — another spelling of the name has the same result, refusals included

Property sources that are computed may look at the name, so the options have fixed ones.
-/

namespace MarkdownDirectives

theorem Directive.sameContent_renamed (d : Directive) (name : String) :
    d.SameContent (d.renamed name) :=
  ⟨rfl, rfl⟩

namespace Transformer

/--
**An alias is only another spelling.**

If a family takes two names with the same suffix, a directive ends under the second name as it does
under the first: with the same resolution or the same error, the same render target and the same
children. Only the name itself is another.
-/
theorem resolve_renamed (options : Options) (t : Transformer) (h : ofOptions options = .ok t)
    (hfixed : options.IsFixed) (d : Directive) (name : String) {family : Family}
    {found : NameMatch} (hown : t.route d.name = some (family, found))
    (hother : t.route name = some (family, found)) :
    t.resolve (d.renamed name) = ((t.resolve d).1.renamed name, (t.resolve d).2) := by
  have hoptions : t.options = options := (ofOptions_ok h).1
  rw [← hoptions] at hfixed
  have hroute : t.route (d.renamed name).name = some (family, found) := hother
  have hkind : (d.renamed name).kind = d.kind := rfl
  rw [resolve, resolve, hown, hroute]
  dsimp only
  rw [hkind]
  cases family.checkKind d.kind with
  | error e => rfl
  | ok _ =>
    dsimp only
    rw [target_congr (d.sameContent_renamed name) found.suffix hfixed family]
    cases t.target family d found.suffix with
    | mk children result => cases result <;> rfl

end Transformer

/-! ### A figure under an alias -/

/-- Options that load images late and have another name for image containers. -/
def shotAliasOptions : Options :=
  { lazyOptions with image.aliases := ["shot"] }

/-- The transformer of these options. -/
def shotAliasTransformer : Transformer :=
  { Transformer.plain shotAliasOptions with image := ⟨.image, ["image", "shot"]⟩ }

theorem isFixed_shotAliasOptions : shotAliasOptions.IsFixed :=
  { isFixed_lazyOptions with }

/-- The figure has the same caption and the same images under its alias. -/
theorem resolve_renamed_shot :
    let run := shotAliasTransformer.resolve catFigure
    Transformer.ofOptions shotAliasOptions = .ok shotAliasTransformer ∧
      shotAliasOptions.IsFixed ∧
      shotAliasTransformer.route catFigure.name = some (.image, ⟨some "figure"⟩) ∧
      shotAliasTransformer.route "shot-figure" = some (.image, ⟨some "figure"⟩) ∧
      run.2 = .ok (.family .image) ∧
      (Node.imagesList run.1.children).map Image.url = ["cat.png", "far.png", "paw.png"] ∧
      shotAliasTransformer.resolve (catFigure.renamed "shot-figure")
        = (run.1.renamed "shot-figure", .ok (.family .image)) := by
  intro run
  have hoptions : Transformer.ofOptions shotAliasOptions = .ok shotAliasTransformer := rfl
  have hown : shotAliasTransformer.route catFigure.name = some (.image, ⟨some "figure"⟩) := rfl
  have hother : shotAliasTransformer.route "shot-figure" = some (.image, ⟨some "figure"⟩) := rfl
  have hok : run.2 = .ok (.family .image) := rfl
  have hrun := Transformer.resolve_renamed shotAliasOptions shotAliasTransformer hoptions
    isFixed_shotAliasOptions catFigure "shot-figure" hown hother
  exact ⟨hoptions, isFixed_shotAliasOptions, hown, hother, hok, rfl, hrun⟩

end MarkdownDirectives
