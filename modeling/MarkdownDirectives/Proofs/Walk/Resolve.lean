import MarkdownDirectives.Transform

/-!
# What resolving one directive does

`Transformer.Outcome` lists the four ways in which resolving a directive can end. Everything that
is shown of `Transformer.resolve` later goes through it.

* `bare_of_resolve` — the name, the kind, the attributes and the label mark stay
* `head_of_resolve_error` — a directive that is refused keeps its data as well
* `isSome_of_resolve_ok` — a directive that is resolved has a name and properties to render
* `children_of_resolve` — only an image container gets other children
* `directivesList_of_resolve` — only a figure gets the directives inside it in another order
-/

namespace MarkdownDirectives

/-- What a directive says of itself without what it is rendered as. -/
def DirectiveHead.bare (head : DirectiveHead) : DirectiveHead :=
  { head with data := { label := head.data.label } }

/-- The name and the kind of a directive. -/
def DirectiveHead.key (head : DirectiveHead) : String × DirectiveKind :=
  (head.name, head.kind)

@[simp] theorem DirectiveHead.key_bare (head : DirectiveHead) : head.bare.key = head.key := rfl

/-- Heads that agree without what they are rendered as have the same names and kinds. -/
theorem map_key_of_map_bare {heads heads' : List DirectiveHead}
    (h : heads.map DirectiveHead.bare = heads'.map DirectiveHead.bare) :
    heads.map DirectiveHead.key = heads'.map DirectiveHead.key := by
  have := congrArg (List.map DirectiveHead.key) h
  simpa [Function.comp_def] using this

namespace Transformer

/-- The name belongs to the image family. -/
def IsImage (t : Transformer) (name : String) : Prop :=
  ∃ found, t.route name = some (.image, found)

/-- The name makes an image container a figure. -/
def IsFigure (t : Transformer) (name : String) : Prop :=
  t.route name = some (.image, ⟨some "figure"⟩)

/-- How resolving the directive `d` ends. -/
inductive Outcome (t : Transformer) (d : Directive) :
    Directive × Except DirectiveError Resolution → Prop
  | fallback (hr : t.route d.name = none) : Outcome t d (applyFallback d, .ok .fallback)
  | wrongKind {family : Family} {found : NameMatch}
      (hr : t.route d.name = some (family, found)) (hk : d.kind ≠ family.kind) :
      Outcome t d (d, .error (.wrongKind family d.kind))
  | invalid {family : Family} {found : NameMatch} {children : List Node} {fault : DirectiveFault}
      (hr : t.route d.name = some (family, found)) (hk : d.kind = family.kind)
      (ht : t.target family d found.suffix = (children, .error fault)) :
      Outcome t d ({ d with children }, .error (.invalid family fault))
  | rendered {family : Family} {found : NameMatch} {children : List Node} {target : RenderTarget}
      (hr : t.route d.name = some (family, found)) (hk : d.kind = family.kind)
      (ht : t.target family d found.suffix = (children, .ok target)) :
      Outcome t d ({ d with children, data := target.apply d.data }, .ok (.family family))

variable {t : Transformer} {d d' : Directive}

theorem suffix_ne_figure {name : String} {found : NameMatch}
    (hr : t.route name = some (.image, found)) (hfig : ¬ t.IsFigure name) :
    found.suffix ≠ some "figure" := by
  intro hs
  refine hfig ?_
  rw [IsFigure, hr, ← hs]

theorem outcome_of_resolve {x : Directive × Except DirectiveError Resolution}
    (h : t.resolve d = x) : t.Outcome d x := by
  subst h
  unfold resolve
  split
  · next hr => exact .fallback hr
  · next family found hr =>
    by_cases hk : d.kind = family.kind
    · rw [Family.checkKind, if_pos hk]
      dsimp only
      split
      · next ht => exact .invalid hr hk ht
      · next ht => exact .rendered hr hk ht
    · rw [Family.checkKind, if_neg hk]
      exact .wrongKind hr hk

theorem resolve_unrouted (hr : t.route d.name = none) :
    t.resolve d = (applyFallback d, .ok .fallback) := by
  rw [resolve, hr]

theorem resolve_rendered {family : Family} {found : NameMatch} {children : List Node}
    {target : RenderTarget} (hr : t.route d.name = some (family, found)) (hk : d.kind = family.kind)
    (ht : t.target family d found.suffix = (children, .ok target)) :
    t.resolve d = ({ d with children, data := target.apply d.data }, .ok (.family family)) := by
  rw [resolve, hr]
  dsimp only
  rw [Family.checkKind, if_pos hk]
  dsimp only
  rw [ht]

/-! ## The head -/

theorem bare_of_resolve {result : Except DirectiveError Resolution}
    (h : t.resolve d = (d', result)) : d'.toDirectiveHead.bare = d.toDirectiveHead.bare := by
  cases outcome_of_resolve h <;> rfl

theorem name_of_resolve {result : Except DirectiveError Resolution}
    (h : t.resolve d = (d', result)) : d'.name = d.name := by
  have := congrArg DirectiveHead.name (bare_of_resolve h)
  exact this

theorem head_of_resolve_error {e : DirectiveError} (h : t.resolve d = (d', .error e)) :
    d'.toDirectiveHead = d.toDirectiveHead := by
  cases outcome_of_resolve h <;> rfl

theorem isSome_of_resolve_ok {resolution : Resolution} (h : t.resolve d = (d', .ok resolution)) :
    d'.data.name.isSome ∧ d'.data.properties.isSome := by
  cases outcome_of_resolve h <;> exact ⟨rfl, rfl⟩

/-! ## The children -/

/-- What holds of the children a family leaves behind holds of those that resolving leaves. -/
theorem children_of_outcome {result : Except DirectiveError Resolution} {P : List Node → Prop}
    (h : t.resolve d = (d', result)) (hself : P d.children)
    (htarget : ∀ family found, t.route d.name = some (family, found) →
      P (t.target family d found.suffix).1) : P d'.children := by
  cases outcome_of_resolve h with
  | fallback => exact hself
  | wrongKind => exact hself
  | invalid hr _ ht =>
    have := htarget _ _ hr
    rwa [ht] at this
  | rendered hr _ ht =>
    have := htarget _ _ hr
    rwa [ht] at this

theorem target_children {family : Family} (hf : family ≠ .image) (t : Transformer) (d : Directive)
    (suffix : Option String) : (t.target family d suffix).1 = d.children := by
  cases family with
  | image => exact absurd rfl hf
  | video | link | badge => rfl

theorem eq_children_of_target {family : Family} (hf : family ≠ .image) {suffix : Option String}
    {children : List Node} {result : Except DirectiveFault RenderTarget}
    (ht : t.target family d suffix = (children, result)) : children = d.children := by
  have hchildren := target_children hf t d suffix
  rw [ht] at hchildren
  exact hchildren

/-- A directive of a family and of its kind ends as the family says. -/
theorem snd_resolve {family : Family} {found : NameMatch}
    (hr : t.route d.name = some (family, found)) (hk : d.kind = family.kind) :
    (t.resolve d).2 = match (t.target family d found.suffix).2 with
      | .ok _ => .ok (.family family)
      | .error fault => .error (.invalid family fault) := by
  generalize hx : t.resolve d = x
  cases outcome_of_resolve hx with
  | fallback hr' =>
    rw [hr] at hr'
    cases hr'
  | wrongKind hr' hk' =>
    rw [hr] at hr'
    cases hr'
    exact absurd hk hk'
  | invalid hr' _ ht =>
    rw [hr] at hr'
    cases hr'
    rw [ht]
  | rendered hr' _ ht =>
    rw [hr] at hr'
    cases hr'
    rw [ht]

/-- A directive of a family and of its kind is resolved if the family can render it. -/
theorem exists_ok_iff {family : Family} {found : NameMatch}
    (hr : t.route d.name = some (family, found)) (hk : d.kind = family.kind) :
    (∃ resolution, (t.resolve d).2 = .ok resolution) ↔
      ∃ target, (t.target family d found.suffix).2 = .ok target := by
  rw [snd_resolve hr hk]
  cases (t.target family d found.suffix).2 with
  | ok target => exact ⟨fun _ => ⟨target, rfl⟩, fun _ => ⟨.family family, rfl⟩⟩
  | error fault => exact ⟨nofun, nofun⟩

/-- A family but that of images leaves the directive as it is and writes the render target. -/
theorem resolve_of_target {family : Family} {found : NameMatch} {target : RenderTarget}
    (hr : t.route d.name = some (family, found)) (hk : d.kind = family.kind)
    (hf : family ≠ .image) (htarget : (t.target family d found.suffix).2 = .ok target) :
    t.resolve d = ({ d with data := target.apply d.data }, .ok (.family family)) :=
  resolve_rendered hr hk (Prod.ext (target_children hf t d found.suffix) htarget)

theorem children_of_resolve {result : Except DirectiveError Resolution}
    (h : t.resolve d = (d', result)) (hi : ¬ t.IsImage d.name) : d'.children = d.children := by
  refine children_of_outcome (P := (· = d.children)) h rfl fun family found hr => ?_
  exact target_children (fun hf => hi ⟨found, by rw [hr, hf]⟩) t d found.suffix

end Transformer

/-- An image container that is no figure keeps the directives inside it in their order. -/
theorem directivesList_imageResolve {options : ImageOptions} {d : Directive}
    {suffix : Option String} (h : suffix ≠ some "figure") :
    Node.directivesList (options.resolve d suffix).1 = Node.directivesList d.children := by
  unfold ImageOptions.resolve
  split
  · rfl
  · next tag htag =>
    have hne : tag ≠ "figure" := by
      rintro rfl
      exact h (Option.filter_eq_some_iff.mp htag).1
    dsimp only
    split
    · rfl
    · next children hm =>
      rw [if_neg hne]
      dsimp only
      split
      · rw [directivesList_map_stripNode, directivesList_mapImages? hm]
      · exact directivesList_mapImages? hm

namespace Transformer

variable {t : Transformer} {d d' : Directive}

theorem directivesList_of_resolve {result : Except DirectiveError Resolution}
    (h : t.resolve d = (d', result)) (hf : ¬ t.IsFigure d.name) :
    Node.directivesList d'.children = Node.directivesList d.children := by
  refine children_of_outcome
    (P := fun children => Node.directivesList children = Node.directivesList d.children)
    h rfl fun family found hr => ?_
  by_cases hi : family = .image
  · subst hi
    exact directivesList_imageResolve (suffix_ne_figure hr hf)
  · rw [target_children hi]

end Transformer

end MarkdownDirectives
