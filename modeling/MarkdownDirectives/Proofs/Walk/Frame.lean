import MarkdownDirectives.Proofs.Family.Names
import MarkdownDirectives.Proofs.Walk.Stopped

/-!
# What a walk leaves alone

A walk may write what directives are rendered as, and an image container may change what stands
inside it. `Node.outline` takes both out of a tree; what is left is the same behind a walk as in
front of it, whether the walk ends well or not (`transform_frame`). Inside image containers no
directive is lost either: they all stay, up to their order and to what they are rendered as.

* `outline_directive` — resolving one directive, rule by rule in `outlineList_of_succeeds` and
  `outlineList_of_fails`
* `perm_bare_of_succeeds`, `perm_bare_of_fails` — the directives of the whole tree
-/

namespace MarkdownDirectives

/-! ## Outlines -/

namespace Node

mutual

/-- The node without what its directives are rendered as, and without what stands in the directives
whose name `hides` it. -/
def outline (hides : String → Bool) : Node → Node
  | directive head children =>
    directive head.bare (if hides head.name then [] else outlineList hides children)
  | paragraph data children => paragraph data (outlineList hides children)
  | heading depth children => heading depth (outlineList hides children)
  | blockquote children => blockquote (outlineList hides children)
  | list start children => list start (outlineList hides children)
  | listItem children => listItem (outlineList hides children)
  | emphasis children => emphasis (outlineList hides children)
  | strong children => strong (outlineList hides children)
  | delete children => delete (outlineList hides children)
  | link url title children => link url title (outlineList hides children)
  | node => node

/-- The outlines of the nodes. -/
def outlineList (hides : String → Bool) : List Node → List Node
  | [] => []
  | node :: rest => outline hides node :: outlineList hides rest

end

variable {hides : String → Bool}

theorem outlineList_cons (node : Node) (rest : List Node) :
    outlineList hides (node :: rest) = outline hides node :: outlineList hides rest := by
  rw [outlineList]

theorem outline_plain {node : Node} {children : List Node} (hp : node.IsPlain)
    (hc : node.children? = some children) :
    outline hides node = node.withChildren (outlineList hides children) := by
  cases node with
  | directive head children => exact absurd rfl (hp head children)
  | code | html | thematicBreak | text | inlineCode | lineBreak | image => cases hc
  | _ =>
    cases hc
    rw [outline]
    rfl

theorem withChildren_withChildren (node : Node) (first second : List Node) :
    (node.withChildren first).withChildren second = node.withChildren second := by
  cases node <;> rfl

/-- The outline of a node that is no directive changes with that of its children only. -/
theorem outline_withChildren {node : Node} {children inner : List Node} (hp : node.IsPlain)
    (hc : node.children? = some children)
    (h : outlineList hides inner = outlineList hides children) :
    outline hides (node.withChildren inner) = outline hides node := by
  rw [outline_plain (isPlain_withChildren hp inner) (children_withChildren hc inner),
    withChildren_withChildren, h, outline_plain hp hc]

end Node

namespace Transformer

variable {t : Transformer} {hides : String → Bool} {nodes out : List Node} {visits : List Visit}

/-! ## One directive -/

/-- A directive that hides nothing is no image container, so its children are those it had. -/
theorem outline_directive (hhides : ∀ name, t.IsImage name → hides name = true)
    {d d' : Directive} {result : Except DirectiveError Resolution} {inner : List Node}
    (hd : t.resolve d = (d', result))
    (h : Node.outlineList hides inner = Node.outlineList hides d'.children) :
    Node.outline hides (.directive d'.toDirectiveHead inner) = Node.outline hides d.toNode := by
  have hname : d'.name = d.name := name_of_resolve hd
  rw [Directive.toNode, Node.outline, Node.outline, bare_of_resolve hd, hname]
  by_cases hi : hides d.name = true
  · rw [if_pos hi, if_pos hi]
  · have himage : ¬ t.IsImage d.name := fun himage => hi (hhides d.name himage)
    rw [if_neg hi, if_neg hi, h, children_of_resolve hd himage]

/-! ## A whole walk -/

theorem outlineList_of_succeeds (hhides : ∀ name, t.IsImage name → hides name = true)
    (h : t.Succeeds nodes out visits) :
    Node.outlineList hides out = Node.outlineList hides nodes := by
  induction h with
  | nil => rfl
  | childless _ _ ih => rw [Node.outlineList_cons, Node.outlineList_cons, ih]
  | plain hp hc _ _ ihi ihr =>
    rw [Node.outlineList_cons, Node.outlineList_cons, Node.outline_withChildren hp hc ihi, ihr]
  | directive hd _ _ ihi ihr =>
    rw [Node.outlineList_cons, Node.outlineList_cons, outline_directive hhides hd ihi, ihr]

theorem outlineList_of_fails (hhides : ∀ name, t.IsImage name → hides name = true)
    {e : DirectiveError} (h : t.Fails e nodes out visits) :
    Node.outlineList hides out = Node.outlineList hides nodes := by
  induction h with
  | here hd =>
    rw [Node.outlineList_cons, Node.outlineList_cons]
    rw [Directive.toNode, outline_directive hhides hd rfl]
  | insideDirective hd _ ih =>
    rw [Node.outlineList_cons, Node.outlineList_cons, outline_directive hhides hd ih]
  | insidePlain hp hc _ ih =>
    rw [Node.outlineList_cons, Node.outlineList_cons, Node.outline_withChildren hp hc ih]
  | behind hn _ ih =>
    have hfirst := outlineList_of_succeeds hhides hn
    rw [Node.outlineList_cons, Node.outlineList_cons, List.cons.injEq] at hfirst
    rw [Node.outlineList_cons, Node.outlineList_cons, hfirst.1, ih]

/-! ## The directives of the whole tree -/

theorem perm_bare_of_succeeds (h : t.Succeeds nodes out visits) :
    ((Node.directivesList out).map DirectiveHead.bare).Perm
      ((Node.directivesList nodes).map DirectiveHead.bare) := by
  obtain ⟨origin, hperm, hbare⟩ := exists_origin h
  rw [← hbare]
  exact hperm.map _

theorem perm_bare_of_fails {e : DirectiveError} (h : t.Fails e nodes out visits) :
    ((Node.directivesList out).map DirectiveHead.bare).Perm
      ((Node.directivesList nodes).map DirectiveHead.bare) := by
  obtain ⟨earlier, D, later, hstop⟩ := exists_stop h
  obtain ⟨seen, hperm, hseen⟩ := hstop.origin
  have hearlier : earlier.map (fun l => l.head.bare)
      = (earlier.map Located.head).map DirectiveHead.bare := by
    rw [List.map_map]
    rfl
  have hbare : (Node.directivesList out).map DirectiveHead.bare
      = (seen ++ (D :: later).map Located.head).map DirectiveHead.bare := by
    rw [← Node.head_locatedList, hstop.located, List.map_append, List.map_append, List.map_append,
      hseen, hearlier]
  rw [hbare]
  exact hperm.map _

end Transformer

/-! ## The whole document -/

/-- The image family has the name. -/
def Transformer.hasImageName (t : Transformer) (name : String) : Bool :=
  (t.image.match? name).isSome

theorem Transformer.hasImageName_of_isImage {options : Options} {t : Transformer}
    (h : ofOptions options = .ok t) (name : String) (himage : t.IsImage name) :
    t.hasImageName name = true := by
  obtain ⟨found, hroute⟩ := himage
  have hmatch : t.image.match? name = some found := (route_image_iff h).mp hroute
  rw [hasImageName, hmatch]
  rfl

/--
**A transformation writes what directives are rendered as, and changes image containers inside.**

All else is as it was, whether it ends well or not: every other node, its data and its children in
their order. In the whole tree there are the same directives, each with its kind, name, attributes
and label mark.
-/
theorem transform_frame (options : Options) (t : Transformer)
    (h : Transformer.ofOptions options = .ok t) (document : Document) :
    let after := (t.transform document).document.children
    Node.outlineList t.hasImageName after
        = Node.outlineList t.hasImageName document.children ∧
      ((Node.directivesList after).map DirectiveHead.bare).Perm
        ((Node.directivesList document.children).map DirectiveHead.bare) := by
  intro after
  have hhides := Transformer.hasImageName_of_isImage h
  cases hresult : (t.transform document).result with
  | ok report =>
    obtain ⟨hs, -⟩ := Transformer.succeeds_transform hresult
    exact ⟨Transformer.outlineList_of_succeeds hhides hs, Transformer.perm_bare_of_succeeds hs⟩
  | error e =>
    have hf := Transformer.fails_transform hresult
    exact ⟨Transformer.outlineList_of_fails hhides hf, Transformer.perm_bare_of_fails hf⟩

/-! ### A broken figure behind a paragraph -/

/-- A paragraph with a directive of an unknown name. -/
def keyParagraph : Node :=
  .paragraph {} [.text "Press ", .directive { kind := .text, name := "kbd" } [.text "Q"]]

theorem fails_keyParagraph : ∃ out visits,
    Transformer.standard.Fails (.invalid .link .idMissing) [keyParagraph, brokenFigure.toNode] out
      visits := by
  have hkey := Transformer.Succeeds.directive (t := .standard)
    (d := ⟨{ kind := .text, name := "kbd" }, [.text "Q"]⟩) rfl (.childless rfl .nil) .nil
  have hparagraph : Transformer.standard.Succeeds [keyParagraph] _ _ :=
    .plain (by rintro head children ⟨⟩) rfl (.childless rfl hkey) .nil
  obtain ⟨out, hfigure⟩ := fails_brokenFigure
  exact ⟨_, _, .behind hparagraph hfigure⟩

/-- The figure has been changed inside when the walk ends; the paragraph has kept its place. -/
theorem transform_frame_keyParagraph :
    let run := Transformer.standard.transform ⟨[keyParagraph, brokenFigure.toNode]⟩
    Transformer.ofOptions {} = .ok Transformer.standard ∧
      run.result = .error (.invalid .link .idMissing) ∧
      Node.outlineList Transformer.standard.hasImageName run.document.children
        = [keyParagraph, .directive { kind := .container, name := "image-figure" } []] ∧
      ((Node.directivesList run.document.children).map DirectiveHead.bare).Perm
        [{ kind := .text, name := "kbd" }, { kind := .container, name := "image-figure" },
          { kind := .text, name := "badge" }, { kind := .text, name := "link" }] := by
  obtain ⟨out, visits, hfails⟩ := fails_keyParagraph
  have hframe := transform_frame {} .standard Transformer.ofOptions_default
    ⟨[keyParagraph, brokenFigure.toNode]⟩
  exact ⟨Transformer.ofOptions_default, by rw [Transformer.transform_of_fails hfails], hframe.1,
    hframe.2⟩

end MarkdownDirectives
