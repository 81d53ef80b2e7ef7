import MarkdownDirectives.Proofs.Html.Rendered

/-!
# Names of elements

The names of elements are written as they are, so they have to be names. Most of them are given
with the kind of a node. The others come with a render target: a name in place of the node's own,
and markup in place of its children.

* `named_renderNodes` — if those are names, all elements of the rendered document have names
-/

namespace MarkdownDirectives.Html

/-! ## Names -/

/-- A text that can be the name of an element. -/
def isTagName (name : String) : Bool :=
  !name.isEmpty && name.toList.all Text.isNameChar

mutual

/-- The elements of a piece of markup have names. -/
def named : Markup → Bool
  | .text _ => true
  | .element name _ children => isTagName name && namedList children

/-- The elements of pieces of markup have names. -/
def namedList : List Markup → Bool
  | [] => true
  | piece :: rest => named piece && namedList rest

end

/-- The elements of a render target have names. -/
def namedData (data : Data) : Bool :=
  data.name.all isTagName && data.children.all namedList

mutual

/-- The elements of the render targets in a node have names. -/
def namedNode : Node → Bool
  | .paragraph data children => namedData data && namedNodes children
  | .image image => namedData image.data
  | .directive head children => namedData head.data && namedNodes children
  | .heading _ children | .blockquote children | .list _ children | .listItem children
  | .emphasis children | .strong children | .delete children | .link _ _ children =>
    namedNodes children
  | .code .. | .html _ | .thematicBreak | .text _ | .inlineCode _ | .lineBreak => true

/-- The elements of the render targets in the nodes have names. -/
def namedNodes : List Node → Bool
  | [] => true
  | node :: rest => namedNode node && namedNodes rest

end

/-! ## The rendered markup -/

theorem isTagName_heading (depth : Nat) : isTagName ("h" ++ toString depth) = true := by
  have hchars : ("h" ++ toString depth).toList.all Text.isNameChar = true := by
    rw [toList_heading, List.all_cons, Bool.and_eq_true]
    refine ⟨by decide, List.all_eq_true.mpr fun c hc => ?_⟩
    have hdigit : c.isDigit = true := Nat.isDigit_of_mem_toDigits (by decide) (by decide) hc
    simp [Text.isNameChar, Char.isAlphanum, hdigit]
  have hne : ("h" ++ toString depth).isEmpty = false := by
    simp [String.isEmpty_eq_false_iff]
  rw [isTagName, hchars, hne]
  rfl

theorem namedList_append (first second : List Markup) :
    namedList (first ++ second) = (namedList first && namedList second) := by
  induction first with
  | nil => rfl
  | cons piece rest ih => rw [List.cons_append, namedList, ih, namedList, Bool.and_assoc]

theorem named_element {name : String} (hname : isTagName name = true) (properties : Properties)
    {children : List Markup} (h : namedList children = true) :
    named (.element name properties children) = true := by
  rw [named, hname, h]
  rfl

theorem named_renderTarget {tag : String} (htag : isTagName tag = true) (own : Properties)
    {data : Data} (hdata : namedData data = true) {content : List Markup}
    (hcontent : namedList content = true) : named (renderTarget tag own data content) = true := by
  rw [namedData, Bool.and_eq_true] at hdata
  refine named_element ?_ _ ?_
  -- what the target does not replace is the node's own
  · cases hname : data.name with
    | none => exact htag
    | some name => simpa [hname] using hdata.1
  · cases hchildren : data.children with
    | none => exact hcontent
    | some markup => simpa [hchildren] using hdata.2

theorem namedList_inline {piece : Markup} (h : named piece = true) : namedList [piece] = true := by
  rw [namedList, h]
  rfl

theorem namedList_block {piece : Markup} (h : named piece = true) :
    namedList [piece, newline] = true := by
  rw [namedList, h]
  rfl

mutual

theorem named_renderNode : ∀ node : Node, namedNode node = true → namedList (renderNode node) = true
  | .paragraph data children, h => by
    rw [namedNode, Bool.and_eq_true] at h
    rw [renderNode]
    exact namedList_block (named_renderTarget (by decide) _ h.1 (named_renderNodes children h.2))
  | .heading depth children, h => by
    rw [renderNode]
    exact namedList_block (named_element (isTagName_heading depth) _ (named_renderNodes children h))
  | .blockquote children, h => by
    rw [renderNode]
    exact namedList_block (named_element (by decide) _ (named_renderNodes children h))
  | .list start children, h => by
    have htag : isTagName (listTag start).1 = true := by
      unfold listTag
      split <;> (dsimp only; decide)
    rw [renderNode]
    exact namedList_block (named_element htag _ (named_renderNodes children h))
  | .listItem children, h => by
    rw [renderNode]
    exact namedList_block (named_element (by decide) _ (named_renderNodes children h))
  | .code language value, _ => by
    rw [renderNode]
    exact namedList_block (named_element (by decide) _
      (namedList_inline (named_element (by decide) _ rfl)))
  | .html _, _ => by rw [renderNode]; rfl
  | .thematicBreak, _ => by rw [renderNode]; decide
  | .text _, _ => by rw [renderNode]; rfl
  | .emphasis children, h => by
    rw [renderNode]
    exact namedList_inline (named_element (by decide) _ (named_renderNodes children h))
  | .strong children, h => by
    rw [renderNode]
    exact namedList_inline (named_element (by decide) _ (named_renderNodes children h))
  | .delete children, h => by
    rw [renderNode]
    exact namedList_inline (named_element (by decide) _ (named_renderNodes children h))
  | .inlineCode value, _ => by
    rw [renderNode]
    exact namedList_inline (named_element (by decide) _ rfl)
  | .lineBreak, _ => by rw [renderNode]; decide
  | .link url title children, h => by
    rw [renderNode]
    exact namedList_inline (named_element (by decide) _ (named_renderNodes children h))
  | .image image, h => by
    rw [renderNode]
    exact namedList_inline (named_renderTarget (by decide) _ h rfl)
  | .directive head children, h => by
    rw [namedNode, Bool.and_eq_true] at h
    have htag : isTagName (directiveTag head.kind) = true := by cases head.kind <;> rfl
    have hlead : namedList (renderLead head.kind children) = true := by
      rw [renderLead]
      split <;> rfl
    have hend : namedList (renderEnd head.kind) = true := by cases head.kind <;> rfl
    rw [renderNode, namedList, hend, Bool.and_true]
    refine named_renderTarget htag _ h.1 ?_
    rw [namedList_append, hlead, named_renderNodes children h.2]
    rfl

/-- **Nodes whose render targets have names are rendered as elements with names.** -/
theorem named_renderNodes : ∀ nodes : List Node, namedNodes nodes = true →
    namedList (renderNodes nodes) = true
  | [], _ => rfl
  | node :: rest, h => by
    rw [namedNodes, Bool.and_eq_true] at h
    rw [renderNodes, namedList_append, named_renderNode node h.1, named_renderNodes rest h.2]
    rfl

end

end MarkdownDirectives.Html
