import MarkdownDirectives.Html.Writer

/-!
# The elements of a document

A document is written node by node. `renderNodes` says which elements are meant: the markup whose
writing is the writing of the document. With it a fact on what is written needs an induction over
markup only, and no longer one over the kinds of nodes.

* `writeMarkupList_renderNodes` — a document without raw HTML is written as its markup is

## What the rendered markup holds

Line ends are texts of the markup. A node that is replaced by a render target, or whose children
are, leaves nothing else behind.
-/

namespace MarkdownDirectives.Html

/-! ## Rendering -/

/-- A line end between two tags. -/
def newline : Markup := .text "\n"

/-- A node by its render target; `tag`, `own` and `content` are what it has without one. -/
def renderTarget (tag : String) (own : Properties) (data : Data) (content : List Markup) : Markup :=
  .element (data.name.getD tag) (targetProperties own data) (data.children.getD content)

/-- An element without properties. -/
def renderPlain (tag : String) (content : List Markup) : Markup :=
  .element tag SortedMap.empty content

/-- The properties of a code block in a language. -/
def codeProperties : Option String → Properties
  | some language => Properties.single "className" (.string ("language-" ++ language))
  | none => SortedMap.empty

/-- What stands before the children of a directive. -/
def renderLead (kind : DirectiveKind) (children : List Node) : List Markup :=
  if kind = .container && !children.isEmpty then [newline] else []

/-- What follows a directive. -/
def renderEnd : DirectiveKind → List Markup
  | .text => []
  | _ => [newline]

mutual

/-- The markup of a node. Raw HTML has none. -/
def renderNode : Node → List Markup
  | .paragraph data children =>
    [renderTarget "p" SortedMap.empty data (renderNodes children), newline]
  | .heading depth children => [renderPlain ("h" ++ toString depth) (renderNodes children), newline]
  | .blockquote children => [renderPlain "blockquote" (newline :: renderNodes children), newline]
  | .list start children =>
    let (tag, properties) := listTag start
    [.element tag properties (newline :: renderNodes children), newline]
  | .listItem children => [renderPlain "li" (renderNodes children), newline]
  | .code language value =>
    [renderPlain "pre" [.element "code" (codeProperties language) [.text value]], newline]
  | .html _ => []
  | .thematicBreak => [renderPlain "hr" [], newline]
  | .text value => [.text value]
  | .emphasis children => [renderPlain "em" (renderNodes children)]
  | .strong children => [renderPlain "strong" (renderNodes children)]
  | .delete children => [renderPlain "del" (renderNodes children)]
  | .inlineCode value => [renderPlain "code" [.text value]]
  | .lineBreak => [renderPlain "br" [], newline]
  | .link url title children => [.element "a" (linkProperties url title) (renderNodes children)]
  | .image image => [renderTarget "img" (imageProperties image) image.data []]
  | .directive head children =>
    renderTarget (directiveTag head.kind) SortedMap.empty head.data
        (renderLead head.kind children ++ renderNodes children)
      :: renderEnd head.kind

/-- The markup of nodes one after the other. -/
def renderNodes : List Node → List Markup
  | [] => []
  | node :: rest => renderNode node ++ renderNodes rest

end

/-! ## Documents without raw HTML -/

mutual

/-- There is no raw HTML in a node. -/
def htmlFree : Node → Bool
  | .html _ => false
  | .paragraph _ children | .heading _ children | .blockquote children | .list _ children
  | .listItem children | .emphasis children | .strong children | .delete children
  | .link _ _ children | .directive _ children => htmlFreeList children
  | .code .. | .thematicBreak | .text _ | .inlineCode _ | .lineBreak | .image _ => true

/-- There is no raw HTML in the nodes. -/
def htmlFreeList : List Node → Bool
  | [] => true
  | node :: rest => htmlFree node && htmlFreeList rest

end

/-! ## Writing the rendered markup -/

@[simp] theorem writeMarkup_newline : writeMarkup newline = "\n" := by
  rw [newline, writeMarkup]
  decide

@[simp] theorem writeMarkup_text (value : String) : writeMarkup (.text value) = escape value := by
  rw [writeMarkup]

@[simp] theorem writeMarkupList_nil : writeMarkupList [] = "" := rfl

@[simp] theorem writeMarkupList_cons (piece : Markup) (rest : List Markup) :
    writeMarkupList (piece :: rest) = writeMarkup piece ++ writeMarkupList rest := by
  rw [writeMarkupList]

@[simp] theorem writeMarkupList_append (first second : List Markup) :
    writeMarkupList (first ++ second) = writeMarkupList first ++ writeMarkupList second := by
  induction first with
  | nil => rw [List.nil_append, writeMarkupList_nil, String.empty_append]
  | cons piece rest ih =>
    rw [List.cons_append, writeMarkupList_cons, ih, writeMarkupList_cons, String.append_assoc]

/-- A tag that is not void is written with its content and its closing tag. -/
theorem wrap_of_not_void {tag : String} (h : isVoid tag = false) (properties : Properties)
    (content : String) :
    wrap tag properties content = openTag tag properties ++ content ++ closeTag tag := by
  simp [wrap, h]

theorem writeMarkup_renderPlain {tag : String} (h : isVoid tag = false) (content : List Markup) :
    writeMarkup (renderPlain tag content) = wrapPlain tag (writeMarkupList content) := by
  rw [renderPlain, writeMarkup, wrap_of_not_void h, wrapPlain]

theorem writeMarkupList_plain {tag : String} (h : isVoid tag = false) (content : List Markup) :
    writeMarkupList [renderPlain tag content] = wrapPlain tag (writeMarkupList content) := by
  rw [writeMarkupList_cons, writeMarkup_renderPlain h, writeMarkupList_nil, String.append_empty]

theorem writeMarkup_renderTarget (tag : String) (own : Properties) (data : Data)
    (content : List Markup) :
    writeMarkup (renderTarget tag own data content)
      = writeTarget tag own data (writeMarkupList content) := by
  rw [renderTarget, writeMarkup, writeTarget]
  cases data.children <;> rfl

theorem writeMarkupList_renderLead (kind : DirectiveKind) (children : List Node) :
    writeMarkupList (renderLead kind children) = directiveLead kind children := by
  rw [renderLead, directiveLead]
  split <;> simp

theorem writeMarkupList_renderEnd (kind : DirectiveKind) :
    writeMarkupList (renderEnd kind) = directiveEnd kind := by
  cases kind <;> simp [renderEnd, directiveEnd]

theorem toList_heading (depth : Nat) :
    ("h" ++ toString depth).toList = 'h' :: Nat.toDigits 10 depth := by
  have hdigits : (toString depth).toList = Nat.toDigits 10 depth := Nat.toList_repr
  rw [String.toList_append, hdigits]
  rfl

/-- No heading is void: behind the `h` of its tag stand digits, and `hr` has none. -/
theorem isVoid_heading (depth : Nat) : isVoid ("h" ++ toString depth) = false := by
  rw [Bool.eq_false_iff]
  intro h
  have hmem : ("h" ++ toString depth).toList ∈ voidElements.map String.toList :=
    List.mem_map_of_mem (by simpa [isVoid] using h)
  rw [toList_heading] at hmem
  have hr : Nat.toDigits 10 depth = ['r'] := by simpa [voidElements] using hmem
  have hdigit : 'r'.isDigit := Nat.isDigit_of_mem_toDigits (b := 10) (n := depth) (by decide)
    (by decide) (by rw [hr]; exact List.mem_singleton_self 'r')
  exact absurd hdigit (by decide)

/-! ## Layout -/

theorem openTag_empty (tag : String) : openTag tag SortedMap.empty = "<" ++ tag ++ ">" := by
  show "<" ++ tag ++ String.join [] ++ ">" = _
  rw [String.join_nil, String.append_empty]

theorem writeAttributes_single (key : String) (value : Property) :
    writeAttributes (Properties.single key value) = writeAttribute (key, value) := by
  show String.join [writeAttribute (key, value)] = _
  rw [String.join_cons, String.join_nil, String.append_empty]

theorem writeAttribute_class (value : String) :
    writeAttribute ("className", .string value) = " class=\"" ++ escape value ++ "\"" := by
  have hname : isAttributeName (attributeName "className").toList = true := by decide
  rw [writeAttribute, if_pos hname]
  rfl

/-- The language of a code block is written as its class. -/
theorem openTag_code (language : Option String) :
    openTag "code" (codeProperties language) = match language with
      | some language => "<code class=\"language-" ++ escape language ++ "\">"
      | none => "<code>" := by
  cases language with
  | none => rw [codeProperties, openTag_empty]; rfl
  | some language =>
    have hescape : escape ("language-" ++ language) = "language-" ++ escape language := by
      rw [escape, String.toList_append, escapeChars_append, String.ofList_append]
      rfl
    rw [openTag, codeProperties, writeAttributes_single, writeAttribute_class, hescape]
    apply String.toList_inj.mp
    simp

/-- A code block is written as its markup. -/
theorem writeMarkupList_code (language : Option String) (value : String) :
    writeMarkupList (renderNode (.code language value)) = writeCode language value := by
  have hcode : writeMarkup (.element "code" (codeProperties language) [.text value])
      = openTag "code" (codeProperties language) ++ escape value ++ closeTag "code" := by
    rw [writeMarkup, wrap_of_not_void (by decide), writeMarkupList_cons, writeMarkup_text,
      writeMarkupList_nil, String.append_empty]
  rw [renderNode, writeMarkupList_cons, writeMarkup_renderPlain (by decide), wrapPlain,
    writeMarkupList_cons, hcode, openTag_code, openTag_empty]
  cases language with
  | none =>
    show _ = "<pre><code>" ++ escape value ++ "</code></pre>\n"
    apply String.toList_inj.mp
    simp [closeTag]
  | some language =>
    show _ = "<pre><code class=\"language-" ++ escape language ++ "\">" ++ escape value
      ++ "</code></pre>\n"
    apply String.toList_inj.mp
    simp [closeTag]

/-! ## Documents -/

mutual

/-- A node without raw HTML is written as its markup. -/
theorem writeMarkupList_renderNode : ∀ node : Node, htmlFree node = true →
    writeMarkupList (renderNode node) = writeNode node
  | .paragraph data children, h => by
    rw [htmlFree] at h
    rw [renderNode, writeNode, writeMarkupList_cons, writeMarkup_renderTarget,
      writeMarkupList_renderNodes children h]
    simp
  | .heading depth children, h => by
    rw [htmlFree] at h
    rw [renderNode, writeNode, writeMarkupList_cons, writeMarkup_renderPlain (isVoid_heading depth),
      writeMarkupList_renderNodes children h]
    simp
  | .blockquote children, h => by
    rw [htmlFree] at h
    rw [renderNode, writeNode, writeMarkupList_cons, writeMarkup_renderPlain (by decide),
      writeMarkupList_cons, writeMarkupList_renderNodes children h, wrapPlain, openTag_empty]
    apply String.toList_inj.mp
    simp [closeTag]
  | .list start children, h => by
    rw [htmlFree] at h
    have htag : isVoid (listTag start).1 = false := by
      unfold listTag
      split <;> rfl
    rw [renderNode, writeNode, writeMarkupList_cons, writeMarkup, wrap_of_not_void htag,
      writeMarkupList_cons, writeMarkupList_renderNodes children h]
    simp [String.append_assoc]
  | .listItem children, h => by
    rw [htmlFree] at h
    rw [renderNode, writeNode, writeMarkupList_cons, writeMarkup_renderPlain (by decide),
      writeMarkupList_renderNodes children h, wrapPlain, openTag_empty]
    apply String.toList_inj.mp
    simp [closeTag]
  | .code language value, _ => by rw [writeMarkupList_code, writeNode]
  | .thematicBreak, _ => by rw [renderNode, writeNode]; decide
  | .text value, _ => by rw [renderNode, writeNode]; simp
  | .emphasis children, h => by
    rw [htmlFree] at h
    rw [renderNode, writeNode, writeMarkupList_plain (by decide),
      writeMarkupList_renderNodes children h]
  | .strong children, h => by
    rw [htmlFree] at h
    rw [renderNode, writeNode, writeMarkupList_plain (by decide),
      writeMarkupList_renderNodes children h]
  | .delete children, h => by
    rw [htmlFree] at h
    rw [renderNode, writeNode, writeMarkupList_plain (by decide),
      writeMarkupList_renderNodes children h]
  | .inlineCode value, _ => by
    rw [renderNode, writeNode, writeMarkupList_plain (by decide), wrapPlain, openTag_empty]
    apply String.toList_inj.mp
    simp [closeTag]
  | .lineBreak, _ => by rw [renderNode, writeNode]; decide
  | .link url title children, h => by
    rw [htmlFree] at h
    rw [renderNode, writeNode, writeMarkupList_cons, writeMarkup, wrap_of_not_void (by decide),
      writeMarkupList_renderNodes children h]
    simp
  | .image image, _ => by
    rw [renderNode, writeNode, writeMarkupList_cons, writeMarkup_renderTarget]
    simp
  | .directive head children, h => by
    rw [htmlFree] at h
    rw [renderNode, writeNode, writeMarkupList_cons, writeMarkup_renderTarget,
      writeMarkupList_append, writeMarkupList_renderNodes children h, writeMarkupList_renderLead,
      writeMarkupList_renderEnd]

/-- **Nodes without raw HTML are written as their markup.** -/
theorem writeMarkupList_renderNodes : ∀ nodes : List Node, htmlFreeList nodes = true →
    writeMarkupList (renderNodes nodes) = writeNodes nodes
  | [], _ => rfl
  | node :: rest, h => by
    rw [htmlFreeList, Bool.and_eq_true] at h
    rw [renderNodes, writeNodes, writeMarkupList_append, writeMarkupList_renderNode node h.1,
      writeMarkupList_renderNodes rest h.2]

end

end MarkdownDirectives.Html
