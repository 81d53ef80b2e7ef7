import Mathlib.Data.List.Nodup
import MarkdownDirectives.Proofs.Html.Rendered

/-!
# What a document is written as, token by token

A document is written as opening tags, closing tags, texts and raw HTML. `Document.tokens` lists
them, so that a fact on the opening tags of a document is a fact on this list, raw HTML or not.

* `write_tokensOfNodes`, `Document.write_tokens` — the tokens are the document
* `writeAttribute_eq` — the name that a property is written under, and what follows it
* `nodup_names` — keys that do not clash give different names

## Which keys clash

Properties have different keys, but `className` is written as `class`, and names that differ only
in the case of ASCII letters are the same name to whoever reads the tag.
-/

namespace MarkdownDirectives

namespace Html

/-! ## Names of attributes -/

/-- The name that a property is written under, `none` if it is not written. -/
def writtenName? (entry : String × Property) : Option String :=
  if isAttributeName (attributeName entry.1).toList then
    match entry.2 with
    | .bool false | .list [] => none
    | _ => some (attributeName entry.1)
  else none

/-- What stands behind the name of a property. -/
def writeValue : Property → String
  | .bool true => ""
  | value => "=\"" ++ escape value.display ++ "\""

/-- A property is written as its name and its value, or not at all. -/
theorem writeAttribute_eq (entry : String × Property) :
    writeAttribute entry = match writtenName? entry with
      | some name => " " ++ name ++ writeValue entry.2
      | none => "" := by
  obtain ⟨key, value⟩ := entry
  unfold writeAttribute writtenName?
  dsimp only
  by_cases hname : isAttributeName (attributeName key).toList = true
  · rw [if_pos hname, if_pos hname]
    cases value with
    | bool value =>
      cases value with
      | true => exact (String.append_empty ..).symm
      | false => rfl
    | list items =>
      cases items with
      | nil => rfl
      | cons item more => simp only [writeValue, String.append_assoc]
    | int value => simp only [writeValue, String.append_assoc]
    | string value => simp only [writeValue, String.append_assoc]
  · rw [if_neg hname, if_neg hname]

/-- The names of the attributes of a tag in order. -/
def names (properties : Properties) : List String :=
  properties.entries.filterMap writtenName?

/-- No two attributes of a tag have the same name, whatever the case of its letters. -/
def HasDistinctNames (properties : Properties) : Prop :=
  ((names properties).map Text.lowercase).Nodup

/-! ## Keys -/

/-- Keys that are written alike but for the case of letters are written alike. -/
def Coherent (keys : String → Prop) : Prop :=
  ∀ key key', keys key → keys key' →
    Text.lowercase (attributeName key) = Text.lowercase (attributeName key') →
    attributeName key = attributeName key'

/-- The properties have keys from the given ones, and none that is written as `className` is. -/
def Within (keys : String → Prop) (properties : Properties) : Prop :=
  ∀ key ∈ properties.keys, keys key ∧ key ≠ "class"

theorem attributeName_inj {key key' : String} (h : key ≠ "class") (h' : key' ≠ "class")
    (heq : attributeName key = attributeName key') : key = key' := by
  unfold attributeName at heq
  by_cases hkey : key = "className"
  · by_cases hkey' : key' = "className"
    · rw [hkey, hkey']
    · rw [if_pos hkey, if_neg hkey'] at heq
      exact absurd heq.symm h'
  · by_cases hkey' : key' = "className"
    · rw [if_neg hkey, if_pos hkey'] at heq
      exact absurd heq h
    · rwa [if_neg hkey, if_neg hkey'] at heq

theorem eq_of_writtenName? {entry : String × Property} {name : String}
    (h : writtenName? entry = some name) : name = attributeName entry.1 := by
  unfold writtenName? at h
  split at h
  · split at h <;> cases h
    rfl
  · cases h

theorem names_sublist (properties : Properties) :
    (names properties).Sublist (properties.keys.map attributeName) := by
  rw [names, SortedMap.keys, List.map_map]
  induction properties.entries with
  | nil => exact List.Sublist.slnil
  | cons entry rest ih =>
    rw [List.map_cons]
    cases hname : writtenName? entry with
    | none =>
      rw [List.filterMap_cons_none hname]
      exact ih.cons _
    | some name =>
      rw [List.filterMap_cons_some hname, eq_of_writtenName? hname]
      exact ih.cons_cons _

/-- **Properties whose keys do not clash are written under different names.** -/
theorem nodup_names {keys : String → Prop} (hkeys : Coherent keys) {properties : Properties}
    (h : Within keys properties) : HasDistinctNames properties := by
  have hall : ((properties.keys.map attributeName).map Text.lowercase).Nodup := by
    rw [List.map_map]
    refine properties.nodup_keys.map_on fun key hkey key' hkey' heq => ?_
    obtain ⟨hin, hne⟩ := h key hkey
    obtain ⟨hin', hne'⟩ := h key' hkey'
    exact attributeName_inj hne hne' (hkeys key key' hin hin' heq)
  exact hall.sublist ((names_sublist properties).map _)

/-! ## Tokens -/

/-- A part of what is written. -/
inductive Token where
  /-- Raw HTML of the document, written as it is. -/
  | raw (value : String)
  | text (value : String)
  | opening (tag : String) (properties : Properties)
  | closing (tag : String)

/-- How a token is written. -/
def Token.write : Token → String
  | .raw value => value
  | .text value => escape value
  | .opening tag properties => openTag tag properties
  | .closing tag => closeTag tag

/-- How tokens are written. -/
def writeTokens (tokens : List Token) : String :=
  String.join (tokens.map Token.write)

/-- A tag around a content. -/
def tagTokens (tag : String) (properties : Properties) (content : List Token) : List Token :=
  .opening tag properties :: (content ++ [.closing tag])

/-- A tag around a content, or alone if it is void. -/
def wrapTokens (tag : String) (properties : Properties) (content : List Token) : List Token :=
  if isVoid tag then [.opening tag properties] else tagTokens tag properties content

mutual

/-- The tokens of a piece of markup. -/
def tokensOfMarkup : Markup → List Token
  | .text value => [.text value]
  | .element tag properties children => wrapTokens tag properties (tokensOfMarkupList children)

/-- The tokens of pieces of markup one after the other. -/
def tokensOfMarkupList : List Markup → List Token
  | [] => []
  | piece :: rest => tokensOfMarkup piece ++ tokensOfMarkupList rest

end

/-- A node by its render target; `tag`, `own` and `content` are what it has without one. -/
def targetTokens (tag : String) (own : Properties) (data : Data) (content : List Token) :
    List Token :=
  wrapTokens (data.name.getD tag) (targetProperties own data)
    ((data.children.map tokensOfMarkupList).getD content)

/-- A tag without attributes around a content. -/
def plainTokens (tag : String) (content : List Token) : List Token :=
  tagTokens tag SortedMap.empty content

/-- A line end between two tags. -/
def lineEnd : Token := .text "\n"

mutual

/-- The tokens of a node. -/
def tokensOfNode : Node → List Token
  | .paragraph data children =>
    targetTokens "p" SortedMap.empty data (tokensOfNodes children) ++ [lineEnd]
  | .heading depth children =>
    plainTokens ("h" ++ toString depth) (tokensOfNodes children) ++ [lineEnd]
  | .blockquote children =>
    plainTokens "blockquote" (lineEnd :: tokensOfNodes children) ++ [lineEnd]
  | .list start children =>
    tagTokens (listTag start).1 (listTag start).2 (lineEnd :: tokensOfNodes children) ++ [lineEnd]
  | .listItem children => plainTokens "li" (tokensOfNodes children) ++ [lineEnd]
  | .code language value =>
    plainTokens "pre" (tagTokens "code" (codeProperties language) [.text value]) ++ [lineEnd]
  | .html value => [.raw value]
  | .thematicBreak => [.opening "hr" SortedMap.empty, lineEnd]
  | .text value => [.text value]
  | .emphasis children => plainTokens "em" (tokensOfNodes children)
  | .strong children => plainTokens "strong" (tokensOfNodes children)
  | .delete children => plainTokens "del" (tokensOfNodes children)
  | .inlineCode value => plainTokens "code" [.text value]
  | .lineBreak => [.opening "br" SortedMap.empty, lineEnd]
  | .link url title children => tagTokens "a" (linkProperties url title) (tokensOfNodes children)
  | .image image => targetTokens "img" (imageProperties image) image.data []
  | .directive head children =>
    targetTokens (directiveTag head.kind) SortedMap.empty head.data
        ((if head.kind = .container && !children.isEmpty then [lineEnd] else [])
          ++ tokensOfNodes children)
      ++ (if head.kind = .text then [] else [lineEnd])

/-- The tokens of nodes one after the other. -/
def tokensOfNodes : List Node → List Token
  | [] => []
  | node :: rest => tokensOfNode node ++ tokensOfNodes rest

end

/-! ## Opening tags -/

/-- The properties of all opening tags are of a kind. -/
def Opens (P : Properties → Prop) (tokens : List Token) : Prop :=
  ∀ tag properties, .opening tag properties ∈ tokens → P properties

/-- What a node is rendered as has only opening tags of a kind. -/
structure OpensTarget (P : Properties → Prop) (own : Properties) (data : Data) : Prop where
  properties : P (targetProperties own data)
  children : ∀ markup, data.children = some markup → Opens P (tokensOfMarkupList markup)

section Opens

variable {P : Properties → Prop} {tokens : List Token}

theorem opens_nil : Opens P [] :=
  fun _ _ h => absurd h List.not_mem_nil

theorem Opens.append {first second : List Token} (h : Opens P first) (h' : Opens P second) :
    Opens P (first ++ second) := by
  intro tag properties hmem
  rcases List.mem_append.mp hmem with hfirst | hsecond
  · exact h tag properties hfirst
  · exact h' tag properties hsecond

theorem opens_opening {properties : Properties} (h : P properties) (tag : String) :
    Opens P [.opening tag properties] := by
  intro _ _ hmem
  cases List.mem_singleton.mp hmem
  exact h

theorem opens_text (value : String) : Opens P [.text value] := by
  intro _ _ hmem
  cases List.mem_singleton.mp hmem

theorem opens_tagTokens {properties : Properties} (h : P properties) (htokens : Opens P tokens)
    (tag : String) : Opens P (tagTokens tag properties tokens) := by
  have hclosing : Opens P [.closing tag] := by
    intro _ _ hmem
    cases List.mem_singleton.mp hmem
  exact (opens_opening h tag).append (htokens.append hclosing)

theorem opens_wrapTokens {properties : Properties} (h : P properties) (htokens : Opens P tokens)
    (tag : String) : Opens P (wrapTokens tag properties tokens) := by
  unfold wrapTokens
  split
  · exact opens_opening h tag
  · exact opens_tagTokens h htokens tag

theorem opens_targetTokens {own : Properties} {data : Data} (h : OpensTarget P own data)
    (htokens : Opens P tokens) (tag : String) : Opens P (targetTokens tag own data tokens) := by
  refine opens_wrapTokens h.properties ?_ _
  cases hchildren : data.children with
  | none => exact htokens
  | some markup => exact h.children markup hchildren

end Opens

/-! ## Writing the tokens -/

@[simp] theorem writeTokens_nil : writeTokens [] = "" := rfl

@[simp] theorem writeTokens_cons (token : Token) (rest : List Token) :
    writeTokens (token :: rest) = token.write ++ writeTokens rest := by
  rw [writeTokens, List.map_cons, String.join_cons]
  rfl

@[simp] theorem writeTokens_append (first second : List Token) :
    writeTokens (first ++ second) = writeTokens first ++ writeTokens second := by
  induction first with
  | nil => rw [List.nil_append, writeTokens_nil, String.empty_append]
  | cons token rest ih =>
    rw [List.cons_append, writeTokens_cons, ih, writeTokens_cons, String.append_assoc]

@[simp] theorem write_lineEnd : lineEnd.write = "\n" := by
  decide

@[simp] theorem write_text (value : String) : (Token.text value).write = escape value := rfl

@[simp] theorem writeTokens_tagTokens (tag : String) (properties : Properties)
    (content : List Token) :
    writeTokens (tagTokens tag properties content)
      = openTag tag properties ++ writeTokens content ++ closeTag tag := by
  rw [tagTokens, writeTokens_cons, writeTokens_append, writeTokens_cons, writeTokens_nil,
    String.append_empty, String.append_assoc]
  rfl

@[simp] theorem writeTokens_plainTokens (tag : String) (content : List Token) :
    writeTokens (plainTokens tag content) = wrapPlain tag (writeTokens content) := by
  rw [plainTokens, writeTokens_tagTokens, wrapPlain]

theorem writeTokens_wrapTokens (tag : String) (properties : Properties) (content : List Token) :
    writeTokens (wrapTokens tag properties content)
      = wrap tag properties (writeTokens content) := by
  rw [wrapTokens, wrap]
  split
  · rw [writeTokens_cons, writeTokens_nil, String.append_empty]
    rfl
  · exact writeTokens_tagTokens tag properties content

mutual

theorem write_tokensOfMarkup : ∀ piece : Markup,
    writeTokens (tokensOfMarkup piece) = writeMarkup piece
  | .text value => by rw [tokensOfMarkup, writeMarkup]; simp
  | .element tag properties children => by
    rw [tokensOfMarkup, writeMarkup, writeTokens_wrapTokens, write_tokensOfMarkupList children]

/-- Markup is written as its tokens. -/
theorem write_tokensOfMarkupList : ∀ pieces : List Markup,
    writeTokens (tokensOfMarkupList pieces) = writeMarkupList pieces
  | [] => rfl
  | piece :: rest => by
    rw [tokensOfMarkupList, writeMarkupList, writeTokens_append, write_tokensOfMarkup piece,
      write_tokensOfMarkupList rest]

end

@[simp] theorem writeTokens_targetTokens (tag : String) (own : Properties) (data : Data)
    (content : List Token) :
    writeTokens (targetTokens tag own data content)
      = writeTarget tag own data (writeTokens content) := by
  rw [targetTokens, writeTarget, writeTokens_wrapTokens]
  cases data.children with
  | none => rfl
  | some markup => rw [Option.map_some, Option.getD_some, write_tokensOfMarkupList]

/-- A code block is written as a tag in another one. -/
theorem writeTokens_code (language : Option String) (value : String) :
    writeTokens (tokensOfNode (.code language value)) = writeCode language value := by
  have hrendered := writeMarkupList_code language value
  rw [renderNode, writeMarkupList_cons, writeMarkup_renderPlain (by decide), writeMarkupList_cons,
    writeMarkupList_cons, writeMarkup, wrap_of_not_void (by decide)] at hrendered
  rw [← hrendered, tokensOfNode]
  simp

mutual

theorem write_tokensOfNode : ∀ node : Node, writeTokens (tokensOfNode node) = writeNode node
  | .paragraph data children => by
    rw [tokensOfNode, writeNode]
    simp [write_tokensOfNodes children]
  | .heading depth children => by
    rw [tokensOfNode, writeNode]
    simp [write_tokensOfNodes children]
  | .blockquote children => by
    rw [tokensOfNode, writeNode]
    apply String.toList_inj.mp
    simp [write_tokensOfNodes children, wrapPlain, openTag_empty, closeTag]
  | .list start children => by
    rw [tokensOfNode, writeNode]
    simp [write_tokensOfNodes children, String.append_assoc]
  | .listItem children => by
    rw [tokensOfNode, writeNode]
    apply String.toList_inj.mp
    simp [write_tokensOfNodes children, wrapPlain, openTag_empty, closeTag]
  | .code language value => by rw [writeTokens_code, writeNode]
  | .html value => by
    rw [tokensOfNode, writeNode, writeTokens_cons, writeTokens_nil, String.append_empty]
    rfl
  | .thematicBreak => by rw [tokensOfNode, writeNode]; decide
  | .text value => by rw [tokensOfNode, writeNode]; simp
  | .emphasis children => by
    rw [tokensOfNode, writeNode, writeTokens_plainTokens, write_tokensOfNodes children]
  | .strong children => by
    rw [tokensOfNode, writeNode, writeTokens_plainTokens, write_tokensOfNodes children]
  | .delete children => by
    rw [tokensOfNode, writeNode, writeTokens_plainTokens, write_tokensOfNodes children]
  | .inlineCode value => by
    rw [tokensOfNode, writeNode]
    apply String.toList_inj.mp
    simp [wrapPlain, openTag_empty, closeTag]
  | .lineBreak => by rw [tokensOfNode, writeNode]; decide
  | .link url title children => by
    rw [tokensOfNode, writeNode, writeTokens_tagTokens, write_tokensOfNodes children]
  | .image image => by rw [tokensOfNode, writeNode, writeTokens_targetTokens]; rfl
  | .directive head children => by
    have hlead : writeTokens (if head.kind = .container && !children.isEmpty then [lineEnd] else [])
        = directiveLead head.kind children := by
      rw [directiveLead]
      split <;> simp
    have hend : writeTokens (if head.kind = .text then [] else [lineEnd])
        = directiveEnd head.kind := by
      cases head.kind <;> simp [directiveEnd]
    rw [tokensOfNode, writeNode, writeTokens_append, writeTokens_targetTokens, writeTokens_append,
      hlead, hend, write_tokensOfNodes children]

/-- **Nodes are written as their tokens.** -/
theorem write_tokensOfNodes : ∀ nodes : List Node,
    writeTokens (tokensOfNodes nodes) = writeNodes nodes
  | [] => rfl
  | node :: rest => by
    rw [tokensOfNodes, writeNodes, writeTokens_append, write_tokensOfNode node,
      write_tokensOfNodes rest]

end

end Html

/-- The tokens of a document. -/
def Document.tokens (document : Document) : List Html.Token :=
  Html.tokensOfNodes document.children

/-- **A document is written as its tokens.** -/
theorem Document.write_tokens (document : Document) :
    Html.writeTokens document.tokens = document.html :=
  Html.write_tokensOfNodes document.children

end MarkdownDirectives
