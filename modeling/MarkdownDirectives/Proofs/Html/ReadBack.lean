import MarkdownDirectives.Proofs.Html.Lexemes

/-!
# Reading markup

What is written of an element is read back, by one reader for all elements: its name, its attributes
and, unless it is void, what stands in it. The tags are put together from the end of the text to its
beginning, so a closing tag comes before what it closes, and an opening tag finds its children read.

* `Parsed`, `normalForm` — what of an element can be read at all
* `builds_markup` — the parts of some markup in front of any others
* `readMarkup_writeMarkupList` — some markup
* `readElement_writeElement` — an element, and the elements that are written alike
* `Document.readMarkup_html` — a document

## What is lost

Where one text ends and the next one begins, and empty texts; the children of void elements, which
are not written; properties that are not written; and the types of values, of which the text stays.
-/

namespace MarkdownDirectives

namespace Html

/-! ## What is read -/

/-- A piece of markup as it is read. -/
inductive Parsed where
  | text (value : String)
  | element (name : String) (attributes : List TagAttribute) (children : List Parsed)

/-- Puts a text in front of some pieces. It becomes one with a text that they start with, and an
empty text is no piece. -/
def joinText (value : String) : List Parsed → List Parsed
  | .text next :: rest => .text (value ++ next) :: rest
  | rest => if value = "" then rest else .text value :: rest

mutual

/-- Puts what can be read of a piece of markup in front of some pieces. -/
def inFront : Markup → List Parsed → List Parsed
  | .text value, behind => joinText value behind
  | .element name properties children, behind =>
    .element name (attributesOf properties)
      (if isVoid name then [] else inFrontList children []) :: behind

/-- Puts what can be read of some markup in front of some pieces. -/
def inFrontList : List Markup → List Parsed → List Parsed
  | [], behind => behind
  | piece :: rest, behind => inFront piece (inFrontList rest behind)

end

/-- What can be read of an element. -/
def normalForm (e : Element) : Parsed :=
  .element e.tagName (attributesOf e.properties)
    (if isVoid e.tagName then [] else inFrontList e.children [])

theorem joinText_empty (behind : List Parsed) : joinText "" behind = behind := by
  unfold joinText
  split
  · rw [String.empty_append]
  · rfl

theorem joinText_append (first second : String) (behind : List Parsed) :
    joinText (first ++ second) behind = joinText first (joinText second behind) := by
  by_cases hempty : second = ""
  · rw [hempty, String.append_empty, joinText_empty]
  · unfold joinText
    split
    · rw [String.append_assoc]
    · have hboth : first ++ second ≠ "" := by
        simpa using fun _ => hempty
      rw [if_neg hboth, if_neg hempty]

/-- A text is put in front character by character. -/
theorem joinText_ofList_cons (c : Char) (cs : List Char) (behind : List Parsed) :
    joinText (String.ofList (c :: cs)) behind
      = joinText (String.singleton c) (joinText (String.ofList cs) behind) := by
  rw [← joinText_append]
  congr 1
  rw [← String.toList_inj]
  simp

/-! ## Reading -/

/-- What has been read behind a place: the pieces up to the next closing tag that is still to be
opened, and for each of these tags, innermost first, its name and the pieces behind it. -/
structure Pending where
  here : List Parsed := []
  outer : List (String × List Parsed) := []

/-- Takes the part in front of what has been read. -/
def Pending.take (p : Pending) : Lexeme → Option Pending
  | .char c => some { p with here := joinText (String.singleton c) p.here }
  | .closing name => some ⟨[], (name, p.here) :: p.outer⟩
  | .opening name attributes =>
    if isVoid name then some { p with here := .element name attributes [] :: p.here }
    else
      match p.outer with
      | [] => none
      | (closed, behind) :: outer =>
        if closed = name then some ⟨.element name attributes p.here :: behind, outer⟩ else none

/-- Puts parts together, the last one first. -/
def build : List Lexeme → Option Pending
  | [] => some {}
  | lexeme :: rest => (build rest).bind (·.take lexeme)

/-- The pieces of markup that a text is written from. Every tag has to be opened and closed. -/
def readMarkup (text : String) : Option (List Parsed) :=
  match (lex text.toList).bind build with
  | some ⟨pieces, []⟩ => some pieces
  | _ => none

/-- The element that a text is written from. -/
def readElement (text : String) : Option Parsed :=
  match readMarkup text with
  | some [.element name attributes children] => some (.element name attributes children)
  | _ => none

/-! ## What some parts add -/

/-- The parts add to the pieces in front of which they stand, and change nothing else. -/
def Builds (lexemes : List Lexeme) (add : List Parsed → List Parsed) : Prop :=
  ∀ rest, build (lexemes ++ rest) = (build rest).map fun p => { p with here := add p.here }

theorem builds_nil : Builds [] id := by
  intro rest
  rw [List.nil_append]
  exact Option.map_id'.symm

theorem Builds.append {first second : List Lexeme} {add add' : List Parsed → List Parsed}
    (h : Builds first add) (h' : Builds second add') : Builds (first ++ second) (add ∘ add') := by
  intro rest
  rw [List.append_assoc, h, h', Option.map_map]
  rfl

theorem builds_chars (cs : List Char) :
    Builds (cs.map .char) (joinText (String.ofList cs)) := by
  induction cs with
  | nil =>
    intro rest
    simp [joinText_empty]
  | cons c cs ih =>
    intro rest
    rw [List.map_cons, List.cons_append, build, ih rest]
    cases build rest with
    | none => rfl
    | some p =>
      simp only [Option.map_some, Option.bind_some, Pending.take, joinText_ofList_cons]

theorem builds_void {name : String} (h : isVoid name = true) (attributes : List TagAttribute) :
    Builds [.opening name attributes] (.element name attributes [] :: ·) := by
  intro rest
  rw [List.singleton_append, build]
  cases build rest with
  | none => rfl
  | some p => rw [Option.bind_some, Pending.take, if_pos h, Option.map_some]

/-- An element is put in front of what stands behind its closing tag, and its children have only
one another around them. -/
theorem builds_element {name : String} (h : isVoid name = false) (attributes : List TagAttribute)
    {inner : List Lexeme} {add : List Parsed → List Parsed} (hinner : Builds inner add) :
    Builds (.opening name attributes :: (inner ++ [.closing name]))
      (.element name attributes (add []) :: ·) := by
  intro rest
  rw [List.cons_append, List.append_assoc, build, hinner, List.singleton_append, build]
  cases build rest with
  | none => rfl
  | some p =>
    simp only [Option.bind_some, Option.map_some, Pending.take, h, Bool.false_eq_true, if_false,
      if_true]

mutual

theorem builds_markup : ∀ piece : Markup,
    Builds ((tokensOfMarkup piece).flatMap Token.lexemes) (inFront piece)
  | .text value => by
    have hchars := builds_chars value.toList
    rw [String.ofList_toList] at hchars
    intro rest
    rw [tokensOfMarkup, List.flatMap_singleton]
    exact hchars rest
  | .element name properties children => by
    have hchildren := builds_markupList children
    cases hvoid : isVoid name with
    | true =>
      intro rest
      rw [tokensOfMarkup, wrapTokens, if_pos hvoid, List.flatMap_singleton]
      rw [Token.lexemes, builds_void hvoid]
      simp only [inFront, hvoid, if_true]
    | false =>
      have helement := builds_element hvoid (attributesOf properties) hchildren
      intro rest
      simp only [tokensOfMarkup, wrapTokens, hvoid, tagTokens, List.flatMap_cons,
        List.flatMap_append, Token.lexemes, List.flatMap_nil, Bool.false_eq_true, if_false, inFront]
      exact helement rest

theorem builds_markupList : ∀ pieces : List Markup,
    Builds ((tokensOfMarkupList pieces).flatMap Token.lexemes) (inFrontList pieces)
  | [] => by
    intro rest
    rw [tokensOfMarkupList, List.flatMap_nil]
    exact builds_nil rest
  | piece :: rest => by
    intro behind
    rw [tokensOfMarkupList, List.flatMap_append]
    exact (builds_markup piece).append (builds_markupList rest) behind

end

/-! ## What has been written -/

mutual

theorem isReadable_markup : ∀ piece : Markup, named piece = true →
    ∀ token ∈ tokensOfMarkup piece, token.isReadable = true
  | .text value, _ => by
    rw [tokensOfMarkup]
    intro token hmem
    rw [List.mem_singleton.mp hmem]
    rfl
  | .element name properties children, h => by
    rw [named, Bool.and_eq_true] at h
    have hchildren := isReadable_markupList children h.2
    rw [tokensOfMarkup, wrapTokens]
    intro token hmem
    split at hmem
    · rw [List.mem_singleton.mp hmem]
      exact h.1
    · rw [tagTokens, List.mem_cons, List.mem_append, List.mem_singleton] at hmem
      rcases hmem with rfl | hmem | rfl
      · exact h.1
      · exact hchildren token hmem
      · exact h.1

theorem isReadable_markupList : ∀ pieces : List Markup, namedList pieces = true →
    ∀ token ∈ tokensOfMarkupList pieces, token.isReadable = true
  | [], _ => by
    intro token hmem
    exact absurd hmem List.not_mem_nil
  | piece :: rest, h => by
    rw [namedList, Bool.and_eq_true] at h
    rw [tokensOfMarkupList]
    intro token hmem
    rcases List.mem_append.mp hmem with hmem | hmem
    · exact isReadable_markup piece h.1 token hmem
    · exact isReadable_markupList rest h.2 token hmem

end

/-- **Some markup is read as what can be read of it.** -/
theorem readMarkup_writeMarkupList {pieces : List Markup} (h : namedList pieces = true) :
    readMarkup (writeMarkupList pieces) = some (inFrontList pieces []) := by
  have hlex := lex_writeTokens (isReadable_markupList pieces h)
  have hbuild := builds_markupList pieces []
  rw [List.append_nil] at hbuild
  rw [readMarkup, ← write_tokensOfMarkupList, hlex, Option.bind_some, hbuild]
  rfl

theorem read_writeElement {e : Element} (h : named e.toMarkup = true) :
    readElement (writeElement e) = some (normalForm e) := by
  have hlist : namedList [e.toMarkup] = true := namedList_inline h
  have hread := readMarkup_writeMarkupList hlist
  rw [writeMarkupList, writeMarkupList, String.append_empty] at hread
  rw [readElement, writeElement, hread]
  rfl

/--
**An element is read back from what it is written as.** Its texts, its values and the names of its
properties may be anything; only the names of elements have to be names. So elements that are
written alike differ only in what cannot be read.
-/
theorem readElement_writeElement (e : Element) (h : named e.toMarkup = true) :
    readElement (writeElement e) = some (normalForm e) ∧
      ∀ e' : Element, named e'.toMarkup = true → writeElement e = writeElement e' →
        normalForm e = normalForm e' := by
  have hread := read_writeElement h
  refine ⟨hread, ?_⟩
  intro e' h' heq
  have hread' := read_writeElement h'
  rw [← heq, hread] at hread'
  exact Option.some.inj hread'

/-- A figure with brackets, quotes and entities wherever it may have them. -/
def quotedFigure : Element where
  tagName := "figure"
  properties := SortedMap.ofList [("className", .list ["<", "\""]), ("data-n", .int (-3)),
    ("hidden", .bool true), ("open", .bool false), ("rel", .list []), ("x=y", .string "z"),
    ("title", .string "1 &lt; 2\" hidden>")]
  children := [.text "a<", .text "", .text "br>", .element "br" SortedMap.empty [.text "lost"],
    .element "b" SortedMap.empty [.text "</figure>&"]]

/-- The same figure, with its text in one piece and without what is not written. -/
def plainFigure : Element where
  tagName := "figure"
  properties := SortedMap.ofList [("class", .string "< \""), ("data-n", .string "-3"),
    ("hidden", .bool true), ("title", .string "1 &lt; 2\" hidden>")]
  children := [.text "a<br>", .element "br" SortedMap.empty [],
    .element "b" SortedMap.empty [.text "</figure>&"]]

theorem readElement_writeElement_quoted :
    named quotedFigure.toMarkup = true ∧ named plainFigure.toMarkup = true ∧
      writeElement quotedFigure = writeElement plainFigure ∧
      readElement (writeElement quotedFigure)
        = some (.element "figure" [("class", some "< \""), ("data-n", some "-3"), ("hidden", none),
            ("title", some "1 &lt; 2\" hidden>")]
          [.text "a<br>", .element "br" [] [], .element "b" [] [.text "</figure>&"]]) ∧
      normalForm quotedFigure = normalForm plainFigure := by
  have hquoted : named quotedFigure.toMarkup = true := by decide
  have hplain : named plainFigure.toMarkup = true := by decide
  have hwritten : writeElement quotedFigure = writeElement plainFigure := by decide
  obtain ⟨hread, hequal⟩ := readElement_writeElement quotedFigure hquoted
  exact ⟨hquoted, hplain, hwritten, hread, hequal plainFigure hplain hwritten⟩

end Html

/-- **What a document without raw HTML is rendered as is read back from it.** -/
theorem Document.readMarkup_html (document : Document)
    (hfree : Html.htmlFreeList document.children = true)
    (hnamed : Html.namedNodes document.children = true) :
    Html.readMarkup document.html
      = some (Html.inFrontList (Html.renderNodes document.children) []) := by
  rw [html, ← Html.writeMarkupList_renderNodes document.children hfree]
  exact Html.readMarkup_writeMarkupList (Html.named_renderNodes document.children hnamed)

end MarkdownDirectives
