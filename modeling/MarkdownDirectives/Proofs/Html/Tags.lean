import MarkdownDirectives.Proofs.Html.Names

/-!
# Tags in written markup

What is written can be read back tag by tag: a `<` starts a tag and the next `>` ends it. The
reader below is strict. It refuses a `<` inside a tag, a `>` outside one, and a tag that is still
open at the end.

* `scan_writeMarkupList` — the tags that are read are those of the elements that were written
* `nest_tagsList` — every opening tag that is not void has its own closing tag
* `Document.scan_html` — both of them for a document

## Which parts of a document may hold brackets

Texts, values of properties, names of properties, addresses, titles and languages may be anything.
Only names of elements have to be names; they are written as they are.
-/

namespace MarkdownDirectives

namespace Html

/-! ## Reading tags -/

/-- A tag, known by its name. -/
inductive Tag where
  | opening (name : String)
  | closing (name : String)
deriving DecidableEq, Repr

/-- The tag whose text between the brackets is given. -/
def Tag.ofText : List Char → Tag
  | '/' :: name => .closing (String.ofList name)
  | text => .opening (String.ofList (text.takeWhile Text.isNameChar))

/--
Reads the tags of a text.

The first argument is what has been read of the tag that the text stands in, last character first,
or nothing outside of tags.
-/
def scanFrom : Option (List Char) → List Char → Option (List Tag)
  | none, [] => some []
  | some _, [] => none
  | none, c :: rest =>
    if c = '<' then scanFrom (some []) rest
    else if c = '>' then none
    else scanFrom none rest
  | some seen, c :: rest =>
    if c = '>' then (scanFrom none rest).map (Tag.ofText seen.reverse :: ·)
    else if c = '<' then none
    else scanFrom (some (c :: seen)) rest

/-- The tags of a text. -/
def scan (text : String) : Option (List Tag) :=
  scanFrom none text.toList

/-- One tag against the elements that are open, innermost first. Void elements never are. -/
def Tag.step (opened : List String) : Tag → Option (List String)
  | .opening name => some (if isVoid name then opened else name :: opened)
  | .closing name =>
    match opened with
    | inner :: outer => if inner = name then some outer else none
    | [] => none

/-- The elements that are open after some tags, if each tag was allowed where it stands. -/
def nest (opened : List String) (tags : List Tag) : Option (List String) :=
  tags.foldlM Tag.step opened

/-! ## The tags of markup -/

/-- The tags of an element with the tags of what is inside. -/
def elementTags (name : String) (inner : List Tag) : List Tag :=
  if isVoid name then [.opening name] else .opening name :: (inner ++ [.closing name])

mutual

/-- The tags of a piece of markup. -/
def tags : Markup → List Tag
  | .text _ => []
  | .element name _ children => elementTags name (tagsList children)

/-- The tags of pieces of markup. -/
def tagsList : List Markup → List Tag
  | [] => []
  | piece :: rest => tags piece ++ tagsList rest

end

/-! ## Texts without brackets -/

/-- There is no bracket in a text. -/
def Clean (text : List Char) : Prop :=
  ∀ c ∈ text, c ≠ '<' ∧ c ≠ '>'

instance (text : List Char) : Decidable (Clean text) :=
  List.decidableBAll (fun c => c ≠ '<' ∧ c ≠ '>') text

theorem Clean.append {first second : List Char} (h₁ : Clean first) (h₂ : Clean second) :
    Clean (first ++ second) := by
  intro c hc
  rcases List.mem_append.mp hc with hc | hc
  · exact h₁ c hc
  · exact h₂ c hc

theorem clean_escape (text : String) : Clean (escape text).toList := by
  intro c hc
  rw [escape, String.toList_ofList] at hc
  have := escapeChars_clean text.toList c hc
  exact ⟨this.1, this.2.1⟩

theorem ne_bracket_of_isNameChar {c : Char} (h : Text.isNameChar c = true) : c ≠ '<' ∧ c ≠ '>' := by
  constructor <;> (rintro rfl; revert h; decide)

theorem clean_of_isTagName {name : String} (h : isTagName name = true) : Clean name.toList := by
  rw [isTagName, Bool.and_eq_true, List.all_eq_true] at h
  exact fun c hc => ne_bracket_of_isNameChar (h.2 c hc)

theorem clean_of_isAttributeName {name : List Char} (h : isAttributeName name = true) :
    Clean name := by
  intro c hc
  constructor <;> (rintro rfl; exact not_mem_of_isAttributeName h (by decide) hc)

/-- What may stand behind the name of a tag: no bracket, and a blank first unless it is empty. -/
structure IsTail (text : List Char) : Prop where
  clean : Clean text
  blank : text = [] ∨ ∃ rest, text = ' ' :: rest

theorem isTail_nil : IsTail [] where
  clean _ hc := absurd hc List.not_mem_nil
  blank := .inl rfl

theorem isTail_cons {text : List Char} (h : Clean text) : IsTail (' ' :: text) where
  clean c hc := by
    rcases List.mem_cons.mp hc with rfl | hc
    · decide
    · exact h c hc
  blank := .inr ⟨text, rfl⟩

theorem IsTail.append {first second : List Char} (h₁ : IsTail first) (h₂ : IsTail second) :
    IsTail (first ++ second) where
  clean := h₁.clean.append h₂.clean
  blank := by
    rcases h₁.blank with rfl | ⟨rest, rfl⟩
    · exact h₂.blank
    · exact .inr ⟨rest ++ second, rfl⟩

theorem isTail_writeAttribute (entry : String × Property) :
    IsTail (writeAttribute entry).toList := by
  unfold writeAttribute
  dsimp only
  by_cases h : isAttributeName (attributeName entry.1).toList = true
  · have hname := clean_of_isAttributeName h
    rw [if_pos h]
    split
    · rw [String.toList_append]
      exact isTail_cons hname
    · exact isTail_nil
    · exact isTail_nil
    · simp only [String.toList_append, List.append_assoc]
      exact isTail_cons
        (hname.append (Clean.append (by decide) ((clean_escape _).append (by decide))))
  · rw [if_neg h]
    exact isTail_nil

theorem isTail_flatMap (entries : List (String × Property)) :
    IsTail (entries.flatMap fun entry => (writeAttribute entry).toList) := by
  induction entries with
  | nil => exact isTail_nil
  | cons entry rest ih =>
    rw [List.flatMap_cons]
    exact (isTail_writeAttribute entry).append ih

theorem isTail_writeAttributes (properties : Properties) :
    IsTail (writeAttributes properties).toList := by
  rw [writeAttributes, String.toList_join, List.flatMap_map]
  exact isTail_flatMap properties.entries

/-! ## What a text adds to the tags -/

/-- The text adds the tags to those of whatever follows it. -/
def Writes (text : String) (tags : List Tag) : Prop :=
  ∀ rest, scanFrom none (text.toList ++ rest) = (scanFrom none rest).map (tags ++ ·)

theorem scan_of_writes {text : String} {tags : List Tag} (h : Writes text tags) :
    scan text = some tags := by
  have := h []
  rwa [List.append_nil, scanFrom, Option.map_some, List.append_nil] at this

theorem Writes.append {first second : String} {tags₁ tags₂ : List Tag} (h₁ : Writes first tags₁)
    (h₂ : Writes second tags₂) : Writes (first ++ second) (tags₁ ++ tags₂) := by
  intro rest
  rw [String.toList_append, List.append_assoc, h₁, h₂, Option.map_map]
  simp only [Function.comp_def, List.append_assoc]

theorem scanFrom_outside (rest : List Char) : ∀ text : List Char, Clean text →
    scanFrom none (text ++ rest) = scanFrom none rest
  | [], _ => rfl
  | c :: text, h => by
    have hc := h c List.mem_cons_self
    rw [List.cons_append, scanFrom, if_neg hc.1, if_neg hc.2]
    exact scanFrom_outside rest text (fun d hd => h d (List.mem_cons_of_mem _ hd))

theorem scanFrom_inside (rest : List Char) : ∀ text seen : List Char, Clean text →
    scanFrom (some seen) (text ++ '>' :: rest)
      = (scanFrom none rest).map (Tag.ofText (seen.reverse ++ text) :: ·)
  | [], seen, _ => by rw [List.nil_append, scanFrom, if_pos rfl, List.append_nil]
  | c :: text, seen, h => by
    have hc := h c List.mem_cons_self
    rw [List.cons_append, scanFrom, if_neg hc.2, if_neg hc.1,
      scanFrom_inside rest text (c :: seen) (fun d hd => h d (List.mem_cons_of_mem _ hd)),
      List.reverse_cons, List.append_assoc, List.singleton_append]

/-- A text without brackets adds no tag. -/
theorem writes_clean {text : String} (h : Clean text.toList) : Writes text [] := by
  intro rest
  rw [scanFrom_outside rest _ h]
  simp

/-- A text without brackets adds one tag if it is put in brackets. -/
theorem writes_brackets {text : String} (h : Clean text.toList) :
    Writes ("<" ++ text ++ ">") [Tag.ofText text.toList] := by
  intro rest
  have hsplit : ("<" ++ text ++ ">").toList ++ rest = '<' :: (text.toList ++ '>' :: rest) := by
    simp
  rw [hsplit, scanFrom, if_pos rfl, scanFrom_inside rest _ [] h]
  rfl

/-- A name ends where the attributes start. -/
theorem cut_tagName {name : String} (h : isTagName name = true) {rest : List Char}
    (hrest : IsTail rest) :
    Text.cut Text.isNameChar (name.toList ++ rest) = (name.toList, rest) := by
  rw [isTagName, Bool.and_eq_true, List.all_eq_true] at h
  rcases hrest.blank with rfl | ⟨more, rfl⟩
  · rw [List.append_nil, Text.cut_of_forall h.2]
  · exact Text.cut_append h.2 (by decide) more

/-- A name has a first character, and that is not a slash. -/
theorem exists_cons_of_isTagName {name : String} (h : isTagName name = true) :
    ∃ c cs, name.toList = c :: cs ∧ c ≠ '/' := by
  rw [isTagName, Bool.and_eq_true, List.all_eq_true] at h
  cases hname : name.toList with
  | nil =>
    rw [String.toList_eq_nil_iff] at hname
    exact absurd h.1 (by rw [hname]; decide)
  | cons c cs =>
    refine ⟨c, cs, rfl, ?_⟩
    rintro rfl
    exact absurd (h.2 '/' (by rw [hname]; exact List.mem_cons_self)) (by decide)

theorem ofText_opening {name : String} (h : isTagName name = true) {rest : List Char}
    (hrest : IsTail rest) : Tag.ofText (name.toList ++ rest) = .opening name := by
  obtain ⟨c, cs, hname, hslash⟩ := exists_cons_of_isTagName h
  have hread : (name.toList ++ rest).takeWhile Text.isNameChar = name.toList :=
    congrArg Prod.fst (cut_tagName h hrest)
  unfold Tag.ofText
  split
  · next other heq =>
    rw [hname, List.cons_append, List.cons.injEq] at heq
    exact absurd heq.1 hslash
  · rw [hread, String.ofList_toList]

theorem writes_openTag {name : String} (h : isTagName name = true) (properties : Properties) :
    Writes (openTag name properties) [.opening name] := by
  have htail := isTail_writeAttributes properties
  have hclean : Clean (name ++ writeAttributes properties).toList := by
    rw [String.toList_append]
    exact (clean_of_isTagName h).append htail.clean
  have := writes_brackets hclean
  rwa [String.toList_append, ofText_opening h htail, ← String.append_assoc] at this

theorem writes_closeTag {name : String} (h : isTagName name = true) :
    Writes (closeTag name) [.closing name] := by
  have hclean : Clean ("/" ++ name).toList := by
    rw [String.toList_append]
    exact Clean.append (by decide) (clean_of_isTagName h)
  have hread : Tag.ofText ("/" ++ name).toList = .closing name := by
    rw [String.toList_append]
    exact congrArg Tag.closing String.ofList_toList
  have := writes_brackets hclean
  rwa [hread, ← String.append_assoc] at this

/-- An element adds its own tags around those of its content. -/
theorem writes_wrap {name : String} (h : isTagName name = true) (properties : Properties)
    {content : String} {inner : List Tag} (hcontent : Writes content inner) :
    Writes (wrap name properties content) (elementTags name inner) := by
  rw [wrap, elementTags]
  split
  · exact writes_openTag h properties
  · exact ((writes_openTag h properties).append hcontent).append (writes_closeTag h)

mutual

theorem writes_markup : ∀ piece : Markup, named piece = true →
    Writes (writeMarkup piece) (tags piece)
  | .text value, _ => by
    rw [writeMarkup, tags]
    exact writes_clean (clean_escape value)
  | .element name properties children, h => by
    rw [named, Bool.and_eq_true] at h
    rw [writeMarkup, tags]
    exact writes_wrap h.1 properties (writes_markupList children h.2)

theorem writes_markupList : ∀ pieces : List Markup, namedList pieces = true →
    Writes (writeMarkupList pieces) (tagsList pieces)
  | [], _ => writes_clean (fun _ hc => absurd hc List.not_mem_nil)
  | piece :: rest, h => by
    rw [namedList, Bool.and_eq_true] at h
    rw [writeMarkupList, tagsList]
    exact (writes_markup piece h.1).append (writes_markupList rest h.2)

end

/-! ## Nesting -/

theorem nest_append (opened : List String) (first second : List Tag) :
    nest opened (first ++ second) = (nest opened first).bind (nest · second) :=
  List.foldlM_append

/-- An element leaves open what was open before it, if its content does. -/
theorem nest_elementTags (name : String) {inner : List Tag}
    (h : ∀ opened, nest opened inner = some opened) (opened : List String) :
    nest opened (elementTags name inner) = some opened := by
  have hopen : Tag.step opened (.opening name)
      = some (if isVoid name then opened else name :: opened) := rfl
  rw [elementTags]
  split
  · next hvoid => rw [nest, List.foldlM_cons, hopen, if_pos hvoid]; rfl
  · next hvoid =>
    have hclose : nest (name :: opened) [.closing name] = some opened := by
      simp [nest, Tag.step]
    calc nest opened (.opening name :: (inner ++ [.closing name]))
        = nest (name :: opened) (inner ++ [.closing name]) := by
          rw [nest, List.foldlM_cons, hopen, if_neg hvoid]; rfl
      _ = (nest (name :: opened) inner).bind (nest · [.closing name]) := nest_append ..
      _ = some opened := by rw [h, Option.bind_some, hclose]

mutual

theorem nest_tags : ∀ (piece : Markup) (opened : List String),
    nest opened (tags piece) = some opened
  | .text _, opened => by rw [tags]; rfl
  | .element name _ children, opened => by
    rw [tags]
    exact nest_elementTags name (nest_tagsList children) opened

/-- **What is open before some markup is open after it.** -/
theorem nest_tagsList : ∀ (pieces : List Markup) (opened : List String),
    nest opened (tagsList pieces) = some opened
  | [], opened => by rw [tagsList]; rfl
  | piece :: rest, opened => by
    rw [tagsList, nest_append, nest_tags piece, Option.bind_some, nest_tagsList rest]

end

/-! ## Documents -/

/-- **Some markup is read back as the tags of its elements, whatever its texts and properties.** -/
theorem scan_writeMarkupList {pieces : List Markup} (h : namedList pieces = true) :
    scan (writeMarkupList pieces) = some (tagsList pieces) :=
  scan_of_writes (writes_markupList pieces h)

end Html

namespace Document

open Html


/--
**What is written of a document without raw HTML is read back as the tags of its elements.** They
are properly nested. No text, no property and no language of a code block adds to them.
-/
theorem scan_html (document : Document) (hfree : htmlFreeList document.children = true)
    (hnamed : namedNodes document.children = true) :
    scan document.html = some (tagsList (renderNodes document.children)) ∧
      nest [] (tagsList (renderNodes document.children)) = some [] := by
  rw [html, ← writeMarkupList_renderNodes document.children hfree]
  exact ⟨scan_writeMarkupList (named_renderNodes document.children hnamed), nest_tagsList _ []⟩

/-- A document with brackets wherever a document may have them. -/
def bracketed : Document where
  children := [
    .directive
      { kind := .container, name := "<i>",
        data := { name := some "figure", properties := some (SortedMap.ofList [
          ("><script>", .string "x"), ("title", .string "\"><script>"),
          ("className", .list ["<", ">"])]) } }
      [.image { url := "\"><script>", alt := "</figure>" },
        .list (some 3) [.listItem [.text "</li>", .lineBreak, .inlineCode "<b>"]],
        .code (some "\"><script>") "</code></pre>"],
    .paragraph
      { children := some [.text "<p>", .element "input" (.single "value" (.string ">")) []] }
      [.link "\"><script>" (some "</a>") [.text "hidden"]]]

/-- The brackets in the document are read as no tags. -/
theorem scan_html_bracketed : htmlFreeList bracketed.children = true ∧
    namedNodes bracketed.children = true ∧
    scan bracketed.html = some [.opening "figure", .opening "img", .opening "ol", .opening "li",
      .opening "br", .opening "code", .closing "code", .closing "li", .closing "ol", .opening "pre",
      .opening "code", .closing "code", .closing "pre", .closing "figure", .opening "p",
      .opening "input", .closing "p"] :=
  ⟨by decide, by decide, (bracketed.scan_html (by decide) (by decide)).1⟩

end Document

end MarkdownDirectives
