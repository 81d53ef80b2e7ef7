import MarkdownDirectives.Proofs.Html.Entities
import MarkdownDirectives.Proofs.Html.Tags
import MarkdownDirectives.Proofs.Html.Tokens

/-!
# Reading characters, tags and attributes

Written markup is read as characters and tags, and a tag as its name and its attributes. A `<`
starts a tag and the next `>` ends it; in a tag a blank starts an attribute, whose name ends at a
blank or an equals sign, and whose value stands between double quotes. In texts and in values
entities are read as what they stand for.

* `readAttributes_write` — the attributes of a tag
* `lex_token` — one token in front of any text
* `lex_writeTokens` — tokens one after the other

## What an attribute keeps of a property

The name that it is written under and its text, or the name alone if the property is `true`. So `3`
and `"3"` are read as the same, and `"true"` and `true` are not.
-/

namespace MarkdownDirectives.Html

/-! ## Attributes of properties -/

/-- An attribute of a tag: its name, and its value unless the name stands alone. -/
abbrev TagAttribute := String × Option String

/-- The value that a property is written with, `none` if its name stands alone. -/
def writtenText? : Property → Option String
  | .bool true => none
  | value => some value.display

/-- The attribute that a property is written as, `none` if it is not written. -/
def attribute? (entry : String × Property) : Option TagAttribute :=
  (writtenName? entry).map (·, writtenText? entry.2)

/-- The attributes that properties are written as, in the order of their keys. -/
def attributesOf (properties : Properties) : List TagAttribute :=
  properties.entries.filterMap attribute?

theorem writeValue_eq (value : Property) :
    writeValue value = match writtenText? value with
      | some text => "=\"" ++ escape text ++ "\""
      | none => "" := by
  cases value with
  | bool value => cases value <;> rfl
  | int value => rfl
  | string value => rfl
  | list items => rfl

/-! ## Reading attributes -/

/-- A value in double quotes, and what follows it. -/
def readQuoted : List Char → Option (String × List Char)
  | '"' :: rest =>
    match Text.cut (· != '"') rest with
    | (_, []) => none
    | (value, _ :: rest) => some (String.ofList (unescape value), rest)
  | _ => none

/-- An attribute without the blank in front of it, and what follows it. -/
def readAttribute (cs : List Char) : Option (TagAttribute × List Char) :=
  match Text.cut (fun c => c != ' ' && c != '=') cs with
  | (name, '=' :: rest) =>
    (readQuoted rest).map fun found => ((String.ofList name, some found.1), found.2)
  | (name, rest) => some ((String.ofList name, none), rest)

theorem length_readQuoted {cs rest : List Char} {value : String}
    (h : readQuoted cs = some (value, rest)) : rest.length < cs.length := by
  unfold readQuoted at h
  split at h
  · next behind =>
    have hle := Text.length_cut_le (· != '"') behind
    split at h
    · cases h
    · next heq =>
      cases h
      rw [heq, List.length_cons] at hle
      rw [List.length_cons]
      omega
  · cases h

theorem length_readAttribute {cs rest : List Char} {found : TagAttribute}
    (h : readAttribute cs = some (found, rest)) : rest.length ≤ cs.length := by
  have hle := Text.length_cut_le (fun c => c != ' ' && c != '=') cs
  unfold readAttribute at h
  split at h
  · next heq =>
    obtain ⟨found, hfound, hrest⟩ := Option.map_eq_some_iff.mp h
    cases hrest
    have hlt := length_readQuoted hfound
    rw [heq, List.length_cons] at hle
    omega
  · next heq =>
    cases h
    rwa [heq] at hle

/-- The attributes of a tag, each with a blank in front of it. -/
def readAttributes (cs : List Char) : Option (List TagAttribute) :=
  match cs with
  | [] => some []
  | c :: rest =>
    if c = ' ' then
      match _h : readAttribute rest with
      | some (first, rest) => (readAttributes rest).map (first :: ·)
      | none => none
    else none
termination_by cs.length
decreasing_by
  have := length_readAttribute _h
  rw [List.length_cons]
  omega

/-! ## Reading tags -/

/-- A part of written markup as it is read. -/
inductive Lexeme where
  | char (c : Char)
  | opening (name : String) (attributes : List TagAttribute)
  | closing (name : String)
deriving DecidableEq

/-- The tag with a given text between its brackets. -/
def readTag : List Char → Option Lexeme
  | '/' :: name => some (.closing (String.ofList name))
  | cs =>
    (readAttributes (Text.cut Text.isNameChar cs).2).map
      (.opening (String.ofList (Text.cut Text.isNameChar cs).1))

/-- The parts of a text. -/
def lex (cs : List Char) : Option (List Lexeme) :=
  match cs with
  | [] => some []
  | c :: rest =>
    if c = '<' then
      match _h : Text.cut (· != '>') rest with
      | (_, []) => none
      | (tag, _ :: behind) => (readTag tag).bind fun lexeme => (lex behind).map (lexeme :: ·)
    else (lex (readChar c rest).2).map (.char (readChar c rest).1 :: ·)
termination_by cs.length
decreasing_by
  · have := Text.length_cut_le (· != '>') rest
    rw [_h, List.length_cons] at this
    rw [List.length_cons]
    omega
  · have := length_readChar c rest
    rw [List.length_cons]
    omega

/-! ## Attributes as they are written -/

theorem readQuoted_write (value : String) (rest : List Char) :
    readQuoted ('"' :: ((escape value).toList ++ '"' :: rest)) = some (value, rest) := by
  have hquote : ∀ c ∈ (escape value).toList, (c != '"') = true := by
    intro c hc
    rw [escape, String.toList_ofList] at hc
    simpa using (escapeChars_clean value.toList c hc).2.2.1
  rw [readQuoted, Text.cut_append hquote (by decide)]
  dsimp only
  rw [unescape_escape]

/-- An attribute is read from its name and its value, if nothing or another one follows. -/
theorem readAttribute_write {entry : String × Property} {name : String}
    (h : writtenName? entry = some name) {rest : List Char}
    (hrest : rest = [] ∨ ∃ more, rest = ' ' :: more) :
    readAttribute (name.toList ++ ((writeValue entry.2).toList ++ rest))
      = some ((name, writtenText? entry.2), rest) := by
  have hname : isAttributeName name.toList = true := by
    rw [eq_of_writtenName? h]
    unfold writtenName? at h
    split at h
    · assumption
    · cases h
  have hchars : ∀ c ∈ name.toList, (c != ' ' && c != '=') = true := by
    intro c hc
    rw [Bool.and_eq_true, bne_iff_ne, bne_iff_ne]
    constructor <;> (rintro rfl; exact not_mem_of_isAttributeName hname (by decide) hc)
  rw [writeValue_eq, readAttribute]
  cases hvalue : writtenText? entry.2 with
  | some value =>
    have hsplit : ("=\"" ++ escape value ++ "\"").toList ++ rest
        = '=' :: '"' :: ((escape value).toList ++ '"' :: rest) := by
      simp
    rw [hsplit, Text.cut_append hchars (by decide)]
    change (readQuoted ('"' :: ((escape value).toList ++ '"' :: rest))).map
      (fun found => ((String.ofList name.toList, some found.1), found.2)) = _
    rw [readQuoted_write, Option.map_some, String.ofList_toList]
  | none =>
    have hcut : Text.cut (fun c => c != ' ' && c != '=') (name.toList ++ rest)
        = (name.toList, rest) := by
      rcases hrest with rfl | ⟨more, rfl⟩
      · rw [List.append_nil, Text.cut_of_forall hchars]
      · exact Text.cut_append hchars (by decide) more
    rw [String.toList_empty, List.nil_append, hcut]
    rcases hrest with rfl | ⟨more, rfl⟩
    · exact congrArg (fun text => some ((text, none), [])) String.ofList_toList
    · exact congrArg (fun text => some ((text, none), ' ' :: more)) String.ofList_toList

/-- What is written of a property is read as its attribute, in front of the others. -/
theorem readAttributes_writeAttribute (entry : String × Property) {rest : List Char}
    (hrest : rest = [] ∨ ∃ more, rest = ' ' :: more) :
    readAttributes ((writeAttribute entry).toList ++ rest)
      = (readAttributes rest).map ((attribute? entry).toList ++ ·) := by
  rw [writeAttribute_eq, attribute?]
  cases hname : writtenName? entry with
  | none => simp
  | some name =>
    have hsplit : (" " ++ name ++ writeValue entry.2).toList ++ rest
        = ' ' :: (name.toList ++ ((writeValue entry.2).toList ++ rest)) := by
      simp
    have hread := readAttribute_write hname hrest
    dsimp only
    rw [hsplit, readAttributes, if_pos rfl]
    split
    · next first behind heq =>
      rw [hread] at heq
      cases heq
      rfl
    · next heq =>
      rw [hread] at heq
      cases heq

/-- **The attributes of a tag are read as they were meant.** -/
theorem readAttributes_write (properties : Properties) :
    readAttributes (writeAttributes properties).toList = some (attributesOf properties) := by
  rw [writeAttributes, attributesOf, String.toList_join, List.flatMap_map]
  induction properties.entries with
  | nil => rw [List.flatMap_nil, readAttributes, List.filterMap_nil]
  | cons entry rest ih =>
    -- behind an attribute there is another one, with a blank in front of it, or nothing
    have hread := readAttributes_writeAttribute entry (isTail_flatMap rest).blank
    rw [List.flatMap_cons, hread, ih, List.filterMap_cons]
    cases attribute? entry <;> rfl

/-! ## Tokens as they are written -/

/-- What a token is read as. Raw HTML may be anything, so it has no reading of its own. -/
def Token.lexemes : Token → List Lexeme
  | .raw _ => []
  | .text value => value.toList.map .char
  | .opening tag properties => [.opening tag (attributesOf properties)]
  | .closing tag => [.closing tag]

/-- A token that can be read: no raw HTML, and the name of a tag is a name. -/
def Token.isReadable : Token → Bool
  | .raw _ => false
  | .text _ => true
  | .opening tag _ => isTagName tag
  | .closing tag => isTagName tag

theorem lex_escapeChars (cs rest : List Char) :
    lex (escapeChars cs ++ rest) = (lex rest).map (cs.map .char ++ ·) := by
  induction cs with
  | nil => simp [escapeChars]
  | cons c cs ih =>
    obtain ⟨first, more, hwritten, hbracket, hread⟩ :=
      readChar_escapeChar c (escapeChars cs ++ rest)
    have hsplit : escapeChars (c :: cs) ++ rest = first :: (more ++ (escapeChars cs ++ rest)) := by
      rw [escapeChars, List.flatMap_cons, ← escapeChars, hwritten, List.append_assoc,
        List.cons_append]
    rw [hsplit, lex, if_neg hbracket, hread, ih, Option.map_map]
    rfl

/-- A text in brackets is read as a tag, if it has no bracket itself. -/
theorem lex_brackets {text : List Char} (h : Clean text) (rest : List Char) :
    lex ('<' :: (text ++ '>' :: rest))
      = (readTag text).bind fun lexeme => (lex rest).map (lexeme :: ·) := by
  have hinside : ∀ c ∈ text, (c != '>') = true := by
    intro c hc
    simpa using (h c hc).2
  have hcut : Text.cut (· != '>') (text ++ '>' :: rest) = (text, '>' :: rest) :=
    Text.cut_append hinside (by decide) rest
  rw [lex, if_pos rfl]
  split
  · next heq =>
    rw [hcut] at heq
    cases heq
  · next heq =>
    rw [hcut] at heq
    cases heq
    rfl

theorem readTag_opening {tag : String} (h : isTagName tag = true) (properties : Properties) :
    readTag (tag.toList ++ (writeAttributes properties).toList)
      = some (.opening tag (attributesOf properties)) := by
  obtain ⟨c, cs, htag, hslash⟩ := exists_cons_of_isTagName h
  have hcut := cut_tagName h (isTail_writeAttributes properties)
  unfold readTag
  split
  · next heq =>
    rw [htag, List.cons_append, List.cons.injEq] at heq
    exact absurd heq.1 hslash
  · rw [hcut]
    dsimp only
    rw [readAttributes_write, Option.map_some, String.ofList_toList]

/-- **A token is read in front of any text.** -/
theorem lex_token {token : Token} (h : token.isReadable = true) (rest : List Char) :
    lex (token.write.toList ++ rest) = (lex rest).map (token.lexemes ++ ·) := by
  cases token with
  | raw value => cases h
  | text value =>
    rw [Token.write, escape, String.toList_ofList]
    exact lex_escapeChars value.toList rest
  | opening tag properties =>
    have hsplit : (Token.opening tag properties).write.toList ++ rest
        = '<' :: (tag.toList ++ (writeAttributes properties).toList ++ '>' :: rest) := by
      simp [Token.write, openTag]
    have hclean : Clean (tag.toList ++ (writeAttributes properties).toList) :=
      (clean_of_isTagName h).append (isTail_writeAttributes properties).clean
    rw [hsplit, lex_brackets hclean, readTag_opening h]
    rfl
  | closing tag =>
    have hsplit : (Token.closing tag).write.toList ++ rest
        = '<' :: ('/' :: tag.toList ++ '>' :: rest) := by
      simp [Token.write, closeTag]
    have hclean : Clean ('/' :: tag.toList) := by
      rw [← List.singleton_append]
      exact Clean.append (by decide) (clean_of_isTagName h)
    rw [hsplit, lex_brackets hclean, readTag, String.ofList_toList]
    rfl

/-- **What tokens are written as is read as their parts.** -/
theorem lex_writeTokens {tokens : List Token} (h : ∀ token ∈ tokens, token.isReadable = true) :
    lex (writeTokens tokens).toList = some (tokens.flatMap Token.lexemes) := by
  induction tokens with
  | nil => rw [writeTokens_nil, String.toList_empty, lex, List.flatMap_nil]
  | cons token rest ih =>
    have hrest := ih fun other hmem => h other (List.mem_cons_of_mem _ hmem)
    rw [writeTokens_cons, String.toList_append, lex_token (h token List.mem_cons_self), hrest,
      List.flatMap_cons]
    rfl

end MarkdownDirectives.Html
