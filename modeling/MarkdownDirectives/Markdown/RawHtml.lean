import MarkdownDirectives.Text.Class

/-!
# Angle brackets

What an opening angle bracket can start inside a text: an address in brackets, a tag, a comment,
a processing instruction, a declaration or a character data section. Each reader starts behind the
bracket and gives the text behind the whole.
-/

namespace MarkdownDirectives.Markdown

open Text

/-! ## Addresses -/

/-- A character of a scheme, the first one aside. -/
def isSchemeChar (c : Char) : Bool :=
  c.isAlphanum || c == '.' || c == '-' || c == '+'

/-- The address of a scheme of 2 to 32 characters, up to the closing bracket. -/
def readUri (cs : List Char) : Option (List Char × List Char) :=
  let scheme := cs.takeWhile isSchemeChar
  if !cs.head?.any Char.isAlpha || scheme.length < 2 || 32 < scheme.length then none
  else if (cs.drop scheme.length).head? != some ':' then none
  else
    let uri := cs.takeWhile fun c => ' ' < c && c != '<' && c != '>'
    match cs.drop uri.length with
    | '>' :: rest => some (uri, rest)
    | _ => none

/-- A character in front of the at sign of a mail address. -/
def isMailboxChar (c : Char) : Bool :=
  c.isAlphanum || ".!#$%&'*+/=?^_`\x7b|\x7d~-".toList.contains c

/-- A part of a host name between its dots: at most 63 letters, digits and inner hyphens. -/
def isHostLabel (label : List Char) : Bool :=
  !label.isEmpty && label.length ≤ 63 && label.head? != some '-' && label.getLast? != some '-'
    && label.all fun c => c.isAlphanum || c == '-'

/-- A mail address, up to the closing bracket. -/
def readMail (cs : List Char) : Option (List Char × List Char) :=
  let mail := cs.takeWhile (· != '>')
  let mailbox := mail.takeWhile isMailboxChar
  match mail.drop mailbox.length, cs.drop mail.length with
  | '@' :: host, _ :: rest =>
    if !mailbox.isEmpty && (host.splitOn '.').all isHostLabel then some (mail, rest) else none
  | _, _ => none

/-! ## Tags -/

/-- Where in a tag a character stands. -/
inductive TagState where
  /-- In the name of an opening tag. -/
  | name
  /-- Between attributes; whether there was a space. -/
  | gap (spaced : Bool)
  /-- Behind the slash of an opening tag. -/
  | slash
  | attributeName
  /-- In the space behind the name of an attribute. -/
  | afterAttribute
  /-- Behind an equals sign. -/
  | beforeValue
  | unquoted
  | quoted (mark : Char)
  /-- In the name of a closing tag. -/
  | closingName
  | closingGap
  /-- Behind the tag. -/
  | done
deriving DecidableEq, Inhabited

/-- A space inside a tag. A line end is one. -/
def isTagSpace (c : Char) : Bool :=
  isSpace c || c == '\n' || c == '\r'

/-- A character that an attribute name can start with. -/
def startsAttribute (c : Char) : Bool :=
  c.isAlpha || c == '_' || c == ':'

/-- A character of an attribute name, the first one aside. -/
def isAttributeChar (c : Char) : Bool :=
  c.isAlphanum || c == '_' || c == '.' || c == ':' || c == '-'

/-- A character that cannot stand in a value without quotes. -/
def endsUnquoted (c : Char) : Bool :=
  c == '\'' || c == '"' || c == ' ' || c == '=' || c == '>' || c == '<' || c == '`' || c == '\n'
    || c == '\r'

/-- The state behind a character that stands between attributes. -/
def TagState.gapStep (spaced : Bool) (c : Char) : Option TagState :=
  if isTagSpace c then some (.gap true)
  else if c = '/' then some .slash
  else if c = '>' then some .done
  else if spaced && startsAttribute c then some .attributeName
  else none

/-- The state behind a character, `none` if it cannot stand there. -/
def TagState.step : TagState → Char → Option TagState
  | name, c => if c.isAlphanum || c == '-' then some name else gapStep false c
  | gap spaced, c => gapStep spaced c
  | slash, c => if c = '>' then some done else none
  | attributeName, c =>
    if isAttributeChar c then some attributeName
    else if isTagSpace c then some afterAttribute
    else if c = '=' then some beforeValue
    else gapStep false c
  | afterAttribute, c =>
    if isTagSpace c then some afterAttribute
    else if c = '=' then some beforeValue
    else gapStep true c
  | beforeValue, c =>
    if isTagSpace c then some beforeValue
    else if c = '"' || c = '\'' then some (quoted c)
    else if endsUnquoted c then none
    else some unquoted
  | unquoted, c => if endsUnquoted c then gapStep false c else some unquoted
  | quoted mark, c => if c = mark then some (gap false) else some (quoted mark)
  | closingName, c =>
    if c.isAlphanum || c == '-' then some closingName
    else if isSpace c then some closingGap
    else if c = '>' then some done
    else none
  | closingGap, c =>
    if isSpace c then some closingGap else if c = '>' then some done else none
  | done, _ => none

/-- The text behind a tag of which a part was read. -/
def scanTag : TagState → List Char → Option (List Char)
  | _, [] => none
  | state, c :: rest =>
    match state.step c with
    | none => none
    | some .done => some rest
    | some state => scanTag state rest

/-- The text behind a tag. -/
def readTag : List Char → Option (List Char)
  | '/' :: c :: rest => if c.isAlpha then scanTag .closingName rest else none
  | c :: rest => if c.isAlpha then scanTag .name rest else none
  | [] => none

/-! ## Other markup -/

/-- The text behind the first occurrence of `mark`. -/
def behind (mark : List Char) : List Char → Option (List Char)
  | [] => none
  | c :: rest =>
    if mark.isPrefixOf (c :: rest) then some ((c :: rest).drop mark.length) else behind mark rest

/-- The text behind a character data section whose opening was read. Its end is sought only at the
first closing bracket. -/
def behindSection (cs : List Char) : Option (List Char) :=
  match cs.dropWhile (· != ']') with
  | ']' :: rest =>
    match rest.dropWhile (· == ']') with
    | '>' :: rest => some rest
    | _ => none
  | _ => none

/-- The text behind a comment, a processing instruction, a declaration or a character data
section. -/
def behindMarkup : List Char → Option (List Char)
  | '!' :: '-' :: '-' :: rest => behind ['-', '-', '>'] ('-' :: '-' :: rest)
  | '!' :: '[' :: 'C' :: 'D' :: 'A' :: 'T' :: 'A' :: '[' :: rest => behindSection rest
  | '!' :: c :: rest => if c.isAlpha then behind ['>'] rest else none
  | '?' :: rest => behind ['?', '>'] rest
  | _ => none

/-! ## The text behind is shorter -/

theorem length_scanTag {state : TagState} {cs rest : List Char}
    (h : scanTag state cs = some rest) : rest.length < cs.length := by
  induction cs generalizing state with
  | nil => simp [scanTag] at h
  | cons c tail ih =>
    rw [scanTag] at h
    split at h
    · simp at h
    · simp only [Option.some.injEq] at h
      subst h; simp
    · have := ih h
      simp; omega

theorem length_readTag {cs rest : List Char} (h : readTag cs = some rest) :
    rest.length < cs.length := by
  unfold readTag at h
  split at h
  · split at h
    · have := length_scanTag h
      simp; omega
    · simp at h
  · split at h
    · have := length_scanTag h
      simp; omega
    · simp at h
  · simp at h

theorem length_readUri {cs uri rest : List Char} (h : readUri cs = some (uri, rest)) :
    rest.length ≤ cs.length := by
  unfold readUri at h
  simp only at h
  split at h
  · simp at h
  · split at h
    · simp at h
    · split at h
      · next tail ht =>
        simp only [Option.some.injEq, Prod.mk.injEq] at h
        have := congrArg List.length ht
        simp only [List.length_drop, List.length_cons] at this
        rw [← h.2]; omega
      · simp at h

theorem length_readMail {cs mail rest : List Char} (h : readMail cs = some (mail, rest)) :
    rest.length ≤ cs.length := by
  unfold readMail at h
  simp only at h
  split at h
  · next host x tail hm ht =>
    split at h
    · simp only [Option.some.injEq, Prod.mk.injEq] at h
      have := congrArg List.length ht
      simp only [List.length_drop, List.length_cons] at this
      rw [← h.2]; omega
    · simp at h
  · simp at h

end MarkdownDirectives.Markdown
