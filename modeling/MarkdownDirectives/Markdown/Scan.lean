import MarkdownDirectives.Markdown.Emphasis
import MarkdownDirectives.Markdown.Target

/-!
# Reading inline content

The text of a passage is read from left to right. What can be decided where it starts (escapes,
character references, code, raw HTML, addresses, breaks) becomes content at once. Runs of emphasis
marks become pieces for `resolve`. An opening bracket opens a new list of pieces, and the closing
bracket decides whether the list is the text of a link or of an image.

The tail of a passage is shown behind its last step if that step `joins` it.

## Termination

Every step takes at least one character.
-/

namespace MarkdownDirectives.Markdown

open Text

theorem length_dropWhile_le (p : Char → Bool) (cs : List Char) :
    (cs.dropWhile p).length ≤ cs.length :=
  (List.dropWhile_sublist p).length_le

/-! ## Code -/

theorem length_cut_lt (p : Char → Bool) {c : Char} (rest : List Char) (h : p c = true) :
    (cut p (c :: rest)).2.length ≤ rest.length := by
  rw [cut, List.dropWhile_cons, if_pos h]
  exact (List.dropWhile_sublist p).length_le

/-- The text in front of the next run of exactly `length` backticks, and the text behind it. -/
def codeEnd (length : Nat) (cs : List Char) : Option (List Char × List Char) :=
  match cs with
  | [] => none
  | c :: rest =>
    if _h : c = '`' then
      let run := cut (· == '`') (c :: rest)
      if run.1.length = length then some ([], run.2)
      else (codeEnd length run.2).map fun (code, rest) => (run.1 ++ code, rest)
    else (codeEnd length rest).map fun (code, rest) => (c :: code, rest)
termination_by cs.length
decreasing_by
  · have : (cut (· == '`') (c :: rest)).2.length ≤ rest.length :=
      length_cut_lt (· == '`') rest (by simp [_h])
    simp; omega
  · simp

theorem length_codeEnd {length : Nat} {cs code rest : List Char}
    (h : codeEnd length cs = some (code, rest)) : rest.length ≤ cs.length := by
  fun_induction codeEnd length cs generalizing code with
  | case1 => simp at h
  | case2 tail =>
    have hlt := length_cut_lt (· == '`') tail (c := '`') rfl
    simp only [Option.some.injEq, Prod.mk.injEq] at h
    rw [← h.2]
    exact Nat.le_succ_of_le hlt
  | case3 tail run =>
    next ih =>
    have hlt := length_cut_lt (· == '`') tail (c := '`') rfl
    simp only [Option.map_eq_some_iff, Prod.mk.injEq, Prod.exists] at h
    obtain ⟨code', rest', hr, -, rfl⟩ := h
    exact Nat.le_succ_of_le (Nat.le_trans (ih hr) hlt)
  | case4 c tail hc ih =>
    simp only [Option.map_eq_some_iff, Prod.mk.injEq, Prod.exists] at h
    obtain ⟨code', rest', hr, -, rfl⟩ := h
    have := ih hr
    simp only [List.length_cons]
    omega

/-! ## State -/

/-- An open bracket, with the pieces behind it, the latest first. -/
structure Bracket where
  image : Bool
  /-- A link text may not lie inside another, so brackets around a link are given up. -/
  active : Bool := true
  /-- The text behind the bracket. -/
  start : List Char
  pieces : List Piece := []
deriving Inhabited

/-- The pieces so far, the latest first, and the open brackets, innermost first. -/
structure Scanner where
  base : List Piece := []
  brackets : List Bracket := []
deriving Inhabited

/-- What a bracket looks like. -/
def Bracket.literal (b : Bracket) : Piece :=
  .content (.text (if b.image then ['!', '['] else ['[']))

namespace Scanner

/-- Adds pieces, the latest first, inside the innermost bracket. -/
def pushAll (pieces : List Piece) (s : Scanner) : Scanner :=
  match s.brackets with
  | [] => { s with base := pieces ++ s.base }
  | inner :: outer =>
    { s with brackets := { inner with pieces := pieces ++ inner.pieces } :: outer }

/-- Adds content. -/
def push (content : Inline) (s : Scanner) : Scanner :=
  s.pushAll [.content content]

/-- Adds text. -/
def pushText (cs : List Char) (s : Scanner) : Scanner :=
  if cs.isEmpty then s else s.push (.text cs)

/-- Opens a bracket. -/
def openBracket (image : Bool) (start : List Char) (s : Scanner) : Scanner :=
  { s with brackets := { image, start } :: s.brackets }

/-- Gives up the brackets that could become a link. -/
def deactivate (s : Scanner) : Scanner :=
  { s with brackets := s.brackets.map fun b => if b.image then b else { b with active := false } }

/-- Adds the link or image whose text stands in a bracket. -/
def pushLink (b : Bracket) (target : Target) (s : Scanner) : Scanner :=
  let content := resolve b.pieces.reverse
  if b.image then s.push (.image target.url target.title content)
  else (s.push (.link target.url target.title content)).deactivate

/-- The pieces at the end of the text. Brackets that stay open are text. -/
def finish (s : Scanner) : List Piece :=
  (s.brackets.foldr (fun b below => b.pieces ++ b.literal :: below) s.base).reverse

end Scanner

/-! ## Steps -/

/-- The state behind a step, the character in front of the rest, and the rest. -/
structure Step where
  scanner : Scanner
  previous : Char
  rest : List Char
  /-- The step ends in text, so that a tail behind it goes on with that text. -/
  joins : Bool := true
deriving Inhabited

/-- A character that can be more than itself. -/
def isSpecial (c : Char) : Bool :=
  c == '\n' || c == '*' || c == '_' || c == '~' || c == '&' || c == '\\' || c == '[' || c == ']'
    || c == '<' || c == '!' || c == '`'

section

variable (p : Passage)

/-- Takes plain text up to the next special character. At the end of a line its trailing spaces go,
and two of them make the line break hard; a space in front of a line of nothing but spaces
counts. -/
def stepPlain (previous c : Char) (rest : List Char) (s : Scanner) : Step :=
  let (more, after) := cut (!isSpecial ·) rest
  let chunk := c :: more
  match after with
  | '\n' :: next =>
    let kept := dropTrailing chunk
    let spaces := chunk.length - kept.length + if kept.isEmpty && isSpace previous then 1 else 0
    let lineBreak := if 2 ≤ spaces then Inline.hardBreak else .softBreak
    ⟨(s.pushText kept).push lineBreak, p.lineStart next, next, true⟩
  | _ => ⟨s.pushText chunk, more.getLastD c, after, true⟩

/-- Takes what stands behind a backslash. -/
def stepEscape (rest : List Char) (s : Scanner) : Step :=
  match rest with
  | '\n' :: next => ⟨s.pushAll [.backslashBreak], p.lineStart next, next, true⟩
  | d :: next =>
    if isAsciiPunctuation d then ⟨s.pushText [d], d, next, true⟩
    else ⟨s.pushText ['\\'], '\\', rest, true⟩
  | [] => ⟨s.pushText ['\\'], '\\', [], true⟩

/-- Takes code behind its first backtick. -/
def stepCode (rest : List Char) (s : Scanner) : Step :=
  let (more, after) := cut (· == '`') rest
  match codeEnd (more.length + 1) after with
  | some (code, after) =>
    ⟨s.push (.code (p.codeText (after.count '\n') code)), '`', after, false⟩
  | none => ⟨s.pushText ('`' :: more), '`', after, true⟩

/-- Takes what stands behind an opening angle bracket. -/
def stepAngle (rest : List Char) (s : Scanner) : Step :=
  match (readUri rest).or (readMail rest) with
  | some (url, after) => ⟨s.push (.link url [] [.text url]), '>', after, true⟩
  | none =>
    match p.readHtml rest with
    | some (html, after) =>
      let previous := if (rest.take (rest.length - after.length)).getLast? = some '\n' then
        p.lineStart after else '>'
      ⟨s.push (.html ('<' :: html)), previous, after, true⟩
    | none => ⟨s.pushText ['<'], '<', rest, true⟩

/-- Takes a run of emphasis marks behind its first one. -/
def stepRun (mark previous : Char) (rest : List Char) (s : Scanner) : Step :=
  let (more, after) := cut (· == mark) rest
  let run := Run.between mark (more.length + 1) previous (after.head?.or p.tail.head?)
  if run.active then
    ⟨s.pushAll [.run { run with tail := if after.isEmpty then p.tail else [] }], mark, after, false⟩
  else ⟨s.pushText (mark :: more), mark, after, true⟩

/-! ## Closing brackets -/

variable (definitions : List Definition)

/-- The target that a label in brackets stands for. The label is the end of what comes in front of
`rest`. -/
def shortcutTarget (label rest : List Char) : Option Target :=
  match readLabel p (label ++ ']' :: rest) with
  | some (key, after) =>
    if after.length = rest.length then lookupTarget definitions key else none
  | none => none

/-- A text without a backslash in front of an opening bracket. -/
def dropBackslash : List Char → List Char
  | '\\' :: '[' :: rest => '[' :: rest
  | cs => cs

/--
The target of a link text by a label, and the text behind the link.

A label in brackets may follow the link text, and if it does the link text itself is no label any
more; a backslash in front of that label does not matter. In a heading the link text is no label if
only a tail is left.
-/
def labelTarget (label rest : List Char) : Option (Target × List Char) :=
  let shortcut := if rest.isEmpty && !p.tail.isEmpty then none
    else shortcutTarget p definitions label rest
  match dropBackslash rest with
  | '[' :: ']' :: after => (shortcutTarget p definitions label rest).map (·, after)
  | '[' :: more =>
    match readLabel p more with
    | some (key, after) => (lookupTarget definitions key).map (·, after)
    | none => shortcut.map (·, rest)
  | _ => shortcut.map (·, rest)

/-- Takes a closing bracket with the text behind it. A target in parentheses comes first. -/
def closeBracket (rest : List Char) (s : Scanner) : Step :=
  match s.brackets with
  | [] => ⟨s.pushText [']'], ']', rest, true⟩
  | b :: outer =>
    let s := { s with brackets := outer }
    match if b.active then inlineTarget rest else none with
    | some (target, after) => ⟨s.pushLink b target, ')', after, true⟩
    | none =>
      let label := b.start.take (b.start.length - rest.length - 1)
      match if b.active then labelTarget p definitions label rest else none with
      | some (target, after) => ⟨s.pushLink b target, ']', after, false⟩
      | none => ⟨(s.pushAll (b.pieces ++ [b.literal])).pushText [']'], ']', rest, true⟩

/-- Takes one step behind the character `c`. -/
def step (previous c : Char) (rest : List Char) (s : Scanner) : Step :=
  if c = '\\' then stepEscape p rest s
  else if c = '\n' then ⟨s.push .softBreak, p.lineStart rest, rest, true⟩
  else if c = '`' then stepCode p rest s
  else if c = '&' then
    match readReference rest with
    | some (chars, after) => ⟨s.pushText chars, ';', after, false⟩
    | none => ⟨s.pushText ['&'], '&', rest, true⟩
  else if c = '<' then stepAngle p rest s
  else if c = '!' then
    match rest with
    | '[' :: start => ⟨s.openBracket true start, '[', start, true⟩
    | _ => ⟨s.pushText ['!'], '!', rest, true⟩
  else if c = '[' then ⟨s.openBracket false rest, '[', rest, true⟩
  else if c = ']' then closeBracket p definitions rest s
  else if c = '*' || c = '_' || c = '~' then stepRun p c previous rest s
  else stepPlain p previous c rest s

end

/-! ## Every step takes a character -/

theorem length_skipSpace (cs : List Char) : (skipSpace cs).length ≤ cs.length := by
  have h := length_dropWhile_le isSpace cs
  unfold skipSpace
  split
  · next rest hr =>
    rw [hr] at h
    have := length_dropWhile_le isSpace rest
    simp at h; omega
  · exact h

theorem length_labelBody {cs label rest : List Char} (h : labelBody cs = some (label, rest)) :
    rest.length ≤ cs.length := by
  fun_induction labelBody cs generalizing label
  all_goals
    simp only [Option.map_eq_some_iff, Option.some.injEq, Prod.mk.injEq, Prod.exists,
      reduceCtorEq] at h
  case case2 ih =>
    obtain ⟨_, _, hr, -, rfl⟩ := h
    have := ih hr
    simp; omega
  case case3 => rw [← h.2]; simp
  case case5 ih =>
    obtain ⟨_, _, hr, -, rfl⟩ := h
    have := ih hr
    simp; omega

theorem length_readLabel {p : Passage} {cs key rest : List Char}
    (h : readLabel p cs = some (key, rest)) : rest.length ≤ cs.length := by
  unfold readLabel at h
  split at h
  · next label after hl =>
    split at h
    · simp at h
    · simp only [Option.some.injEq, Prod.mk.injEq] at h
      rw [← h.2]; exact length_labelBody hl
  · simp at h

theorem length_pointyDestination {cs url rest : List Char}
    (h : pointyDestination cs = some (url, rest)) : rest.length ≤ cs.length := by
  fun_induction pointyDestination cs generalizing url
  all_goals
    simp only [Option.map_eq_some_iff, Option.some.injEq, Prod.mk.injEq, Prod.exists,
      reduceCtorEq] at h
  case case4 => rw [← h.2]; simp
  all_goals
    next ih =>
      obtain ⟨_, _, hr, -, rfl⟩ := h
      have := ih hr
      simp at this ⊢; omega

theorem length_bareDestination {limit depth : Nat} {cs url rest : List Char}
    (h : bareDestination limit depth cs = some (url, rest)) : rest.length ≤ cs.length := by
  fun_induction bareDestination limit depth cs generalizing url
  all_goals
    simp only [Option.map_eq_some_iff, Option.some.injEq, Prod.mk.injEq, Prod.exists,
      reduceCtorEq] at h
  case case1 => exact Nat.le_of_eq (congrArg List.length h.2.symm)
  case case5 => exact Nat.le_of_eq (congrArg List.length h.2.symm)
  all_goals
    next ih =>
      obtain ⟨_, _, hr, -, rfl⟩ := h
      have := ih hr
      simp at this ⊢; omega

theorem length_readDestination {limit : Nat} {cs url rest : List Char}
    (h : readDestination limit cs = some (url, rest)) : rest.length ≤ cs.length := by
  unfold readDestination at h
  split at h
  · have := length_pointyDestination h
    simp; omega
  · exact length_bareDestination h

theorem length_titleBody {lines : TitleLines} {opening closing : Char} {fresh : Bool}
    {cs title rest : List Char}
    (h : titleBody lines opening closing fresh cs = some (title, rest)) :
    rest.length ≤ cs.length := by
  fun_induction titleBody lines opening closing fresh cs generalizing title
  case case3 ih =>
    have := ih h
    simp at this ⊢
    omega
  all_goals
    simp only [Option.map_eq_some_iff, Option.some.injEq, Prod.mk.injEq, Prod.exists,
      reduceCtorEq] at h
  case case5 => rw [← h.2]; simp
  all_goals
    next ih =>
      obtain ⟨_, _, hr, -, rfl⟩ := h
      have := ih hr
      simp at this ⊢; omega

theorem length_readTitle {lines : TitleLines} {cs title rest : List Char}
    (h : readTitle lines cs = some (title, rest)) : rest.length ≤ cs.length := by
  unfold readTitle at h
  simp only [Option.map_eq_some_iff, Prod.mk.injEq, Prod.exists] at h
  obtain ⟨_, _, hb, -, rfl⟩ := h
  split at hb
  · have := length_titleBody hb; simp; omega
  · have := length_titleBody hb; simp; omega
  · have := length_titleBody hb; simp; omega
  · simp at hb

theorem length_optionalTitle (cs : List Char) : (optionalTitle cs).2.length ≤ cs.length := by
  unfold optionalTitle
  split
  · next title rest h =>
    exact Nat.le_trans (length_skipSpace rest) (length_readTitle h)
  · exact Nat.le_refl _

theorem length_inlineTarget {cs rest : List Char} {target : Target}
    (h : inlineTarget cs = some (target, rest)) : rest.length ≤ cs.length := by
  unfold inlineTarget at h
  split at h
  · next tail =>
    split at h
    · simp at h
    · next url after hd =>
      split at h
      · next title last ht =>
        simp only [Option.some.injEq, Prod.mk.injEq] at h
        have h1 := length_skipSpace tail
        have h2 := length_readDestination hd
        have h3 := length_skipSpace after
        have h4 := length_optionalTitle (skipSpace after)
        rw [ht] at h4
        simp only [List.length_cons] at h4 ⊢
        rw [← h.2]
        omega
      · simp at h
  · simp at h

theorem length_dropBackslash (cs : List Char) : (dropBackslash cs).length ≤ cs.length := by
  unfold dropBackslash
  split
  · simp
  · exact Nat.le_refl _

theorem length_labelTarget {p : Passage} {definitions : List Definition}
    {label cs rest : List Char} {target : Target}
    (h : labelTarget p definitions label cs = some (target, rest)) : rest.length ≤ cs.length := by
  have hc := length_dropBackslash cs
  unfold labelTarget at h
  simp only at h
  split at h
  · next after heq =>
    simp only [Option.map_eq_some_iff, Prod.mk.injEq] at h
    obtain ⟨_, -, -, rfl⟩ := h
    rw [heq] at hc
    simp only [List.length_cons] at hc
    omega
  · next more _ heq =>
    rw [heq] at hc
    simp only [List.length_cons] at hc
    split at h
    · next key after hl =>
      simp only [Option.map_eq_some_iff, Prod.mk.injEq] at h
      obtain ⟨_, -, -, rfl⟩ := h
      have := length_readLabel hl
      omega
    · simp only [Option.map_eq_some_iff, Prod.mk.injEq] at h
      obtain ⟨_, -, -, rfl⟩ := h
      exact Nat.le_refl _
  · simp only [Option.map_eq_some_iff, Prod.mk.injEq] at h
    obtain ⟨_, -, -, rfl⟩ := h
    exact Nat.le_refl _

theorem length_closeBracket (p : Passage) (definitions : List Definition) (rest : List Char)
    (s : Scanner) : (closeBracket p definitions rest s).rest.length ≤ rest.length := by
  unfold closeBracket
  split
  · exact Nat.le_refl _
  · simp only
    split
    · next h =>
      split at h
      · exact length_inlineTarget h
      · simp at h
    · split
      · next h =>
        split at h
        · exact length_labelTarget h
        · simp at h
      · exact Nat.le_refl _

theorem length_stepPlain (p : Passage) (previous c : Char) (rest : List Char) (s : Scanner) :
    (stepPlain p previous c rest s).rest.length ≤ rest.length := by
  have h := length_cut_le (!isSpecial ·) rest
  unfold stepPlain
  simp only
  split
  · next heq =>
    rw [heq] at h
    exact Nat.le_of_succ_le h
  · exact h

theorem length_stepEscape (p : Passage) (rest : List Char) (s : Scanner) :
    (stepEscape p rest s).rest.length ≤ rest.length := by
  unfold stepEscape
  split
  · simp
  · split <;> simp
  · simp

theorem length_stepCode (p : Passage) (rest : List Char) (s : Scanner) :
    (stepCode p rest s).rest.length ≤ rest.length := by
  have h := length_cut_le (· == '`') rest
  unfold stepCode
  simp only
  split
  · next hc => exact Nat.le_trans (length_codeEnd hc) h
  · exact h

theorem length_stepAngle (p : Passage) (rest : List Char) (s : Scanner) :
    (stepAngle p rest s).rest.length ≤ rest.length := by
  unfold stepAngle
  split
  · next h =>
    rcases Option.or_eq_some_iff.mp h with h | ⟨-, h⟩
    · exact length_readUri h
    · exact length_readMail h
  · split
    · next h => exact Passage.length_readHtml h
    · exact Nat.le_refl _

theorem length_stepRun (p : Passage) (mark previous : Char) (rest : List Char) (s : Scanner) :
    (stepRun p mark previous rest s).rest.length ≤ rest.length := by
  have h := length_cut_le (· == mark) rest
  unfold stepRun
  simp only
  split <;> exact h

/-- A step behind a character takes nothing back. -/
theorem length_step (p : Passage) (definitions : List Definition) (previous c : Char)
    (rest : List Char) (s : Scanner) :
    (step p definitions previous c rest s).rest.length ≤ rest.length := by
  unfold step
  repeat' split
  all_goals first
    | exact Nat.le_refl _
    | exact length_stepEscape _ _ _
    | exact length_stepCode _ _ _
    | exact Nat.le_of_lt (length_readReference ‹_›)
    | exact length_stepAngle _ _ _
    | exact Nat.le_succ _
    | exact length_closeBracket _ _ _ _
    | exact length_stepRun _ _ _ _ _
    | exact length_stepPlain _ _ _ _ _

/-! ## The whole text -/

/-- The state behind the rest of a passage; `previous` is the character in front of it, and `joins`
says whether the last step joins a tail. -/
def scan (p : Passage) (definitions : List Definition) (previous : Char) (joins : Bool)
    (cs : List Char) (s : Scanner) : Scanner :=
  match cs with
  | [] => if joins then s.pushText p.tail else s
  | c :: rest =>
    let next := step p definitions previous c rest s
    scan p definitions next.previous next.joins next.rest next.scanner
termination_by cs.length
decreasing_by
  have := length_step p definitions previous c rest s
  simp only [List.length_cons]
  omega

/-- The inline content of a passage. -/
def readInlines (definitions : List Definition) (p : Passage) : List Inline :=
  resolve (scan p definitions p.before false p.text {}).finish

end MarkdownDirectives.Markdown
