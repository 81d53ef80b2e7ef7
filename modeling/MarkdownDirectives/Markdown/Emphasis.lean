import MarkdownDirectives.Markdown.Inline
import MarkdownDirectives.Text.Punctuation

/-!
# Emphasis

Runs of asterisks, underscores and tildes open and close emphasis. Which of both a run can do
follows from the characters beside it (`Run.between`). `resolve` then takes the pieces of a
text from left to right with a stack of the runs that are still open: a run that can close takes
the nearest open run that it matches, and every run opened since is text.

Two runs of tildes match only if they are equally long. Runs of asterisks or underscores of which
one can both open and close match unless their lengths add up to a multiple of three and are not
both multiples of three.
-/

namespace MarkdownDirectives.Markdown

open Text

/-! ## Runs -/

/-- A run of one mark. -/
structure Run where
  mark : Char
  length : Nat
  canOpen : Bool
  canClose : Bool
  /-- What is shown behind the run if its last mark is text. -/
  tail : List Char := []
deriving DecidableEq, Inhabited

/-- Whether a run can open, by the characters beside it; `none` is the end of the text. -/
def opensBetween (mark : Char) (length : Nat) (previous : Char) (next : Option Char) : Bool :=
  match next with
  | none => false
  | some next =>
    !isBlank next
      && (isBlank previous || isPunctuation previous
        || (mark == '*' && !isPunctuation next)
        || (mark == '~' && (1 < length || (previous == '~' && !isPunctuation next))))

/-- Whether a run can close, by the characters beside it; `none` is the end of the text. -/
def closesBetween (mark : Char) (length : Nat) (previous : Char) (next : Option Char) : Bool :=
  !isBlank previous
    && match next with
      | none => true
      | some next =>
        isBlank next || isPunctuation next
          || ((mark == '*' || (mark == '~' && 1 < length)) && !isPunctuation previous)
          || (mark == '~' && previous == '~')

/-- The run of `length` marks between two characters. -/
def Run.between (mark : Char) (length : Nat) (previous : Char) (next : Option Char) : Run where
  mark := mark
  length := length
  canOpen := opensBetween mark length previous next
  canClose := closesBetween mark length previous next

/-- Whether a run can mean anything. Of tildes there may be at most two. -/
def Run.active (run : Run) : Bool :=
  (run.canOpen || run.canClose) && (run.mark != '~' || run.length ≤ 2)

/-- Whether a run can open and close. -/
def Run.both (run : Run) : Bool :=
  run.canOpen && run.canClose

/-- Whether a closing run matches an open one. Lengths are those that the runs had at first. -/
def Run.matches (closer opener : Run) : Bool :=
  closer.mark == opener.mark
    && (closer.mark != '~' || closer.length == opener.length)
    && ((!closer.both && !opener.both) || (closer.length + opener.length) % 3 != 0
      || closer.length % 3 == 0)

/-! ## Resolving -/

/-- A piece of a text: finished content or a run. -/
inductive Piece where
  | content (value : Inline)
  | run (run : Run)
  /-- A hard break written as a backslash. -/
  | backslashBreak
deriving Inhabited

/-- Whether a piece is a run. -/
def Piece.isRun : Piece → Bool
  | .run _ => true
  | _ => false

/-- An open run: how many of its marks are left, and the content behind it, the latest first. -/
structure Opener where
  run : Run
  left : Nat
  content : List Inline := []
deriving Inhabited

/-- The content so far, the latest first, and the open runs, innermost first. -/
structure Resolver where
  base : List Inline := []
  openers : List Opener := []
  /-- Below this height of the stack no run of tildes is sought any more. -/
  tildeFloor : Nat := 0
deriving Inhabited

/-- The last `n` marks of a run as text. -/
def Run.literal (run : Run) (n : Nat) : Inline :=
  .text (List.replicate n run.mark ++ run.tail)

/-- Open runs as text, in front of the content `below` them; the latest first. -/
def flattenOpeners (below : List Inline) (openers : List Opener) : List Inline :=
  openers.foldr (fun o below => o.content ++ o.run.literal o.left :: below) below

/-- Content inside `n` pairs of marks; of asterisks and underscores two make strong emphasis. -/
def wrapMarks (mark : Char) : Nat → List Inline → List Inline
  | 0, content => content
  | 1, content => if mark = '~' then [.delete content] else [.emphasis content]
  | n + 2, content =>
    if mark = '~' then wrapMarks mark n [.delete content] else wrapMarks mark n [.strong content]

namespace Resolver

/-- Adds content inside the innermost open run. -/
def push (content : List Inline) (r : Resolver) : Resolver :=
  match r.openers with
  | [] => { r with base := content ++ r.base }
  | inner :: outer =>
    { r with openers := { inner with content := content ++ inner.content } :: outer }

/-- The height of the stack below which the run seeks no partner. -/
def floor (r : Resolver) (run : Run) : Nat :=
  if run.mark = '~' then r.tildeFloor else 0

/-- The open run that a run closes: the ones above it, itself, and the ones below it. -/
def findOpener (r : Resolver) (run : Run) : Option (List Opener × Opener × List Opener) :=
  let reachable := r.openers.take (r.openers.length - r.floor run)
  let above := reachable.takeWhile fun o => !run.matches o.run
  match r.openers.drop above.length with
  | [] => none
  | opener :: below => if above.length < reachable.length then some (above, opener, below) else none

/-- Closes the found open run with `n` of its marks. -/
def closeWith (r : Resolver) (n : Nat) (above : List Opener) (opener : Opener)
    (below : List Opener) : Resolver :=
  let content := flattenOpeners opener.content above
  let wrapped := wrapMarks opener.run.mark n content.reverse
  let r := { r with openers := below, tildeFloor := min r.tildeFloor below.length }
  if n < opener.left then
    { r with openers := { opener with left := opener.left - n, content := wrapped } :: r.openers }
  else r.push wrapped

/-- Takes `left` marks of a run that cannot close anything, or not any more. -/
def takeRest (r : Resolver) (run : Run) (left : Nat) : Resolver :=
  if run.canOpen then { r with openers := { run, left } :: r.openers }
  else r.push [run.literal left]

/-- Notes that a closing run found no partner. -/
def noteMiss (r : Resolver) (run : Run) : Resolver :=
  if run.mark = '~' then { r with tildeFloor := r.openers.length } else r

/-- Takes the `left` marks of a run, closing open runs as long as some match. -/
def takeRun (run : Run) (left : Nat) (r : Resolver) : Resolver :=
  if left = 0 then r
  else if run.canClose then
    match r.findOpener run with
    | some (above, opener, below) =>
      let n := max 1 (min left opener.left)
      takeRun run (left - n) (r.closeWith n above opener below)
    | none => (r.noteMiss run).takeRest run left
  else r.takeRest run left
termination_by left
decreasing_by omega

/-- Takes a piece. -/
def takePiece (r : Resolver) : Piece → Resolver
  | .content value => r.push [value]
  | .run run => r.takeRun run run.length
  | .backslashBreak => r.push [.hardBreak]

end Resolver

/-- Pieces without a break at their end: behind a run, such a break is nothing but its backslash. -/
def settleBreak (pieces : List Piece) : List Piece :=
  match pieces.getLast? with
  | some .backslashBreak =>
    if pieces.any Piece.isRun then pieces.dropLast ++ [.content (.text ['\\'])] else pieces
  | _ => pieces

/-- The content of a list of pieces. Runs that stay open are text. -/
def resolve (pieces : List Piece) : List Inline :=
  let r := (settleBreak pieces).foldl Resolver.takePiece {}
  (flattenOpeners r.base r.openers).reverse

end MarkdownDirectives.Markdown
