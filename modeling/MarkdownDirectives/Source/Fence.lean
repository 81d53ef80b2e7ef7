import MarkdownDirectives.Text.Words

/-!
# Code fences

Directives inside fenced code are text, so the lines of a document are followed with the fence
that is open. A fence is a run of backticks or tildes; it is closed by a run of the same
character that is at least as long and has only white space behind it.
-/

namespace MarkdownDirectives.Source

open Text

/-- An opening run: its character and how often it stands there. -/
structure Fence where
  mark : Char
  length : Nat
deriving DecidableEq, Inhabited, Repr

/-- The length of the run of `mark` at the front of a text, and the rest. -/
def markRun (mark : Char) (cs : List Char) : Nat × List Char :=
  let (marks, rest) := cut (· == mark) cs
  (marks.length, rest)

/-- The fence that a line opens. Behind backticks no further backtick may stand on the line. -/
def Fence.opening? (line : List Char) : Option Fence :=
  match trimStart line with
  | [] => none
  | mark :: rest =>
    let (length, info) := markRun mark (mark :: rest)
    if mark = '`' then
      if 3 ≤ length && !info.contains '`' then some ⟨mark, length⟩ else none
    else if mark = '~' then
      if 3 ≤ length then some ⟨mark, length⟩ else none
    else none

/-- Whether a line closes the fence. -/
def Fence.closedBy (fence : Fence) (line : List Char) : Bool :=
  let (length, rest) := markRun fence.mark (trimStart line)
  fence.length ≤ length && blank rest

/-- The fence that is open behind a line. -/
def Fence.after (fence : Option Fence) (line : List Char) : Option Fence :=
  match fence with
  | some fence => if fence.closedBy line then none else some fence
  | none => Fence.opening? line

/-- Whether a line belongs to fenced code: it opens a fence, or one is open in front of it. -/
def Fence.covers (fence : Option Fence) (line : List Char) : Bool :=
  fence.isSome || (Fence.opening? line).isSome

end MarkdownDirectives.Source
