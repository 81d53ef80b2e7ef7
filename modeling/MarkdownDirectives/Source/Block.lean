import MarkdownDirectives.Text.Lines
import MarkdownDirectives.Source.Fence
import MarkdownDirectives.Source.Mark

/-!
# Source blocks

A source is cut into Markdown, leaf directives and containers before any Markdown is read. The
cut goes line by line. A line of colons closes the innermost open container if it has at least as
many colons as the line that opened it; any other line of colons is text. Lines of fenced code
are text whatever they look like. Containers still open at the end of the source end there.
-/

namespace MarkdownDirectives.Source

open Text

/-- A part of a source. -/
inductive Block where
  | markdown (source : List Char)
  | leaf (mark : Mark)
  | container (mark : Mark) (body : List Block)
deriving Inhabited

/-- What a line is at a place where directives are read. -/
inductive LineKind where
  /-- The end of the innermost container. -/
  | closing
  | opening (colons : Nat) (mark : Mark)
  | leaf (mark : Mark)
  /-- A line of Markdown. -/
  | kept
deriving Inhabited

/-- Whether a line closes a container that `innermost` colons opened. -/
def closes (innermost : Option Nat) (line : List Char) : Bool :=
  match innermost, containerClosing? line with
  | some least, some colons => least ≤ colons
  | _, _ => false

/-- A line outside of fenced code; `innermost` is the colon count of the innermost container. -/
def LineKind.ofLine (innermost : Option Nat) (line : List Char) : LineKind :=
  if closes innermost line then .closing
  else match containerOpening? line with
    | some (colons, mark) => .opening colons mark
    | none =>
      match leafLine? line with
      | some mark => .leaf mark
      | none => .kept

/-! ## Sections -/

/-- The blocks of one nesting level so far and the lines behind them, the latest first. -/
structure Section where
  blocks : List Block := []
  pending : List (List Char) := []
deriving Inhabited

namespace Section

/-- Lines, the latest first, as a source. -/
def source (pending : List (List Char)) : List Char :=
  pending.reverse.flatMap (· ++ ['\n'])

/-- The pending lines become a block unless there is nothing on them. -/
def flush (s : Section) : Section :=
  let text := source s.pending
  if blank text then { s with pending := [] }
  else ⟨.markdown text :: s.blocks, []⟩

/-- Adds a line. -/
def pushLine (s : Section) (line : List Char) : Section :=
  { s with pending := line :: s.pending }

/-- Adds a block behind the pending lines. -/
def pushBlock (s : Section) (block : Block) : Section :=
  { s.flush with blocks := block :: s.flush.blocks }

/-- The blocks of the section in order. -/
def finish (s : Section) : List Block :=
  s.flush.blocks.reverse

end Section

/-! ## Splitting -/

/-- A container whose end has not been seen. -/
structure OpenContainer where
  mark : Mark
  colons : Nat
  body : Section := {}
deriving Inhabited

/-- The state between two lines: the open containers, innermost first, and the open fence. -/
structure Splitter where
  root : Section := {}
  containers : List OpenContainer := []
  fence : Option Fence := none
deriving Inhabited

namespace Splitter

/-- Changes the innermost section. -/
def mapSection (f : Section → Section) (s : Splitter) : Splitter :=
  match s.containers with
  | [] => { s with root := f s.root }
  | inner :: outer => { s with containers := { inner with body := f inner.body } :: outer }

/-- Ends the innermost container. -/
def close (s : Splitter) : Splitter :=
  match s.containers with
  | [] => s
  | inner :: outer =>
    { s with containers := outer }.mapSection
      (·.pushBlock (.container inner.mark inner.body.finish))

/-- The colon count of the innermost container. -/
def innermost (s : Splitter) : Option Nat :=
  s.containers.head?.map OpenContainer.colons

/-- Takes a line that is not fenced code. -/
def takeOutside (s : Splitter) (line : List Char) : Splitter :=
  match LineKind.ofLine s.innermost line with
  | .closing => s.close
  | .opening colons mark =>
    let s := s.mapSection Section.flush
    { s with containers := { mark, colons } :: s.containers }
  | .leaf mark => s.mapSection (·.pushBlock (.leaf mark))
  | .kept => s.mapSection (·.pushLine line)

/-- Takes a line. -/
def takeLine (s : Splitter) (line : List Char) : Splitter :=
  let next := { s with fence := Fence.after s.fence line }
  if Fence.covers s.fence line then next.mapSection (·.pushLine line)
  else next.takeOutside line

/-- The blocks at the end of the source. Every open container ends there. -/
def finish (s : Splitter) : List Block :=
  (s.containers.foldl (fun s _ => s.close) s).root.finish

end Splitter

/-- The blocks of a source. -/
def splitBlocks (source : List Char) : List Block :=
  ((lines source).foldl Splitter.takeLine {}).finish

end MarkdownDirectives.Source
