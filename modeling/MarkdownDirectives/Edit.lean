import MarkdownDirectives.Document

/-!
# Nodes by path

A node is found by the places of its ancestors and its own among their siblings, from the top of
the document down. The empty path leads to the document itself, which is no node.
-/

namespace MarkdownDirectives

namespace Node

/-- The node at a path. -/
def at? : List Nat → List Node → Option Node
  | [], _ => none
  | i :: path, nodes =>
    match nodes[i]? with
    | none => none
    | some node =>
      match path with
      | [] => some node
      | j :: path => node.children?.bind (at? (j :: path))

/-- Puts a node at a path. -/
def setAt (new : Node) : List Nat → List Node → List Node
  | [], nodes => nodes
  | i :: path, nodes => nodes.modify i fun node =>
    match path with
    | [] => new
    | j :: path =>
      match node.children? with
      | some children => node.withChildren (setAt new (j :: path) children)
      | none => node

end Node

namespace Document

/-- The node at a path. -/
def node? (document : Document) (path : List Nat) : Option Node :=
  Node.at? path document.children

/-- Puts a node at a path. -/
def setNode (document : Document) (path : List Nat) (node : Node) : Document :=
  ⟨Node.setAt node path document.children⟩

/-- Replaces the children at a path. -/
def setChildren (document : Document) (path : List Nat) (children : List Node) : Document :=
  match path with
  | [] => ⟨children⟩
  | path =>
    match document.node? path with
    | some node => document.setNode path (node.withChildren children)
    | none => document

end Document

end MarkdownDirectives
