import MarkdownDirectives.Text.Class

/-!
# Addresses

The forms of address that authors write: an address of a page, with or without its protocol, the
name of an account, of a repository and of a package.
-/

namespace MarkdownDirectives.Text

/-! ## Pages -/

/-- An address without the protocol of the web in front. -/
def dropWebProtocol (cs : List Char) : List Char :=
  if "https://".toList.isPrefixOf cs then cs.drop 8
  else if "http://".toList.isPrefixOf cs then cs.drop 7
  else cs

/-- A host name: names with dots between them, the last one of at least two lower-case letters. -/
def isHost (host : List Char) : Bool :=
  let parts := host.splitOn '.'
  2 ≤ parts.length
    && parts.dropLast.all (fun part => !part.isEmpty && part.all isNameChar)
    && parts.getLast?.any fun last => 2 ≤ last.length && last.all Char.isLower

/-- The address of a page: a host, and behind a slash anything without white space. -/
def isAddress (cs : List Char) : Bool :=
  let rest := dropWebProtocol cs
  let host := rest.takeWhile (· != '/')
  isHost host && !(rest.drop host.length).any isBlank

/-- An address without the protocol in front of it, of whatever name, or none but with slashes. -/
def dropProtocol (cs : List Char) : List Char :=
  let name := cs.takeWhile fun c => c.isAlphanum || c == '_'
  match cs.drop name.length with
  | ':' :: '/' :: '/' :: rest => if name.isEmpty then cs else rest
  | '/' :: '/' :: rest => if name.isEmpty then rest else cs
  | _ => cs

/-- The host in an address. -/
def hostOf (cs : List Char) : List Char :=
  (dropProtocol cs).takeWhile fun c => c != '/' && c != '?' && c != '#'

/-! ## Names -/

/-- Two hyphens next to each other. -/
def hasDoubleHyphen : List Char → Bool
  | '-' :: '-' :: _ => true
  | _ :: rest => hasDoubleHyphen rest
  | [] => false

/-- The name of an account: 2 to 39 characters, the first and the last a letter or digit. -/
def isAccount (name : List Char) : Bool :=
  2 ≤ name.length && name.length ≤ 39 && name.head?.any Char.isAlphanum
    && name.getLast?.any Char.isAlphanum && name.all isNameChar

/-- The account in the name of a repository, which stands in front of a slash. -/
def repositoryOwner? (cs : List Char) : Option (List Char) :=
  let owner := cs.takeWhile (· != '/')
  match cs.drop owner.length with
  | _ :: rest => if isAccount owner && !rest.contains '\n' then some owner else none
  | [] => none

/-- A character of the name of a package. -/
def isPackageChar (c : Char) : Bool :=
  c.isLower || c.isDigit || c == '.' || c == '_' || c == '-'

/-- A part of the name of a package. -/
def isPackagePart (part : List Char) : Bool :=
  part.head?.any (fun c => c.isLower || c.isDigit) && part.all isPackageChar

/-- The name of a package, with a scope in front of it or without. -/
def isPackage : List Char → Bool
  | '@' :: rest =>
    let scope := rest.takeWhile (· != '/')
    match rest.drop scope.length with
    | _ :: name => isPackagePart scope && isPackagePart name
    | [] => false
  | name => isPackagePart name

end MarkdownDirectives.Text
