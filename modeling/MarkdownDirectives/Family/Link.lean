import MarkdownDirectives.Family.Basic
import MarkdownDirectives.Options
import MarkdownDirectives.Text.Address

/-!
# Links

A link with an icon. The id says where it leads: to an account, a repository, a package or a page.
-/

namespace MarkdownDirectives

/-- What the id of a link refers to. -/
inductive LinkKind where
  | account
  | repository
  | package
  | page
deriving DecidableEq, Inhabited, Repr

namespace LinkKind

/-- The most bytes that the name of a package may have. -/
def maxPackageBytes : Nat := 214

/-- What an id refers to. The first form that fits decides. -/
def classify (id : String) : Option LinkKind :=
  let cs := id.toList
  if cs.head? = some '@' && Text.isAccount (cs.drop 1) && !Text.hasDoubleHyphen cs then
    some account
  else if (Text.repositoryOwner? cs).isSome && !Text.hasDoubleHyphen cs then some repository
  else if id.utf8ByteSize ≤ maxPackageBytes && Text.isPackage cs then some package
  else if Text.isAddress cs then some page
  else none

/-- The marker of a link. -/
def marker : LinkKind → String
  | account => "github-acct"
  | repository => "github-repo"
  | package => "npm-pkg"
  | page => "custom-url"

/-- The tabs on the page of an account. -/
def accountTabs : List String := [
  "repositories", "projects", "packages", "stars", "sponsoring", "sponsors", "org-repositories",
  "org-projects", "org-packages", "org-sponsoring", "org-people"]

/-- The tabs on the page of a package. -/
def packageTabs : List String :=
  ["readme", "code", "dependencies", "dependents", "versions"]

/-- Whether a link of the kind may name a tab. Repositories and pages have no tabs, but may name
one of those that there are. -/
def allowsTab : LinkKind → String → Bool
  | account, tab => accountTabs.contains tab
  | package, tab => packageTabs.contains tab
  | repository, tab | page, tab => accountTabs.contains tab || packageTabs.contains tab

end LinkKind

/-! ## Where a link leads -/

/-- The host of packages. -/
def packageHost : String := "www.npmjs.com"

/-- The page of an account or of one of its tabs. Tabs of organisations are pages of their own. -/
def accountPage (account : String) : Option String → String
  | some tab =>
    if "org-".toList.isPrefixOf tab.toList then
      "https://github.com/orgs/" ++ account ++ "/" ++ String.ofList (tab.toList.drop 4)
    else "https://github.com/" ++ account ++ "?tab=" ++ tab
  | none => "https://github.com/" ++ account

/-- The page of a package or of one of its tabs. -/
def packagePage (id : String) : Option String → String
  | some tab => "https://" ++ packageHost ++ "/package/" ++ id ++ "?activeTab=" ++ tab
  | none => "https://" ++ packageHost ++ "/package/" ++ id

/-- The most characters of a path that the text of a link shows. -/
def maxPathChars : Nat := 14

/-- The text of a link to a page: its address without the protocol, and not too long. -/
def shortAddress (id : List Char) : List Char :=
  let rest := Text.dropProtocol id
  let host := rest.takeWhile (· != '/')
  match rest.drop host.length with
  | [] => rest
  | _ :: [] => host
  | slash :: path =>
    if path.length ≤ maxPathChars then host ++ slash :: path
    else host ++ slash :: path.take maxPathChars ++ ['.', '.', '.']

/-- The place for the host in the address of an icon. -/
def hostPlaceholder : String := "\x7bdomain\x7d"

/-- The address of the icon of a host. -/
def LinkOptions.faviconOf (options : LinkOptions) (host : String) : String :=
  Text.replaceString hostPlaceholder host options.favicon

/-- Where a link leads, its icon and its text, before the author's own are put in their place. -/
structure LinkParts where
  address : String
  icon : String
  text : String
deriving Inhabited

/-- The parts of a link; `url` is the address that the author gives in its place. -/
def LinkOptions.parts (options : LinkOptions) (kind : LinkKind) (id : String)
    (tab url : Option String) : LinkParts :=
  match kind with
  | .account =>
    let account := String.ofList (id.toList.drop 1)
    ⟨url.getD (accountPage account tab), "https://github.com/" ++ account ++ ".png", account⟩
  | .repository =>
    let owner := String.ofList ((Text.repositoryOwner? id.toList).getD id.toList)
    ⟨url.getD ("https://github.com/" ++ id), "https://github.com/" ++ owner ++ ".png", id⟩
  | .package => ⟨url.getD (packagePage id tab), options.faviconOf packageHost, id⟩
  | .page =>
    let address := url.getD id
    ⟨address, options.faviconOf (String.ofList (Text.hostOf address.toList)),
      String.ofList (shortAddress id.toList)⟩

/-! ## Rendering -/

/-- The icon of a link. -/
def LinkOptions.iconMarkup (options : LinkOptions) (icon : String) (d : Directive) : Markup :=
  let added := resolveSource options.iconProperties d
  match options.icon with
  | .background => .element "span"
    (mergeLayers [stringLayer "style" ("background-image: url(" ++ icon ++ ")"), added]) []
  | .img => .element "img"
    ((mergeLayers [stringLayer "src" icon, added]).insertIfNew "alt" (.string "")) []

/-- The tab of a link, `none` if it names none. -/
def LinkKind.tabOf (kind : LinkKind) (d : Directive) : Except DirectiveFault (Option String) :=
  match d.given? "tab" with
  | none => .ok none
  | some tab => if kind.allowsTab tab then .ok (some tab) else .error .tabInvalid

/-- What a link is rendered as. -/
def LinkOptions.resolve (options : LinkOptions) (classPrefix : String) (d : Directive) :
    Except DirectiveFault RenderTarget :=
  match d.given? "id" with
  | none => .error .idMissing
  | some id =>
    match LinkKind.classify id with
    | none => .error .idInvalid
    | some kind =>
      match kind.tabOf d with
      | .error fault => .error fault
      | .ok tab =>
        let parts := options.parts kind id tab (d.given? "url")
        let icon := (d.given? "img").getD parts.icon
        let attributes := (d.attributes.without ["id", "url", "img", "tab"]).toProperties
        .ok {
          name := "a"
          properties := (mergeLayers [classLayer (classPrefix ++ "-link"),
            resolveSource options.anchorProperties d, stringLayer "data-link" kind.marker,
            some attributes]).insert "href" (.string parts.address)
          children := some [options.iconMarkup icon d, .text (d.firstText?.getD parts.text)] }

end MarkdownDirectives
