import MarkdownDirectives.Proofs.Family.LinkIds
import MarkdownDirectives.Proofs.Family.Names
import MarkdownDirectives.Proofs.Layers.Values

/-!
# What a link is rendered as

A link has an id that says where it leads, and may have a tab, an address and an icon of its own.
The rest of its attributes go to the anchor, behind the properties of the options and the marker of
the kind. The address is written last, so nothing that is merged can be in its place.

* `Directive.IsLink` — what a directive must say to be a link
* `LinkKind.LeadsTo`, `LinkOptions.Shows` — the page, the icon and the text that come with the kind
* `IsAnchor` — the properties of the anchor, key by key
* `Transformer.resolve_link` — when a link is rendered, and as what
-/

namespace MarkdownDirectives

/-! ## What a link says -/

/-- The tabs that a link of a kind may name. Repositories and pages have no tabs of their own. -/
def LinkKind.tabs : LinkKind → List String
  | account => accountTabs
  | package => packageTabs
  | repository | page => accountTabs ++ packageTabs

/-- What a directive must say to be a link of a kind. -/
structure Directive.IsLink (d : Directive) (id : String) (kind : LinkKind) : Prop where
  present : d.attribute? "id" = some id
  nonempty : id ≠ ""
  classified : LinkKind.classify id = some kind
  /-- An empty tab is no tab. -/
  tabbed : ∀ tab, d.attribute? "tab" = some tab → tab = "" ∨ tab ∈ kind.tabs

/-- The page that a link leads to, unless it has an address of its own. -/
inductive LinkKind.LeadsTo : LinkKind → String → Option String → String → Prop
  | account (name : String) : LeadsTo .account ("@" ++ name) none ("https://github.com/" ++ name)
  | accountTab (name : String) {tab : String} (h : ¬ "org-".toList <+: tab.toList) :
      LeadsTo .account ("@" ++ name) (some tab) ("https://github.com/" ++ name ++ "?tab=" ++ tab)
  | organisationTab (name tab : String) :
      LeadsTo .account ("@" ++ name) (some ("org-" ++ tab))
        ("https://github.com/orgs/" ++ name ++ "/" ++ tab)
  | repository (id : String) (tab : Option String) :
      LeadsTo .repository id tab ("https://github.com/" ++ id)
  | package (id : String) : LeadsTo .package id none ("https://www.npmjs.com/package/" ++ id)
  | packageTab (id tab : String) :
      LeadsTo .package id (some tab)
        ("https://www.npmjs.com/package/" ++ id ++ "?activeTab=" ++ tab)
  | page (id : String) (tab : Option String) : LeadsTo .page id tab id

/-- The icon and the text of a link that leads to an address, unless it has its own. -/
inductive LinkOptions.Shows (options : LinkOptions) :
    LinkKind → String → String → String → String → Prop
  | account (name address : String) :
      Shows options .account ("@" ++ name) address ("https://github.com/" ++ name ++ ".png") name
  | repository {owner : String} (rest address : String) (h : '/' ∉ owner.toList) :
      Shows options .repository (owner ++ "/" ++ rest) address
        ("https://github.com/" ++ owner ++ ".png") (owner ++ "/" ++ rest)
  | package (id address : String) :
      Shows options .package id address (options.faviconOf "www.npmjs.com") id
  | page (id address : String) :
      Shows options .page id address
        (options.faviconOf (String.ofList (Text.hostOf address.toList)))
        (String.ofList (shortAddress id.toList))

/-! ## What is rendered -/

/-- The icon of a link: an element without children, with the address of the icon behind which the
properties of the options come. -/
inductive LinkOptions.IsIcon (options : LinkOptions) (d : Directive) (address : String) :
    Markup → Prop
  | background {properties : Properties} (h : options.icon = .background)
      (hvalue : ∀ key, isClassKey key = false → properties.get? key = lastGiven [
        namedValue "style" (some ("background-image: url(" ++ address ++ ")")) key,
        sourceValue options.iconProperties d key]) :
      IsIcon options d address (.element "span" properties [])
  | img {properties : Properties} (h : options.icon = .img)
      (hvalue : ∀ key, isClassKey key = false → properties.get? key = (lastGiven [
        namedValue "src" (some address) key, sourceValue options.iconProperties d key]).or
          (namedValue "alt" (some "") key)) :
      IsIcon options d address (.element "img" properties [])

/-- The attributes that a link reads. -/
def linkAttributes : List String := ["id", "url", "img", "tab"]

/-- The properties of the anchor of a link. -/
structure IsAnchor (options : LinkOptions) (classPrefix : String) (d : Directive)
    (kind : LinkKind) (address : String) (properties : Properties) : Prop where
  /-- Whatever the options and the author have under this key. -/
  href : properties.get? "href" = some (.string address)
  property : ∀ key, key ≠ "href" → isClassKey key = false →
    properties.get? key = lastGiven [
      sourceValue options.anchorProperties d key,
      namedValue "data-link" (some kind.marker) key,
      d.ownValue linkAttributes key]
  /-- What a link reads is no property of the anchor, unless the options have one of that name. -/
  read : ∀ key ∈ linkAttributes, properties.get? key
    = (sourceValue options.anchorProperties d key).filter Property.truthy
  className : ∃ more, properties.get? "className"
    = some (.list ((classPrefix ++ "-link") :: more))

/-! ## Tabs -/

namespace LinkKind

theorem allowsTab_iff (kind : LinkKind) (tab : String) :
    kind.allowsTab tab = true ↔ tab ∈ kind.tabs := by
  cases kind <;> simp [allowsTab, tabs]

theorem tabOf_eq_ok_iff {kind : LinkKind} {d : Directive} {tab : Option String} :
    kind.tabOf d = .ok tab ↔ tab = d.given? "tab" ∧
      ∀ tab, d.attribute? "tab" = some tab → tab = "" ∨ tab ∈ kind.tabs := by
  rw [tabOf]
  cases hgiven : d.given? "tab" with
  | none =>
    have hempty := Directive.given?_eq_none_iff.mp hgiven
    simp only [Except.ok.injEq]
    constructor
    · rintro rfl
      exact ⟨rfl, fun tab htab => .inl (hempty tab htab)⟩
    · rintro ⟨rfl, -⟩
      rfl
  | some name =>
    obtain ⟨hname, hne⟩ := Directive.given?_eq_some_iff.mp hgiven
    have hall : (∀ tab, d.attribute? "tab" = some tab → tab = "" ∨ tab ∈ kind.tabs)
        ↔ kind.allowsTab name = true := by
      rw [allowsTab_iff]
      constructor
      · intro h
        exact (h name hname).resolve_left hne
      · intro hmem tab htab
        rw [hname, Option.some.injEq] at htab
        exact .inr (htab ▸ hmem)
    rw [hall]
    by_cases hallowed : kind.allowsTab name = true
    · simp [hallowed, eq_comm]
    · simp [hallowed]

/-! ## What comes with the kind -/

variable {id : String} {kind : LinkKind}

/-- What is classified has the form of its kind. -/
theorem fits_of_classify (h : classify id = some kind) : kind.Fits id :=
  (classify_eq_some_iff_takes.mp h).1.1

theorem account_of_classify (h : classify id = some .account) : ∃ name, id = "@" ++ name := by
  obtain ⟨name, hid, -⟩ := fits_of_classify h
  refine ⟨String.ofList name, ?_⟩
  rw [← String.toList_inj, hid]
  simp

theorem owner_of_classify (h : classify id = some .repository) :
    ∃ owner rest, id = owner ++ "/" ++ rest ∧ '/' ∉ owner.toList ∧
      Text.repositoryOwner? id.toList = some owner.toList := by
  have htakes := (classify_eq_some_iff_takes.mp h).1
  obtain ⟨owner, rest, hid, howner, -⟩ := htakes.1
  have htest := repository_iff.mpr htakes
  rw [Bool.and_eq_true, hid, Text.repositoryOwner?_append howner.not_mem_slash] at htest
  refine ⟨String.ofList owner, String.ofList rest, ?_, ?_, ?_⟩
  · rw [← String.toList_inj, hid]
    simp
  · rw [String.toList_ofList]
    exact howner.not_mem_slash
  · rw [hid, Text.repositoryOwner?_append howner.not_mem_slash, String.toList_ofList]
    split at htest
    · next haccount => rw [if_pos haccount]
    · exact absurd htest.1 (by simp)

theorem leadsTo_accountPage (name : String) (tab : Option String) :
    LeadsTo .account ("@" ++ name) tab (accountPage name tab) := by
  cases tab with
  | none => exact .account name
  | some tab =>
    by_cases horg : "org-".toList <+: tab.toList
    · have hpage : accountPage name (some tab)
          = "https://github.com/orgs/" ++ name ++ "/" ++ String.ofList (tab.toList.drop 4) :=
        if_pos (List.isPrefixOf_iff_prefix.mpr horg)
      have htab : tab = "org-" ++ String.ofList (tab.toList.drop 4) := by
        have hsplit := List.prefix_append_drop horg
        rw [← String.toList_inj]
        simpa using hsplit
      rw [hpage]
      generalize String.ofList (tab.toList.drop 4) = rest at htab
      rw [htab]
      exact .organisationTab name rest
    · have hpage : accountPage name (some tab)
          = "https://github.com/" ++ name ++ "?tab=" ++ tab :=
        if_neg (List.isPrefixOf_iff_prefix.not.mpr horg)
      rw [hpage]
      exact .accountTab name horg

theorem leadsTo_packagePage (id : String) (tab : Option String) :
    LeadsTo .package id tab (packagePage id tab) := by
  cases tab with
  | none => exact .package id
  | some tab => exact .packageTab id tab

end LinkKind

namespace LinkOptions

open LinkKind

variable {id : String} {kind : LinkKind} {d : Directive} (options : LinkOptions)

theorem drop_account (name : String) : String.ofList (("@" ++ name).toList.drop 1) = name := by
  simp

/-- Without an address of its own a link leads to the page of its kind. -/
theorem leadsTo_parts (h : classify id = some kind) (tab : Option String) :
    kind.LeadsTo id tab (options.parts kind id tab none).address := by
  cases kind with
  | account =>
    obtain ⟨name, rfl⟩ := account_of_classify h
    rw [parts, drop_account]
    exact leadsTo_accountPage name tab
  | repository => exact .repository id tab
  | package => exact leadsTo_packagePage id tab
  | page => exact .page id tab

/-- There is no other page of the kind. -/
theorem eq_address_of_leadsTo {tab : Option String} {address : String}
    (h : kind.LeadsTo id tab address) : address = (options.parts kind id tab none).address := by
  cases h with
  | account name =>
    rw [parts, drop_account]
    rfl
  | accountTab name horg =>
    rw [parts, drop_account]
    exact (if_neg (List.isPrefixOf_iff_prefix.not.mpr horg)).symm
  | organisationTab name tab =>
    have horg : "org-".toList <+: ("org-" ++ tab).toList := by
      rw [String.toList_append]
      exact List.prefix_append _ _
    have hpage : accountPage name (some ("org-" ++ tab)) = "https://github.com/orgs/" ++ name ++ "/"
        ++ String.ofList (("org-" ++ tab).toList.drop 4) :=
      if_pos (List.isPrefixOf_iff_prefix.mpr horg)
    rw [parts, drop_account, Option.getD_none, hpage]
    simp
  | repository => rfl
  | package => rfl
  | packageTab => rfl
  | page => rfl

theorem address_parts (kind : LinkKind) (id url : String) (tab : Option String) :
    (options.parts kind id tab (some url)).address = url := by
  cases kind <;> rfl

theorem shows_parts (h : classify id = some kind) (tab url : Option String) :
    options.Shows kind id (options.parts kind id tab url).address
      (options.parts kind id tab url).icon (options.parts kind id tab url).text := by
  cases kind with
  | account =>
    obtain ⟨name, rfl⟩ := account_of_classify h
    rw [parts, drop_account]
    exact .account name _
  | repository =>
    obtain ⟨owner, rest, hid, hslash, howner⟩ := owner_of_classify h
    rw [parts, howner, Option.getD_some, String.ofList_toList, hid]
    exact .repository rest _ hslash
  | package => exact .package id _
  | page => exact .page id _

/-! ## The icon -/

theorem isIcon_iconMarkup (d : Directive) (address : String) :
    options.IsIcon d address (options.iconMarkup address d) := by
  unfold iconMarkup
  cases hicon : options.icon with
  | background =>
    refine .background hicon fun key hkey => ?_
    rw [get?_mergeLayers_property hkey, List.map_cons, List.map_singleton, get?_stringLayer]
    rfl
  | img =>
    refine .img hicon fun key hkey => ?_
    rw [SortedMap.get?_insertIfNew, get?_mergeLayers_property hkey, List.map_cons,
      List.map_singleton, get?_stringLayer]
    rfl

/-! ## The anchor -/

theorem get?_anchor {key classPrefix address : String} (hhref : key ≠ "href")
    (hkey : isClassKey key = false) (kind : LinkKind) (d : Directive) :
    ((mergeLayers [classLayer (classPrefix ++ "-link"), resolveSource options.anchorProperties d,
        stringLayer "data-link" kind.marker,
        some (d.attributes.without linkAttributes).toProperties]).insert "href"
          (.string address)).get? key
      = lastGiven [sourceValue options.anchorProperties d key,
        namedValue "data-link" (some kind.marker) key, d.ownValue linkAttributes key] := by
  rw [SortedMap.get?_insert, if_neg hhref, get?_mergeLayers_classLayer hkey]
  simp only [List.map_cons, List.map_nil, get?_stringLayer, Option.bind_some, get?_ownAttributes]
  rfl

/-- What a directive says that is a link is enough to render it. -/
theorem resolve_of_isLink (h : d.IsLink id kind) (classPrefix : String) :
    ∃ properties markup, options.resolve classPrefix d = .ok {
        name := "a"
        properties
        children := some [markup, .text (d.firstText?.getD
          (options.parts kind id (d.given? "tab") (d.given? "url")).text)] } ∧
      options.IsIcon d ((d.given? "img").getD
        (options.parts kind id (d.given? "tab") (d.given? "url")).icon) markup ∧
      IsAnchor options classPrefix d kind
        (options.parts kind id (d.given? "tab") (d.given? "url")).address properties := by
  have hid : d.given? "id" = some id := Directive.given?_eq_some_iff.mpr ⟨h.present, h.nonempty⟩
  have htab : kind.tabOf d = .ok (d.given? "tab") := tabOf_eq_ok_iff.mpr ⟨rfl, h.tabbed⟩
  rw [resolve, hid]
  dsimp only
  rw [h.classified]
  dsimp only
  rw [htab]
  refine ⟨_, _, rfl, options.isIcon_iconMarkup d _, ?_, ?_, ?_, ?_⟩
  · rw [SortedMap.get?_insert, if_pos rfl]
  · intro key hhref hkey
    exact get?_anchor options hhref hkey kind d
  · intro key hread
    -- none of them is the address or a class, nor the marker
    have hplain : key ≠ "href" ∧ isClassKey key = false ∧ key ≠ "data-link" := by
      revert key
      decide
    obtain ⟨hhref, hkey, hmarker⟩ := hplain
    refine (get?_anchor options hhref hkey kind d).trans ?_
    rw [namedValue, if_neg hmarker, Directive.ownValue, if_pos hread, lastGiven_single]
  · have hname : (classPrefix ++ "-link").isEmpty = false := by simp
    rw [SortedMap.get?_insert, if_neg (by decide)]
    exact className_mergeLayers hname _

/-- Nothing else is rendered as a link. -/
theorem isLink_of_resolve {classPrefix : String} {target : RenderTarget}
    (h : options.resolve classPrefix d = .ok target) : ∃ id kind, d.IsLink id kind := by
  rw [resolve] at h
  split at h
  · cases h
  · next id hid =>
    split at h
    · cases h
    · next kind hkind =>
      split at h
      · cases h
      · next tab htab =>
        obtain ⟨hpresent, hne⟩ := Directive.given?_eq_some_iff.mp hid
        exact ⟨id, kind, hpresent, hne, hkind, (tabOf_eq_ok_iff.mp htab).2⟩

end LinkOptions

/--
**When a link is rendered, and as what.**

A link is rendered exactly if its id is of some kind and its tab, if it has one, is known there. It
leads to the address that the author gives, or else to the page of the kind, whatever else is merged
into the anchor; the icon and the text of the kind give way to those of the author too.
-/
theorem Transformer.resolve_link (t : Transformer) (d : Directive) (found : NameMatch)
    (hroute : t.route d.name = some (.link, found)) (hkind : d.kind = .text) :
    ((∃ resolution, (t.resolve d).2 = .ok resolution) ↔ ∃ id kind, d.IsLink id kind) ∧
      ∀ id kind, d.IsLink id kind → ∃ address icon text properties markup,
        t.resolve d = ({ d with data := { d.data with
            name := some "a"
            properties := some properties
            children := some [markup, .text (d.firstText?.getD text)] } },
          .ok (.family .link)) ∧
        (∀ url, d.given? "url" = some url → address = url) ∧
        (d.given? "url" = none → kind.LeadsTo id (d.given? "tab") address) ∧
        t.options.link.Shows kind id address icon text ∧
        t.options.link.IsIcon d ((d.given? "img").getD icon) markup ∧
        IsAnchor t.options.link t.options.classPrefix d kind address properties := by
  constructor
  · rw [exists_ok_iff hroute hkind]
    constructor
    · rintro ⟨target, htarget⟩
      exact t.options.link.isLink_of_resolve htarget
    · rintro ⟨id, kind, h⟩
      obtain ⟨properties, markup, htarget, -⟩ :=
        t.options.link.resolve_of_isLink h t.options.classPrefix
      exact ⟨_, htarget⟩
  · intro id kind h
    obtain ⟨properties, markup, htarget, hicon, hanchor⟩ :=
      t.options.link.resolve_of_isLink h t.options.classPrefix
    refine ⟨_, _, _, properties, markup, resolve_of_target hroute hkind (by simp) htarget, ?_, ?_,
      t.options.link.shows_parts h.classified _ _, hicon, hanchor⟩
    · intro url hurl
      rw [hurl]
      exact t.options.link.address_parts kind id url _
    · intro hurl
      rw [hurl]
      exact t.options.link.leadsTo_parts h.classified _

/-! ### A link with everything -/

/-- Options that have an address and an id for every link. -/
def teamOptions : Options where
  link := {
    anchorProperties := some (.fixed (.ofList [("href", .string "https://example.com"),
      ("id", .string "team"), ("target", .string "_blank")]))
    icon := .img }

/-- A link to the people of an organisation, with an address and a marker among its attributes. -/
def teamLink : Directive where
  kind := .text
  name := "link"
  attributes := .ofList [("id", "@withastro"), ("tab", "org-people"), ("href", "/here"),
    ("data-link", "team"), ("target", ""), ("class", "wide")]
  children := [.text "The team"]

/-- The address is that of the tab, the id is that of the options, and the marker the author's. -/
theorem resolve_link_team :
    Transformer.ofOptions teamOptions = .ok (.plain teamOptions) ∧
      (Transformer.plain teamOptions).route teamLink.name = some (.link, {}) ∧
      teamLink.kind = .text ∧ teamLink.IsLink "@withastro" .account ∧
      ∃ properties markup, (Transformer.plain teamOptions).resolve teamLink
          = ({ teamLink with data := {
              name := some "a"
              properties := some properties
              children := some [markup, .text "The team"] } }, .ok (.family .link)) ∧
        properties.get? "href" = some (.string "https://github.com/orgs/withastro/people") ∧
        properties.get? "id" = some (.string "team") ∧
        properties.get? "tab" = none ∧
        properties.get? "target" = some (.string "_blank") ∧
        properties.get? "data-link" = some (.string "team") := by
  have hroute : (Transformer.plain teamOptions).route teamLink.name = some (.link, {}) := rfl
  have hlink : teamLink.IsLink "@withastro" .account := by
    refine ⟨rfl, by decide, by decide, fun tab htab => .inr ?_⟩
    cases htab
    decide
  obtain ⟨-, hresolve⟩ := Transformer.resolve_link (.plain teamOptions) teamLink {} hroute rfl
  obtain ⟨address, icon, text, properties, markup, hok, -, hleads, -, -, h⟩ := hresolve _ _ hlink
  have haddress : address = "https://github.com/orgs/withastro/people" :=
    teamOptions.link.eq_address_of_leadsTo (hleads rfl)
  refine ⟨rfl, hroute, rfl, hlink, properties, markup, hok, haddress ▸ h.href, ?_, ?_, ?_, ?_⟩
  · rw [h.read "id" (by decide)]
    rfl
  · rw [h.read "tab" (by decide)]
    rfl
  · rw [h.property "target" (by decide) (by decide)]
    rfl
  · rw [h.property "data-link" (by decide) (by decide)]
    rfl

end MarkdownDirectives
