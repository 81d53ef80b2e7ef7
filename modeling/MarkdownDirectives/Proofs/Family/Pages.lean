import MarkdownDirectives.Proofs.Family.Links
import MarkdownDirectives.Proofs.Text.Replacement

/-!
# Links to pages

The id of a link to a page is an address: a protocol or none, a host, and nothing or a path. The
icon and the text of the link are made from the host and the path, which are looked for once more
by other tests than the one that took the id.

* `AddressParts.Spell` — the address taken apart, in one way only
* `ShortText` — the text that a host and a path are shown as
* `Transformer.resolve_page` — the icon and the text of a link to a page

## Two tests for a protocol

The test of the id knows the protocols of the web. What is dropped from the text is a protocol of
any name, or none in front of two slashes. A host begins with neither, for a dot comes in it before
any colon or slash.
-/

namespace MarkdownDirectives

/-! ## Addresses taken apart -/

/-- The parts of the address of a page. -/
@[ext]
structure AddressParts where
  protocol : String
  host : String
  path : String

/-- The parts are put together to an address. -/
structure AddressParts.Spell (parts : AddressParts) (id : String) : Prop where
  spelled : id = parts.protocol ++ parts.host ++ parts.path
  protocol : parts.protocol = "" ∨ parts.protocol = "http://" ∨ parts.protocol = "https://"
  host : Text.IsHostName parts.host.toList
  path : Text.IsAddressPath parts.path.toList

/-- The text that a host and a path are shown as. It is cut between characters. -/
inductive ShortText (host : String) : String → String → Prop
  | bare : ShortText host "" host
  | slash : ShortText host "/" host
  | whole {path : String} (hne : path ≠ "") (hshort : path.length ≤ 14) :
      ShortText host ("/" ++ path) (host ++ "/" ++ path)
  | cut {shown more : String} (hshown : shown.length = 14) (hmore : more ≠ "") :
      ShortText host ("/" ++ (shown ++ more)) (host ++ "/" ++ shown ++ "...")

/-- How many characters the path has decides what is shown of it. -/
theorem ShortText.eq_append {host path text : String} (h : ShortText host path text) :
    text = host ++ if path.length ≤ 1 then "" else if path.length ≤ 15 then path
      else String.ofList (path.toList.take 15) ++ "..." := by
  cases h with
  | bare => simp
  | slash => rw [if_pos (by decide), String.append_empty]
  | @whole path hne hshort =>
    have hpos : path.length ≠ 0 := by rwa [ne_eq, String.length_eq_zero_iff]
    have hlength : ("/" ++ path).length = 1 + path.length := String.length_append _ _
    rw [if_neg (by omega), if_pos (by omega), String.append_assoc]
  | @cut shown more hshown hmore =>
    have hpos : more.length ≠ 0 := by rwa [ne_eq, String.length_eq_zero_iff]
    have hlength : ("/" ++ (shown ++ more)).length = 1 + (14 + more.length) := by
      rw [String.length_append, String.length_append, hshown]
      rfl
    have htake : ("/" ++ (shown ++ more)).toList.take 15 = '/' :: shown.toList := by
      have hshown' : shown.toList.length = 14 := by rwa [String.length_toList]
      simp [List.take_left' hshown']
    rw [if_neg (by omega), if_neg (by omega), htake]
    rw [← String.toList_inj]
    simp

namespace Text

variable {protocol host path : List Char}

/-! ## The host is found again -/

/-- Up to its first dot or hyphen a host has letters, digits and underscores. -/
theorem IsHostName.exists_mark (h : IsHostName host) :
    ∃ front c rest, host = front ++ c :: rest ∧ (c = '.' ∨ c = '-') ∧
      ∀ d ∈ front, (d.isAlphanum || d == '_') = true := by
  have hdot : '.' ∈ host := by
    obtain ⟨labels, domain, rfl, hne, -⟩ := h
    obtain ⟨label, more, rfl⟩ := List.exists_cons_of_ne_nil hne
    simp
  have hsome : (host.find? fun c => !(c.isAlphanum || c == '_')).isSome = true :=
    List.find?_isSome.mpr ⟨'.', hdot, by decide⟩
  obtain ⟨c, hc⟩ := Option.isSome_iff_exists.mp hsome
  obtain ⟨hmark, front, rest, rfl, hfront⟩ := List.find?_eq_some_iff_append.mp hc
  refine ⟨front, c, rest, rfl, ?_, ?_⟩
  · rcases h.chars c (by simp) with hdot | hname
    · exact .inl hdot
    · refine .inr ?_
      simp only [isNameChar, Bool.or_eq_true, beq_iff_eq] at hname
      simp only [Bool.not_eq_true', Bool.or_eq_false_iff, beq_eq_false_iff_ne] at hmark
      rcases hname with (halnum | hhyphen) | hunder
      · exact absurd halnum (by simp [hmark.1])
      · exact hhyphen
      · exact absurd hunder hmark.2
  · intro d hd
    simpa using hfront d hd

/-- No host begins like a protocol. -/
theorem dropProtocol_host (h : IsHostName host) (path : List Char) :
    dropProtocol (host ++ path) = host ++ path := by
  obtain ⟨front, c, rest, rfl, hmark, hfront⟩ := h.exists_mark
  have hc : (c.isAlphanum || c == '_') = false := by
    rcases hmark with rfl | rfl
    · decide
    · decide
  -- the name that a protocol would have ends at the mark, and no protocol goes on with one
  have htake := (Prod.mk.inj (cut_append hfront hc (rest ++ path))).1
  rw [List.append_assoc, List.cons_append, dropProtocol, htake, List.drop_left]
  rcases hmark with rfl | rfl
  · rfl
  · rfl

theorem dropProtocol_append (hprotocol : protocol ∈ webProtocols) (hhost : IsHostName host)
    (path : List Char) : dropProtocol (protocol ++ (host ++ path)) = host ++ path := by
  simp only [webProtocols, List.mem_cons, List.not_mem_nil, or_false] at hprotocol
  rcases hprotocol with rfl | rfl | rfl
  · exact dropProtocol_host hhost path
  · rfl
  · rfl

/-- The host ends where the path begins. -/
theorem hostOf_append (hprotocol : protocol ∈ webProtocols) (hhost : IsHostName host)
    (hpath : IsAddressPath path) : hostOf (protocol ++ (host ++ path)) = host := by
  have hclear : ∀ c ∈ host, (c != '/' && c != '?' && c != '#') = true := by
    intro c hc
    rcases hhost.chars c hc with rfl | hname
    · decide
    · simp only [Bool.and_eq_true, bne_iff_ne]
      refine ⟨⟨?_, ?_⟩, ?_⟩ <;>
      · rintro rfl
        exact absurd hname (by decide)
  rw [hostOf, dropProtocol_append hprotocol hhost]
  rcases hpath with rfl | ⟨rest, rfl, -⟩
  · rw [List.append_nil]
    exact (Prod.mk.inj (cut_of_forall hclear)).1
  · exact (Prod.mk.inj (cut_append hclear rfl rest)).1

end Text

/-! ## Parts of an address -/

namespace AddressParts.Spell

variable {parts : AddressParts} {id : String}

theorem toList_eq (h : parts.Spell id) :
    id.toList = parts.protocol.toList ++ (parts.host.toList ++ parts.path.toList) := by
  rw [h.spelled, String.toList_append, String.toList_append, List.append_assoc]

theorem mem_webProtocols (h : parts.Spell id) : parts.protocol.toList ∈ Text.webProtocols := by
  rcases h.protocol with hp | hp | hp <;>
  · rw [hp]
    decide

theorem hostOf_eq (h : parts.Spell id) : Text.hostOf id.toList = parts.host.toList := by
  rw [h.toList_eq]
  exact Text.hostOf_append h.mem_webProtocols h.host h.path

theorem dropProtocol_eq (h : parts.Spell id) :
    Text.dropProtocol id.toList = parts.host.toList ++ parts.path.toList := by
  rw [h.toList_eq]
  exact Text.dropProtocol_append h.mem_webProtocols h.host _

/-- An address can be taken apart in one way only. -/
theorem unique {others : AddressParts} (h : parts.Spell id) (hothers : others.Spell id) :
    parts = others := by
  have hhost : parts.host = others.host := by
    rw [← String.toList_inj, ← h.hostOf_eq, hothers.hostOf_eq]
  have hrest := h.dropProtocol_eq.symm.trans hothers.dropProtocol_eq
  rw [hhost, List.append_cancel_left_eq, String.toList_inj] at hrest
  have hall := h.toList_eq.symm.trans hothers.toList_eq
  -- with the same host and path behind it the protocol is the same as well
  rw [hhost, hrest, List.append_cancel_right_eq, String.toList_inj] at hall
  exact AddressParts.ext hall hhost hrest

theorem exists_of_classify (h : LinkKind.classify id = some .page) :
    ∃ parts : AddressParts, parts.Spell id := by
  obtain ⟨protocol, host, path, hid, hprotocol, hhost, hpath⟩ := LinkKind.fits_of_classify h
  refine ⟨⟨String.ofList protocol, String.ofList host, String.ofList path⟩, ?_, ?_, ?_, ?_⟩
  · rw [← String.toList_inj, hid]
    simp
  · simp only [Text.webProtocols, List.mem_cons, List.not_mem_nil, or_false] at hprotocol
    rcases hprotocol with rfl | rfl | rfl
    · exact .inl rfl
    · exact .inr (.inl String.ofList_toList)
    · exact .inr (.inr String.ofList_toList)
  · rwa [String.toList_ofList]
  · rwa [String.toList_ofList]

/-! ## The text -/

/-- A path that is too long is cut behind as many characters as are shown. -/
theorem shortText_of_long (host : String) {path : List Char} (hlong : 14 < path.length) :
    ShortText host ("/" ++ String.ofList path)
      (host ++ "/" ++ String.ofList (path.take 14) ++ "...") := by
  have hpath : String.ofList path
      = String.ofList (path.take 14) ++ String.ofList (path.drop 14) := by
    rw [← String.ofList_append, List.take_append_drop]
  have hshown : (String.ofList (path.take 14)).length = 14 := by
    rw [String.length_ofList, List.length_take]
    omega
  have hmore : String.ofList (path.drop 14) ≠ "" := by
    intro hempty
    have hlength := congrArg String.length hempty
    rw [String.length_ofList, List.length_drop, String.length_empty] at hlength
    omega
  rw [hpath]
  exact .cut hshown hmore

/-- The text is made of the host and the path of the address. -/
theorem shortText (h : parts.Spell id) :
    ShortText parts.host parts.path (String.ofList (shortAddress id.toList)) := by
  obtain ⟨htake, hdrop⟩ := Text.cut_host h.host h.path
  rw [shortAddress, h.dropProtocol_eq]
  simp only [htake, hdrop]
  rcases h.path with hpath | ⟨rest, hpath, -⟩
  · have hbare : parts.path = "" := by
      rw [← String.toList_inj, hpath]
      rfl
    rw [hpath, hbare, List.append_nil, String.ofList_toList]
    exact .bare
  · have hslash : parts.path = "/" ++ String.ofList rest := by
      rw [← String.toList_inj, hpath]
      simp
    rw [hpath, hslash]
    cases rest with
    | nil =>
      rw [String.ofList_toList]
      exact .slash
    | cons c more =>
      have hne : String.ofList (c :: more) ≠ "" := by simp
      by_cases hshort : (c :: more).length ≤ 14
      · have htext : String.ofList (parts.host.toList ++ '/' :: c :: more)
            = parts.host ++ "/" ++ String.ofList (c :: more) := by
          rw [← String.toList_inj]
          simp
        simp only [maxPathChars, hshort, if_true, htext]
        exact .whole hne (by rwa [String.length_ofList])
      · have htext : String.ofList
            (parts.host.toList ++ '/' :: (c :: more).take 14 ++ ['.', '.', '.'])
            = parts.host ++ "/" ++ String.ofList ((c :: more).take 14) ++ "..." := by
          rw [← String.toList_inj]
          simp
        simp only [maxPathChars, hshort, if_false, htext]
        exact shortText_of_long parts.host (Nat.lt_of_not_le hshort)

end AddressParts.Spell

/-! ## The icon -/

theorem hostPlaceholder_ne_empty : hostPlaceholder ≠ "" := by decide

/-- The host stands in every place for it. -/
theorem LinkOptions.faviconOf_eq {options : LinkOptions} {pieces : List String}
    (h : Text.IsCut hostPlaceholder options.favicon pieces) (host : String) :
    options.faviconOf host = host.intercalate pieces := by
  have hmark : hostPlaceholder.toList = '\x7b' :: "domain\x7d".toList := by decide
  exact Text.replaceString_of_isCut hmark (by decide) h host

/--
**What a link to a page shows.**

The id can be taken apart in one way. The host of it stands in every place that the address of the
icon has for it, and the text is the host with the path, of which no more than fourteen characters
are shown. The author's own icon and text come first.
-/
theorem Transformer.resolve_page (t : Transformer) (d : Directive) (found : NameMatch)
    (hroute : t.route d.name = some (.link, found)) (hkind : d.kind = .text) {id : String}
    (h : d.IsLink id .page) (hurl : d.given? "url" = none) :
    (∃! parts : AddressParts, parts.Spell id) ∧
      (∃ pieces, Text.IsCut hostPlaceholder t.options.link.favicon pieces) ∧
      ∀ (parts : AddressParts) (pieces : List String), parts.Spell id →
        Text.IsCut hostPlaceholder t.options.link.favicon pieces →
        ∃ text properties markup, ShortText parts.host parts.path text ∧
          t.resolve d = ({ d with data := { d.data with
              name := some "a"
              properties := some properties
              children := some [markup, .text (d.firstText?.getD text)] } },
            .ok (.family .link)) ∧
          t.options.link.IsIcon d ((d.given? "img").getD (parts.host.intercalate pieces)) markup ∧
          IsAnchor t.options.link t.options.classPrefix d .page id properties := by
  obtain ⟨parts, hparts⟩ := AddressParts.Spell.exists_of_classify h.classified
  refine ⟨⟨parts, hparts, fun others hothers => hothers.unique hparts⟩,
    Text.exists_isCut hostPlaceholder_ne_empty _, ?_⟩
  intro parts pieces hparts hcut
  obtain ⟨properties, markup, htarget, hmarkup, hanchor⟩ :=
    t.options.link.resolve_of_isLink h t.options.classPrefix
  have hicon : t.options.link.faviconOf (String.ofList (Text.hostOf id.toList))
      = parts.host.intercalate pieces := by
    rw [hparts.hostOf_eq, String.ofList_toList, LinkOptions.faviconOf_eq hcut]
  rw [hurl, LinkOptions.parts, Option.getD_none] at htarget hmarkup hanchor
  rw [hicon] at hmarkup
  exact ⟨_, properties, markup, hparts.shortText,
    resolve_of_target hroute hkind (by simp) htarget, hmarkup, hanchor⟩

/-! ### A page with a long path -/

/-- Options with two places for the host in the address of an icon. -/
def twiceOptions : Options where
  link := { favicon := "https://icons.example/\x7bdomain\x7d?of=\x7bdomain\x7d" }

/-- A link to a page whose path has slashes, a colon and letters of two bytes. -/
def longLink : Directive where
  kind := .text
  name := "link"
  attributes := .ofList [("id", "https://my-site.example.org/ä//b:c?d#éfgh-und-mehr")]
  children := []

/-- The icon has the host twice, and the text ends behind the fourteenth character of the path. -/
theorem resolve_page_long :
    Transformer.ofOptions twiceOptions = .ok (.plain twiceOptions) ∧
      (Transformer.plain twiceOptions).route longLink.name = some (.link, {}) ∧
      longLink.kind = .text ∧
      longLink.IsLink "https://my-site.example.org/ä//b:c?d#éfgh-und-mehr" .page ∧
      longLink.given? "url" = none ∧
      ∃ properties markup, (Transformer.plain twiceOptions).resolve longLink
          = ({ longLink with data := {
              name := some "a"
              properties := some properties
              children := some [markup, .text "my-site.example.org/ä//b:c?d#éfgh-..."] } },
            .ok (.family .link)) ∧
        twiceOptions.link.IsIcon longLink
          "https://icons.example/my-site.example.org?of=my-site.example.org" markup := by
  have hroute : (Transformer.plain twiceOptions).route longLink.name = some (.link, {}) := rfl
  have hlink : longLink.IsLink "https://my-site.example.org/ä//b:c?d#éfgh-und-mehr" .page :=
    ⟨rfl, by decide, by decide, nofun⟩
  have hclear : "ä//b:c?d#éfgh-und-mehr".toList.any Text.isBlank = false := by decide
  have hpath : Text.IsAddressPath "/ä//b:c?d#éfgh-und-mehr".toList :=
    .inr ⟨"ä//b:c?d#éfgh-und-mehr".toList, by decide, fun c hc =>
      Bool.eq_false_iff.mpr (List.any_eq_false.mp hclear c hc)⟩
  have hparts : AddressParts.Spell ⟨"https://", "my-site.example.org", "/ä//b:c?d#éfgh-und-mehr"⟩
      "https://my-site.example.org/ä//b:c?d#éfgh-und-mehr" :=
    ⟨by decide, .inr (.inr rfl), (Text.isHost_iff _).mp (by decide), hpath⟩
  have hcut : Text.IsCut hostPlaceholder twiceOptions.link.favicon
      ["https://icons.example/", "?of=", ""] := ⟨by decide, by decide, by decide⟩
  obtain ⟨-, -, hresolve⟩ :=
    Transformer.resolve_page (.plain twiceOptions) longLink {} hroute rfl hlink rfl
  obtain ⟨text, properties, markup, hshort, hok, hicon, -⟩ := hresolve _ _ hparts hcut
  have htext : text = "my-site.example.org/ä//b:c?d#éfgh-..." :=
    hshort.eq_append.trans (by decide)
  rw [htext] at hok
  exact ⟨rfl, hroute, rfl, hlink, rfl, properties, markup, hok, hicon⟩

end MarkdownDirectives
