import Mathlib.Data.List.Infix
import MarkdownDirectives.Family.Link
import MarkdownDirectives.Text.Words

/-!
# What the id of a link can be

The forms of an id as grammars: each says how an id of the form is put together, while the tests
that tell the forms apart look for the first slash and cut a host at its dots.

* `Text.isAccount_iff`, `Text.repositoryOwner?_isSome_iff` — accounts and repositories
* `Text.isPackage_iff` — packages
* `Text.isAddress_iff` — pages
* `LinkKind.classify_eq_some_iff` — the first form that fits decides

## Names of one character

The name of an account may have one character, but the test for it asks for two ends. An id that
starts with such a name has no kind at all, for no other form takes it either.
-/

namespace MarkdownDirectives

namespace Text

/-! ## Accounts and repositories -/

/-- The name of an account, whether or not two hyphens stand next to each other in it. -/
structure IsAccountName (name : List Char) : Prop where
  nonempty : 1 ≤ name.length
  short : name.length ≤ 39
  chars : ∀ c ∈ name, isNameChar c = true
  first : ∀ c, name.head? = some c → c.isAlphanum = true
  last : ∀ c, name.getLast? = some c → c.isAlphanum = true

theorem hasDoubleHyphen_iff (cs : List Char) :
    hasDoubleHyphen cs = true ↔ ['-', '-'] <:+: cs := by
  induction cs using hasDoubleHyphen.induct with
  | case1 rest => simpa [hasDoubleHyphen] using (List.prefix_append ['-', '-'] rest).isInfix
  | case2 c rest hne ih =>
    have hstart : ¬ ['-', '-'] <+: c :: rest := by
      rintro ⟨more, hmore⟩
      obtain ⟨rfl, rfl⟩ := List.cons.inj hmore
      exact hne more rfl rfl
    rw [hasDoubleHyphen, ih, List.infix_cons_iff, or_iff_right hstart]
    exact hne
  | case3 => simp [hasDoubleHyphen]

/-- The test for the name of an account takes those of at least two characters. -/
theorem isAccount_iff (name : List Char) :
    isAccount name = true ↔ IsAccountName name ∧ 2 ≤ name.length := by
  simp only [isAccount, Bool.and_eq_true, decide_eq_true_eq, Option.any_eq_true, List.all_eq_true]
  constructor
  · rintro ⟨⟨⟨⟨htwo, hshort⟩, c, hc, hfirst⟩, d, hd, hlast⟩, hchars⟩
    refine ⟨⟨Nat.le_of_succ_le htwo, hshort, hchars, ?_, ?_⟩, htwo⟩
    · intro c' hc'
      cases hc.symm.trans hc'
      exact hfirst
    · intro d' hd'
      cases hd.symm.trans hd'
      exact hlast
  · rintro ⟨h, htwo⟩
    have hne : name ≠ [] := by
      rintro rfl
      exact absurd htwo (by simp)
    obtain ⟨c, hc⟩ := Option.ne_none_iff_exists'.mp (List.head?_eq_none_iff.not.mpr hne)
    obtain ⟨d, hd⟩ := Option.ne_none_iff_exists'.mp (List.getLast?_eq_none_iff.not.mpr hne)
    exact ⟨⟨⟨⟨htwo, h.short⟩, c, hc, h.first c hc⟩, d, hd, h.last d hd⟩, h.chars⟩

theorem IsAccountName.not_mem_slash {name : List Char} (h : IsAccountName name) : '/' ∉ name := by
  intro hmem
  exact absurd (h.chars '/' hmem) (by decide)

/-- A text is cut at its first slash. -/
theorem cut_slash {front : List Char} (hfront : '/' ∉ front) (rest : List Char) :
    (front ++ '/' :: rest).takeWhile (· != '/') = front ∧
      (front ++ '/' :: rest).drop front.length = '/' :: rest := by
  have hclear : ∀ d ∈ front, (d != '/') = true := by
    intro d hd
    rw [bne_iff_ne]
    rintro rfl
    exact hfront hd
  exact ⟨(Prod.mk.inj (cut_append hclear rfl rest)).1, List.drop_left⟩

/-- A text without a slash is not cut. -/
theorem cut_slash_of_not_mem {cs : List Char} (h : '/' ∉ cs) :
    cs.takeWhile (· != '/') = cs ∧ cs.drop cs.length = [] := by
  have hclear : ∀ d ∈ cs, (d != '/') = true := by
    intro d hd
    rw [bne_iff_ne]
    rintro rfl
    exact h hd
  exact ⟨(Prod.mk.inj (cut_of_forall hclear)).1, List.drop_length⟩

theorem repositoryOwner?_append {owner : List Char} (howner : '/' ∉ owner) (rest : List Char) :
    repositoryOwner? (owner ++ '/' :: rest)
      = if isAccount owner && !rest.contains '\n' then some owner else none := by
  obtain ⟨htake, hdrop⟩ := cut_slash howner rest
  rw [repositoryOwner?]
  simp only [htake, hdrop]

theorem repositoryOwner?_of_not_mem {cs : List Char} (h : '/' ∉ cs) :
    repositoryOwner? cs = none := by
  obtain ⟨htake, hdrop⟩ := cut_slash_of_not_mem h
  rw [repositoryOwner?]
  simp only [htake, hdrop]

/-- In front of the first slash stands the name of an account, and behind it any line. -/
theorem repositoryOwner?_isSome_iff (cs : List Char) :
    (repositoryOwner? cs).isSome = true ↔ ∃ owner rest, cs = owner ++ '/' :: rest ∧
      IsAccountName owner ∧ 2 ≤ owner.length ∧ '\n' ∉ rest := by
  constructor
  · intro h
    by_cases hslash : '/' ∈ cs
    · obtain ⟨owner, rest, rfl, howner⟩ := List.eq_append_cons_of_mem hslash
      rw [repositoryOwner?_append howner] at h
      split at h
      · next htest =>
        simp only [Bool.and_eq_true, isAccount_iff, Bool.not_eq_true', List.contains_eq_mem,
          decide_eq_false_iff_not] at htest
        exact ⟨owner, rest, rfl, htest.1.1, htest.1.2, htest.2⟩
      · cases h
    · rw [repositoryOwner?_of_not_mem hslash] at h
      cases h
  · rintro ⟨owner, rest, rfl, hname, htwo, hline⟩
    have haccount : isAccount owner = true := (isAccount_iff owner).mpr ⟨hname, htwo⟩
    rw [repositoryOwner?_append hname.not_mem_slash, haccount]
    simp [hline]

/-! ## Packages -/

/-- A part of the name of a package. -/
def IsPackageName (part : List Char) : Prop :=
  ∃ first rest, part = first :: rest ∧ (first.isLower = true ∨ first.isDigit = true) ∧
    ∀ c ∈ rest, isPackageChar c = true

theorem isPackagePart_iff (part : List Char) :
    isPackagePart part = true ↔ IsPackageName part := by
  cases part with
  | nil => simp [isPackagePart, IsPackageName]
  | cons first rest =>
    have hfirst : first.isLower = true ∨ first.isDigit = true → isPackageChar first = true := by
      intro h
      rcases h with h | h
      · simp [isPackageChar, h]
      · simp [isPackageChar, h]
    simp only [isPackagePart, IsPackageName, List.head?_cons, Option.any_some, List.all_cons,
      Bool.and_eq_true, Bool.or_eq_true, List.all_eq_true]
    constructor
    · rintro ⟨hstart, -, hrest⟩
      exact ⟨first, rest, rfl, hstart, hrest⟩
    · rintro ⟨first', rest', heq, hstart, hrest⟩
      obtain ⟨rfl, rfl⟩ := List.cons.inj heq
      exact ⟨hstart, hfirst hstart, hrest⟩

theorem IsPackageName.chars {part : List Char} (h : IsPackageName part) :
    ∀ c ∈ part, isPackageChar c = true := by
  intro c hc
  have hall := (isPackagePart_iff part).mpr h
  rw [isPackagePart, Bool.and_eq_true] at hall
  exact List.all_eq_true.mp hall.2 c hc

/-- A package, with a scope or without. -/
def IsPackageId (cs : List Char) : Prop :=
  IsPackageName cs ∨ ∃ scope name, cs = '@' :: (scope ++ '/' :: name) ∧ IsPackageName scope ∧
    IsPackageName name

theorem isPackage_scoped (rest : List Char) :
    isPackage ('@' :: rest) = true ↔ ∃ scope name, rest = scope ++ '/' :: name ∧
      IsPackageName scope ∧ IsPackageName name := by
  constructor
  · intro h
    rw [isPackage] at h
    by_cases hslash : '/' ∈ rest
    · obtain ⟨scope, name, rfl, hscope⟩ := List.eq_append_cons_of_mem hslash
      obtain ⟨htake, hdrop⟩ := cut_slash hscope name
      simp only [htake, hdrop, Bool.and_eq_true, isPackagePart_iff] at h
      exact ⟨scope, name, rfl, h⟩
    · obtain ⟨htake, hdrop⟩ := cut_slash_of_not_mem hslash
      simp [htake, hdrop] at h
  · rintro ⟨scope, name, rfl, hscope, hname⟩
    have hslash : '/' ∉ scope := by
      intro hmem
      exact absurd (hscope.chars '/' hmem) (by decide)
    obtain ⟨htake, hdrop⟩ := cut_slash hslash name
    rw [isPackage]
    simp only [htake, hdrop, Bool.and_eq_true, isPackagePart_iff]
    exact ⟨hscope, hname⟩

theorem isPackage_iff (cs : List Char) : isPackage cs = true ↔ IsPackageId cs := by
  by_cases hat : cs.head? = some '@'
  · obtain ⟨rest, rfl⟩ := List.head?_eq_some_iff.mp hat
    have hname : ¬ IsPackageName ('@' :: rest) := by
      intro h
      exact absurd (h.chars '@' List.mem_cons_self) (by decide)
    rw [isPackage_scoped, IsPackageId, or_iff_right hname]
    simp
  · have hscoped : ∀ rest, cs ≠ '@' :: rest := by
      rintro rest rfl
      exact hat rfl
    rw [isPackage, isPackagePart_iff, IsPackageId]
    · refine ⟨.inl, ?_⟩
      rintro (hname | ⟨scope, name, heq, -⟩)
      · exact hname
      · exact absurd heq (hscoped _)
    · exact hscoped

/-! ## Pages -/

/-- A label of a host name. -/
def IsHostLabel (label : List Char) : Prop :=
  label ≠ [] ∧ ∀ c ∈ label, isNameChar c = true

/-- A host name: labels, each with a dot behind it, and a top-level domain. -/
def IsHostName (host : List Char) : Prop :=
  ∃ labels domain, host = labels.flatMap (· ++ ['.']) ++ domain ∧ labels ≠ [] ∧
    (∀ label ∈ labels, IsHostLabel label) ∧ 2 ≤ domain.length ∧ ∀ c ∈ domain, c.isLower = true

theorem intercalate_dots (labels : List (List Char)) (domain : List Char) :
    ['.'].intercalate (labels ++ [domain]) = labels.flatMap (· ++ ['.']) ++ domain := by
  induction labels with
  | nil => simp [List.intercalate]
  | cons label more ih =>
    have hne : more ++ [domain] ≠ [] :=
      List.append_ne_nil_of_right_ne_nil more (List.cons_ne_nil domain [])
    obtain ⟨next, others, hmore⟩ := List.exists_cons_of_ne_nil hne
    rw [List.cons_append, List.flatMap_cons, List.append_assoc, ← ih, hmore,
      List.intercalate_cons_cons]

theorem isHost_iff (host : List Char) : isHost host = true ↔ IsHostName host := by
  constructor
  · intro h
    simp only [isHost, Bool.and_eq_true, decide_eq_true_eq, List.all_eq_true, Bool.not_eq_true',
      List.isEmpty_eq_false_iff, Option.any_eq_true] at h
    obtain ⟨⟨hparts, hlabels⟩, domain, hlast, hdomain⟩ := h
    have hsplit : (host.splitOn '.').dropLast ++ [domain] = host.splitOn '.' :=
      List.dropLast_append_getLast? domain hlast
    refine ⟨(host.splitOn '.').dropLast, domain, ?_, ?_, hlabels, hdomain⟩
    · rw [← intercalate_dots, hsplit, List.intercalate_splitOn]
    · intro hnil
      have hlength := congrArg List.length hnil
      rw [List.length_dropLast, List.length_nil] at hlength
      omega
  · rintro ⟨labels, domain, rfl, hne, hlabels, htwo, hlower⟩
    have hdot : ∀ part ∈ labels ++ [domain], '.' ∉ part := by
      intro part hpart hmem
      rcases List.mem_append.mp hpart with hlabel | hdomain
      · exact absurd ((hlabels part hlabel).2 '.' hmem) (by decide)
      · rw [List.mem_singleton.mp hdomain] at hmem
        exact absurd (hlower '.' hmem) (by decide)
    have hpos := List.length_pos_iff.mpr hne
    rw [← intercalate_dots, isHost, List.splitOn_intercalate '.' hdot (by simp)]
    simp only [Bool.and_eq_true, decide_eq_true_eq, List.all_eq_true, Bool.not_eq_true',
      List.isEmpty_eq_false_iff, Option.any_eq_true, List.dropLast_concat, List.getLast?_concat,
      List.length_append, List.length_singleton]
    exact ⟨⟨by omega, hlabels⟩, domain, rfl, htwo, hlower⟩

theorem IsHostName.chars {host : List Char} (h : IsHostName host) :
    ∀ c ∈ host, c = '.' ∨ isNameChar c = true := by
  obtain ⟨labels, domain, rfl, -, hlabels, -, hlower⟩ := h
  intro c hc
  rcases List.mem_append.mp hc with hfront | hdomain
  · obtain ⟨label, hlabel, hmem⟩ := List.mem_flatMap.mp hfront
    rcases List.mem_append.mp hmem with hname | hdot
    · exact .inr ((hlabels label hlabel).2 c hname)
    · exact .inl (List.mem_singleton.mp hdot)
  · have halpha : c.isAlpha = true := Bool.or_eq_true_iff.mpr (.inr (hlower c hdomain))
    refine .inr ?_
    simp [isNameChar, Char.isAlphanum, halpha]

/-- The protocols that may stand in front of an address, none being one of them. -/
def webProtocols : List (List Char) :=
  [[], "http://".toList, "https://".toList]

/-- What may stand behind a host: nothing, or a slash and anything without white space. -/
def IsAddressPath (path : List Char) : Prop :=
  path = [] ∨ ∃ rest, path = '/' :: rest ∧ ∀ c ∈ rest, isBlank c = false

/-- The address of a page. -/
def IsPageAddress (cs : List Char) : Prop :=
  ∃ protocol host path, cs = protocol ++ (host ++ path) ∧ protocol ∈ webProtocols ∧
    IsHostName host ∧ IsAddressPath path

theorem exists_webProtocol (cs : List Char) :
    ∃ protocol ∈ webProtocols, cs = protocol ++ dropWebProtocol cs := by
  unfold dropWebProtocol
  split
  · next h =>
    obtain ⟨rest, rfl⟩ := List.isPrefixOf_iff_prefix.mp h
    exact ⟨_, by simp [webProtocols], rfl⟩
  · split
    · next h =>
      obtain ⟨rest, rfl⟩ := List.isPrefixOf_iff_prefix.mp h
      exact ⟨_, by simp [webProtocols], rfl⟩
    · exact ⟨[], by simp [webProtocols], rfl⟩

/-- A host and what stands behind it are cut at the slash between them. -/
theorem cut_host {host path : List Char} (hhost : IsHostName host) (hpath : IsAddressPath path) :
    (host ++ path).takeWhile (· != '/') = host ∧ (host ++ path).drop host.length = path := by
  have hslash : '/' ∉ host := by
    intro hmem
    rcases hhost.chars '/' hmem with h | h
    · exact absurd h (by decide)
    · exact absurd h (by decide)
  rcases hpath with rfl | ⟨rest, rfl, -⟩
  · rw [List.append_nil]
    exact cut_slash_of_not_mem hslash
  · exact cut_slash hslash rest

/-- No host starts like a protocol, for a colon comes in front of the slashes of that. -/
theorem dropWebProtocol_host {host path : List Char} (hhost : IsHostName host)
    (hpath : IsAddressPath path) : dropWebProtocol (host ++ path) = host ++ path := by
  have hcolon : ':' ∉ host := by
    intro hmem
    rcases hhost.chars ':' hmem with h | h
    · exact absurd h (by decide)
    · exact absurd h (by decide)
  have hstart (scheme : List Char) (hslash : '/' ∉ scheme) (hmem : ':' ∈ scheme) :
      ¬ (scheme ++ ['/', '/']) <+: host ++ path := by
    rintro ⟨more, heq⟩
    have htake := (cut_host hhost hpath).1
    rw [← heq, List.append_assoc, List.cons_append, (cut_slash hslash _).1] at htake
    exact hcolon (htake ▸ hmem)
  have hsecure : ¬ "https://".toList <+: host ++ path :=
    hstart "https:".toList (by decide) (by decide)
  have hplain : ¬ "http://".toList <+: host ++ path :=
    hstart "http:".toList (by decide) (by decide)
  rw [← List.isPrefixOf_iff_prefix] at hsecure hplain
  rw [dropWebProtocol, if_neg hsecure, if_neg hplain]

/-- The protocol is taken off. -/
theorem dropWebProtocol_append {protocol host path : List Char}
    (hprotocol : protocol ∈ webProtocols) (hhost : IsHostName host) (hpath : IsAddressPath path) :
    dropWebProtocol (protocol ++ (host ++ path)) = host ++ path := by
  simp only [webProtocols, List.mem_cons, List.not_mem_nil, or_false] at hprotocol
  rcases hprotocol with rfl | rfl | rfl
  · rw [List.nil_append]
    exact dropWebProtocol_host hhost hpath
  · rfl
  · rfl

/-- Behind the host there is no white space exactly if an address may have it as its path. -/
theorem isAddressPath_iff {rest : List Char} :
    IsAddressPath (rest.drop (rest.takeWhile (· != '/')).length) ↔
      (rest.drop (rest.takeWhile (· != '/')).length).any isBlank = false := by
  by_cases hslash : '/' ∈ rest
  · obtain ⟨host, path, rfl, hhost⟩ := List.eq_append_cons_of_mem hslash
    obtain ⟨htake, hdrop⟩ := cut_slash hhost path
    rw [htake, hdrop, List.any_cons, show isBlank '/' = false from by decide, Bool.false_or,
      List.any_eq_false]
    constructor
    · rintro (hnil | ⟨rest, heq, hclean⟩)
      · cases hnil
      · cases heq
        simpa using hclean
    · intro hclean
      exact .inr ⟨path, rfl, by simpa using hclean⟩
  · obtain ⟨htake, hdrop⟩ := cut_slash_of_not_mem hslash
    rw [htake, hdrop]
    exact iff_of_true (.inl rfl) rfl

theorem isAddress_iff (cs : List Char) : isAddress cs = true ↔ IsPageAddress cs := by
  simp only [isAddress, Bool.and_eq_true, Bool.not_eq_true', isHost_iff, ← isAddressPath_iff]
  constructor
  · rintro ⟨hhost, hpath⟩
    obtain ⟨protocol, hprotocol, hcs⟩ := exists_webProtocol cs
    refine ⟨protocol, _, _, ?_, hprotocol, hhost, hpath⟩
    rwa [← List.prefix_append_drop (List.takeWhile_prefix _)]
  · rintro ⟨protocol, host, path, rfl, hprotocol, hhost, hpath⟩
    obtain ⟨htake, hdrop⟩ := cut_host hhost hpath
    rw [dropWebProtocol_append hprotocol hhost hpath, htake, hdrop]
    exact ⟨hhost, hpath⟩

/-- Some dot stands in the host of an address. -/
theorem IsPageAddress.mem_dot {cs : List Char} (h : IsPageAddress cs) :
    '.' ∈ (dropWebProtocol cs).takeWhile (· != '/') := by
  obtain ⟨protocol, host, path, rfl, hprotocol, hhost, hpath⟩ := h
  rw [dropWebProtocol_append hprotocol hhost hpath, (cut_host hhost hpath).1]
  obtain ⟨labels, domain, rfl, hne, -⟩ := hhost
  obtain ⟨label, more, rfl⟩ := List.exists_cons_of_ne_nil hne
  simp

end Text

open Text

/-! ## Kinds -/

namespace LinkKind

/-- The id has the form of a kind, whatever other forms it has. -/
def Fits (id : String) : LinkKind → Prop
  | account => ∃ name, id.toList = '@' :: name ∧ IsAccountName name ∧ ¬ ['-', '-'] <:+: name
  | repository => ∃ owner rest, id.toList = owner ++ '/' :: rest ∧ IsAccountName owner ∧
      '\n' ∉ rest ∧ ¬ ['-', '-'] <:+: id.toList
  | package => 1 ≤ id.utf8ByteSize ∧ id.utf8ByteSize ≤ 214 ∧ IsPackageId id.toList
  | page => IsPageAddress id.toList

/-- The kinds whose forms come first. -/
def earlier : LinkKind → List LinkKind
  | account => []
  | repository => [account]
  | package => [account, repository]
  | page => [account, repository, package]

/-- The id has the form of a kind and of none that comes first. -/
structure FirstFits (kind : LinkKind) (id : String) : Prop where
  fits : kind.Fits id
  first : ∀ other ∈ kind.earlier, ¬ other.Fits id

/-- The id starts with the name of an account that has one character. -/
def HasSingleName (id : String) : Prop :=
  ∃ c : Char, c.isAlphanum = true ∧
    (id.toList = ['@', c] ∨ ∃ rest, id.toList = c :: '/' :: rest)

variable {id : String}

/-- A name that is no single character has two ends. -/
theorem two_le_length_iff {name : List Char} (h : IsAccountName name) :
    2 ≤ name.length ↔ ¬ ∃ c : Char, c.isAlphanum = true ∧ name = [c] := by
  constructor
  · rintro htwo ⟨c, -, rfl⟩
    exact absurd htwo (by simp)
  · intro hsingle
    by_contra hshort
    have hone : name.length = 1 := Nat.le_antisymm (by omega) h.nonempty
    obtain ⟨c, rfl⟩ := List.length_eq_one_iff.mp hone
    exact hsingle ⟨c, h.first c rfl, rfl⟩

theorem hasSingleName_account {name : List Char} (hid : id.toList = '@' :: name) :
    HasSingleName id ↔ ∃ c : Char, c.isAlphanum = true ∧ name = [c] := by
  refine exists_congr fun c => and_congr_right fun hc => ?_
  have hat : c ≠ '@' := by
    rintro rfl
    exact absurd hc (by decide)
  simp [hid, hat.symm]

theorem hasSingleName_repository {owner rest : List Char}
    (hid : id.toList = owner ++ '/' :: rest) (howner : IsAccountName owner) :
    HasSingleName id ↔ ∃ c : Char, c.isAlphanum = true ∧ owner = [c] := by
  have hslash := howner.not_mem_slash
  constructor
  · rintro ⟨c, hc, hsingle | ⟨more, hsingle⟩⟩
    · -- the slash would be one of the two characters
      have hmem : '/' ∈ ['@', c] := by
        rw [← hsingle, hid]
        simp
      simp only [List.mem_cons, List.not_mem_nil, or_false] at hmem
      rcases hmem with hat | rfl
      · exact absurd hat (by decide)
      · exact absurd hc (by decide)
    · have hc' : '/' ∉ [c] := by
        rw [List.mem_singleton]
        rintro rfl
        exact absurd hc (by decide)
      refine ⟨c, hc, ?_⟩
      rw [← (cut_slash hslash rest).1, ← hid, hsingle]
      exact (cut_slash hc' more).1
  · rintro ⟨c, hc, rfl⟩
    exact ⟨c, hc, .inr ⟨rest, hid⟩⟩

theorem account_iff :
    (id.toList.head? = some '@' && isAccount (id.toList.drop 1)
      && !hasDoubleHyphen id.toList) = true ↔ account.Fits id ∧ ¬ HasSingleName id := by
  simp only [Bool.and_eq_true, decide_eq_true_eq, Bool.not_eq_true', isAccount_iff,
    ← Bool.not_eq_true, hasDoubleHyphen_iff]
  have hhyphens {name : List Char} : ['-', '-'] <:+: '@' :: name ↔ ['-', '-'] <:+: name := by
    rw [List.infix_cons_iff]
    simp
  constructor
  · rintro ⟨⟨hat, hname, htwo⟩, hno⟩
    obtain ⟨name, hid⟩ := List.head?_eq_some_iff.mp hat
    rw [hid] at hno
    rw [hid, List.drop_one, List.tail_cons] at hname htwo
    rw [hasSingleName_account hid, ← two_le_length_iff hname]
    exact ⟨⟨name, hid, hname, hhyphens.not.mp hno⟩, htwo⟩
  · rintro ⟨⟨name, hid, hname, hno⟩, hsingle⟩
    rw [hasSingleName_account hid, ← two_le_length_iff hname] at hsingle
    rw [hid]
    exact ⟨⟨rfl, hname, hsingle⟩, hhyphens.not.mpr hno⟩

theorem repository_iff :
    ((repositoryOwner? id.toList).isSome && !hasDoubleHyphen id.toList) = true ↔
      repository.Fits id ∧ ¬ HasSingleName id := by
  simp only [Bool.and_eq_true, Bool.not_eq_true', ← Bool.not_eq_true, hasDoubleHyphen_iff,
    repositoryOwner?_isSome_iff]
  constructor
  · rintro ⟨⟨owner, rest, hid, howner, htwo, hline⟩, hno⟩
    rw [hasSingleName_repository hid howner, ← two_le_length_iff howner]
    exact ⟨⟨owner, rest, hid, howner, hline, hno⟩, htwo⟩
  · rintro ⟨⟨owner, rest, hid, howner, hline, hno⟩, hsingle⟩
    rw [hasSingleName_repository hid howner, ← two_le_length_iff howner] at hsingle
    exact ⟨⟨owner, rest, hid, howner, hsingle, hline⟩, hno⟩

theorem package_iff :
    (id.utf8ByteSize ≤ maxPackageBytes && isPackage id.toList) = true ↔ package.Fits id := by
  simp only [Bool.and_eq_true, decide_eq_true_eq, isPackage_iff]
  constructor
  · rintro ⟨hsize, hpackage⟩
    refine ⟨?_, hsize, hpackage⟩
    rw [Nat.one_le_iff_ne_zero, Ne, String.utf8ByteSize_eq_zero_iff]
    rintro rfl
    rcases hpackage with ⟨_, _, heq, -⟩ | ⟨_, _, heq, -⟩
    · cases heq
    · cases heq
  · rintro ⟨-, hsize, hpackage⟩
    exact ⟨hsize, hpackage⟩

/-! ## Ids that start with a name of one character -/

/-- Such an id is no package: a scope would be empty, and a name has no slash. -/
theorem not_hasSingleName_package (h : package.Fits id) : ¬ HasSingleName id := by
  obtain ⟨-, -, hname | ⟨scope, name, hid, ⟨first, more, hscope, -⟩, -⟩⟩ := h
  · rintro ⟨c, hc, hsingle | ⟨rest, hsingle⟩⟩
    · rw [hsingle] at hname
      exact absurd (hname.chars '@' List.mem_cons_self) (by decide)
    · rw [hsingle] at hname
      exact absurd (hname.chars '/' (by simp)) (by decide)
  · rw [hscope] at hid
    rw [hasSingleName_account hid]
    rintro ⟨c, -, heq⟩
    exact absurd heq (by simp)

/-- Such an id is no page: the host of a page has a dot. -/
theorem not_hasSingleName_page (h : page.Fits id) : ¬ HasSingleName id := by
  have hdot := IsPageAddress.mem_dot h
  rintro ⟨c, hc, hsingle | ⟨rest, hsingle⟩⟩
  · have hdrop : dropWebProtocol ['@', c] = ['@', c] := rfl
    rw [hsingle, hdrop] at hdot
    have hmem := (List.takeWhile_prefix _).subset hdot
    simp only [List.mem_cons, List.not_mem_nil, or_false] at hmem
    rcases hmem with hat | rfl
    · exact absurd hat (by decide)
    · exact absurd hc (by decide)
  · have hdrop : dropWebProtocol (c :: '/' :: rest) = c :: '/' :: rest := by
      simp [dropWebProtocol]
    have hslash : '/' ∉ [c] := by
      rw [List.mem_singleton]
      rintro rfl
      exact absurd hc (by decide)
    have htake := (cut_slash hslash rest).1
    rw [List.singleton_append] at htake
    rw [hsingle, hdrop, htake, List.mem_singleton] at hdot
    rw [← hdot] at hc
    exact absurd hc (by decide)

/-! ## Which form decides -/

/-- The test for a kind takes the id. -/
def Takes (id : String) (kind : LinkKind) : Prop :=
  kind.Fits id ∧ ¬ HasSingleName id

/-- The tests are made one after the other. -/
theorem classify_eq_some_iff_takes {kind : LinkKind} :
    classify id = some kind ↔ Takes id kind ∧ ∀ other ∈ kind.earlier, ¬ Takes id other := by
  have hpackage : package.Fits id ↔ Takes id package :=
    ⟨fun h => ⟨h, not_hasSingleName_package h⟩, And.left⟩
  have hpage : page.Fits id ↔ Takes id page :=
    ⟨fun h => ⟨h, not_hasSingleName_page h⟩, And.left⟩
  unfold classify
  dsimp only
  split
  · next haccount =>
    have htakes : Takes id account := account_iff.mp haccount
    cases kind <;> simp [earlier, htakes]
  · next haccount =>
    have hno : ¬ Takes id account := account_iff.not.mp haccount
    split
    · next hrepository =>
      have htakes : Takes id repository := repository_iff.mp hrepository
      cases kind <;> simp [earlier, hno, htakes]
    · next hrepository =>
      have hno' : ¬ Takes id repository := repository_iff.not.mp hrepository
      split
      · next htest =>
        have htakes : Takes id package := hpackage.mp (package_iff.mp htest)
        cases kind <;> simp [earlier, hno, hno', htakes]
      · next htest =>
        have hno'' : ¬ Takes id package := fun h => htest (package_iff.mpr (hpackage.mpr h))
        split
        · next htest =>
          have htakes : Takes id page := hpage.mp ((isAddress_iff _).mp htest)
          cases kind <;> simp [earlier, hno, hno', hno'', htakes]
        · next htest =>
          have hnone : ¬ Takes id page := fun h => htest ((isAddress_iff _).mpr (hpage.mpr h))
          cases kind <;> simp [hno, hno', hno'', hnone]

/--
**The first form that an id has decides what it refers to, unless the id starts with the name of an
account that has one character: then it refers to nothing.**
-/
theorem classify_eq_some_iff (id : String) (kind : LinkKind) :
    classify id = some kind ↔ kind.FirstFits id ∧ ¬ HasSingleName id := by
  rw [classify_eq_some_iff_takes]
  constructor
  · rintro ⟨⟨hfits, hsingle⟩, hearlier⟩
    exact ⟨⟨hfits, fun other hother h => hearlier other hother ⟨h, hsingle⟩⟩, hsingle⟩
  · rintro ⟨h, hsingle⟩
    exact ⟨⟨h.fits, hsingle⟩, fun other hother htakes => h.first other hother htakes.1⟩

/-- A name of one character is the name of an account, but neither the account nor its repositories
are found. -/
theorem classify_singleName :
    (account.FirstFits "@a" ∧ classify "@a" = none) ∧
      repository.FirstFits "a/b" ∧ classify "a/b" = none := by
  have hname : IsAccountName ['a'] :=
    ⟨by decide, by decide, List.forall_mem_singleton.mpr rfl, by simp, by simp⟩
  refine ⟨⟨⟨⟨['a'], rfl, hname, by decide⟩, List.forall_mem_nil _⟩, by decide⟩,
    ⟨⟨['a'], ['b'], rfl, hname, by decide, by decide⟩, ?_⟩, by decide⟩
  intro other hother
  rw [List.mem_singleton.mp hother]
  rintro ⟨name, hid, -⟩
  cases hid

end LinkKind

end MarkdownDirectives
