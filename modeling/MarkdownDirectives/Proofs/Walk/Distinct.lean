import Mathlib
import MarkdownDirectives.Proofs.Reader.Fits
import MarkdownDirectives.Proofs.Walk.Complete
import MarkdownDirectives.Proofs.Walk.Keys

/-!
# Names of the attributes of a tag

A reader of HTML keeps the first of two attributes whose names differ at most in the case of their
letters. The element of an unknown name has its names in lower case, so no two of them are alike.
The families take keys as they come. Their tags are right as long as no two keys clash that can
come together: those of the options, of the families and of the directive.

* `ready_of_resolve` — what one directive is rendered as, and what is left to the walk
* `distinct_of_succeeds` — a whole walk
* `Document.opens_tokens` — what is written of nodes that are rendered right
* `transform_distinct_names` — no tag has the same name twice
* `transform_repeats_name` — an author's `HREF` in front of the address of a link

## How an image is rendered

Images get their properties while containers around them are resolved, and several containers can
be around one image. So the properties of an image have their keys from the options and nowhere
else, before the walk comes to the image and after.
-/

namespace MarkdownDirectives

open Html

/-! ## What the walk finds and what it leaves -/

/-- A node as the walk finds it. -/
def Node.IsReady (t : Transformer) : Node → Prop
  | .paragraph data _ => OpensTarget HasDistinctNames SortedMap.empty data
  | .image img => img.data.children = none ∧ ∀ added, img.data.properties = some added →
      Coherent t.options.OwnKey ∧ Within t.options.OwnKey added
  | .directive head _ => head.data = {} ∧
      ((t.route head.name).isSome = true → Coherent (t.options.KeyFor head.attributes))
  | _ => True

/-- A node as the walk leaves it. -/
def Node.IsDistinct : Node → Prop
  | .paragraph data _ => OpensTarget HasDistinctNames SortedMap.empty data
  | .image img => OpensTarget HasDistinctNames (imageProperties img) img.data
  | .directive head _ => OpensTarget HasDistinctNames SortedMap.empty head.data
  | _ => True

theorem isShallow_isReady (t : Transformer) : Node.IsShallow (Node.IsReady t) := by
  intro node children h
  cases node <;> exact h

theorem isShallow_isDistinct : Node.IsShallow Node.IsDistinct := by
  intro node children h
  cases node <;> exact h

theorem within_target_properties {keys : String → Prop} {own : Properties} {data : Data}
    (hown : Within keys own)
    (hadded : ∀ added, data.properties = some added → Within keys added) :
    Within keys (targetProperties own data) := by
  unfold targetProperties
  split
  · next added hsome => exact hown.overlay (hadded added hsome)
  · exact hown

/-- A render target whose keys do not clash has distinct names. -/
theorem opensTarget_apply {keys : String → Prop} (hkeys : Coherent keys) {target : RenderTarget}
    (h : target.Within keys) (data : Data) :
    OpensTarget HasDistinctNames SortedMap.empty (target.apply data) where
  properties := by
    refine nodup_names hkeys (within_target_properties within_empty ?_)
    rintro added ⟨⟩
    exact h.properties
  children := by
    intro markup hmarkup tag properties hopening
    exact nodup_names hkeys (h.children markup hmarkup tag properties hopening)

theorem opensTarget_default : OpensTarget HasDistinctNames SortedMap.empty {} :=
  ⟨List.nodup_nil, nofun⟩

/-! ## One directive -/

section Resolve

variable {t : Transformer} {d : Directive}

theorem coherent_ownKey {attributes : Attributes} (h : Coherent (t.options.KeyFor attributes)) :
    Coherent t.options.OwnKey :=
  h.mono fun _ => Or.inl

/-- An image that gets the properties of the options is still one that the walk can find. -/
theorem ready_addProperties (h : Coherent t.options.OwnKey) (img : Image)
    (hready : Node.IsReady t (.image img)) :
    Node.IsReady t (.image
      (img.addProperties (resolveSource t.options.image.imageProperties d))) := by
  have hsource : t.options.image.imageProperties ∈ t.options.sources := by simp [Options.sources]
  unfold Image.addProperties
  split
  · next added hadded =>
    obtain ⟨hchildren, hproperties⟩ := hready
    refine ⟨hchildren, ?_⟩
    rintro merged ⟨⟩
    refine ⟨h, within_mergeLayers (Or.inr (by decide)) (fromKeys_cons ?_ <|
      fromKeys_cons ?_ fromKeys_nil)⟩
    · exact fun old hold key hkey => ((hproperties old hold).2 key hkey).1
    · rw [← hadded]
      exact ownKey_source hsource d
  · exact hready

theorem ready_figure (hkeys : Coherent (t.options.KeyFor d.attributes))
    (h : ∀ child ∈ d.children, Node.Everywhere (Node.IsReady t) child) :
    ∀ child ∈ (t.options.image.figure d).1, Node.Everywhere (Node.IsReady t) child := by
  have hsource : t.options.image.captionProperties ∈ t.options.sources := by
    simp [Options.sources]
  obtain ⟨hkept, hcaption⟩ := Node.everywhere_takeCaption (fun _ => trivial) h
  unfold ImageOptions.figure
  dsimp only
  split
  · next children fault heq =>
    rw [heq] at hkept
    exact hkept
  · next children caption heq =>
    rw [heq] at hkept hcaption
    refine List.forall_mem_append.mpr ⟨hkept, List.forall_mem_singleton.mpr (.intro ?_ ?_)⟩
    · refine ⟨nodup_names hkeys (within_target_properties within_empty ?_), ?_⟩
      · rintro added ⟨⟩
        exact within_mergeSources hsource d fromKeys_own
      · rintro markup ⟨⟩
    · exact hcaption caption rfl

theorem ready_imageResolve (hkeys : Coherent (t.options.KeyFor d.attributes))
    (h : ∀ child ∈ d.children, Node.Everywhere (Node.IsReady t) child) (suffix : Option String) :
    ∀ child ∈ (t.options.image.resolve d suffix).1, Node.Everywhere (Node.IsReady t) child := by
  unfold ImageOptions.resolve
  split
  · exact h
  · dsimp only
    split
    · exact h
    · next children hchildren =>
      have hadded := Node.everywhere_mapImages? (isShallow_isReady t)
        (ready_addProperties (coherent_ownKey hkeys)) h hchildren
      have hstripped : ∀ child ∈ (if t.options.image.stripParagraph = true
          then children.map stripNode else children), Node.Everywhere (Node.IsReady t) child := by
        split
        · exact List.forall_mem_map.mpr fun node hnode =>
            Node.everywhere_stripNode (hadded node hnode)
        · exact hadded
      split
      · exact ready_figure (d := { d with children := _ }) hkeys hstripped
      · exact hstripped

/-- **A directive is rendered with distinct names, and its children are left as they are found.** -/
theorem ready_of_resolve {d' : Directive} {resolution : Resolution}
    (h : t.resolve d = (d', .ok resolution))
    (hd : Node.Everywhere (Node.IsReady t) d.toNode) :
    OpensTarget HasDistinctNames SortedMap.empty d'.data ∧
      ∀ child ∈ d'.children, Node.Everywhere (Node.IsReady t) child := by
  obtain ⟨hdata, hcoherent⟩ := hd.self
  have hchildren : ∀ child ∈ d.children, Node.Everywhere (Node.IsReady t) child := hd.child
  cases Transformer.outcome_of_resolve h with
  | fallback =>
    refine ⟨⟨nodup_names coherent_isGenericKey (within_target_properties within_empty ?_), ?_⟩,
      hchildren⟩
    · rintro added ⟨⟩
      exact within_generic _ _
    · -- markup that is there would stay, but the walk finds none
      intro markup hmarkup
      have hnone : d.data.children = none := by rw [hdata]
      rw [Transformer.applyFallback, hnone] at hmarkup
      cases hmarkup
  | @rendered family found children target hr hk ht =>
    have hkeys := hcoherent (by rw [hr]; rfl)
    refine ⟨opensTarget_apply hkeys (within_target ht) _, ?_⟩
    by_cases himage : family = .image
    · subst himage
      have hready := ready_imageResolve hkeys hchildren found.suffix
      rw [show t.options.image.resolve d found.suffix = _ from ht] at hready
      exact hready
    · have hsame := Transformer.target_children himage t d found.suffix
      rw [ht] at hsame
      rw [show children = d.children from hsame]
      exact hchildren

end Resolve

/-! ## The walk -/

/-- A node that is no directive is left as it is found, its children aside. -/
theorem distinct_of_plain {t : Transformer} {node : Node} (hplain : node.IsPlain)
    (h : Node.IsReady t node) : Node.IsDistinct node := by
  cases node with
  | directive head children => exact absurd rfl (hplain head children)
  | paragraph data children => exact h
  | image img =>
    obtain ⟨hchildren, hproperties⟩ := h
    refine ⟨?_, fun markup hmarkup => by rw [hchildren] at hmarkup; cases hmarkup⟩
    -- a container around the image may have been resolved before
    cases hadded : img.data.properties with
    | none =>
      have hown : targetProperties (imageProperties img) img.data = imageProperties img := by
        rw [targetProperties, hadded]
      rw [hown]
      exact nodup_names coherent_isGenericKey (within_imageProperties isGenericKey_fixed img)
    | some added =>
      obtain ⟨hkeys, hwithin⟩ := hproperties added hadded
      refine nodup_names hkeys (within_target_properties
        (within_imageProperties (fun _ => Or.inr) img) ?_)
      intro other hother
      rw [hadded] at hother
      cases hother
      exact hwithin
  | _ => trivial

/-- **A walk that ends well leaves nodes whose tags have distinct names.** -/
theorem distinct_of_succeeds {t : Transformer} {nodes out : List Node} {visits : List Visit}
    (hwalk : t.Succeeds nodes out visits)
    (h : ∀ node ∈ nodes, Node.Everywhere (Node.IsReady t) node) :
    ∀ node ∈ out, Node.Everywhere Node.IsDistinct node := by
  induction hwalk with
  | nil => exact List.forall_mem_nil _
  | childless hn _ ih =>
    obtain ⟨hnode, hrest⟩ := List.forall_mem_cons.mp h
    have hdistinct := distinct_of_plain (Node.isPlain_of_childless hn) hnode.self
    exact List.forall_mem_cons.mpr ⟨Node.everywhere_childless hn hdistinct, ih hrest⟩
  | plain hp hc _ _ ihinner ihrest =>
    obtain ⟨hnode, hrest⟩ := List.forall_mem_cons.mp h
    have hchildren := hnode.child
    rw [Node.content_of_children? hc] at hchildren
    exact List.forall_mem_cons.mpr ⟨Node.everywhere_withChildren isShallow_isDistinct
      (distinct_of_plain hp hnode.self) (ihinner hchildren), ihrest hrest⟩
  | directive hd _ _ ihinner ihrest =>
    obtain ⟨hnode, hrest⟩ := List.forall_mem_cons.mp h
    obtain ⟨hdata, hchildren⟩ := ready_of_resolve hd hnode
    exact List.forall_mem_cons.mpr ⟨.intro hdata (ihinner hchildren), ihrest hrest⟩

/-! ## What is written -/

namespace Html

theorem opens_tokensOfNodes {P : Properties → Prop} {nodes : List Node}
    (h : ∀ node ∈ nodes, Opens P (tokensOfNode node)) : Opens P (tokensOfNodes nodes) := by
  induction nodes with
  | nil => exact opens_nil
  | cons node rest ih =>
    obtain ⟨hnode, hrest⟩ := List.forall_mem_cons.mp h
    exact hnode.append (ih hrest)

theorem hasDistinctNames_empty : HasDistinctNames SortedMap.empty :=
  List.nodup_nil

theorem opens_plainTokens {tokens : List Token} (h : Opens HasDistinctNames tokens)
    (tag : String) : Opens HasDistinctNames (plainTokens tag tokens) :=
  opens_tagTokens hasDistinctNames_empty h tag

/-- A node whose tags have distinct names is written with such tags. -/
theorem opens_tokensOfNode {node : Node} (h : Node.Everywhere Node.IsDistinct node) :
    Opens HasDistinctNames (tokensOfNode node) := by
  induction h with
  | @intro node hnode _ ih =>
    have hcontent := opens_tokensOfNodes ih
    have hlineEnd : Opens HasDistinctNames [lineEnd] := opens_text _
    cases node with
    | paragraph data children =>
      rw [tokensOfNode]
      exact (opens_targetTokens hnode hcontent _).append hlineEnd
    | heading depth children =>
      rw [tokensOfNode]
      exact (opens_plainTokens hcontent _).append hlineEnd
    | blockquote children =>
      rw [tokensOfNode]
      exact (opens_plainTokens (hlineEnd.append hcontent) _).append hlineEnd
    | list start children =>
      rw [tokensOfNode]
      have hstart := nodup_names coherent_isGenericKey (within_listTag start)
      exact (opens_tagTokens hstart (hlineEnd.append hcontent) _).append hlineEnd
    | listItem children =>
      rw [tokensOfNode]
      exact (opens_plainTokens hcontent _).append hlineEnd
    | code language value =>
      rw [tokensOfNode]
      have hlanguage := nodup_names coherent_isGenericKey (within_codeProperties language)
      exact (opens_plainTokens (opens_tagTokens hlanguage (opens_text value) _) _).append hlineEnd
    | html value =>
      rw [tokensOfNode]
      intro _ _ hmem
      cases List.mem_singleton.mp hmem
    | thematicBreak =>
      rw [tokensOfNode]
      exact (opens_opening hasDistinctNames_empty _).append hlineEnd
    | text value =>
      rw [tokensOfNode]
      exact opens_text value
    | emphasis children => rw [tokensOfNode]; exact opens_plainTokens hcontent _
    | strong children => rw [tokensOfNode]; exact opens_plainTokens hcontent _
    | delete children => rw [tokensOfNode]; exact opens_plainTokens hcontent _
    | inlineCode value => rw [tokensOfNode]; exact opens_plainTokens (opens_text value) _
    | lineBreak =>
      rw [tokensOfNode]
      exact (opens_opening hasDistinctNames_empty _).append hlineEnd
    | link url title children =>
      rw [tokensOfNode]
      have haddress := nodup_names coherent_isGenericKey (within_linkProperties url title)
      exact opens_tagTokens haddress hcontent _
    | image img =>
      rw [tokensOfNode]
      exact opens_targetTokens hnode opens_nil _
    | directive head children =>
      rw [tokensOfNode]
      refine (opens_targetTokens hnode ?_ _).append ?_
      · split
        · exact hlineEnd.append hcontent
        · exact hcontent
      · split
        · exact opens_nil
        · exact hlineEnd

end Html

theorem Document.opens_tokens {document : Document}
    (h : ∀ node ∈ document.children, Node.Everywhere Node.IsDistinct node) :
    Opens HasDistinctNames document.tokens :=
  opens_tokensOfNodes fun node hnode => opens_tokensOfNode (h node hnode)

/-! ## Documents that are read -/

namespace Node

theorem mem_directivesList {head : DirectiveHead} {node : Node} {nodes : List Node}
    (hnode : node ∈ nodes) (hhead : head ∈ node.directives) : head ∈ directivesList nodes := by
  induction nodes with
  | nil => cases hnode
  | cons first rest ih =>
    rcases List.mem_cons.mp hnode with rfl | hrest
    · exact List.mem_append_left _ hhead
    · exact List.mem_append_right _ (ih hrest)

/-- A directive in a child is in the node. -/
theorem mem_directives_of_content {head : DirectiveHead} {node child : Node}
    (hchild : child ∈ node.content) (hhead : head ∈ child.directives) :
    head ∈ node.directives := by
  have hlist := mem_directivesList hchild hhead
  cases node with
  | directive own children => exact List.mem_cons_of_mem _ hlist
  | code | html | thematicBreak | text | inlineCode | lineBreak | image => cases hchild
  | _ => exact hlist

/-- A node that is no directive is ready as long as nothing is set of it. -/
theorem isReady_of_isUnset {t : Transformer} {node : Node} (hplain : node.IsPlain)
    (hunset : node.IsUnset) : IsReady t node := by
  cases node with
  | directive head children => exact absurd rfl (hplain head children)
  | paragraph data children =>
    have hdata : data = {} := hunset
    rw [hdata]
    exact opensTarget_default
  | image img =>
    have hdata : img.data = {} := hunset
    refine ⟨by rw [hdata], fun added hadded => ?_⟩
    rw [hdata] at hadded
    cases hadded
  | _ => trivial

/-- What is read is ready for the walk, if the keys of its directives do not clash. -/
theorem Fits.ready {t : Transformer} {place : NodePlace} {node : Node} (h : Fits place node)
    (hkeys : ∀ head ∈ node.directives, (t.route head.name).isSome = true →
      Coherent (t.options.KeyFor head.attributes)) : Everywhere (IsReady t) node := by
  induction h with
  | plain hplain hunset _ ih =>
    refine .intro (isReady_of_isUnset hplain hunset) fun child hchild => ih child hchild ?_
    exact fun head hhead => hkeys head (mem_directives_of_content hchild hhead)
  | directive _ _ hread _ ih =>
    refine .intro ⟨hread.data, hkeys _ List.mem_cons_self⟩ fun child hchild => ih child hchild ?_
    exact fun head hhead => hkeys head (mem_directives_of_content hchild hhead)
  | @container head label body _ hread _ _ ihlabel ihbody =>
    have hinner : ∀ child ∈ Source.labelParagraph label ++ body, ∀ head ∈ child.directives,
        (t.route head.name).isSome = true → Coherent (t.options.KeyFor head.attributes) :=
      fun child hchild inner hinner => hkeys inner
        (mem_directives_of_content hchild hinner)
    refine .intro ⟨hread.data, hkeys _ List.mem_cons_self⟩ ?_
    obtain ⟨hlabel, hbody⟩ := List.forall_mem_append.mp hinner
    refine List.forall_mem_append.mpr
      ⟨?_, fun child hchild => ihbody child hchild (hbody child hchild)⟩
    unfold Source.labelParagraph at hlabel ⊢
    split
    · exact List.forall_mem_nil _
    · next hne =>
      rw [if_neg hne] at hlabel
      have hparagraph := List.forall_mem_singleton.mp hlabel
      refine List.forall_mem_singleton.mpr (.intro ⟨List.nodup_nil, nofun⟩ ?_)
      intro child hchild
      exact ihlabel child hchild fun inner hmem => hparagraph inner
        (mem_directives_of_content hchild hmem)

end Node

/--
**No tag of a document has the same name twice, if the keys that come together do not clash.**

This is for every parser of Markdown. Only directives of a family count: the keys of the options,
those that families bring in, and those that the author of the directive has written. Raw HTML is
written as it is.
-/
theorem transform_distinct_names (t : Transformer) (parse : MarkdownParser) (source : String)
    (hkeys : ∀ head ∈ Node.directivesList (Document.read parse source).children,
      (t.route head.name).isSome = true → Coherent (t.options.KeyFor head.attributes))
    (report : Report) (h : (t.transform (.read parse source)).result = .ok report) :
    writeTokens (t.transform (.read parse source)).document.tokens
        = (t.transform (.read parse source)).document.html ∧
      ∀ tag properties,
        Token.opening tag properties ∈ (t.transform (.read parse source)).document.tokens →
        HasDistinctNames properties := by
  obtain ⟨hwalk, -⟩ := Transformer.succeeds_transform h
  refine ⟨Document.write_tokens _, Document.opens_tokens (distinct_of_succeeds hwalk ?_)⟩
  intro node hnode
  refine (top_read source node hnode).ready fun head hhead => hkeys head ?_
  exact Node.mem_directivesList hnode hhead

/-! ### A link -/

/-- A link as its author may write it. -/
def linkSource : String :=
  ":link[Cat]{id=@octocat rel=me}"

/-- The same with an address of the author's own, in upper case. -/
def shoutedSource : String :=
  ":link[Cat]{id=@octocat HREF=evil}"

/-- A link of the default options with its attributes. -/
def linkWith (attributes : List (String × String)) : Directive where
  kind := .text
  name := "link"
  attributes := SortedMap.ofList attributes
  children := [.text "Cat"]

theorem ofSource_linkSource : Document.ofSource linkSource
    = ⟨[.paragraph {} [(linkWith [("id", "@octocat"), ("rel", "me")]).toNode]]⟩ := by
  cbv

theorem ofSource_shoutedSource : Document.ofSource shoutedSource
    = ⟨[.paragraph {} [(linkWith [("HREF", "evil"), ("id", "@octocat")]).toNode]]⟩ := by
  cbv

/-- What becomes of a document with one link that can be resolved. -/
theorem transform_link {source : String} {d d' : Directive}
    (hsource : Document.ofSource source = ⟨[.paragraph {} [d.toNode]]⟩)
    (hd : Transformer.standard.resolve d = (d', .ok (.family .link)))
    (hchildren : d'.children = [.text "Cat"]) :
    (Transformer.standard.transform (.ofSource source)).result = .ok { link := 1 } ∧
      (Transformer.standard.transform (.ofSource source)).document
        = ⟨[.paragraph {} [.directive d'.toDirectiveHead [.text "Cat"]]]⟩ := by
  have hinner : Transformer.standard.Succeeds d'.children [.text "Cat"] [] := by
    rw [hchildren]
    exact .childless rfl .nil
  have hwalk : Transformer.standard.Succeeds [.paragraph {} [d.toNode]] _ _ :=
    .plain (by rintro head children ⟨⟩) rfl (.directive hd hinner .nil) .nil
  rw [hsource, Transformer.transform_of_succeeds hwalk]
  exact ⟨rfl, rfl⟩

theorem not_hasKey_standard (key : String) : ¬ Transformer.standard.options.HasKey key := by
  rintro ⟨source, hsource, d, properties, heq, -⟩
  have hnone : source = none := by
    revert hsource
    simp [Transformer.standard, Options.sources, SortedMap.empty]
  rw [hnone] at heq
  cases heq

/-- With the default options keys in lower case do not clash. -/
theorem coherent_keyFor_standard {attributes : Attributes}
    (h : ∀ key ∈ attributes.keys, IsGenericKey key) :
    Coherent (Transformer.standard.options.KeyFor attributes) := by
  refine coherent_isGenericKey.mono fun key hkey => ?_
  rcases hkey with (hoption | hfixed) | hattribute
  · exact absurd hoption (not_hasKey_standard key)
  · exact isGenericKey_fixed key hfixed
  · exact h key hattribute

/-- The names of a link with an attribute of its author's are distinct. -/
theorem transform_distinct_names_link :
    (∀ head ∈ Node.directivesList (Document.read Markdown.events linkSource).children,
      (Transformer.standard.route head.name).isSome = true →
      Coherent (Transformer.standard.options.KeyFor head.attributes)) ∧
    (Transformer.standard.transform (.read Markdown.events linkSource)).result
      = .ok { link := 1 } ∧
    ∀ tag properties, Token.opening tag properties
        ∈ (Transformer.standard.transform (.read Markdown.events linkSource)).document.tokens →
      HasDistinctNames properties := by
  have hkeys : ∀ head ∈ Node.directivesList (Document.read Markdown.events linkSource).children,
      (Transformer.standard.route head.name).isSome = true →
      Coherent (Transformer.standard.options.KeyFor head.attributes) := by
    intro head hhead _
    rw [show Document.read Markdown.events linkSource = _ from ofSource_linkSource] at hhead
    rw [List.mem_singleton.mp hhead]
    refine coherent_keyFor_standard ?_
    unfold IsGenericKey
    decide
  have hresult := (transform_link ofSource_linkSource rfl rfl).1
  exact ⟨hkeys, hresult, (transform_distinct_names _ _ _ hkeys _ hresult).2⟩

/-- The author's address is written in front of the one that the link leads to. -/
theorem transform_repeats_name :
    Transformer.ofOptions {} = .ok .standard ∧
    (Transformer.standard.transform (.ofSource shoutedSource)).result = .ok { link := 1 } ∧
    (∃ properties, Token.opening "a" properties
        ∈ (Transformer.standard.transform (.ofSource shoutedSource)).document.tokens ∧
      names properties = ["HREF", "class", "data-link", "href"] ∧
      ¬ HasDistinctNames properties) ∧
    (Transformer.standard.transform (.ofSource shoutedSource)).document.html
      = "<p><a HREF=\"evil\" class=\"rds-link\" data-link=\"github-acct\""
        ++ " href=\"https://github.com/octocat\">"
        ++ "<span style=\"background-image: url(https://github.com/octocat.png)\"></span>"
        ++ "Cat</a></p>\n" := by
  obtain ⟨hresult, hdocument⟩ := transform_link ofSource_shoutedSource rfl rfl
  refine ⟨rfl, hresult, ?_, ?_⟩
  · rw [hdocument]
    refine ⟨SortedMap.ofList [("HREF", .string "evil"), ("className", .list ["rds-link"]),
      ("data-link", .string "github-acct"), ("href", .string "https://github.com/octocat")],
      List.mem_cons_of_mem _ List.mem_cons_self, by decide, ?_⟩
    unfold HasDistinctNames
    decide
  · rw [hdocument]
    decide +kernel

end MarkdownDirectives
