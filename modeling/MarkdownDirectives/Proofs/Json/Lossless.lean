import MarkdownDirectives.Json.Document

/-!
# Documents can be told apart by their JSON

The members of an object are written in some order, but a reader of JSON need not keep it. So two
values count as the same here if they are equal once the members of all objects are put in the order
of their keys, which `Json.ordered` does.

* `Json.lookup_ordered` — what is left of an object is what its keys have
* `SortedMap.lossless_toJson`, `Json.lossless_ofOption` — maps, and values that may be absent
* `Data.lossless_toJson`, `DirectiveHead.eq_of_ordered` — the fields of a node
* `Node.eq_of_ordered` — nodes, one rule per kind
* `Document.toJson_lossless` — documents
-/

namespace MarkdownDirectives

namespace Json

/-! ## The order of members -/

mutual

/-- The value with the members of all objects in the order of their keys. -/
def ordered : Json → Json
  | null => null
  | bool value => bool value
  | int value => int value
  | string value => string value
  | array items => array (orderedItems items)
  | object members => object (SortedMap.ofList (orderedMembers members)).entries

/-- The items of an array, each with its members in order. -/
def orderedItems : List Json → List Json
  | [] => []
  | item :: rest => ordered item :: orderedItems rest

/-- The members of an object where they are, each with its own members in order. -/
def orderedMembers : List (String × Json) → List (String × Json)
  | [] => []
  | (key, value) :: rest => (key, ordered value) :: orderedMembers rest

end

theorem orderedItems_eq_map (items : List Json) : orderedItems items = items.map ordered := by
  induction items with
  | nil => rfl
  | cons item rest ih => rw [orderedItems, ih, List.map_cons]

theorem orderedMembers_eq_map (members : List (String × Json)) :
    orderedMembers members = members.map fun m => (m.1, m.2.ordered) := by
  induction members with
  | nil => rfl
  | cons member rest ih => rw [orderedMembers, ih, List.map_cons]

/-- **Objects that are the same up to the order of their members have the same value under every
key.** -/
theorem lookup_ordered {members others : List (String × Json)}
    (h : (object members).ordered = (object others).ordered) (key : String) :
    (orderedMembers members).reverse.lookup key = (orderedMembers others).reverse.lookup key := by
  rw [ordered, ordered, object.injEq] at h
  rw [← SortedMap.get?_ofList, ← SortedMap.get?_ofList, SortedMap.eq_of_entries h]

/-- Types and contents are told apart. -/
theorem tagged_inj {type type' : String} {content content' : Json}
    (h : (tagged type content).ordered = (tagged type' content').ordered) :
    type = type' ∧ content.ordered = content'.ordered :=
  ⟨string.inj (Option.some.inj (lookup_ordered h "type")),
    Option.some.inj (lookup_ordered h "node")⟩

/-! ## Parts -/

/-- Different values have different JSON, whatever the order of its members. -/
def Lossless {α : Type} (f : α → Json) : Prop :=
  ∀ ⦃a b⦄, (f a).ordered = (f b).ordered → a = b

theorem lossless_string : Lossless string :=
  fun _ _ h => string.inj h

theorem lossless_ofStrings : Lossless ofStrings := by
  intro values others h
  rw [ofStrings, ofStrings, ordered, ordered, array.injEq, orderedItems_eq_map,
    orderedItems_eq_map, List.map_map, List.map_map] at h
  exact (List.map_inj_right fun _ _ heq => string.inj heq).mp h

/-- A value that may be absent, if those that are there are not written as null. -/
theorem lossless_ofOption {α : Type} {f : α → Json} (hf : Lossless f)
    (hnull : ∀ a, (f a).ordered ≠ null) : Lossless (ofOption f) := by
  intro a b h
  cases a with
  | none =>
    cases b with
    | none => rfl
    | some b => exact absurd h.symm (hnull b)
  | some a =>
    cases b with
    | none => exact absurd h (hnull a)
    | some b => rw [hf h]

theorem lossless_ofString? : Lossless ofString? := by
  intro a b h
  cases a <;> cases b <;> cases h
  · rfl
  · rfl

end Json

open Json

theorem SortedMap.ordered_toJson {α : Type} (f : α → Json) (m : SortedMap α) :
    (m.toJson f).ordered = .object (m.mapValues fun v => (f v).ordered).entries := by
  have hentries : orderedMembers (m.entries.map fun e => (e.1, f e.2))
      = (m.mapValues fun v => (f v).ordered).entries := by
    rw [orderedMembers_eq_map, List.map_map]
    rfl
  rw [SortedMap.toJson, ordered, hentries, ofList_entries]

/-- **Maps are told apart if their values are.** -/
theorem SortedMap.lossless_toJson {α : Type} {f : α → Json} (hf : Lossless f) :
    Lossless (SortedMap.toJson f) := by
  intro m n h
  rw [ordered_toJson, ordered_toJson, object.injEq] at h
  have hentry (e e' : String × α) (heq : (e.1, (f e.2).ordered) = (e'.1, (f e'.2).ordered)) :
      e = e' :=
    Prod.ext (Prod.mk.inj heq).1 (hf (Prod.mk.inj heq).2)
  exact eq_of_entries ((List.map_inj_right hentry).mp h)

/-- Every value of a property shows in its JSON of what type it is. -/
theorem Property.lossless_toJson : Lossless Property.toJson := by
  intro p q h
  cases p with
  | bool value =>
    cases q with
    | bool value' => rw [Json.bool.inj h]
    | _ => cases h
  | int value =>
    cases q with
    | int value' => rw [Json.int.inj h]
    | _ => cases h
  | string value =>
    cases q with
    | string value' => rw [Json.string.inj h]
    | _ => cases h
  | list items =>
    cases q with
    | list items' => rw [lossless_ofStrings h]
    | _ => cases h

theorem Properties.lossless_toJson : Lossless Properties.toJson :=
  SortedMap.lossless_toJson Property.lossless_toJson

theorem Attributes.lossless_toJson : Lossless Attributes.toJson :=
  SortedMap.lossless_toJson lossless_string

/-! ## Markup -/

mutual

theorem Markup.eq_of_ordered :
    ∀ a b : Markup, a.toJson.ordered = b.toJson.ordered → a = b
  | .text value, b, h => by
    cases b with
    | text value' => rw [lossless_string (tagged_inj h).2]
    | element => exact absurd (tagged_inj h).1 (by decide)
  | .element tagName properties children, b, h => by
    cases b with
    | text => exact absurd (tagged_inj h).1 (by decide)
    | element tagName' properties' children' =>
      have helement := (tagged_inj h).2
      have htag := Option.some.inj (lookup_ordered helement "tag_name")
      have hproperties := Option.some.inj (lookup_ordered helement "properties")
      have hchildren := Option.some.inj (lookup_ordered helement "children")
      rw [lossless_string htag, Properties.lossless_toJson hproperties,
        Markup.list_eq_of_ordered _ _ (array.inj hchildren)]

theorem Markup.list_eq_of_ordered : ∀ as bs : List Markup,
    orderedItems (Markup.listToJson as) = orderedItems (Markup.listToJson bs) → as = bs
  | [], [], _ => rfl
  | [], _ :: _, h => by cases h
  | _ :: _, [], h => by cases h
  | a :: as, b :: bs, h => by
    obtain ⟨hhead, htail⟩ := List.cons.inj h
    rw [Markup.eq_of_ordered a b hhead, Markup.list_eq_of_ordered as bs htail]

end

/-! ## What a node says of itself -/

theorem Data.lossless_toJson : Lossless Data.toJson := by
  intro a b h
  have hname := Option.some.inj (lookup_ordered h "h_name")
  have hproperties := Option.some.inj (lookup_ordered h "h_properties")
  have hchildren := Option.some.inj (lookup_ordered h "h_children")
  have hlabel := Option.some.inj (lookup_ordered h "directive_label")
  obtain ⟨name, properties, children, label⟩ := a
  obtain ⟨name', properties', children', label'⟩ := b
  cases lossless_ofString? hname
  cases lossless_ofOption Properties.lossless_toJson nofun hproperties
  cases Json.bool.inj hlabel
  have hmarkup : Lossless fun children => .array (Markup.listToJson children) :=
    fun as bs heq => Markup.list_eq_of_ordered as bs (array.inj heq)
  cases lossless_ofOption hmarkup nofun hchildren
  rfl

theorem DirectiveKind.name_inj {kind kind' : DirectiveKind} (h : kind.name = kind'.name) :
    kind = kind' := by
  cases kind <;> cases kind' <;> first | rfl | exact absurd h (by decide)

theorem Image.lossless_toJson : Lossless Image.toJson := by
  intro a b h
  have hurl := Option.some.inj (lookup_ordered h "url")
  have halt := Option.some.inj (lookup_ordered h "alt")
  have htitle := Option.some.inj (lookup_ordered h "title")
  have hdata := Option.some.inj (lookup_ordered h "data")
  obtain ⟨url, alt, title, data⟩ := a
  obtain ⟨url', alt', title', data'⟩ := b
  cases lossless_string hurl
  cases lossless_string halt
  cases lossless_ofString? htitle
  cases Data.lossless_toJson hdata
  rfl

theorem DirectiveHead.eq_of_ordered {head head' : DirectiveHead} {children children' : List Json}
    (h : (head.toJson children).ordered = (head'.toJson children').ordered) :
    head = head' ∧ orderedItems children = orderedItems children' := by
  have hkind := Option.some.inj (lookup_ordered h "kind")
  have hname := Option.some.inj (lookup_ordered h "name")
  have hattributes := Option.some.inj (lookup_ordered h "attributes")
  have hchildren := Option.some.inj (lookup_ordered h "children")
  have hdata := Option.some.inj (lookup_ordered h "data")
  obtain ⟨kind, name, attributes, data⟩ := head
  obtain ⟨kind', name', attributes', data'⟩ := head'
  cases DirectiveKind.name_inj (lossless_string hkind)
  cases lossless_string hname
  cases Attributes.lossless_toJson hattributes
  cases Data.lossless_toJson hdata
  exact ⟨rfl, array.inj hchildren⟩

/-! ## Nodes -/

namespace Node

/-- The word for the kind of a node. -/
def typeName : Node → String
  | paragraph .. => "paragraph"
  | heading .. => "heading"
  | blockquote .. => "blockquote"
  | list .. => "list"
  | listItem .. => "listItem"
  | code .. => "code"
  | html .. => "html"
  | thematicBreak => "thematicBreak"
  | text .. => "text"
  | emphasis .. => "emphasis"
  | strong .. => "strong"
  | delete .. => "delete"
  | inlineCode .. => "inlineCode"
  | lineBreak => "break"
  | link .. => "link"
  | image .. => "image"
  | directive .. => "directive"

/-- Two nodes of one kind. -/
inductive SameKind : Node → Node → Prop
  | paragraph {data data' children children'} :
      SameKind (.paragraph data children) (.paragraph data' children')
  | heading {depth depth' children children'} :
      SameKind (.heading depth children) (.heading depth' children')
  | blockquote {children children'} : SameKind (.blockquote children) (.blockquote children')
  | list {start start' children children'} :
      SameKind (.list start children) (.list start' children')
  | listItem {children children'} : SameKind (.listItem children) (.listItem children')
  | code {language language' value value'} :
      SameKind (.code language value) (.code language' value')
  | html {value value'} : SameKind (.html value) (.html value')
  | thematicBreak : SameKind .thematicBreak .thematicBreak
  | text {value value'} : SameKind (.text value) (.text value')
  | emphasis {children children'} : SameKind (.emphasis children) (.emphasis children')
  | strong {children children'} : SameKind (.strong children) (.strong children')
  | delete {children children'} : SameKind (.delete children) (.delete children')
  | inlineCode {value value'} : SameKind (.inlineCode value) (.inlineCode value')
  | lineBreak : SameKind .lineBreak .lineBreak
  | link {url url' title title' children children'} :
      SameKind (.link url title children) (.link url' title' children')
  | image {img img'} : SameKind (.image img) (.image img')
  | directive {head head' children children'} :
      SameKind (.directive head children) (.directive head' children')

/-- No word stands for two kinds. -/
theorem sameKind_of_typeName {a b : Node} (h : a.typeName = b.typeName) : SameKind a b := by
  cases a <;> cases b <;> first | constructor | exact absurd h (by simp [typeName])

/-- Nodes with the same JSON are of one kind. -/
theorem sameKind_of_ordered {a b : Node} (h : a.toJson.ordered = b.toJson.ordered) :
    SameKind a b := by
  have htype (n : Node) : ∃ members, n.toJson = .object members ∧
      (orderedMembers members).reverse.lookup "type" = some (.string n.typeName) := by
    cases n <;> exact ⟨_, rfl, rfl⟩
  obtain ⟨members, ha, hatype⟩ := htype a
  obtain ⟨others, hb, hbtype⟩ := htype b
  rw [ha, hb] at h
  have hlookup := lookup_ordered h "type"
  rw [hatype, hbtype] at hlookup
  exact sameKind_of_typeName (lossless_string (Option.some.inj hlookup))

mutual

/-- **Nodes with the same JSON are equal.** -/
theorem eq_of_ordered : ∀ a b : Node, a.toJson.ordered = b.toJson.ordered → a = b
  | .paragraph data children, b, h => by
    cases sameKind_of_ordered h with
    | @paragraph _ data' _ children' =>
      have hcontent := (tagged_inj h).2
      have hchildren := Option.some.inj (lookup_ordered hcontent "children")
      have hdata := Option.some.inj (lookup_ordered hcontent "data")
      rw [Data.lossless_toJson hdata, list_eq_of_ordered _ _ (array.inj hchildren)]
  | .heading depth children, b, h => by
    cases sameKind_of_ordered h with
    | heading =>
      have hcontent := (tagged_inj h).2
      have hdepth := Json.int.inj (Option.some.inj (lookup_ordered hcontent "depth"))
      have hchildren := Option.some.inj (lookup_ordered hcontent "children")
      rw [Int.ofNat.inj hdepth, list_eq_of_ordered _ _ (array.inj hchildren)]
  | .blockquote children, b, h => by
    cases sameKind_of_ordered h with
    | blockquote => rw [list_eq_of_ordered _ _ (array.inj (tagged_inj h).2)]
  | .list start children, b, h => by
    cases sameKind_of_ordered h with
    | list =>
      have hcontent := (tagged_inj h).2
      have hstart := Option.some.inj (lookup_ordered hcontent "start")
      have hchildren := Option.some.inj (lookup_ordered hcontent "children")
      have hnumber : Lossless fun n : Nat => .int n :=
        fun _ _ heq => Int.ofNat.inj (Json.int.inj heq)
      rw [lossless_ofOption hnumber nofun hstart, list_eq_of_ordered _ _ (array.inj hchildren)]
  | .listItem children, b, h => by
    cases sameKind_of_ordered h with
    | listItem => rw [list_eq_of_ordered _ _ (array.inj (tagged_inj h).2)]
  | .code language value, b, h => by
    cases sameKind_of_ordered h with
    | code =>
      have hcontent := (tagged_inj h).2
      have hlanguage := Option.some.inj (lookup_ordered hcontent "lang")
      have hvalue := Option.some.inj (lookup_ordered hcontent "value")
      rw [lossless_ofString? hlanguage, lossless_string hvalue]
  | .html value, b, h => by
    cases sameKind_of_ordered h with
    | html => rw [lossless_string (tagged_inj h).2]
  | .thematicBreak, b, h => by
    cases sameKind_of_ordered h with
    | thematicBreak => rfl
  | .text value, b, h => by
    cases sameKind_of_ordered h with
    | text => rw [lossless_string (tagged_inj h).2]
  | .emphasis children, b, h => by
    cases sameKind_of_ordered h with
    | emphasis => rw [list_eq_of_ordered _ _ (array.inj (tagged_inj h).2)]
  | .strong children, b, h => by
    cases sameKind_of_ordered h with
    | strong => rw [list_eq_of_ordered _ _ (array.inj (tagged_inj h).2)]
  | .delete children, b, h => by
    cases sameKind_of_ordered h with
    | delete => rw [list_eq_of_ordered _ _ (array.inj (tagged_inj h).2)]
  | .inlineCode value, b, h => by
    cases sameKind_of_ordered h with
    | inlineCode => rw [lossless_string (tagged_inj h).2]
  | .lineBreak, b, h => by
    cases sameKind_of_ordered h with
    | lineBreak => rfl
  | .link url title children, b, h => by
    cases sameKind_of_ordered h with
    | link =>
      have hcontent := (tagged_inj h).2
      have hurl := Option.some.inj (lookup_ordered hcontent "url")
      have htitle := Option.some.inj (lookup_ordered hcontent "title")
      have hchildren := Option.some.inj (lookup_ordered hcontent "children")
      rw [lossless_string hurl, lossless_ofString? htitle,
        list_eq_of_ordered _ _ (array.inj hchildren)]
  | .image img, b, h => by
    cases sameKind_of_ordered h with
    | image => rw [Image.lossless_toJson (tagged_inj h).2]
  | .directive head children, b, h => by
    cases sameKind_of_ordered h with
    | directive =>
      obtain ⟨hhead, hchildren⟩ := DirectiveHead.eq_of_ordered (tagged_inj h).2
      rw [hhead, list_eq_of_ordered _ _ hchildren]

theorem list_eq_of_ordered : ∀ as bs : List Node,
    orderedItems (listToJson as) = orderedItems (listToJson bs) → as = bs
  | [], [], _ => rfl
  | [], _ :: _, h => by cases h
  | _ :: _, [], h => by cases h
  | a :: as, b :: bs, h => by
    obtain ⟨hhead, htail⟩ := List.cons.inj h
    rw [eq_of_ordered a b hhead, list_eq_of_ordered as bs htail]

end

end Node

/-- **Documents with the same JSON are equal, even if the members of its objects stand in another
order.** -/
theorem Document.toJson_lossless (a b : Document) :
    (a.toJson = b.toJson ↔ a = b) ∧ (a.toJson.ordered = b.toJson.ordered ↔ a = b) := by
  have hordered (h : a.toJson.ordered = b.toJson.ordered) : a = b := by
    have hchildren := Option.some.inj (lookup_ordered h "children")
    obtain ⟨nodes⟩ := a
    obtain ⟨others⟩ := b
    rw [Node.list_eq_of_ordered nodes others (array.inj hchildren)]
  refine ⟨⟨fun h => hordered (congrArg ordered h), ?_⟩, ⟨hordered, ?_⟩⟩
  · rintro rfl
    rfl
  · rintro rfl
    rfl

end MarkdownDirectives
