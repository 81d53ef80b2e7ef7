import Mathlib.Data.List.Chain
import MarkdownDirectives.Proofs.Source.Segments
import MarkdownDirectives.Reader

/-!
# The texts of read nodes

Nodes that stand next to each other are read in two steps: neighbouring texts are joined, and then
every text is cut into its text directives and what lies between them. This leaves no neighbours
that could be joined and no text that could be cut, so doing it again changes nothing.

* `Joined` — nodes with every run of texts as one text, and what is empty left out
* `Added` — nodes between which texts and text directives have been put
* `expandTexts_of_joined` — how a text was cut up before does not matter
* `isChain_expandTexts` — no two texts are neighbours
* `expandTexts_normal` — what expanding texts leaves
-/

namespace MarkdownDirectives

/-! ## Runs of texts -/

/-- A text. -/
def Node.isText : Node → Bool
  | .text _ => true
  | _ => false

/-- A run of texts goes no further than to the front of these nodes. -/
def EndsRun (nodes : List Node) : Prop :=
  ∀ node, nodes.head? = some node → node.isText = false

/-- Nodes with every run of texts as one text. A run without a character is left out. -/
inductive Joined : List Node → List Node → Prop
  | nil : Joined [] []
  | node {node : Node} {nodes joined : List Node} (hnode : node.isText = false)
      (h : Joined nodes joined) : Joined (node :: nodes) (node :: joined)
  | empty {values : List String} {nodes joined : List Node} (hvalues : values ≠ [])
      (hend : EndsRun nodes) (hjoin : String.join values = "") (h : Joined nodes joined) :
      Joined (values.map .text ++ nodes) joined
  | texts {values : List String} {nodes joined : List Node} (hvalues : values ≠ [])
      (hend : EndsRun nodes) (hjoin : String.join values ≠ "") (h : Joined nodes joined) :
      Joined (values.map .text ++ nodes) (.text (String.join values) :: joined)

/-- What can be put between nodes: a text or a text directive. -/
inductive Node.IsTextual : Node → Prop
  | text (value : String) : IsTextual (.text value)
  | directive {head : DirectiveHead} (hkind : head.kind = .text) (children : List Node) :
      IsTextual (.directive head children)

/-- Nodes between which texts and text directives have been put. -/
inductive Added : List Node → List Node → Prop
  | nil : Added [] []
  | keep (node : Node) {nodes added : List Node} (h : Added nodes added) :
      Added (node :: nodes) (node :: added)
  | put {node : Node} {nodes added : List Node} (hnode : node.IsTextual) (h : Added nodes added) :
      Added nodes (node :: added)

/-- Two nodes that are not both texts. -/
def Node.Apart (node next : Node) : Prop :=
  node.isText = true → next.isText = false

variable {nodes joined : List Node} {readLabel : LabelReader}

/-! ## Joining -/

theorem joinTexts_cons {node : Node} (hnode : node.isText = false) (nodes : List Node) :
    joinTexts (node :: nodes) = node :: joinTexts nodes := by
  cases node with
  | text value => cases hnode
  | _ => rfl

theorem EndsRun.joinTexts (h : EndsRun nodes) : EndsRun (joinTexts nodes) := by
  cases nodes with
  | nil => exact h
  | cons node rest =>
    rw [joinTexts_cons (h node rfl)]
    rintro other ⟨⟩
    exact h node rfl

/-- A text in front of nodes that do not start with a text stays as it is. -/
theorem joinTexts_text (value : String) (h : EndsRun nodes) :
    joinTexts (.text value :: nodes) = .text value :: joinTexts nodes := by
  rw [joinTexts]
  split
  · next next rest heq =>
    have hnext := h.joinTexts (.text next) (by rw [heq]; rfl)
    cases hnext
  · rfl

/-- A run of texts becomes one text. -/
theorem joinTexts_run {values : List String} (hvalues : values ≠ []) (h : EndsRun nodes) :
    joinTexts (values.map .text ++ nodes) = .text (String.join values) :: joinTexts nodes := by
  induction values with
  | nil => exact absurd rfl hvalues
  | cons value more ih =>
    rw [String.join_cons, List.map_cons, List.cons_append]
    cases more with
    | nil => exact (joinTexts_text value h).trans (by simp)
    | cons next others => rw [joinTexts, ih (List.cons_ne_nil _ _)]

theorem exists_joined_run {values : List String} (hvalues : values ≠ []) (hend : EndsRun nodes)
    (h : Joined nodes joined) : ∃ joined', Joined (values.map .text ++ nodes) joined' := by
  by_cases hjoin : String.join values = ""
  · exact ⟨joined, .empty hvalues hend hjoin h⟩
  · exact ⟨_, .texts hvalues hend hjoin h⟩

/-- A text in front starts a run, or it goes in front of the run that is there. -/
theorem exists_joined_text (value : String) (h : Joined nodes joined) :
    ∃ joined', Joined (.text value :: nodes) joined' := by
  cases h with
  | nil => exact exists_joined_run (List.cons_ne_nil value []) nofun .nil
  | node hnode h =>
    refine exists_joined_run (List.cons_ne_nil value []) ?_ (.node hnode h)
    rintro other ⟨⟩
    exact hnode
  | @empty values _ _ _ hend _ h => exact exists_joined_run (List.cons_ne_nil value values) hend h
  | @texts values _ _ _ hend _ h => exact exists_joined_run (List.cons_ne_nil value values) hend h

/-- Every list of nodes can be joined. -/
theorem exists_joined (nodes : List Node) : ∃ joined, Joined nodes joined := by
  induction nodes with
  | nil => exact ⟨[], .nil⟩
  | cons node rest ih =>
    obtain ⟨joined, h⟩ := ih
    cases hnode : node.isText with
    | false => exact ⟨node :: joined, .node hnode h⟩
    | true =>
      cases node with
      | text value => exact exists_joined_text value h
      | _ => cases hnode

/-- Texts that are not empty and no neighbours are joined already. -/
theorem joined_self (hchain : nodes.IsChain Node.Apart) (hempty : .text "" ∉ nodes) :
    Joined nodes nodes := by
  induction nodes with
  | nil => exact .nil
  | cons node rest ih =>
    rw [List.isChain_cons] at hchain
    rw [List.mem_cons, not_or] at hempty
    have hrest := ih hchain.2 hempty.2
    cases node with
    | text value =>
      have hjoin : String.join [value] = value := by simp
      have hne : String.join [value] ≠ "" := by
        rw [hjoin]
        rintro rfl
        exact hempty.1 rfl
      have h := Joined.texts (List.cons_ne_nil value [])
        (fun node hnode => hchain.1 node hnode rfl) hne hrest
      rwa [hjoin] at h
    | _ => exact .node rfl hrest

namespace Joined

theorem endsRun (h : Joined nodes joined) (hend : EndsRun nodes) : EndsRun joined := by
  have hstart {values : List String} {rest : List Node} (hvalues : values ≠ [])
      (hend : EndsRun (values.map .text ++ rest)) : False := by
    obtain ⟨value, more, rfl⟩ := List.exists_cons_of_ne_nil hvalues
    cases hend (.text value) rfl
  cases h with
  | nil => exact hend
  | node hnode =>
    rintro other ⟨⟩
    exact hnode
  | empty hvalues => exact (hstart hvalues hend).elim
  | texts hvalues => exact (hstart hvalues hend).elim

/-- Runs are as long as they can be, so no two of them are neighbours. -/
theorem isChain (h : Joined nodes joined) : joined.IsChain Node.Apart := by
  induction h with
  | nil => exact .nil
  | node hnode h ih =>
    refine List.isChain_cons.mpr ⟨fun next _ htext => ?_, ih⟩
    rw [hnode] at htext
    cases htext
  | empty hvalues hend hjoin h ih => exact ih
  | texts hvalues hend hjoin h ih =>
    exact List.isChain_cons.mpr ⟨fun next hnext _ => h.endsRun hend next hnext, ih⟩

/-- The other nodes stay, in their order. -/
theorem filter_eq (h : Joined nodes joined) :
    joined.filter (!·.isText) = nodes.filter (!·.isText) := by
  have htexts (values : List String) :
      (values.map Node.text).filter (!·.isText) = [] := by
    rw [List.filter_eq_nil_iff]
    intro node hnode
    obtain ⟨value, -, rfl⟩ := List.mem_map.mp hnode
    simp [Node.isText]
  induction h with
  | nil => rfl
  | node hnode h ih => simp [hnode, ih]
  | empty hvalues hend hjoin h ih => rw [List.filter_append, htexts, List.nil_append, ih]
  | texts hvalues hend hjoin h ih =>
    rw [List.filter_append, htexts, List.nil_append, ← ih]
    rfl

end Joined

/-! ## Cutting -/

theorem splitNode_of_not_text {node : Node} (hnode : node.isText = false) :
    splitNode readLabel node = [node] := by
  cases node with
  | text value => cases hnode
  | _ => rfl

theorem splitNode_empty : splitNode readLabel (.text "") = [] := by
  have hpieces : Source.pieces [] = [] := Source.pieces_eq_of_none rfl
  rw [splitNode, String.toList_empty, hpieces]
  rfl

/-- A text without directives stays one text. -/
theorem splitNode_of_findMark {value : String} (hne : value ≠ "")
    (hnone : Source.findMark none value.toList = none) :
    splitNode readLabel (.text value) = [.text value] := by
  have hne' : value.toList ≠ [] := by simpa using hne
  rw [splitNode, Source.pieces_of_findMark hne' hnone, List.map_singleton, Source.Piece.toNode,
    String.ofList_toList]

/-- A text that is left over is not empty and holds no directive. -/
theorem text_of_mem_splitNode {node : Node} {value : String}
    (h : .text value ∈ splitNode readLabel node) :
    value ≠ "" ∧ splitNode readLabel (.text value) = [.text value] := by
  cases hnode : node.isText with
  | false =>
    rw [splitNode_of_not_text hnode, List.mem_singleton] at h
    rw [← h] at hnode
    cases hnode
  | true =>
    cases node with
    | text whole =>
      obtain ⟨piece, hpiece, heq⟩ := List.mem_map.mp h
      cases piece with
      | directive mark => cases heq
      | text cs =>
        cases heq
        obtain ⟨hne, hnone⟩ := Source.text_of_mem_pieces hpiece
        have hne' : String.ofList cs ≠ "" := by simpa using hne
        exact ⟨hne', splitNode_of_findMark hne' (by rwa [String.toList_ofList])⟩
    | _ => cases hnode

namespace Source

/-- Two pieces that are not both texts. -/
def Piece.Apart (piece next : Piece) : Prop :=
  ∀ value, piece = .text value → ∃ mark, next = .directive mark

/-- Between two texts there is a directive. -/
theorem isChain_pieces (cs : List Char) : (pieces cs).IsChain Piece.Apart := by
  have hofText (value : List Char) : (Piece.ofText value).IsChain Piece.Apart := by
    rw [Piece.ofText]
    split
    · exact .nil
    · exact .singleton _
  induction cs using pieces.induct with
  | case1 cs hnone =>
    rw [pieces_eq_of_none hnone]
    exact hofText cs
  | case2 cs found hfound ih =>
    rw [pieces_eq_of_some hfound, List.isChain_append, List.isChain_cons]
    refine ⟨hofText _, ⟨fun piece _ value heq => ?_, ih⟩, fun piece _ next hnext _ _ => ?_⟩
    · cases heq
    · cases hnext
      exact ⟨found.mark, rfl⟩

end Source

theorem isChain_splitNode (node : Node) : (splitNode readLabel node).IsChain Node.Apart := by
  cases hnode : node.isText with
  | false =>
    rw [splitNode_of_not_text hnode]
    exact .singleton node
  | true =>
    cases node with
    | text value =>
      refine List.isChain_map_of_isChain _ ?_ (Source.isChain_pieces value.toList)
      intro piece next h htext
      cases piece with
      | directive mark => cases htext
      | text value =>
        obtain ⟨mark, rfl⟩ := h value rfl
        rfl
    | _ => cases hnode

/-- Cutting a node leaves a text at an end only if the node is a text. -/
theorem isText_of_mem_splitNode {node piece : Node} (h : piece ∈ splitNode readLabel node)
    (htext : piece.isText = true) : node.isText = true := by
  cases hnode : node.isText with
  | true => rfl
  | false =>
    rw [splitNode_of_not_text hnode, List.mem_singleton] at h
    rw [h, hnode] at htext
    cases htext

/-- Nodes that are apart stay apart when they are cut. -/
theorem isChain_flatMap (h : nodes.IsChain Node.Apart) :
    (nodes.flatMap (splitNode readLabel)).IsChain Node.Apart := by
  induction nodes with
  | nil => exact .nil
  | cons node rest ih =>
    rw [List.isChain_cons] at h
    rw [List.flatMap_cons, List.isChain_append]
    refine ⟨isChain_splitNode node, ih h.2, fun last hlast next hnext htext => ?_⟩
    -- a text at the end comes from a text, and behind that there is none
    have hnode : node.isText = true :=
      isText_of_mem_splitNode (List.mem_of_getLast? hlast) htext
    cases rest with
    | nil => cases hnext
    | cons other more =>
      have hother := h.1 other rfl hnode
      rw [List.flatMap_cons, splitNode_of_not_text hother] at hnext
      cases hnext
      exact hother

/-! ## What is put in -/

theorem Added.put_all {front added : List Node} (hfront : ∀ node ∈ front, node.IsTextual)
    (h : Added nodes added) : Added nodes (front ++ added) := by
  induction front with
  | nil => exact h
  | cons node rest ih =>
    obtain ⟨hnode, hrest⟩ := List.forall_mem_cons.mp hfront
    exact .put hnode (ih hrest)

/-- Cutting puts texts and text directives between the other nodes. -/
theorem added_flatMap (readLabel : LabelReader) (nodes : List Node) :
    Added (nodes.filter (!·.isText)) (nodes.flatMap (splitNode readLabel)) := by
  induction nodes with
  | nil => exact .nil
  | cons node rest ih =>
    rw [List.flatMap_cons]
    cases hnode : node.isText with
    | false =>
      rw [splitNode_of_not_text hnode, List.filter_cons_of_pos (by simp [hnode])]
      exact .keep node ih
    | true =>
      rw [List.filter_cons_of_neg (by simp [hnode])]
      cases node with
      | text value =>
        refine ih.put_all fun piece hpiece => ?_
        obtain ⟨piece, -, rfl⟩ := List.mem_map.mp hpiece
        cases piece with
        | text value => exact .text _
        | directive mark => exact .directive rfl _
      | _ => cases hnode

/-! ## Both steps -/

/-- **How a text was cut up before does not matter.** -/
theorem expandTexts_of_joined (h : Joined nodes joined) :
    expandTexts readLabel nodes = joined.flatMap (splitNode readLabel) := by
  rw [expandTexts]
  induction h with
  | nil => rfl
  | node hnode h ih => rw [joinTexts_cons hnode, List.flatMap_cons, List.flatMap_cons, ih]
  | empty hvalues hend hjoin h ih =>
    rw [joinTexts_run hvalues hend, hjoin, List.flatMap_cons, splitNode_empty, List.nil_append, ih]
  | texts hvalues hend hjoin h ih =>
    rw [joinTexts_run hvalues hend, List.flatMap_cons, List.flatMap_cons, ih]

theorem isChain_expandTexts (readLabel : LabelReader) (nodes : List Node) :
    (expandTexts readLabel nodes).IsChain Node.Apart := by
  obtain ⟨joined, h⟩ := exists_joined nodes
  rw [expandTexts_of_joined h]
  exact isChain_flatMap h.isChain

theorem text_of_mem_expandTexts {value : String} (h : .text value ∈ expandTexts readLabel nodes) :
    value ≠ "" ∧ splitNode readLabel (.text value) = [.text value] := by
  obtain ⟨node, -, hvalue⟩ := List.mem_flatMap.mp h
  exact text_of_mem_splitNode hvalue

theorem empty_not_mem_expandTexts (readLabel : LabelReader) (nodes : List Node) :
    .text "" ∉ expandTexts readLabel nodes :=
  fun h => (text_of_mem_expandTexts h).1 rfl

theorem added_expandTexts (readLabel : LabelReader) (nodes : List Node) :
    Added (nodes.filter (!·.isText)) (expandTexts readLabel nodes) := by
  obtain ⟨joined, h⟩ := exists_joined nodes
  rw [expandTexts_of_joined h, ← h.filter_eq]
  exact added_flatMap readLabel joined

/-- **Expanding again changes nothing.** -/
theorem expandTexts_expandTexts (readLabel : LabelReader) (nodes : List Node) :
    expandTexts readLabel (expandTexts readLabel nodes) = expandTexts readLabel nodes := by
  have hsplit : ∀ node ∈ expandTexts readLabel nodes, splitNode readLabel node = [node] := by
    intro node hnode
    cases htext : node.isText with
    | false => exact splitNode_of_not_text htext
    | true =>
      cases node with
      | text value => exact (text_of_mem_expandTexts hnode).2
      | _ => cases htext
  have hjoined := joined_self (isChain_expandTexts readLabel nodes)
    (empty_not_mem_expandTexts readLabel nodes)
  rw [expandTexts_of_joined hjoined, List.flatMap_congr hsplit, List.flatMap_singleton']

/--
**What expanding texts leaves.**

No text is empty and no two texts are neighbours. The other nodes stay in their order, with nothing
but texts and text directives put between them. Expanding again changes nothing, and only the
joined texts count, so it does not matter where a text was cut before.
-/
theorem expandTexts_normal (readLabel : LabelReader) (nodes : List Node) :
    .text "" ∉ expandTexts readLabel nodes ∧
      (∀ value next, ¬ [.text value, .text next] <:+: expandTexts readLabel nodes) ∧
      Added (nodes.filter (!·.isText)) (expandTexts readLabel nodes) ∧
      expandTexts readLabel (expandTexts readLabel nodes) = expandTexts readLabel nodes ∧
      (∃ joined, Joined nodes joined) ∧
      ∀ joined others, Joined nodes joined → Joined others joined →
        expandTexts readLabel others = expandTexts readLabel nodes := by
  refine ⟨empty_not_mem_expandTexts readLabel nodes, fun value next h => ?_,
    added_expandTexts readLabel nodes, expandTexts_expandTexts readLabel nodes,
    exists_joined nodes, fun joined others h h' => ?_⟩
  · have hchain := List.IsChain.infix (isChain_expandTexts readLabel nodes) h
    cases (List.isChain_cons.mp hchain).1 (.text next) rfl rfl
  · rw [expandTexts_of_joined h, expandTexts_of_joined h']

/-! ### A directive that was cut up -/

/-- A reader that takes a label as it is. -/
def plainLabel : LabelReader :=
  fun label => [.text (String.ofList label)]

/-- A text directive in two texts, and an empty text behind. -/
def cutNodes : List Node :=
  [.text "see :b", .text "[c]", .lineBreak, .text ""]

/-- The same directive in one text. -/
def wholeNodes : List Node :=
  [.text "see :b[c]", .lineBreak]

/-- The directive is found where it was cut up as well. -/
theorem expandTexts_cutNodes :
    Joined cutNodes wholeNodes ∧ Joined wholeNodes wholeNodes ∧
      expandTexts plainLabel wholeNodes
        = [.text "see ", .directive { kind := .text, name := "b" } [.text "c"], .lineBreak] ∧
      expandTexts plainLabel cutNodes = expandTexts plainLabel wholeNodes := by
  have hjoin : String.join ["see :b", "[c]"] = "see :b[c]" := by decide
  have hrest : Joined [.lineBreak, .text ""] [.lineBreak] :=
    .node rfl (.empty (List.cons_ne_nil "" []) nofun rfl .nil)
  have hends : EndsRun [.lineBreak, .text ""] := by
    rintro node ⟨⟩
    rfl
  have hcut : Joined cutNodes wholeNodes := by
    have h := Joined.texts (List.cons_ne_nil "see :b" ["[c]"]) hends (by decide) hrest
    rwa [hjoin] at h
  have hwhole : Joined wholeNodes wholeNodes := by
    refine joined_self ?_ ?_
    · exact .cons_cons (fun _ => rfl) (.singleton _)
    · simp [wholeNodes]
  have hfound : Source.findMark none "see :b[c]".toList
      = some ⟨"see ".toList, { name := "b", label := ['c'] }, []⟩ := rfl
  have hpieces : Source.pieces "see :b[c]".toList
      = [.text "see ".toList, .directive { name := "b", label := ['c'] }] := by
    rw [Source.pieces_eq_of_some hfound, Source.pieces_eq_of_none rfl]
    rfl
  refine ⟨hcut, hwhole, ?_,
    (expandTexts_normal plainLabel wholeNodes).2.2.2.2.2 wholeNodes cutNodes hwhole hcut⟩
  rw [expandTexts_of_joined hwhole, wholeNodes, List.flatMap_cons, splitNode, hpieces]
  rfl

end MarkdownDirectives
