import Mathlib.Logic.ExistsUnique
import MarkdownDirectives.Proofs.Walk.Complete
import MarkdownDirectives.Proofs.Walk.Position

/-!
# Walks that an error cuts short

The first error ends a walk, at any depth and after any number of directives that were resolved
before. `Transformer.Stop` says what is left behind then: the tree is cut at one directive, which
was refused. What comes before it was visited. It and all that comes behind it are as they were,
except that the figures around it have already moved their labels.

Every rule of `Transformer.Fails` keeps this (`stop_here`, `stop_insideDirective`,
`stop_insidePlain`, `stop_behind`), so it holds of every walk that fails (`exists_stop`), and there
is only one such directive (`transform_error_stops`).
-/

namespace MarkdownDirectives

namespace Transformer

/--
The walk from `before` to `after` was cut short at the directive `D` by the error `e`.

`earlier` and `later` are the directives of the new tree in front of `D` and behind it.
-/
structure Stop (t : Transformer) (e : DirectiveError) (before after : List Node)
    (visits : List Visit) (earlier : List Located) (D : Located) (later : List Located) : Prop where
  located : Node.locatedList after = earlier ++ D :: later
  stands : Node.at? D.path after = some D.directive.toNode
  /-- The directives in front of it were visited. -/
  visited : visits.map Visit.key = earlier.map (·.head.key)
  /-- Resolving it gave the error and what stands there now. -/
  refused : ∃ d : Directive, d.toDirectiveHead = D.head ∧
    t.resolve d = (D.directive, .error e) ∧
    (¬ t.InsideImage after D.path → Node.at? D.path before = some d.toNode)
  /-- It and the directives behind it are directives of the old tree; so are those in front of it,
  but for what they are rendered as now. -/
  origin : ∃ seen : List DirectiveHead,
    (seen ++ (D :: later).map Located.head).Perm (Node.directivesList before) ∧
      seen.map DirectiveHead.bare = earlier.map (·.head.bare)
  /-- Nodes behind it are the same, unless they stand in an image container. -/
  same : ∀ path, D.path < path → ¬ t.InsideImage after path →
    Node.at? path after = Node.at? path before

variable {t : Transformer} {e : DirectiveError}

/-! ## Rule by rule -/

theorem stop_here {d d' : Directive} (rest : List Node) (hd : t.resolve d = (d', .error e)) :
    t.Stop e (d.toNode :: rest) (d'.toNode :: rest) [] [] ⟨[0], d'⟩
      ((Node.locatedList d'.children).map .inFirst ++ (Node.locatedList rest).map .inRest) where
  located := rfl
  stands := Node.at?_zero _ _
  visited := rfl
  refused := ⟨d, (head_of_resolve_error hd).symm, hd, fun _ => Node.at?_zero _ _⟩
  origin := by
    refine ⟨[], ?_, rfl⟩
    have hp := perm_directives_resolve t d
    rw [hd] at hp
    have hlater : (⟨[0], d'⟩ :: ((Node.locatedList d'.children).map Located.inFirst
          ++ (Node.locatedList rest).map Located.inRest)).map Located.head
        = d.toDirectiveHead
          :: (Node.directivesList d'.children ++ Node.directivesList rest) := by
      rw [List.map_cons, List.map_append, List.map_map, List.map_map, ← Node.head_locatedList,
        ← Node.head_locatedList, ← head_of_resolve_error hd]
      rfl
    rw [List.nil_append, hlater, Node.directivesList_cons, Node.directives_toNode]
    exact (hp.append_right _).cons _
  same := by
    intro path hlt hin
    cases path with
    | nil => exact absurd hlt (List.not_lt_nil _)
    | cons i path =>
      cases i with
      | zero =>
        have hne : path ≠ [] := by
          rintro rfl
          exact List.lt_irrefl _ hlt
        -- a refused figure may have moved its label, any other directive is as it was
        have hi : ¬ t.IsImage d.name := by
          intro hi
          rw [← name_of_resolve hd] at hi
          exact hin (insideImage_directive hne hi)
        rw [Directive.toNode, Directive.toNode, Node.at?_zero_cons rfl rest hne,
          Node.at?_zero_cons rfl rest hne, children_of_resolve hd hi]
      | succ i => rw [Node.at?_succ, Node.at?_succ]

/--
A walk stopped inside the first node is stopped there seen from outside as well.

`own` is what the node itself adds to the located directives of its children, and `origin` what it
adds to the old directives.
-/
theorem stop_inside {node node' : Node} {children inner : List Node} {visits : List Visit}
    {earlier later : List Located} {D : Located} (rest : List Node) (first : List Visit)
    (own : List Located) (origin : List DirectiveHead)
    (h : t.Stop e children inner visits earlier D later) (hc : node'.children? = some inner)
    (hlocated : Node.located node' = own ++ Node.locatedList inner)
    (hfirst : first.map Visit.key = own.map (·.head.key))
    (horigin : (origin ++ Node.directivesList children).Perm (Node.directives node))
    (hbare : origin.map DirectiveHead.bare = own.map (·.head.bare))
    (hsame : ∀ path, path ≠ [] → ¬ t.InsideImage (node' :: rest) (0 :: path) →
      Node.at? (0 :: path) (node :: rest) = Node.at? path children) :
    t.Stop e (node :: rest) (node' :: rest) (first ++ visits) ((own ++ earlier).map .inFirst)
      D.inFirst (later.map .inFirst ++ (Node.locatedList rest).map .inRest) where
  located := by
    rw [Node.locatedList, hlocated, h.located]
    simp only [List.map_append, List.map_cons, List.append_assoc, List.cons_append]
  stands := by
    show Node.at? (0 :: D.path) (node' :: rest) = some D.directive.toNode
    rw [Node.at?_zero_cons hc rest (Node.ne_nil_of_at? h.stands), h.stands]
  visited := by
    rw [List.map_append, hfirst, h.visited, List.map_map, List.map_append]
    rfl
  refused := by
    obtain ⟨d, hhead, hd, hat⟩ := h.refused
    refine ⟨d, hhead, hd, fun hin => ?_⟩
    show Node.at? (0 :: D.path) (node :: rest) = some d.toNode
    rw [hsame _ (Node.ne_nil_of_at? h.stands) hin]
    exact hat fun hin' => hin (insideImage_zero_cons hc hin')
  origin := by
    obtain ⟨seen, hperm, hseen⟩ := h.origin
    refine ⟨origin ++ seen, ?_, by
      rw [List.map_append, hbare, hseen, List.map_map, List.map_append]; rfl⟩
    have hheads : (D.inFirst :: (later.map Located.inFirst
          ++ (Node.locatedList rest).map Located.inRest)).map Located.head
        = (D :: later).map Located.head ++ Node.directivesList rest := by
      rw [List.map_cons, List.map_append, List.map_map, List.map_map, ← Node.head_locatedList]
      rfl
    rw [hheads, Node.directivesList_cons, ← List.append_assoc, List.append_assoc origin]
    exact ((hperm.append_left origin).trans horigin).append_right _
  same := by
    intro path hlt hin
    cases path with
    | nil => exact absurd hlt (List.not_lt_nil _)
    | cons i path =>
      cases i with
      | zero =>
        have hlt' : D.path < path := by
          rcases List.cons_lt_cons_iff.mp hlt with h0 | ⟨-, hlt'⟩
          · exact absurd h0 (Nat.lt_irrefl 0)
          · exact hlt'
        have hne : path ≠ [] := by
          rintro rfl
          exact absurd hlt' (List.not_lt_nil _)
        rw [hsame path hne hin, Node.at?_zero_cons hc rest hne]
        exact h.same path hlt' fun hin' => hin (insideImage_zero_cons hc hin')
      | succ i => rw [Node.at?_succ, Node.at?_succ]

theorem stop_insideDirective {d d' : Directive} {resolution : Resolution} {inner : List Node}
    {visits : List Visit} {earlier later : List Located} {D : Located} (rest : List Node)
    (hd : t.resolve d = (d', .ok resolution))
    (h : t.Stop e d'.children inner visits earlier D later) :
    ∃ earlier D later, t.Stop e (d.toNode :: rest) (.directive d'.toDirectiveHead inner :: rest)
      (⟨d'.name, d'.kind, resolution⟩ :: visits) earlier D later := by
  have hp := perm_directives_resolve t d
  rw [hd] at hp
  refine ⟨_, _, _, stop_inside rest [⟨d'.name, d'.kind, resolution⟩]
    [⟨[], ⟨d'.toDirectiveHead, inner⟩⟩] [d.toDirectiveHead] h rfl rfl rfl (hp.cons _) ?_ ?_⟩
  · rw [List.map_singleton, List.map_singleton, ← bare_of_resolve hd]
    rfl
  · intro path hne hin
    have hi : ¬ t.IsImage d.name := by
      intro hi
      rw [← name_of_resolve hd] at hi
      exact hin (insideImage_directive hne hi)
    rw [Directive.toNode, Node.at?_zero_cons rfl rest hne, children_of_resolve hd hi]

theorem stop_insidePlain {node : Node} {children inner : List Node} {visits : List Visit}
    {earlier later : List Located} {D : Located} (rest : List Node) (hp : node.IsPlain)
    (hc : node.children? = some children) (h : t.Stop e children inner visits earlier D later) :
    ∃ earlier D later,
      t.Stop e (node :: rest) (node.withChildren inner :: rest) visits earlier D later := by
  have hc' := Node.children_withChildren hc inner
  have hp' := Node.isPlain_withChildren hp inner
  refine ⟨_, _, _, stop_inside rest [] [] [] h hc' (Node.located_plain hp' hc') rfl ?_ rfl ?_⟩
  · rw [List.nil_append, Node.directives_plain hp hc]
  · intro path hne _
    exact Node.at?_zero_cons hc rest hne

theorem stop_behind {node node' : Node} {rest out : List Node} {first visits : List Visit}
    {earlier later : List Located} {D : Located} (hn : t.Succeeds [node] [node'] first)
    (h : t.Stop e rest out visits earlier D later) :
    t.Stop e (node :: rest) (node' :: out) (first ++ visits)
      ((Node.located node').map .inFirst ++ earlier.map .inRest) D.inRest (later.map .inRest) where
  located := by
    rw [Node.locatedList, h.located, List.map_append, List.map_cons, List.append_assoc]
  stands := by
    have hs := h.stands
    cases hpath : D.path with
    | nil => exact absurd hpath (Node.ne_nil_of_at? hs)
    | cons i path =>
      rw [hpath] at hs
      rw [Located.inRest, hpath, List.modifyHead_cons, Node.at?_succ, hs]
  visited := by
    have hkeys := key_visits hn
    rw [Node.directivesList_cons, Node.directivesList, List.append_nil,
      ← Node.head_located] at hkeys
    rw [List.map_append, hkeys, h.visited, List.map_append, List.map_map, List.map_map,
      List.map_map]
    rfl
  refused := by
    obtain ⟨d, hhead, hd, hat⟩ := h.refused
    refine ⟨d, hhead, hd, fun hin => ?_⟩
    cases hpath : D.path with
    | nil => exact absurd hpath (Node.ne_nil_of_at? h.stands)
    | cons i path =>
      rw [hpath] at hat
      rw [Located.inRest, hpath, List.modifyHead_cons] at hin ⊢
      rw [Node.at?_succ]
      exact hat fun hin' => hin (insideImage_succ hin')
  origin := by
    obtain ⟨seen, hperm, hseen⟩ := h.origin
    obtain ⟨origin, hperm', horigin⟩ := exists_origin hn
    rw [Node.directivesList_cons, Node.directivesList, List.append_nil] at hperm' horigin
    refine ⟨origin ++ seen, ?_, ?_⟩
    · have hheads : (D.inRest :: later.map Located.inRest).map Located.head
          = (D :: later).map Located.head := by
        rw [List.map_cons, List.map_map]
        rfl
      rw [hheads, Node.directivesList_cons, List.append_assoc]
      exact hperm'.append hperm
    · rw [List.map_append, horigin, hseen, ← Node.head_located, List.map_append, List.map_map,
        List.map_map, List.map_map]
      rfl
  same := by
    intro path hlt hin
    cases hpath : D.path with
    | nil => exact absurd hpath (Node.ne_nil_of_at? h.stands)
    | cons i start =>
      rw [Located.inRest, hpath, List.modifyHead_cons] at hlt
      cases path with
      | nil => exact absurd hlt (List.not_lt_nil _)
      | cons j path =>
        cases j with
        | zero =>
          -- the first node lies in front of the directive
          rcases List.cons_lt_cons_iff.mp hlt with h0 | ⟨h0, -⟩
          · exact absurd h0 (Nat.not_lt_zero _)
          · exact absurd h0 (Nat.succ_ne_zero i)
        | succ j =>
          have hlt' : D.path < j :: path := by
            rw [hpath, List.cons_lt_cons_iff]
            rcases List.cons_lt_cons_iff.mp hlt with hlt | ⟨heq, hlt⟩
            · exact .inl (Nat.lt_of_succ_lt_succ hlt)
            · exact .inr ⟨Nat.succ.inj heq, hlt⟩
          rw [Node.at?_succ, Node.at?_succ]
          exact h.same _ hlt' fun hin' => hin (insideImage_succ hin')

/-! ## The whole walk -/

theorem exists_stop {before after : List Node} {visits : List Visit}
    (h : t.Fails e before after visits) :
    ∃ earlier D later, t.Stop e before after visits earlier D later := by
  induction h with
  | here hd => exact ⟨_, _, _, stop_here _ hd⟩
  | insideDirective hd _ ih =>
    obtain ⟨earlier, D, later, hs⟩ := ih
    exact stop_insideDirective _ hd hs
  | insidePlain hp hc _ ih =>
    obtain ⟨earlier, D, later, hs⟩ := ih
    exact stop_insidePlain _ hp hc hs
  | behind hn _ ih =>
    obtain ⟨earlier, D, later, hs⟩ := ih
    exact ⟨_, _, _, stop_behind hn hs⟩

/-- The visits say how many directives lie in front of the one where the walk stopped. -/
theorem stop_unique {before after : List Node} {visits : List Visit}
    {earlier later earlier' later' : List Located} {D D' : Located}
    (h : t.Stop e before after visits earlier D later)
    (h' : t.Stop e before after visits earlier' D' later') : D' = D := by
  -- both lists have been visited, so they are equally long
  have hlength : earlier'.length = earlier.length := by
    have := congrArg List.length (h'.visited.symm.trans h.visited)
    rwa [List.length_map, List.length_map] at this
  have hsplit : earlier' ++ D' :: later' = earlier ++ D :: later := h'.located.symm.trans h.located
  have hrest := (List.append_inj hsplit hlength).2
  exact (List.cons.inj hrest).1

end Transformer

/--
**A transformation that fails stops at exactly one directive of the tree it leaves behind.**

What was visited are the directives in front of it, resolving it gave the error, and it and what
comes behind it are as they were.
-/
theorem transform_error_stops (t : Transformer) (document : Document) (e : DirectiveError)
    (h : (t.transform document).result = .error e) :
    ∃! D : Located, ∃ earlier later,
      t.Stop e document.children (t.transform document).document.children
        (t.transform document).visits earlier D later := by
  obtain ⟨earlier, D, later, hs⟩ := Transformer.exists_stop (Transformer.fails_transform h)
  refine ⟨D, ⟨earlier, later, hs⟩, ?_⟩
  rintro D' ⟨earlier', later', hs'⟩
  exact Transformer.stop_unique hs hs'

/-! ### A figure around a link without an address -/

/-- A figure with a badge in its label; the link beside its image says nothing of where it leads. -/
def brokenFigure : Directive where
  kind := .container
  name := "image-figure"
  children := [
    .paragraph { label := true } [.directive { kind := .text, name := "badge" } [.text "new"]],
    .paragraph {} [.image { url := "a.png" }, .directive { kind := .text, name := "link" } []]]

/-- The link comes before the badge of the label, which has been moved behind it. -/
theorem fails_brokenFigure : ∃ out,
    Transformer.standard.Fails (.invalid .link .idMissing) [brokenFigure.toNode] out
      [⟨"image-figure", .container, .family .image⟩] := by
  have hlink : Transformer.standard.Fails (.invalid .link .idMissing)
      [.directive { kind := .text, name := "link" } []] _ _ :=
    .here (d := ⟨{ kind := .text, name := "link" }, []⟩) rfl
  have hinner : Transformer.standard.Fails _ (Transformer.standard.resolve brokenFigure).1.children
      _ _ :=
    .insidePlain (by rintro head children ⟨⟩) rfl (.behind (.childless rfl .nil) hlink)
  exact ⟨_, .insideDirective rfl hinner⟩

theorem transform_error_stops_brokenFigure :
    let run := Transformer.standard.transform ⟨[brokenFigure.toNode]⟩
    run.result = .error (.invalid .link .idMissing) ∧
      ∃! D : Located, ∃ earlier later,
        Transformer.standard.Stop (.invalid .link .idMissing) [brokenFigure.toNode]
          run.document.children run.visits earlier D later := by
  obtain ⟨out, h⟩ := fails_brokenFigure
  have hresult : (Transformer.standard.transform ⟨[brokenFigure.toNode]⟩).result
      = .error (.invalid .link .idMissing) := by rw [Transformer.transform_of_fails h]
  exact ⟨hresult, transform_error_stops _ _ _ hresult⟩

end MarkdownDirectives
