import MarkdownDirectives.Proofs.Walk.Resolve

/-!
# How a walk goes

`Transformer.visit` goes down by a measure, so it is not unfolded in proofs. Its runs are given by
rules instead, those of a walk that ends well (`Succeeds`) apart from those of a walk that an error
cuts short (`Fails`), and every run is one of them (`succeeds_visit`, `fails_visit`). What holds of
all walks is then shown rule by rule. The rules leave no choice either: each run that they allow is
that of `Transformer.visit` (`visit_of_succeeds`, `visit_of_fails`).

In both relations the nodes come first, then the nodes that are left behind, then the visits. The
report of a run is not among them: it is the one that the run starts with, with a record of every
visit (`Report.recordAll`).
-/

namespace MarkdownDirectives

/-! ## Reports -/

namespace Report

/-- The report behind visits, which are recorded one after the other. -/
def recordAll (r : Report) (visits : List Visit) : Report :=
  visits.foldl (fun r visit => r.record visit.resolution) r

/-- The report of visits. -/
def ofVisits (visits : List Visit) : Report :=
  recordAll {} visits

theorem recordAll_cons (r : Report) (visit : Visit) (rest : List Visit) :
    r.recordAll (visit :: rest) = (r.record visit.resolution).recordAll rest := rfl

theorem recordAll_append (r : Report) (first second : List Visit) :
    r.recordAll (first ++ second) = (r.recordAll first).recordAll second :=
  List.foldl_append

end Report

/-! ## Nodes that are no directives -/

/-- A node that is no directive. -/
def Node.IsPlain (node : Node) : Prop :=
  ∀ head children, node ≠ .directive head children

theorem Node.isPlain_of_childless {node : Node} (h : node.children? = none) : node.IsPlain := by
  rintro head children rfl
  cases h

theorem Node.directives_childless {node : Node} (h : node.children? = none) :
    directives node = [] := by
  cases node with
  | code | html | thematicBreak | text | inlineCode | lineBreak | image => rfl
  | _ => cases h

theorem Node.directives_plain {node : Node} {children : List Node} (hp : node.IsPlain)
    (h : node.children? = some children) : directives node = directivesList children := by
  cases node with
  | directive head children => exact absurd rfl (hp head children)
  | code | html | thematicBreak | text | inlineCode | lineBreak | image => cases h
  | _ => cases h; rfl

theorem Node.children_withChildren {node : Node} {children : List Node}
    (h : node.children? = some children) (new : List Node) :
    (node.withChildren new).children? = some new := by
  cases node <;> first | rfl | cases h

theorem Node.isPlain_withChildren {node : Node} (hp : node.IsPlain) (new : List Node) :
    (node.withChildren new).IsPlain := by
  intro head children h
  cases node <;> first | exact hp _ _ rfl | cases h

theorem Node.directives_withChildren {node : Node} {children : List Node} (hp : node.IsPlain)
    (h : node.children? = some children) (new : List Node) :
    directives (node.withChildren new) = directivesList new :=
  directives_plain (isPlain_withChildren hp new) (children_withChildren h new)

namespace Transformer

/-! ## The rules -/

/-- A walk that ends well. -/
inductive Succeeds (t : Transformer) : List Node → List Node → List Visit → Prop
  | nil : t.Succeeds [] [] []
  | childless {node : Node} {rest out : List Node} {visits : List Visit}
      (hn : node.children? = none) (hr : t.Succeeds rest out visits) :
      t.Succeeds (node :: rest) (node :: out) visits
  | plain {node : Node} {children inner rest out : List Node} {within behind : List Visit}
      (hp : node.IsPlain) (hc : node.children? = some children)
      (hi : t.Succeeds children inner within) (hr : t.Succeeds rest out behind) :
      t.Succeeds (node :: rest) (node.withChildren inner :: out) (within ++ behind)
  | directive {d d' : Directive} {resolution : Resolution} {inner rest out : List Node}
      {within behind : List Visit} (hd : t.resolve d = (d', .ok resolution))
      (hi : t.Succeeds d'.children inner within) (hr : t.Succeeds rest out behind) :
      t.Succeeds (d.toNode :: rest) (.directive d'.toDirectiveHead inner :: out)
        (⟨d'.name, d'.kind, resolution⟩ :: (within ++ behind))

/-- A walk that the error `e` cuts short. -/
inductive Fails (t : Transformer) (e : DirectiveError) :
    List Node → List Node → List Visit → Prop
  | here {d d' : Directive} {rest : List Node} (hd : t.resolve d = (d', .error e)) :
      t.Fails e (d.toNode :: rest) (d'.toNode :: rest) []
  | insideDirective {d d' : Directive} {resolution : Resolution} {inner rest : List Node}
      {visits : List Visit} (hd : t.resolve d = (d', .ok resolution))
      (hi : t.Fails e d'.children inner visits) :
      t.Fails e (d.toNode :: rest) (.directive d'.toDirectiveHead inner :: rest)
        (⟨d'.name, d'.kind, resolution⟩ :: visits)
  | insidePlain {node : Node} {children inner rest : List Node} {visits : List Visit}
      (hp : node.IsPlain) (hc : node.children? = some children)
      (hi : t.Fails e children inner visits) :
      t.Fails e (node :: rest) (node.withChildren inner :: rest) visits
  | behind {node node' : Node} {rest out : List Node} {first visits : List Visit}
      (hn : t.Succeeds [node] [node'] first) (hr : t.Fails e rest out visits) :
      t.Fails e (node :: rest) (node' :: out) (first ++ visits)

variable {t : Transformer} {e : DirectiveError} {nodes out : List Node} {visits : List Visit}
  {r : Report}

/-! ## Every run is by the rules -/

theorem succeeds_visit (h : (t.visit nodes r).error = none) :
    t.Succeeds nodes (t.visit nodes r).nodes (t.visit nodes r).visits := by
  fun_induction visit t nodes r with
  | case1 => exact .nil
  | case2 r head children rest d e hd => cases h
  | case3 r head children rest d resolution hd inner node' visits e he ih => cases h
  | case4 r head children rest d resolution hd inner node' visits he ihi ihr =>
    exact .directive (d := ⟨head, children⟩) hd (ihi he) (ihr h)
  | case5 r node rest hp hn ih => exact .childless hn (ih h)
  | case6 r node rest hp children hc inner node' e he ih => cases h
  | case7 r node rest hp children hc inner node' he ihi ihr => exact .plain hp hc (ihi he) (ihr h)

theorem fails_visit (h : (t.visit nodes r).error = some e) :
    t.Fails e nodes (t.visit nodes r).nodes (t.visit nodes r).visits := by
  fun_induction visit t nodes r with
  | case1 => cases h
  | case2 r head children rest d e hd =>
    cases h
    exact .here (d := ⟨head, children⟩) hd
  | case3 r head children rest d resolution hd inner node' visits e he ih =>
    cases h
    exact .insideDirective (d := ⟨head, children⟩) hd (ih he)
  | case4 r head children rest d resolution hd inner node' visits he ihi ihr =>
    -- the error comes from further on, so the walk inside the directive went well
    have hn := Succeeds.directive (d := ⟨head, children⟩) hd (succeeds_visit he) .nil
    rw [List.append_nil] at hn
    exact .behind hn (ihr h)
  | case5 r node rest hp hn ih =>
    have hnode : t.Succeeds [node] [node] [] := .childless hn .nil
    exact .behind hnode (ih h)
  | case6 r node rest hp children hc inner node' e he ih =>
    cases h
    exact .insidePlain hp hc (ih he)
  | case7 r node rest hp children hc inner node' he ihi ihr =>
    have hn := Succeeds.plain hp hc (succeeds_visit he) .nil
    rw [List.append_nil] at hn
    exact .behind hn (ihr h)

/-! ## The rules determine the run -/

theorem visit_childless {node : Node} (hn : node.children? = none) (rest : List Node) :
    t.visit (node :: rest) r = (t.visit rest r).cons node [] := by
  rw [visit.eq_3 _ _ _ _ (Node.isPlain_of_childless hn)]
  split
  · rfl
  · next heq => rw [hn] at heq; cases heq

/-- The run over a node that is no directive, by the run over its children. -/
theorem visit_plain {node : Node} {children : List Node} (hp : node.IsPlain)
    (hc : node.children? = some children) (rest : List Node) :
    t.visit (node :: rest) r =
      let inner := t.visit children r
      match inner.error with
      | some e => ⟨node.withChildren inner.nodes :: rest, inner.visits, inner.report, some e⟩
      | none => (t.visit rest inner.report).cons (node.withChildren inner.nodes) inner.visits := by
  rw [visit.eq_3 _ _ _ _ hp]
  split
  · next heq => rw [hc] at heq; cases heq
  · next heq =>
    rw [hc] at heq
    cases heq
    rfl

/-- The run over a directive that is resolved, by the run over the children that it has then. -/
theorem visit_resolved {d d' : Directive} {resolution : Resolution}
    (hd : t.resolve d = (d', .ok resolution)) (rest : List Node) :
    t.visit (d.toNode :: rest) r =
      let inner := t.visit d'.children (r.record resolution)
      let node := Node.directive d'.toDirectiveHead inner.nodes
      let visits := ⟨d'.name, d'.kind, resolution⟩ :: inner.visits
      match inner.error with
      | some e => ⟨node :: rest, visits, inner.report, some e⟩
      | none => (t.visit rest inner.report).cons node visits := by
  rw [Directive.toNode, visit]
  split
  · next heq => rw [hd] at heq; cases heq
  · next heq =>
    rw [hd] at heq
    cases heq
    rfl

theorem visit_refused {d d' : Directive} (hd : t.resolve d = (d', .error e)) (rest : List Node) :
    t.visit (d.toNode :: rest) r = ⟨d'.toNode :: rest, [], r, some e⟩ := by
  rw [Directive.toNode, visit]
  split
  · next heq => rw [hd] at heq; cases heq; rfl
  · next heq => rw [hd] at heq; cases heq

/-- **A run that ends well has recorded its visits**, in the report that it starts with. -/
theorem visit_of_succeeds (h : t.Succeeds nodes out visits) (r : Report) :
    t.visit nodes r = ⟨out, visits, r.recordAll visits, none⟩ := by
  induction h generalizing r with
  | nil =>
    rw [visit]
    rfl
  | childless hn _ ih =>
    rw [visit_childless hn, ih]
    rfl
  | plain hp hc _ _ ihi ihr =>
    rw [visit_plain hp hc, ihi, Report.recordAll_append]
    dsimp only
    rw [ihr]
    rfl
  | directive hd _ _ ihi ihr =>
    rw [visit_resolved hd, ihi, Report.recordAll_cons, Report.recordAll_append]
    dsimp only
    rw [ihr]
    rfl

/-- The run over a node and the nodes behind it, if it ends well in the node. -/
theorem visit_cons {node node' : Node} {first : List Visit}
    (hn : t.Succeeds [node] [node'] first) (rest : List Node) :
    t.visit (node :: rest) r = (t.visit rest (r.recordAll first)).cons node' first := by
  -- a walk over one node ends by the rule for that node and the one for no nodes
  cases hn with
  | childless hn hnil =>
    cases hnil
    exact visit_childless hn rest
  | plain hp hc hi hnil =>
    cases hnil
    rw [visit_plain hp hc, visit_of_succeeds hi, List.append_nil]
  | directive hd hi hnil =>
    cases hnil
    rw [visit_resolved hd, visit_of_succeeds hi, List.append_nil]
    rfl

theorem visit_of_fails (h : t.Fails e nodes out visits) (r : Report) :
    t.visit nodes r = ⟨out, visits, r.recordAll visits, some e⟩ := by
  induction h generalizing r with
  | here hd => exact visit_refused hd _
  | insideDirective hd _ ih =>
    rw [visit_resolved hd, ih]
    rfl
  | insidePlain hp hc _ ih => rw [visit_plain hp hc, ih]
  | behind hn _ ih =>
    rw [visit_cons hn, ih, Report.recordAll_append]
    rfl

/-! ## Transformations -/

theorem succeeds_transform {document : Document} {report : Report}
    (h : (t.transform document).result = .ok report) :
    t.Succeeds document.children (t.transform document).document.children
      (t.transform document).visits ∧ report = .ofVisits (t.transform document).visits := by
  unfold transform at *
  dsimp only at *
  split at h
  · cases h
  · next hn =>
    cases h
    have hs := succeeds_visit hn
    refine ⟨hs, ?_⟩
    rw [visit_of_succeeds hs]
    rfl

theorem fails_transform {document : Document} (h : (t.transform document).result = .error e) :
    t.Fails e document.children (t.transform document).document.children
      (t.transform document).visits := by
  unfold transform at *
  dsimp only at *
  split at h
  · next hs =>
    cases h
    exact fails_visit hs
  · cases h

theorem transform_of_succeeds (h : t.Succeeds nodes out visits) :
    t.transform ⟨nodes⟩ = ⟨⟨out⟩, visits, .ok (.ofVisits visits)⟩ := by
  rw [transform, visit_of_succeeds h]
  rfl

theorem transform_of_fails (h : t.Fails e nodes out visits) :
    t.transform ⟨nodes⟩ = ⟨⟨out⟩, visits, .error e⟩ := by
  rw [transform, visit_of_fails h]

end Transformer

end MarkdownDirectives
