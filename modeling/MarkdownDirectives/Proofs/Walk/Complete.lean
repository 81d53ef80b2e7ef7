import MarkdownDirectives.Proofs.Walk.Rules

/-!
# Walks that end well

A walk goes over children that resolving their parent has just rewritten: paragraphs have been
unwrapped, empty labels dropped, and a label has been moved to the end as a caption. Even so every
directive is visited once, in the order of the tree that is left behind
(`transform_ok_complete`). The parts are shown rule by rule:

* `key_visits` — the visits are the directives of the new tree in document order
* `exists_origin` — these are the old directives in some order
* `bare_directives` — it is the old order unless there is a figure
* `isSome_directives` — every directive has been given something to render
-/

namespace MarkdownDirectives

/-- The name and the kind of a directive that was visited. -/
def Visit.key (visit : Visit) : String × DirectiveKind :=
  (visit.name, visit.kind)

theorem Node.directives_toNode (d : Directive) :
    directives d.toNode = d.toDirectiveHead :: directivesList d.children := rfl

namespace Transformer

variable {t : Transformer} {nodes out : List Node} {visits : List Visit}

/-! ## The directives of the new tree -/

theorem key_visits (h : t.Succeeds nodes out visits) :
    visits.map Visit.key = (Node.directivesList out).map DirectiveHead.key := by
  induction h with
  | nil => rfl
  | childless hn _ ih =>
    rw [Node.directivesList_cons, Node.directives_childless hn, List.nil_append, ih]
  | plain hp hc _ _ ihi ihr =>
    rw [Node.directivesList_cons, Node.directives_withChildren hp hc, List.map_append,
      List.map_append, ihi, ihr]
  | directive _ _ _ ihi ihr =>
    rw [Node.directivesList_cons, Node.directives, List.map_cons, List.map_append, ihi, ihr,
      List.cons_append, List.map_cons, List.map_append]
    rfl

/-- Every directive of the new tree is one of the old tree, each of which is taken once. -/
theorem exists_origin (h : t.Succeeds nodes out visits) :
    ∃ origin : List DirectiveHead, origin.Perm (Node.directivesList nodes) ∧
      origin.map DirectiveHead.bare = (Node.directivesList out).map DirectiveHead.bare := by
  induction h with
  | nil => exact ⟨[], .refl _, rfl⟩
  | childless hn _ ih =>
    rw [Node.directivesList_cons, Node.directivesList_cons, Node.directives_childless hn]
    exact ih
  | plain hp hc _ _ ihi ihr =>
    obtain ⟨within, hwithin, hwithin'⟩ := ihi
    obtain ⟨behind, hbehind, hbehind'⟩ := ihr
    rw [Node.directivesList_cons, Node.directivesList_cons, Node.directives_withChildren hp hc,
      Node.directives_plain hp hc]
    exact ⟨within ++ behind, hwithin.append hbehind, by
      rw [List.map_append, List.map_append, hwithin', hbehind']⟩
  | @directive d d' resolution inner rest out within behind hd hi hr ihi ihr =>
    obtain ⟨within, hwithin, hwithin'⟩ := ihi
    obtain ⟨behind, hbehind, hbehind'⟩ := ihr
    -- what the parent did to its children comes first, then the walk over them
    have hp := perm_directives_resolve t d
    rw [hd] at hp
    refine ⟨d.toDirectiveHead :: (within ++ behind),
      ((hwithin.trans hp).append hbehind).cons _, ?_⟩
    rw [Node.directivesList_cons, Node.directives, List.map_cons, List.map_append,
      List.cons_append, List.map_cons, List.map_append, hwithin', hbehind', bare_of_resolve hd]

theorem bare_directives (h : t.Succeeds nodes out visits)
    (hf : ∀ visit ∈ visits, ¬ t.IsFigure visit.name) :
    (Node.directivesList out).map DirectiveHead.bare
      = (Node.directivesList nodes).map DirectiveHead.bare := by
  induction h with
  | nil => rfl
  | childless hn _ ih =>
    rw [Node.directivesList_cons, Node.directivesList_cons, List.map_append, List.map_append,
      ih hf]
  | plain hp hc _ _ ihi ihr =>
    rw [List.forall_mem_append] at hf
    rw [Node.directivesList_cons, Node.directivesList_cons, Node.directives_withChildren hp hc,
      Node.directives_plain hp hc, List.map_append, List.map_append, ihi hf.1, ihr hf.2]
  | @directive d d' resolution inner rest out within behind hd hi hr ihi ihr =>
    rw [List.forall_mem_cons, List.forall_mem_append] at hf
    obtain ⟨hfig, hwithin, hbehind⟩ := hf
    -- the visit carries the name that resolving saw
    rw [name_of_resolve hd] at hfig
    rw [Node.directivesList_cons, Node.directivesList_cons, Node.directives_toNode,
      Node.directives, List.map_append, List.map_append, List.map_cons, List.map_cons,
      ihi hwithin, ihr hbehind, bare_of_resolve hd, directivesList_of_resolve hd hfig]

theorem isSome_directives (h : t.Succeeds nodes out visits) :
    ∀ head ∈ Node.directivesList out, head.data.name.isSome ∧ head.data.properties.isSome := by
  induction h with
  | nil => exact List.forall_mem_nil _
  | childless hn _ ih =>
    rw [Node.directivesList_cons, Node.directives_childless hn]
    exact ih
  | plain hp hc _ _ ihi ihr =>
    rw [Node.directivesList_cons, Node.directives_withChildren hp hc]
    exact List.forall_mem_append.mpr ⟨ihi, ihr⟩
  | directive hd _ _ ihi ihr =>
    rw [Node.directivesList_cons, Node.directives]
    exact List.forall_mem_append.mpr
      ⟨List.forall_mem_cons.mpr ⟨isSome_of_resolve_ok hd, ihi⟩, ihr⟩

end Transformer

/-! ## Reports -/

namespace Report

/-- The counter of a resolution. -/
def count (r : Report) : Resolution → Nat
  | .family .image => r.image
  | .family .video => r.video
  | .family .link => r.link
  | .family .badge => r.badge
  | .fallback => r.fallback

theorem count_record (r : Report) (seen asked : Resolution) :
    (r.record seen).count asked = r.count asked + if seen == asked then 1 else 0 := by
  rcases seen with (_ | _ | _ | _) | _ <;> rcases asked with (_ | _ | _ | _) | _ <;> rfl

theorem total_record (r : Report) (seen : Resolution) : (r.record seen).total = r.total + 1 := by
  rcases seen with (_ | _ | _ | _) | _ <;> simp only [record, total] <;> omega

theorem count_recordAll (resolution : Resolution) (visits : List Visit) (r : Report) :
    (r.recordAll visits).count resolution
      = r.count resolution + visits.countP (·.resolution == resolution) := by
  induction visits generalizing r with
  | nil => rfl
  | cons visit rest ih =>
    rw [recordAll_cons, ih, count_record, List.countP_cons]
    omega

theorem total_recordAll (visits : List Visit) (r : Report) :
    (r.recordAll visits).total = r.total + visits.length := by
  induction visits generalizing r with
  | nil => rfl
  | cons visit rest ih =>
    rw [recordAll_cons, ih, total_record, List.length_cons]
    omega

/-- Every counter is the number of visits that were resolved that way. -/
theorem count_ofVisits (visits : List Visit) (resolution : Resolution) :
    (ofVisits visits).count resolution = visits.countP (·.resolution == resolution) := by
  rw [ofVisits, count_recordAll]
  rcases resolution with (_ | _ | _ | _) | _ <;> exact Nat.zero_add _

theorem total_ofVisits (visits : List Visit) : (ofVisits visits).total = visits.length := by
  rw [ofVisits, total_recordAll]
  exact Nat.zero_add _

end Report

/-! ## The whole document -/

/--
**A transformation that ends well visits every directive once.**

The visits are the directives of the new tree in document order. They are those of the old tree as
well, in the old order if none of them was resolved as a figure; every directive has a name and
properties to render, and the report counts the visits.
-/
theorem transform_ok_complete (t : Transformer) (document : Document) (report : Report)
    (h : (t.transform document).result = .ok report) :
    let before := Node.directivesList document.children
    let after := Node.directivesList (t.transform document).document.children
    let visits := (t.transform document).visits
    visits.map Visit.key = after.map DirectiveHead.key ∧
      (visits.map Visit.key).Perm (before.map DirectiveHead.key) ∧
      ((∀ visit ∈ visits, ¬ t.IsFigure visit.name) →
        visits.map Visit.key = before.map DirectiveHead.key) ∧
      (∀ head ∈ after, head.data.name.isSome ∧ head.data.properties.isSome) ∧
      (∀ resolution, report.count resolution = visits.countP (·.resolution == resolution)) ∧
      report.total = before.length := by
  intro before after visits
  obtain ⟨hs, hreport⟩ := Transformer.succeeds_transform h
  have hkeys : visits.map Visit.key = after.map DirectiveHead.key := Transformer.key_visits hs
  have hperm : (after.map DirectiveHead.key).Perm (before.map DirectiveHead.key) := by
    obtain ⟨origin, hperm, hbare⟩ := Transformer.exists_origin hs
    rw [← map_key_of_map_bare hbare]
    exact hperm.map _
  refine ⟨hkeys, ?_, fun hf => ?_, Transformer.isSome_directives hs, fun resolution => ?_, ?_⟩
  · rw [hkeys]
    exact hperm
  · rw [hkeys]
    exact map_key_of_map_bare (Transformer.bare_directives hs hf)
  · rw [hreport]
    exact Report.count_ofVisits _ _
  · rw [hreport, Report.total_ofVisits]
    have := (hkeys ▸ hperm).length_eq
    rwa [List.length_map, List.length_map] at this

/-! ### A figure -/

/-- The transformer of the default options. -/
def Transformer.standard : Transformer where
  options := {}
  image := ⟨.image, ["image"]⟩
  video := ⟨.video, ["video"]⟩
  link := ⟨.link, ["link"]⟩
  badge := ⟨.badge, ["badge"]⟩

theorem Transformer.ofOptions_default : ofOptions {} = .ok standard := rfl

/-- A figure with a badge in its label, and with another directive beside its image. -/
def badgedFigure : Directive where
  kind := .container
  name := "image-figure"
  children := [
    .paragraph { label := true } [.directive { kind := .text, name := "badge" } [.text "new"]],
    .paragraph {} [.image { url := "a.png" }, .directive { kind := .text, name := "aside" } []]]

/-- The label is moved behind the image, so the badge is visited last. -/
theorem succeeds_badgedFigure : ∃ out,
    Transformer.standard.Succeeds [badgedFigure.toNode] out
      [⟨"image-figure", .container, .family .image⟩, ⟨"aside", .text, .fallback⟩,
        ⟨"badge", .text, .family .badge⟩] := by
  have haside := Transformer.Succeeds.directive (t := .standard)
    (d := ⟨{ kind := .text, name := "aside" }, []⟩) rfl .nil .nil
  have hbadge := Transformer.Succeeds.directive (t := .standard)
    (d := ⟨{ kind := .text, name := "badge" }, [.text "new"]⟩) rfl (.childless rfl .nil) .nil
  have hinner : Transformer.standard.Succeeds
      (Transformer.standard.resolve badgedFigure).1.children _ _ :=
    .plain (by rintro head children ⟨⟩) rfl (.childless rfl haside)
      (.plain (by rintro head children ⟨⟩) rfl hbadge .nil)
  exact ⟨_, .directive rfl hinner .nil⟩

theorem transform_ok_complete_badgedFigure :
    let run := Transformer.standard.transform ⟨[badgedFigure.toNode]⟩
    run.result = .ok { image := 1, badge := 1, fallback := 1 } ∧
      run.visits.map Visit.key
        = [("image-figure", .container), ("aside", .text), ("badge", .text)] ∧
      run.visits.map Visit.key
        = (Node.directivesList run.document.children).map DirectiveHead.key := by
  obtain ⟨out, h⟩ := succeeds_badgedFigure
  have hrun := Transformer.transform_of_succeeds h
  have hresult : (Transformer.standard.transform ⟨[badgedFigure.toNode]⟩).result
      = .ok { image := 1, badge := 1, fallback := 1 } := by rw [hrun]; rfl
  refine ⟨hresult, by rw [hrun]; rfl, ?_⟩
  exact (transform_ok_complete _ _ _ hresult).1

end MarkdownDirectives
