import MarkdownDirectives.Proofs.Family.Names
import MarkdownDirectives.Proofs.Layers.Reference

/-!
# The regular expression of a pattern

The names of a family can be written as one regular expression: the names as alternatives in their
order, what may stand behind them with the suffix as a group, and an anchor at either end. Matching
takes the leftmost place, and there the first way in the order of preference. So an alternative that
comes first wins with all that can follow it, and only the end of the text makes it give way.

* `Expression.ends`, `Expression.search?` — what an expression finds
* `Pattern.search?_expression` — the expression finds what the comparison with each name finds
* `Pattern.match?_build` — the first name that is spelled decides

## Aliases that look like each other

An alias may be empty, hold hyphens, or be a shorter one with a hyphen and more. A suffix holds no
hyphen, so one name is spelled in at most one way, but several names may be spelled at once, with
different suffixes. Then their order decides.
-/

namespace MarkdownDirectives

/-! ## Regular expressions -/

/-- A place in a text, and what the group has taken on the way there. -/
structure MatchPlace where
  front : List Char
  behind : List Char
  group : Option (List Char) := none
deriving DecidableEq, Inhabited

/-- A regular expression, of the forms that the names of a family need. -/
inductive Expression where
  /-- The start of the text. -/
  | start
  /-- The end of the text. -/
  | stop
  | literal (text : List Char)
  /-- One or more characters of a class, as many as possible. -/
  | run (belongs : Char → Bool)
  | sequence (first second : Expression)
  /-- One of two, preferably the first one. -/
  | choice (first second : Expression)
  /-- What may be absent, but is preferably there. -/
  | optional (inner : Expression)
  | group (inner : Expression)
deriving Inhabited

namespace Expression

/-- The places behind one or more characters of a class, the farthest one first. -/
def runEnds (belongs : Char → Bool) (group : Option (List Char)) :
    List Char → List Char → List MatchPlace
  | _, [] => []
  | front, c :: behind =>
    if belongs c then
      runEnds belongs group (front ++ [c]) behind ++ [⟨front ++ [c], behind, group⟩]
    else []

/-- The places that an expression leads to, in the order of preference. -/
def ends : Expression → MatchPlace → List MatchPlace
  | start, p => if p.front = [] then [p] else []
  | stop, p => if p.behind = [] then [p] else []
  | literal text, p =>
    if text.isPrefixOf p.behind then [⟨p.front ++ text, p.behind.drop text.length, p.group⟩] else []
  | run belongs, p => runEnds belongs p.group p.front p.behind
  | sequence first second, p => (first.ends p).flatMap second.ends
  | choice first second, p => first.ends p ++ second.ends p
  | optional inner, p => inner.ends p ++ [p]
  | group inner, p =>
    (inner.ends p).map fun q => { q with group := some (q.front.drop p.front.length) }

/-- The places of a text from left to right. -/
def starts (front : List Char) : List Char → List MatchPlace
  | [] => [⟨front, [], none⟩]
  | c :: behind => ⟨front, c :: behind, none⟩ :: starts (front ++ [c]) behind

/-- Where the match of an expression ends: the leftmost match, and of those that start there the
first in the order of preference. -/
def search? (e : Expression) (text : List Char) : Option MatchPlace :=
  (starts [] text).findSome? fun p => (e.ends p).head?

/-- The first alternative wins, even where the other one would take more. -/
example :
    ((choice (.literal ['a']) (.literal ['a', 'b'])).search? ['x', 'a', 'b']).map MatchPlace.behind
      = some ['b'] := by
  decide

theorem ends_sequence (first second : Expression) (p : MatchPlace) :
    (sequence first second).ends p = (first.ends p).flatMap second.ends := rfl

theorem ends_choice (first second : Expression) (p : MatchPlace) :
    (choice first second).ends p = first.ends p ++ second.ends p := rfl

theorem ends_optional (inner : Expression) (p : MatchPlace) :
    (optional inner).ends p = inner.ends p ++ [p] := rfl

/-! ### Anchored expressions -/

theorem front_ne_of_mem_starts {front text : List Char} (hne : front ≠ []) :
    ∀ p ∈ starts front text, p.front ≠ [] := by
  induction text generalizing front with
  | nil =>
    intro p hp
    rw [List.mem_singleton.mp hp]
    exact hne
  | cons c rest ih =>
    intro p hp
    rcases List.mem_cons.mp hp with rfl | hp
    · exact hne
    · exact ih (by simp) p hp

/-- An expression with an anchor in front matches from the start of the text or not at all. -/
theorem search?_start (e : Expression) (text : List Char) :
    (sequence start e).search? text = (e.ends ⟨[], text, none⟩).head? := by
  have hfirst : (sequence start e).ends ⟨[], text, none⟩ = e.ends ⟨[], text, none⟩ := by
    simp [ends]
  have hlater (p : MatchPlace) (hp : p.front ≠ []) : (sequence start e).ends p = [] := by
    simp [ends, hp]
  cases text with
  | nil => rw [search?, starts, List.findSome?_singleton, hfirst]
  | cons c rest =>
    have hnone : (starts ([] ++ [c]) rest).findSome?
        (fun p => ((sequence start e).ends p).head?) = none := by
      rw [List.findSome?_eq_none_iff]
      intro p hp
      rw [hlater p (front_ne_of_mem_starts (by simp) p hp)]
      rfl
    rw [search?, starts, List.findSome?_cons, hfirst, hnone]
    cases (e.ends ⟨[], c :: rest, none⟩).head? <;> rfl

/-- A literal leads behind itself. -/
theorem ends_literal_append (text behind front : List Char) (group : Option (List Char)) :
    (literal text).ends ⟨front, text ++ behind, group⟩ = [⟨front ++ text, behind, group⟩] := by
  have hpre : text.isPrefixOf (text ++ behind) = true :=
    List.isPrefixOf_iff_prefix.mpr (List.prefix_append text behind)
  rw [ends, if_pos hpre]
  dsimp only
  rw [List.drop_left]

theorem ends_literal_of_not_front {text : List Char} {p : MatchPlace} (h : ¬ text <+: p.behind) :
    (literal text).ends p = [] := by
  rw [ends, if_neg]
  rwa [List.isPrefixOf_iff_prefix]

/-- A run that reaches the end of the text takes all of it. -/
theorem runEnds_stop (belongs : Char → Bool) (group : Option (List Char)) (front cs : List Char) :
    (runEnds belongs group front cs).filter (·.behind = [])
      = if !cs.isEmpty && cs.all belongs then [⟨front ++ cs, [], group⟩] else [] := by
  induction cs generalizing front with
  | nil => simp [runEnds]
  | cons c rest ih =>
    rw [runEnds]
    by_cases hc : belongs c = true
    · rw [if_pos hc, List.filter_append, ih]
      cases rest with
      | nil => simp [hc]
      | cons d more => simp [hc]
    · rw [if_neg hc]
      simp [hc]

theorem flatMap_stop (places : List MatchPlace) :
    places.flatMap stop.ends = places.filter (·.behind = []) := by
  induction places with
  | nil => rfl
  | cons p rest ih =>
    rw [List.flatMap_cons, ih]
    by_cases hp : p.behind = [] <;> simp [ends, hp]

end Expression

/-! ## The expression of a pattern -/

/-- What the end of a match says beside the family. -/
def MatchPlace.found (p : MatchPlace) : NameMatch :=
  ⟨p.group.map String.ofList⟩

namespace Pattern

open Expression

/-- One of several names. -/
def alternatives : List String → Expression
  | [] => .literal []
  | [name] => .literal name.toList
  | name :: rest => .choice (.literal name.toList) (alternatives rest)

/-- A hyphen, and one or more characters as the group. -/
def suffixExpression : Expression :=
  .sequence (.literal ['-']) (.group (.run isSuffixChar))

/-- What may stand behind a name up to the end of the text. -/
def endingOf : SuffixRule → Expression
  | .required => .sequence suffixExpression .stop
  | .optional => .sequence (.optional suffixExpression) .stop
  | .none => .stop

/-- The names of a pattern with what may stand behind them. -/
def expression (p : Pattern) : Expression :=
  .sequence .start (.sequence (alternatives p.names) (endingOf p.family.suffixRule))

theorem ends_alternatives {names : List String} (hne : names ≠ []) (p : MatchPlace) :
    (alternatives names).ends p = names.flatMap fun own => (literal own.toList).ends p := by
  induction names with
  | nil => exact absurd rfl hne
  | cons own rest ih =>
    cases rest with
    | nil => simp [alternatives]
    | cons next more =>
      rw [alternatives, ends_choice, ih (List.cons_ne_nil next more)]
      · rfl
      · exact List.cons_ne_nil next more

/-! ### Behind a name -/

/-- The suffix is what stands behind the hyphen that follows the name. -/
theorem suffix?_append (own behind : List Char) :
    suffix? own (own ++ behind) = suffix? [] behind := by
  apply Option.ext
  intro suffix
  rw [suffix?_eq_some_iff, suffix?_eq_some_iff, List.append_cancel_left_eq, List.nil_append]

/-- Behind the hyphen stand characters of a suffix only, and at least one. -/
theorem suffix?_hyphen (suffix : List Char) :
    suffix? [] (['-'] ++ suffix)
      = if !suffix.isEmpty && suffix.all isSuffixChar then some suffix else none := by
  apply Option.ext
  intro other
  rw [suffix?_eq_some_iff, Option.ite_none_right_eq_some]
  simp only [List.singleton_append, List.nil_append, List.cons.injEq, true_and, Option.some.injEq,
    Bool.and_eq_true, Bool.not_eq_true', List.isEmpty_eq_false_iff, List.all_eq_true]
  constructor
  · rintro ⟨rfl, h⟩
    exact ⟨h, rfl⟩
  · rintro ⟨h, rfl⟩
    exact ⟨rfl, h⟩

/-- Up to the end of the text the group takes what the comparison takes for the suffix. -/
theorem ends_suffix (own behind : List Char) :
    (sequence suffixExpression stop).ends ⟨own, behind, none⟩
      = ((suffix? [] behind).map fun suffix => ⟨own ++ '-' :: suffix, [], some suffix⟩).toList := by
  by_cases hhyphen : ['-'] <+: behind
  · obtain ⟨suffix, rfl⟩ := hhyphen
    have hends : suffixExpression.ends ⟨own, ['-'] ++ suffix, none⟩
        = (runEnds isSuffixChar none (own ++ ['-']) suffix).map
            fun q => { q with group := some (q.front.drop (own ++ ['-']).length) } := by
      rw [suffixExpression, ends_sequence, ends_literal_append, List.flatMap_singleton, ends, ends]
    have hstop := runEnds_stop isSuffixChar none (own ++ ['-']) suffix
    -- the group does not matter for where a run ends
    have hsame : ((fun q : MatchPlace => decide (q.behind = [])) ∘
        fun q : MatchPlace => { q with group := some (q.front.drop (own ++ ['-']).length) })
          = fun q : MatchPlace => decide (q.behind = []) := rfl
    rw [ends_sequence, hends, flatMap_stop, List.filter_map, hsame, hstop, suffix?_hyphen]
    split
    · simp
    · rfl
  · have hnone : suffix? [] behind = none := by
      rw [Option.eq_none_iff_forall_ne_some]
      intro suffix hsuffix
      obtain ⟨rfl, -, -⟩ := suffix?_eq_some_iff.mp hsuffix
      exact hhyphen (List.prefix_append ['-'] suffix)
    rw [hnone, ends_sequence, suffixExpression, ends_sequence, ends_literal_of_not_front hhyphen]
    rfl

/-- The first way to reach the end of the text behind a name is what the comparison gives. -/
theorem head?_ending (rule : SuffixRule) (own : String) (behind : List Char) :
    (((endingOf rule).ends ⟨own.toList, behind, none⟩).head?).map MatchPlace.found
      = matchName? rule own (own ++ String.ofList behind) := by
  have hsuffix : suffix? own.toList (own ++ String.ofList behind).toList = suffix? [] behind := by
    rw [String.toList_append, String.toList_ofList, suffix?_append]
  have hbare : (own ++ String.ofList behind == own) = decide (behind = []) := by
    rw [Bool.eq_iff_iff, beq_iff_eq, decide_eq_true_eq, ← String.toList_inj, String.toList_append,
      String.toList_ofList]
    simp
  have hempty : suffix? [] ([] : List Char) = none := rfl
  rw [matchName?, hsuffix, hbare]
  cases rule with
  | none => by_cases h : behind = [] <;> simp [endingOf, ends, h, MatchPlace.found]
  | required =>
    rw [endingOf, ends_suffix]
    cases suffix? [] behind <;> simp [MatchPlace.found]
  | optional =>
    have hends : (endingOf .optional).ends ⟨own.toList, behind, none⟩
        = (sequence suffixExpression stop).ends ⟨own.toList, behind, none⟩
          ++ stop.ends ⟨own.toList, behind, none⟩ := by
      rw [endingOf, ends_sequence, ends_optional, List.flatMap_append, List.flatMap_singleton,
        ends_sequence]
    rw [hends, ends_suffix]
    by_cases h : behind = []
    · subst h
      rw [hempty]
      simp [ends, MatchPlace.found]
    · cases suffix? [] behind <;> simp [ends, MatchPlace.found, h]

/-! ### All names -/

theorem matchName?_of_not_front {rule : SuffixRule} {own name : String}
    (h : ¬ own.toList <+: name.toList) : matchName? rule own name = none := by
  rw [Option.eq_none_iff_forall_ne_some]
  intro found hfound
  rw [matchName?_eq_some_iff] at hfound
  cases hfound with
  | bare => exact h (List.prefix_refl _)
  | suffixed => exact h (by rw [toList_suffixed]; exact List.prefix_append _ _)

/-- **The regular expression of a pattern finds what the comparison with each name finds.** -/
theorem search?_expression {p : Pattern} (hne : p.names ≠ []) (name : String) :
    (p.expression.search? name.toList).map MatchPlace.found = p.match? name := by
  have hnames : (p.expression.search? name.toList)
      = p.names.findSome? fun own => ((((literal own.toList).ends ⟨[], name.toList, none⟩).flatMap
          (endingOf p.family.suffixRule).ends).head?) := by
    rw [expression, search?_start, ends_sequence, ends_alternatives hne, List.flatMap_assoc,
      List.head?_flatMap]
  rw [hnames, match?, List.map_findSome?]
  refine congrArg (p.names.findSome? ·) (funext fun own => ?_)
  rw [Function.comp_apply]
  by_cases hown : own.toList <+: name.toList
  · obtain ⟨behind, hbehind⟩ := hown
    have hname : name = own ++ String.ofList behind := by
      rw [← String.toList_inj, String.toList_append, String.toList_ofList, hbehind]
    rw [← hbehind, ends_literal_append, List.flatMap_singleton, List.nil_append, head?_ending,
      ← hname]
  · rw [ends_literal_of_not_front hown, matchName?_of_not_front hown]
    rfl

/-! ## The names of a family -/

/-- The names are the own one and the aliases, each where it comes first. -/
theorem namesOf_eq (family : Family) (aliases : List String) :
    namesOf family aliases = (family.name :: aliases).eraseDups := by
  have hadd : ∀ names, ∀ name ∈ aliases,
      addName names name = if name ∈ names then names else names ++ [name] := by
    intro names name _
    simp [addName]
  rw [namesOf, foldl_eq_append_eraseDups hadd, List.eraseDups_cons, List.singleton_append]
  congr 2
  refine List.filter_congr fun name _ => ?_
  rw [List.contains_cons, List.contains_nil, Bool.or_false]

/-- The name is spelled after one of the names, and after none in front of that one. -/
def FirstSpells (rule : SuffixRule) (names : List String) (name : String) (found : NameMatch) :
    Prop :=
  ∃ before own after, names = before ++ own :: after ∧ Spells rule own name found ∧
    ∀ other ∈ before, ∀ found', ¬ Spells rule other name found'

theorem matchName?_eq_none_iff {rule : SuffixRule} {own name : String} :
    matchName? rule own name = none ↔ ∀ found, ¬ Spells rule own name found := by
  simp only [Option.eq_none_iff_forall_ne_some, ne_eq, matchName?_eq_some_iff]

theorem match?_eq_some_iff {p : Pattern} {name : String} {found : NameMatch} :
    p.match? name = some found ↔ FirstSpells p.family.suffixRule p.names name found := by
  simp only [match?, List.findSome?_eq_some_iff, matchName?_eq_some_iff, matchName?_eq_none_iff,
    FirstSpells]

/--
**The first of a family's names that a name is spelled after decides what it says.**

The names are the family's own and the aliases, each where it comes first and taken as they are. A
name is spelled after one of them if it is that name, or that name with a suffix, as far as the
family's rule allows. The regular expression of the pattern finds the same.
-/
theorem match?_build (family : Family) (aliases : List String) (p : Pattern)
    (h : build family aliases = .ok p) (name : String) :
    p.family = family ∧ p.names = (family.name :: aliases).eraseDups ∧
      (p.expression.search? name.toList).map MatchPlace.found = p.match? name ∧
      (∀ found, p.match? name = some found ↔
        FirstSpells family.suffixRule p.names name found) ∧
      (p.match? name = none ↔ ∀ own ∈ p.names, ∀ found, ¬ Spells family.suffixRule own name found)
    := by
  obtain ⟨rfl, -⟩ := build_ok h
  obtain ⟨more, hnames⟩ := exists_namesOf family aliases
  have hne : namesOf family aliases ≠ [] := by
    rw [hnames]
    exact List.cons_ne_nil family.name more
  exact ⟨rfl, namesOf_eq family aliases, search?_expression hne name,
    fun _ => match?_eq_some_iff, match?_eq_none_iff⟩

end Pattern

/-! ### Aliases that look like each other -/

/-- Aliases with a hyphen, with signs of regular expressions, with a line end, and an empty one. -/
def tangledAliases : List String :=
  ["b", "b-new", "c+", "badge", "", "é\n", "b"]

/-- The pattern of these aliases. -/
def tangledPattern : Pattern :=
  ⟨.badge, ["badge", "b", "b-new", "c+", "", "é\n"]⟩

/-- The shorter alias comes first, so it has the name that is the longer one as it stands. -/
theorem match?_build_tangled :
    Pattern.build .badge tangledAliases = .ok tangledPattern ∧
      tangledPattern.names = ("badge" :: tangledAliases).eraseDups ∧
      tangledPattern.match? "b-new" = some ⟨some "new"⟩ ∧
      Pattern.FirstSpells .optional tangledPattern.names "b-new" ⟨some "new"⟩ ∧
      (tangledPattern.expression.search? "é\n-old".toList).map MatchPlace.found
        = some ⟨some "old"⟩ ∧
      (tangledPattern.expression.search? "-x".toList).map MatchPlace.found = some ⟨some "x"⟩ ∧
      tangledPattern.match? "cc" = none ∧
      ∀ own ∈ tangledPattern.names, ∀ found, ¬ Pattern.Spells .optional own "cc" found := by
  have hbuild : Pattern.build .badge tangledAliases = .ok tangledPattern := rfl
  have hnew : tangledPattern.match? "b-new" = some ⟨some "new"⟩ := by decide
  have hcc : tangledPattern.match? "cc" = none := by decide
  obtain ⟨-, hnames, -, hfirst, -⟩ := Pattern.match?_build .badge _ _ hbuild "b-new"
  obtain ⟨-, -, hline, -⟩ := Pattern.match?_build .badge _ _ hbuild "é\n-old"
  obtain ⟨-, -, hempty, -⟩ := Pattern.match?_build .badge _ _ hbuild "-x"
  obtain ⟨-, -, -, -, hnone⟩ := Pattern.match?_build .badge _ _ hbuild "cc"
  refine ⟨hbuild, hnames, hnew, (hfirst _).mp hnew, ?_, ?_, hcc, hnone.mp hcc⟩
  · rw [hline]
    decide
  · rw [hempty]
    decide

end MarkdownDirectives
