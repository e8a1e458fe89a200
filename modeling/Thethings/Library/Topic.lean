import Mathlib.Data.List.Basic

/-!
# Topic filters

A topic name is a list of levels, a topic filter a list of patterns: a level that has to be there,
one that any level may stand for, and at the end one that may stand for all that is left. What a
level is does not matter here.

Choices:

* `Covers` is a relation with one rule for each pattern. The last kind has a rule only at the end of
  a filter, so a filter that goes on behind it covers no name.
* That kind may stand for no level at all, the other wildcard stands for exactly one, which may be
  empty. What an empty level is is a parameter.
* Names that begin with a `$`, which brokers keep away from wildcards, are like all others.

Results:

* `Covers`: the rules by which a filter covers a name.
* `Fills`: it does so with no wildcard left idle, by an empty level or by none at all (for the last
  one the first level that it stands for); `fills_nil_iff` to `fills_rest_iff` read it off the
  filter, pattern by pattern.
-/

namespace Thethings.Library.Topic

universe u

variable {L : Type u}

/-- One level of a filter. -/
inductive Pattern (L : Type u) where
  | exactly (level : L)
  | any
  | rest
  deriving DecidableEq

/-- The filter covers the name. -/
inductive Covers : List (Pattern L) → List L → Prop
  | nil : Covers [] []
  | exactly {filter name} (level : L) : Covers filter name →
      Covers (.exactly level :: filter) (level :: name)
  | any {filter name} (level : L) : Covers filter name → Covers (.any :: filter) (level :: name)
  | rest (name) : Covers [.rest] name

/-- A wildcard of the filter stands for an empty level, or for no level. Of the levels that a last
wildcard stands for only the first one counts: those behind it may be empty. -/
inductive Idles (empty : L → Prop) : List (Pattern L) → List L → Prop
  | any {filter name level} : empty level → Idles empty (.any :: filter) (level :: name)
  | nothing : Idles empty [.rest] []
  | rest {name level} : empty level → Idles empty [.rest] (level :: name)
  | later {pattern filter level name} : Idles empty filter name →
      Idles empty (pattern :: filter) (level :: name)

/-- The filter covers the name, and each of its wildcards stands for something. -/
structure Fills (empty : L → Prop) (filter : List (Pattern L)) (name : List L) : Prop where
  covers : Covers filter name
  busy : ¬ Idles empty filter name

variable {empty : L → Prop} {filter : List (Pattern L)} {name : List L}

theorem fills_nil_iff : Fills empty [] name ↔ name = [] := by
  constructor
  · rintro ⟨⟨⟩, -⟩
    rfl
  · rintro rfl
    exact ⟨.nil, nofun⟩

theorem fills_exactly_iff {level : L} :
    Fills empty (.exactly level :: filter) name ↔
      ∃ name', name = level :: name' ∧ Fills empty filter name' := by
  constructor
  · rintro ⟨hcovers, hbusy⟩
    cases hcovers with
    | exactly _ h => exact ⟨_, rfl, h, fun hi => hbusy (.later hi)⟩
  · rintro ⟨name', rfl, hcovers, hbusy⟩
    refine ⟨.exactly level hcovers, fun hi => ?_⟩
    cases hi with
    | later hi => exact hbusy hi

theorem fills_any_iff :
    Fills empty (.any :: filter) name ↔
      ∃ level name', name = level :: name' ∧ ¬ empty level ∧ Fills empty filter name' := by
  constructor
  · rintro ⟨hcovers, hbusy⟩
    cases hcovers with
    | any level h =>
      exact ⟨level, _, rfl, fun he => hbusy (.any he), h, fun hi => hbusy (.later hi)⟩
  · rintro ⟨level, name', rfl, hlevel, hcovers, hbusy⟩
    refine ⟨.any level hcovers, fun hi => ?_⟩
    cases hi with
    | any he => exact hlevel he
    | later hi => exact hbusy hi

theorem fills_rest_iff :
    Fills empty [.rest] name ↔ ∃ level name', name = level :: name' ∧ ¬ empty level := by
  constructor
  · rintro ⟨-, hbusy⟩
    cases name with
    | nil => exact absurd .nothing hbusy
    | cons level name' => exact ⟨level, name', rfl, fun he => hbusy (.rest he)⟩
  · rintro ⟨level, name', rfl, hlevel⟩
    refine ⟨.rest _, fun hi => ?_⟩
    cases hi with
    | rest he => exact hlevel he
    | later hi => cases hi

theorem not_fills_nil (hne : filter ≠ []) : ¬ Fills empty filter [] := by
  rintro ⟨hcovers, hbusy⟩
  cases hcovers with
  | nil => exact hne rfl
  | rest _ => exact hbusy .nothing

/-- A filter without wildcards covers its own name. -/
theorem fills_map_exactly (name : List L) : Fills empty (name.map .exactly) name := by
  induction name with
  | nil => exact fills_nil_iff.mpr rfl
  | cons level name ih => exact fills_exactly_iff.mpr ⟨name, rfl, ih⟩

theorem Fills.length_le (h : Fills empty filter name) : filter.length ≤ name.length := by
  obtain ⟨hcovers, hbusy⟩ := h
  induction hcovers with
  | nil => exact Nat.le_refl _
  | exactly level _ ih => exact Nat.succ_le_succ (ih fun hi => hbusy (.later hi))
  | any level _ ih => exact Nat.succ_le_succ (ih fun hi => hbusy (.later hi))
  | rest name =>
    cases name with
    | nil => exact absurd .nothing hbusy
    | cons level name => exact Nat.succ_le_succ (Nat.zero_le _)

/-- Where all levels count, only a filter that is longer than the name has a wildcard idle. -/
theorem length_lt_of_idles (hname : ∀ level ∈ name, ¬ empty level) (hi : Idles empty filter name) :
    name.length < filter.length := by
  induction hi with
  | any he => exact absurd he (hname _ List.mem_cons_self)
  | nothing => exact Nat.succ_pos 0
  | rest he => exact absurd he (hname _ List.mem_cons_self)
  | later hi ih => exact Nat.succ_lt_succ (ih fun l hl => hname l (List.mem_cons_of_mem _ hl))

end Thethings.Library.Topic
