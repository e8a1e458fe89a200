import Mathlib.Data.List.Nodup

/-!
# Pulling members out of a list

A cursor goes over a list and stops at each member that meets a test. The test looks at a state, and
may fail there, as where a pointer dangles; between two pulls the state may move.

Choices:

* The test answers `Option Bool`: `none` is a test that cannot be made, and the pull ends with it.
  Members in front of the one that is found are tested, those behind it are not.
* The cursor is a position, and a pull leaves it behind what it found, where the next one starts. At
  the end of the list a pull finds nothing, and so do all later ones.
* What is done with a member before the next pull is any function of the member and the state.

Results:

* `advance_cases`: one pull, where no test fails on the way.
* `pulls_eq`: where handling one member does not change the test of another, pull number `i` gives
  member number `i` of those that met the test at the start, and nothing where there are no more.
-/

namespace Thethings.Library.Cursor

universe u v

variable {α : Type u} {σ : Type v}

/-- The cursor, `k`, moves over the rest of the list and behind the first member that passes; `none`
where it gets to a member whose test fails. -/
def advance (p : α → Option Bool) : List α → Nat → Option (Option α × Nat)
  | [], k => some (none, k)
  | a :: l, k =>
    match p a with
    | none => none
    | some true => some (some a, k + 1)
    | some false => advance p l (k + 1)

/-- Some pulls, each one handled by `act` before the next. -/
def pulls (test : σ → α → Option Bool) (act : σ → α → σ) (l : List α) :
    Nat → σ → Nat → Option (List (Option α))
  | 0, _, _ => some []
  | n + 1, s, k =>
    match advance (test s) (l.drop k) k with
    | none => none
    | some (none, k) => (pulls test act l n s k).map (none :: ·)
    | some (some a, k) => (pulls test act l n (act s a) k).map (some a :: ·)

/-- **One pull.** `q` is what the tests say. -/
theorem advance_cases {p : α → Option Bool} {q : α → Bool} (l : List α) (k : Nat)
    (hp : ∀ a ∈ l, p a = some (q a)) :
    (l.filter q = [] ∧ advance p l k = some (none, k + l.length)) ∨
      ∃ l₁ a l₂, l = l₁ ++ a :: l₂ ∧ l.filter q = a :: l₂.filter q ∧
        advance p l k = some (some a, k + l₁.length + 1) := by
  induction l generalizing k with
  | nil => exact Or.inl ⟨rfl, rfl⟩
  | cons b l ih =>
    rw [List.forall_mem_cons] at hp
    cases hb : q b with
    | true =>
      refine Or.inr ⟨[], b, l, rfl, List.filter_cons_of_pos hb, ?_⟩
      rw [advance, hp.1, hb]
      rfl
    | false =>
      have hnot : ¬ q b = true := by rw [hb]; exact Bool.false_ne_true
      rw [List.filter_cons_of_neg hnot, advance, hp.1, hb]
      rcases ih (k + 1) hp.2 with ⟨hnone, he⟩ | ⟨l₁, a, l₂, rfl, hfilter, he⟩
      · refine Or.inl ⟨hnone, he.trans ?_⟩
        rw [List.length_cons, Nat.add_assoc, Nat.add_comm 1]
      · refine Or.inr ⟨b :: l₁, a, l₂, rfl, hfilter, he.trans ?_⟩
        rw [List.length_cons, Nat.add_assoc k 1, Nat.add_comm 1]

theorem pulls_of_end (test : σ → α → Option Bool) (act : σ → α → σ) {l : List α} {k : Nat}
    (hk : l.length ≤ k) (n : Nat) (s : σ) :
    pulls test act l n s k = some (List.replicate n none) := by
  induction n with
  | zero => rfl
  | succ n ih =>
    rw [pulls, List.drop_eq_nil_of_le hk]
    simp only [advance, ih]
    rfl

/-- The induction is on the pulls. The tests of the members behind the cursor stay as they are. -/
theorem pulls_from {test : σ → α → Option Bool} {act : σ → α → σ} {q : α → Bool}
    (hact : ∀ s a b, b ≠ a → test (act s a) b = test s b) {l : List α} (hl : l.Nodup) (n : Nat)
    (s : σ) (k : Nat) (htest : ∀ b ∈ l.drop k, test s b = some (q b)) :
    pulls test act l n s k = some ((List.range n).map fun i => ((l.drop k).filter q)[i]?) := by
  induction n generalizing s k with
  | zero => rfl
  | succ n ih =>
    rcases advance_cases (l.drop k) k htest with ⟨hnone, he⟩ | ⟨l₁, a, l₂, hl', hfilter, he⟩
    · have hend : l.length ≤ k + (l.drop k).length := by
        rw [List.length_drop]
        omega
      rw [pulls, he, hnone]
      simp only [pulls_of_end test act hend, List.getElem?_nil, List.map_const', List.length_range,
        List.replicate_succ, Option.map_some]
    · have hrest : l.drop (k + l₁.length + 1) = l₂ := by
        rw [Nat.add_assoc, ← List.drop_drop, hl']
        simp
      -- what is left does not have the member again
      have hnot : a ∉ l₂ := by
        have hnodup := hl'.symm ▸ hl.sublist (List.drop_sublist k l)
        exact (List.nodup_cons.mp (List.nodup_append.mp hnodup).2.1).1
      have hlater : ∀ b ∈ l₂, test (act s a) b = some (q b) := by
        intro b hb
        rw [hact s a b fun h => hnot (h ▸ hb)]
        exact htest b (by rw [hl']; exact List.mem_append_right l₁ (List.mem_cons_of_mem a hb))
      rw [pulls, he, hfilter, List.range_succ_eq_map, List.map_cons, List.map_map]
      simp only [ih (act s a) (k + l₁.length + 1) (by rw [hrest]; exact hlater), hrest,
        List.getElem?_cons_zero, Function.comp_def, List.getElem?_cons_succ, Option.map_some]

/-- **Pulls.** -/
theorem pulls_eq {test : σ → α → Option Bool} {act : σ → α → σ} {q : α → Bool}
    (hact : ∀ s a b, b ≠ a → test (act s a) b = test s b) {l : List α} (hl : l.Nodup) (n : Nat)
    (s : σ) (htest : ∀ b ∈ l, test s b = some (q b)) :
    pulls test act l n s 0 = some ((List.range n).map fun i => (l.filter q)[i]?) :=
  pulls_from hact hl n s 0 htest

end Thethings.Library.Cursor
