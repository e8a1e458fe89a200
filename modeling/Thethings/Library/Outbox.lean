import Mathlib.Data.List.Basic
import Mathlib.Data.List.Flatten
import Thethings.Library.Run

/-!
# An outbox

Values are added to a pending batch; a flush hands the batch over as a whole and begins a new one.
Whether it arrives is part of the flush. `added` is every value so far, `batches` every batch that
was handed over with its fate, `delivered` the values of those that arrived.

Choices:

* A flush of an empty batch hands an empty batch over. Whether that is an event at all is up to
  whoever uses the outbox; what is none for it is a `skip`.
* A batch that does not arrive is gone: the outbox never goes back to one. What a sender that tries
  again does is a different component.
* Values are of any type and may be equal; batches are compared as lists, in the order of their
  flushes.

Results:

* `partitioned_step`: no value is handed over twice, left out or reordered, whatever arrives.
* `balanced_iff`: the values that arrived and the pending ones are all of them exactly when every
  batch with something in it arrived.
-/

namespace Thethings.Library

universe u

/-- What was added, the batches with whether each one arrived, and what is pending. -/
structure Outbox (α : Type u) where
  added : List α
  batches : List (List α × Bool)
  pending : List α

namespace Outbox

variable {α : Type u}

/-- What happens to an outbox. -/
inductive Event (α : Type u) where
  | add (a : α)
  | flush (arrives : Bool)
  /-- anything else -/
  | skip

/-- Nothing was added yet. -/
def empty : Outbox α := ⟨[], [], []⟩

/-- A flush makes a batch of all that is pending, whether it arrives or not. -/
def step (o : Outbox α) : Event α → Outbox α
  | .add a => { o with added := o.added ++ [a], pending := o.pending ++ [a] }
  | .flush arrives => { o with batches := o.batches ++ [(o.pending, arrives)], pending := [] }
  | .skip => o

/-- The values that arrived, in order. -/
def delivered (o : Outbox α) : List α := (o.batches.filter Prod.snd).flatMap Prod.fst

/-- Every added value is in one batch or still pending. -/
def Partitioned (o : Outbox α) : Prop := o.added = o.batches.flatMap Prod.fst ++ o.pending

theorem partitioned_step (o : Outbox α) (e : Event α) (h : o.Partitioned) :
    (o.step e).Partitioned := by
  unfold Partitioned at h ⊢
  cases e with
  | add a => rw [step, h, List.append_assoc]
  | flush arrives =>
    simp only [step, h, List.flatMap_append, List.flatMap_singleton, List.append_nil]
  | skip => exact h

theorem length_filter_flatMap_le (batches : List (List α × Bool)) :
    ((batches.filter Prod.snd).flatMap Prod.fst).length ≤ (batches.flatMap Prod.fst).length := by
  induction batches with
  | nil => exact Nat.le_refl _
  | cons b batches ih =>
    obtain ⟨batch, arrives⟩ := b
    cases arrives with
    | true => simpa using ih
    | false =>
      simp only [List.filter_cons, Bool.false_eq_true, if_false, List.flatMap_cons,
        List.length_append]
      omega

/-- Dropping the batches that did not arrive drops nothing iff these were empty. -/
theorem filter_flatMap_eq_iff (batches : List (List α × Bool)) :
    (batches.filter Prod.snd).flatMap Prod.fst = batches.flatMap Prod.fst ↔
      ∀ b ∈ batches, b.1 = [] ∨ b.2 = true := by
  induction batches with
  | nil => simp
  | cons b batches ih =>
    obtain ⟨batch, arrives⟩ := b
    cases arrives with
    | true => simpa using ih
    | false =>
      rw [List.forall_mem_cons, List.flatMap_cons, ← ih, List.filter_cons_of_neg (by simp)]
      constructor
      · -- the batch is missing on the left, so it was empty
        intro h
        have hlen := congrArg List.length h
        have hle := length_filter_flatMap_le batches
        simp only [List.length_append] at hlen
        have hnil : batch = [] := List.eq_nil_of_length_eq_zero (by omega)
        rw [hnil] at h ⊢
        exact ⟨Or.inl rfl, h⟩
      · rintro ⟨hnil | hfalse, h⟩
        · rw [hnil, h, List.nil_append]
        · exact absurd hfalse (by simp)

/-- **When nothing is lost.** -/
theorem balanced_iff {o : Outbox α} (h : o.Partitioned) :
    o.added = o.delivered ++ o.pending ↔ ∀ b ∈ o.batches, b.1 = [] ∨ b.2 = true := by
  rw [h, ← filter_flatMap_eq_iff, List.append_left_inj, delivered]
  exact eq_comm

end Outbox

end Thethings.Library
