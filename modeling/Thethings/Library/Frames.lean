import Mathlib.Data.List.Forall2
import Thethings.Library.Run

/-!
# Texts that are read one after the other

A writer turns a value into a text, a reader takes a value off the front of a text. Where what is
written is read back whatever follows it, so is a sequence of values.

Choices:

* The reader answers with the value and the rest, or `none`; it is not asked how it finds the end of
  what it reads.
* `readMany` takes at most a number of values, so nothing has to shrink from one value to the next.
  It stops at the first that cannot be read, and keeps what is left.

Results:

* `readMany_write`: the reader gets the values that were written, in order, and what is behind them.
* `run_frames`: a machine that takes one text off the front of a stream with each input does with a
  stream of texts what it does with each, one after the other.
-/

namespace Thethings.Library.Frames

universe u v

variable {α : Type u} {β : Type v}

/-- What is written of a value with `P` is read back, whatever follows it. -/
def ReadsBack (P : α → Prop) (write : α → List β) (read : List β → Option (α × List β)) : Prop :=
  ∀ a rest, P a → read (write a ++ rest) = some (a, rest)

/-- At most `k` values off the front of a text, and what is left of it. -/
def readMany (read : List β → Option (α × List β)) : Nat → List β → List α × List β
  | 0, s => ([], s)
  | k + 1, s =>
    match read s with
    | none => ([], s)
    | some (a, s) =>
      let (as, s) := readMany read k s
      (a :: as, s)

/-- **A sequence is read back.** -/
theorem readMany_write {P : α → Prop} {write : α → List β} {read : List β → Option (α × List β)}
    (h : ReadsBack P write read) {as : List α} (has : ∀ a ∈ as, P a) (rest : List β) :
    readMany read as.length (as.flatMap write ++ rest) = (as, rest) := by
  induction as with
  | nil => rfl
  | cons a as ih =>
    rw [List.forall_mem_cons] at has
    rw [List.flatMap_cons, List.append_assoc, List.length_cons, readMany, h a _ has.1]
    simp only [ih has.2]

section Machine

variable {σ : Type*} {ι : Type*} {step : σ × List β → ι → σ × List β} {write : α → List β}

/-- **A stream of texts**: what one step does with the text at the front, a run does with all of
them, and leaves what follows. -/
theorem run_frames (Ready : σ → Prop) (Suits : α → ι → Prop) (Did : σ → List α → σ → Prop)
    (hnil : ∀ s, Ready s → Did s [] s)
    (hcons : ∀ s s' s'' a as, Did s [a] s' → Did s' as s'' → Did s (a :: as) s'')
    (hstep : ∀ s a i rest, Ready s → Suits a i →
      ∃ s', step (s, write a ++ rest) i = (s', rest) ∧ Ready s' ∧ Did s [a] s')
    {s : σ} {as : List α} {is : List ι} (hs : Ready s) (h : List.Forall₂ Suits as is)
    (rest : List β) :
    ∃ s', run step (s, as.flatMap write ++ rest) is = (s', rest) ∧ Did s as s' := by
  induction h generalizing s with
  | nil => exact ⟨s, rfl, hnil s hs⟩
  | @cons a i as is hsuits hlater ih =>
    obtain ⟨s', he, hs', hdid⟩ := hstep s a i (as.flatMap write ++ rest) hs hsuits
    obtain ⟨s'', he', hdid'⟩ := ih hs'
    refine ⟨s'', ?_, hcons s s' s'' a as hdid hdid'⟩
    rw [List.flatMap_cons, List.append_assoc, run_cons, he, he']

end Machine

end Thethings.Library.Frames
