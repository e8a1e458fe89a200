import Mathlib.Data.List.Induction

/-!
# Runs of a machine fed with inputs

A machine is a total function `step : σ → ι → σ`; what the environment does is part of the input.
`run` is the state after a list of inputs, `steps` the list of what each input found: the state
before it, and the input.

Choices:

* No step is refused. Where a program can go wrong, its state says so (`Option`, a flag), and the
  step leaves such a state alone.
* A run goes on behind whatever it is asked about, so that "in every state" is about every prefix of
  the inputs. `steps` is how a statement speaks of single steps without naming positions.

Results:

* `run_invariant`: what holds at the start and survives one input holds after any run.
* `run_map`: what a run does to a part of the state that each input moves by itself.
* `run_rel`: two machines that every input takes from related states to related states.
* `steps_congr`: where an invariant survives as long as the inputs keep a condition, a property of
  single steps that agrees with the condition on the invariant holds all along a run iff the
  condition does. This is the induction behind every "exactly when" result about runs.
* `run_since`: what only some steps give a state was given by one of them, and kept since.
* `canMeet_iff`: what some later input can still meet, exactly when the state has what it takes and
  no step ever gives that back.
-/

namespace Thethings.Library

universe u v

variable {σ : Type u} {ι : Type v}

/-- The state after the inputs. -/
def run (step : σ → ι → σ) (s : σ) (is : List ι) : σ := is.foldl step s

/-- The steps of a run: every input with the state it finds. -/
def steps (step : σ → ι → σ) : σ → List ι → List (σ × ι)
  | _, [] => []
  | s, i :: is => (s, i) :: steps step (step s i) is

variable {step : σ → ι → σ}

@[simp] theorem run_nil (s : σ) : run step s [] = s := rfl

@[simp] theorem run_cons (s : σ) (i : ι) (is : List ι) :
    run step s (i :: is) = run step (step s i) is := rfl

theorem run_append (s : σ) (is js : List ι) :
    run step s (is ++ js) = run step (run step s is) js :=
  List.foldl_append

@[simp] theorem steps_nil (s : σ) : steps step s [] = [] := rfl

@[simp] theorem steps_cons (s : σ) (i : ι) (is : List ι) :
    steps step s (i :: is) = (s, i) :: steps step (step s i) is := rfl

/-- **Invariants.** -/
theorem run_invariant (Inv : σ → Prop) (hstep : ∀ s i, Inv s → Inv (step s i)) {s : σ}
    (is : List ι) (h : Inv s) : Inv (run step s is) := by
  induction is generalizing s with
  | nil => exact h
  | cons i is ih => exact ih (hstep s i h)

/-- **Components.** A part of the state that each input moves by itself runs by itself. -/
theorem run_map {τ κ : Type*} {step' : τ → κ → τ} (f : σ → τ) (g : ι → κ)
    (hstep : ∀ s i, f (step s i) = step' (f s) (g i)) (s : σ) (is : List ι) :
    f (run step s is) = run step' (f s) (is.map g) := by
  induction is generalizing s with
  | nil => rfl
  | cons i is ih => rw [run_cons, ih, hstep, List.map_cons, run_cons]

/-- **Two levels.** What relates two machines before each input and after it relates their runs. -/
theorem run_rel {τ : Type*} {step' : τ → ι → τ} (R : σ → τ → Prop)
    (hstep : ∀ s t i, R s t → R (step s i) (step' t i)) {s : σ} {t : τ} (is : List ι)
    (h : R s t) : R (run step s is) (run step' t is) := by
  induction is generalizing s t with
  | nil => exact h
  | cons i is ih => exact ih (hstep s t i h)

/-- **Exactly when.** `Inv` survives every input that keeps `C`, and on `Inv` the property `P` of a
step is the condition `C`: then `P` holds all along a run iff `C` does. -/
theorem steps_congr (Inv : σ → Prop) {P C : σ → ι → Prop}
    (hstep : ∀ s i, Inv s → C s i → Inv (step s i)) (hiff : ∀ s i, Inv s → (P s i ↔ C s i))
    {s : σ} (is : List ι) (h : Inv s) :
    (∀ p ∈ steps step s is, P p.1 p.2) ↔ ∀ p ∈ steps step s is, C p.1 p.2 := by
  induction is generalizing s with
  | nil => simp
  | cons i is ih =>
    rw [steps_cons, List.forall_mem_cons, List.forall_mem_cons, hiff s i h]
    -- behind a step that keeps the condition the invariant holds again
    exact and_congr_right fun hc => ih (hstep s i h hc)

/-! ## Where something comes from -/

/-- **Since when.** What a state has, if only some steps give it, it has had all along the run, or
since one of them. -/
theorem run_since {δ : Type*} (Has : σ → δ → Prop) (Gives : σ → ι → δ → Prop)
    (hstep : ∀ s i d, Has (step s i) d → Has s d ∨ Gives s i d) {s : σ} {is : List ι} {d : δ}
    (h : Has (run step s is) d) :
    (∀ earlier, earlier <+: is → Has (run step s earlier) d) ∨
      ∃ before i, before ++ [i] <+: is ∧ Gives (run step s before) i d ∧
        ∀ later, before ++ [i] <+: later → later <+: is → Has (run step s later) d := by
  induction is using List.reverseRecOn with
  | nil =>
    refine Or.inl fun earlier he => ?_
    rwa [List.prefix_nil.mp he]
  | append_singleton is i ih =>
    have hlast : run step s (is ++ [i]) = step (run step s is) i := run_append s is [i]
    rcases hstep _ i d (hlast ▸ h) with hhas | hgives
    · rcases ih hhas with hall | ⟨before, j, hbefore, hgives, hlater⟩
      · refine Or.inl fun earlier he => ?_
        rcases List.prefix_concat_iff.mp he with rfl | he
        · exact h
        · exact hall earlier he
      · refine Or.inr ⟨before, j, hbefore.trans (List.prefix_append is [i]), hgives, ?_⟩
        intro later hfrom he
        rcases List.prefix_concat_iff.mp he with rfl | he
        · exact h
        · exact hlater later hfrom he
    · refine Or.inr ⟨is, i, List.prefix_rfl, hgives, fun later hfrom he => ?_⟩
      rwa [(List.IsPrefix.eq_of_length_le he hfrom.length_le)]

/-! ## What is still possible -/

/-- After some inputs, one more meets `P`. -/
def CanMeet (step : σ → ι → σ) (P : σ → ι → Prop) (s : σ) : Prop :=
  ∃ is i, P (run step s is) i

/-- What no step gives back was there before the run. -/
theorem run_back (Inv C : σ → Prop) (hstep : ∀ s i, Inv s → Inv (step s i))
    (hback : ∀ s i, Inv s → C (step s i) → C s) {s : σ} (is : List ι) (h : Inv s)
    (hc : C (run step s is)) : C s := by
  induction is generalizing s with
  | nil => exact hc
  | cons i is ih => exact hback s i h (ih (hstep s i h) hc)

/-- **Still possible.** An input needs `C` to meet `P`, where `C` holds some input meets it, and no
step gives `C` back once it is lost: then `P` can still be met iff `C` holds. -/
theorem canMeet_iff (Inv : σ → Prop) {C : σ → Prop} {P : σ → ι → Prop}
    (hstep : ∀ s i, Inv s → Inv (step s i)) (hback : ∀ s i, Inv s → C (step s i) → C s)
    (hneeds : ∀ s i, Inv s → P s i → C s) (hmeets : ∀ s, Inv s → C s → ∃ i, P s i)
    {s : σ} (h : Inv s) : CanMeet step P s ↔ C s := by
  constructor
  · rintro ⟨is, i, hp⟩
    exact run_back Inv C hstep hback is h (hneeds _ i (run_invariant Inv hstep is h) hp)
  · intro hc
    obtain ⟨i, hp⟩ := hmeets s h hc
    exact ⟨[], i, hp⟩

end Thethings.Library
