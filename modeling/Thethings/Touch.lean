import Mathlib.Data.UInt
import Mathlib.Tactic.SplitIfs
import Thethings.Library.Run

/-!
# The touch loop

What the loops of both programs make of a touch sample (`main.cpp` l.42-65 of the HTTP program and
l.100-119 of the MQTT program): two rectangles of the screen are buttons, and a detected sample
presses one only if it differs from the last detected one in both coordinates. The coordinates of
that one are remembered in `x_ant` and `y_ant`, which nothing initialises.

Choices:

* A sample is what `ts.GetState` fills in of its first point, with the 16 bits the record has for a
  coordinate. Other points, gestures and what is drawn are left out.
* What `x_ant` and `y_ant` hold before the first detected sample is a parameter of everything that
  depends on it. They are remembered whether or not the sample presses a button.
* The two rectangles do not meet, so the order of the branches does not matter; they are tried in
  the order of the source.

Results:

* `Button.at_eq_some_iff`: the branches of the loop are the two rectangles.
* `LastTouch.run_sample`: after any samples the last detected one is remembered.
* `LastTouch.sample_of_due`: a press that is due is taken iff it differs from what is remembered in
  both coordinates.
-/

namespace Thethings

open Library

/-- `TS_StateTypeDef`, its first point. -/
structure TouchState where
  touchDetected : Bool
  touchX : UInt16
  touchY : UInt16

/-- The two rectangles. -/
inductive Button where
  | left
  | right
  deriving DecidableEq

/-- The rectangle a point lies in. -/
def Button.at (x y : UInt16) : Option Button :=
  if (110 ≤ x ∧ x ≤ 210) ∧ (86 ≤ y ∧ y ≤ 186) then some .left
  else if (270 ≤ x ∧ x ≤ 370) ∧ (86 ≤ y ∧ y ≤ 186) then some .right
  else none

/-- `x_ant` and `y_ant`. -/
structure LastTouch where
  xAnt : UInt16
  yAnt : UInt16

/-- One sample: the button it presses, and what is remembered of it. -/
def LastTouch.sample (last : LastTouch) (state : TouchState) : Option Button × LastTouch :=
  if state.touchDetected then
    (if last.xAnt ≠ state.touchX ∧ last.yAnt ≠ state.touchY then
        Button.at state.touchX state.touchY
      else none,
      ⟨state.touchX, state.touchY⟩)
  else (none, last)

/-- One of two values, other than the remembered one. -/
def otherThan (a b last : UInt16) : UInt16 := if last = a then b else a

theorem otherThan_ne {a b : UInt16} (h : b ≠ a) (last : UInt16) : last ≠ otherThan a b last := by
  unfold otherThan
  split_ifs with hl
  · rw [hl]
    exact h.symm
  · exact hl

/-- Whatever is remembered, each button can be pressed next. -/
theorem LastTouch.exists_press (last : LastTouch) (button : Button) :
    ∃ state, (last.sample state).1 = some button := by
  have hy := otherThan_ne (show (137 : UInt16) ≠ 136 by decide) last.yAnt
  cases button with
  | left =>
    refine ⟨⟨true, otherThan 160 161 last.xAnt, otherThan 136 137 last.yAnt⟩, ?_⟩
    rw [sample, if_pos rfl, if_pos ⟨otherThan_ne (by decide) _, hy⟩]
    unfold otherThan
    split_ifs <;> decide
  | right =>
    refine ⟨⟨true, otherThan 320 321 last.xAnt, otherThan 136 137 last.yAnt⟩, ?_⟩
    rw [sample, if_pos rfl, if_pos ⟨otherThan_ne (by decide) _, hy⟩]
    unfold otherThan
    split_ifs <;> decide

/-! ## What is remembered -/

/-- The rectangle of a button. -/
def Button.Covers (button : Button) (x y : UInt16) : Prop :=
  match button with
  | .left => (110 ≤ x ∧ x ≤ 210) ∧ (86 ≤ y ∧ y ≤ 186)
  | .right => (270 ≤ x ∧ x ≤ 370) ∧ (86 ≤ y ∧ y ≤ 186)

instance (button : Button) (x y : UInt16) : Decidable (button.Covers x y) :=
  match button with
  | .left => inferInstanceAs (Decidable (_ ∧ _))
  | .right => inferInstanceAs (Decidable (_ ∧ _))

/-- The two rectangles have no point in common, so the order of the tests does not matter. -/
theorem Button.at_eq_some_iff {button : Button} {x y : UInt16} :
    Button.at x y = some button ↔ button.Covers x y := by
  have hapart : ¬ ((x ≤ 210) ∧ (270 ≤ x)) := by
    rintro ⟨hle, hge⟩
    exact absurd (UInt16.le_trans hge hle) (by decide)
  unfold Button.at
  cases button with
  | left =>
    by_cases h : (110 ≤ x ∧ x ≤ 210) ∧ (86 ≤ y ∧ y ≤ 186)
    · rw [if_pos h]
      exact iff_of_true rfl h
    · rw [if_neg h]
      refine iff_of_false ?_ h
      split_ifs <;> simp
  | right =>
    by_cases h : (110 ≤ x ∧ x ≤ 210) ∧ (86 ≤ y ∧ y ≤ 186)
    · rw [if_pos h]
      exact iff_of_false (by simp) fun hr => hapart ⟨h.1.2, hr.1.1⟩
    · rw [if_neg h]
      by_cases hr : (270 ≤ x ∧ x ≤ 370) ∧ (86 ≤ y ∧ y ≤ 186)
      · rw [if_pos hr]
        exact iff_of_true rfl hr
      · rw [if_neg hr]
        exact iff_of_false (by simp) hr

/-- The last detected one of some samples. -/
def lastDetected (samples : List TouchState) : Option TouchState :=
  (samples.filter (·.touchDetected)).getLast?

/-- The coordinates of the last detected sample; before there is one, what was there initially. -/
def LastTouch.remembered (initial : LastTouch) (samples : List TouchState) : LastTouch :=
  match lastDetected samples with
  | some state => ⟨state.touchX, state.touchY⟩
  | none => initial

theorem lastDetected_concat (samples : List TouchState) (state : TouchState) :
    lastDetected (samples ++ [state]) =
      if state.touchDetected then some state else lastDetected samples := by
  unfold lastDetected
  by_cases h : state.touchDetected = true
  · simp [h]
  · simp [h]

/-- **What is remembered.** -/
theorem LastTouch.run_sample (initial : LastTouch) (samples : List TouchState) :
    run (fun last state => (last.sample state).2) initial samples =
      initial.remembered samples := by
  induction samples using List.reverseRecOn with
  | nil => rfl
  | append_singleton samples state ih =>
    rw [run_append, ih, run_cons, run_nil, remembered, remembered, lastDetected_concat, sample]
    by_cases h : state.touchDetected = true
    · simp only [h, if_true]
    · simp only [h, if_false, Bool.false_eq_true]

/-- The buttons that some samples press, in order. -/
def LastTouch.presses (last : LastTouch) : List TouchState → List Button
  | [] => []
  | state :: samples =>
    (last.sample state).1.toList ++ (last.sample state).2.presses samples

/-! ## Presses that are due -/

/-- The sample differs from what is remembered in both coordinates. -/
def LastTouch.Differs (last : LastTouch) (state : TouchState) : Prop :=
  last.xAnt ≠ state.touchX ∧ last.yAnt ≠ state.touchY

instance (last : LastTouch) (state : TouchState) : Decidable (last.Differs state) :=
  inferInstanceAs (Decidable (_ ∧ _))

/-- A press that must not be dropped: a detected sample in the rectangle of a button, where the last
detected one before was not. -/
structure Due (before : List TouchState) (state : TouchState) (button : Button) : Prop where
  detected : state.touchDetected = true
  covers : button.Covers state.touchX state.touchY
  moved : ∀ last, lastDetected before = some last → ¬ button.Covers last.touchX last.touchY

/-- **When a press that is due is taken.** -/
theorem LastTouch.sample_of_due {before : List TouchState} {state : TouchState} {button : Button}
    (h : Due before state button) (last : LastTouch) :
    (last.sample state).1 = if last.Differs state then some button else none := by
  rw [sample, if_pos h.detected, Button.at_eq_some_iff.mpr h.covers]
  rfl

end Thethings
