import Thethings.Http.Main
import Thethings.Mqtt.Handshake

/-!
# Presses that are taken and presses that are dropped

Both loops take a press only where it differs from the last detected sample in both coordinates, so
that a finger that rests does not write again and again. A finger that moves from one button
straight across to the other keeps one coordinate, and its press is dropped. Before the first
detected sample the coordinates are compared with what `x_ant` and `y_ant` happen to hold.

Choices:

* A press is `Due` where a detected sample lies in a button and the detected sample before it, if
  there is one, lay somewhere else: this is when a finger comes to the button, and says nothing
  about what the loop remembers.
* What a pass does about a press is read off the model of its program: the calls on the client
  object, or the operations of the MQTT program. `Loop` is what the two have in common, and the
  results are about any loop of this kind.
* That nothing hangs on memory that was never initialised is said of two runs from different
  contents, over the same passes.

Results:

* `taken_iff`, `independent_iff`: for a loop whose passes emit what the samples press.
* `press_taken_iff`: the two programs are such loops.
-/

namespace Thethings

open Library

/-! ## Loops over touch samples -/

section Loop

variable {ι ω : Type} (touch : ι → TouchState)

/-- `P` holds of every press that is due during some passes, with the passes before it. -/
def EveryDue (passes : List ι) (P : List ι → ι → Button → Prop) : Prop :=
  ∀ before i after button, passes = before ++ i :: after →
    Due (before.map touch) (touch i) button → P before i button

/-- What the passes emit does not depend on what was there initially. -/
def Independent (passes : List ι) (out : LastTouch → List ι → ι → List ω) : Prop :=
  ∀ initial initial' before i after, passes = before ++ i :: after →
    out initial before i = out initial' before i

/-- A loop that emits something for a press, and remembers the samples. -/
structure Loop (out : LastTouch → List ι → ι → List ω) (emit : ι → Option Button → List ω) :
    Prop where
  out_eq : ∀ initial before i, out initial before i =
    emit i ((initial.remembered (before.map touch)).sample (touch i)).1
  emit_ne : ∀ i button, emit i none ≠ emit i (some button)

variable {touch} {out : LastTouch → List ι → ι → List ω} {emit : ι → Option Button → List ω}

/-- What a pass emits for a press that is due. -/
theorem Loop.out_of_due (h : Loop touch out emit) (initial : LastTouch) {before : List ι} {i : ι}
    {button : Button} (hdue : Due (before.map touch) (touch i) button) :
    out initial before i = emit i (some button) ↔
      (initial.remembered (before.map touch)).Differs (touch i) := by
  rw [h.out_eq, LastTouch.sample_of_due hdue]
  by_cases hd : (initial.remembered (before.map touch)).Differs (touch i)
  · rw [if_pos hd]
    exact iff_of_true rfl hd
  · rw [if_neg hd]
    exact iff_of_false (h.emit_ne i button) hd

/-- **Every press that is due is taken exactly when each of them differs in both coordinates** from
the last detected sample before it. -/
theorem Loop.taken_iff (h : Loop touch out emit) (initial : LastTouch) (passes : List ι) :
    EveryDue touch passes (fun before i button => out initial before i = emit i (some button)) ↔
      EveryDue touch passes fun before i _ =>
        (initial.remembered (before.map touch)).Differs (touch i) := by
  constructor
  · intro hout before i after button hpasses hdue
    exact (h.out_of_due initial hdue).mp (hout before i after button hpasses hdue)
  · intro hdiffers before i after button hpasses hdue
    exact (h.out_of_due initial hdue).mpr (hdiffers before i after button hpasses hdue)

/-- Where no press is due, nothing depends on what is remembered. -/
theorem sample_of_not_due {before : List TouchState} {state : TouchState}
    (hfirst : lastDetected before = none) (h : ∀ button, ¬ Due before state button)
    (last : LastTouch) : (last.sample state).1 = none := by
  rw [LastTouch.sample]
  by_cases hdet : state.touchDetected = true
  · have hat : Button.at state.touchX state.touchY = none := by
      by_contra hne
      obtain ⟨button, hb⟩ := Option.ne_none_iff_exists'.mp hne
      refine h button ⟨hdet, Button.at_eq_some_iff.mp hb, fun prev hprev => ?_⟩
      rw [hfirst] at hprev
      exact absurd hprev (by simp)
    rw [if_pos hdet, hat]
    exact ite_self none
  · rw [if_neg hdet]

/-- **What is emitted is independent of the initial content exactly when no press is due before
another sample was detected.** -/
theorem Loop.independent_iff (h : Loop touch out emit) (passes : List ι) :
    Independent passes out ↔
      EveryDue touch passes fun before _ _ => lastDetected (before.map touch) ≠ none := by
  constructor
  · intro hout before i after button hpasses hdue hfirst
    have hrem : ∀ initial : LastTouch, initial.remembered (before.map touch) = initial := by
      intro initial
      rw [LastTouch.remembered, hfirst]
    -- one initial content that lets the press through, and one that stops it
    have htaken := h.out_of_due
      ⟨otherThan 0 1 (touch i).touchX, otherThan 0 1 (touch i).touchY⟩ hdue
    have hdropped := h.out_of_due ⟨(touch i).touchX, (touch i).touchY⟩ hdue
    rw [hrem] at htaken hdropped
    have hdiffers := hdropped.mp <| (hout _ _ before i after hpasses).trans <|
      htaken.mpr ⟨(otherThan_ne (by decide) _).symm, (otherThan_ne (by decide) _).symm⟩
    exact hdiffers.1 rfl
  · intro hsecond initial initial' before i after hpasses
    rw [h.out_eq, h.out_eq]
    cases hlast : lastDetected (before.map touch) with
    | none =>
      have hnot : ∀ button, ¬ Due (before.map touch) (touch i) button :=
        fun button hdue => hsecond before i after button hpasses hdue hlast
      rw [sample_of_not_due hlast hnot, sample_of_not_due hlast hnot]
    | some prev => rw [LastTouch.remembered, LastTouch.remembered, hlast]

end Loop

/-! ## The HTTP program -/

namespace Http

theorem main_last (token : Bytes) (initial : LastTouch) (passes : List Pass) :
    (main token initial passes).last = initial.remembered (passes.map Pass.touch) := by
  rw [← LastTouch.run_sample]
  exact run_map Program.last Pass.touch (fun p i => (pass_thethings p i).2) _ passes

/-- The calls of the pass behind some others. -/
def callsAfter (token : Bytes) (initial : LastTouch) (before : List Pass) (i : Pass) :
    List (Call × Net) :=
  (main token initial before).calls i

theorem loop_calls (token : Bytes) : Loop Pass.touch (callsAfter token) Pass.calls where
  out_eq initial before i := by rw [callsAfter, Program.calls, main_last]
  emit_ne i button := (List.cons_ne_nil _ _).symm

end Http

/-! ## The MQTT program -/

namespace Mqtt

/-- The operations that write a value. -/
def Op.isWrite : Op → Bool
  | .addValue _ _ => true
  | .send _ => true
  | _ => false

/-- What a pass does to write the value of a button. -/
def Pass.writes (i : Pass) (button : Option Button) : List Op := (i.ops button).filter Op.isWrite

theorem main_last (token : Bytes) (memory : Client) (net : Startup) (initial : LastTouch)
    (passes : List Pass) :
    (main token memory net initial passes).last =
      initial.remembered (passes.map Pass.touch) := by
  rw [← LastTouch.run_sample]
  exact run_map Program.last Pass.touch (fun p i => (pass_app p i).2) _ passes

/-- The writes of the pass behind some others. -/
def writesAfter (token : Bytes) (memory : Client) (net : Startup) (initial : LastTouch)
    (before : List Pass) (i : Pass) : List Op :=
  i.writes ((main token memory net initial before).last.sample i.touch).1

theorem loop_writes (token : Bytes) (memory : Client) (net : Startup) :
    Loop Pass.touch (writesAfter token memory net) Pass.writes where
  out_eq initial before i := by rw [writesAfter, main_last]
  emit_ne i button := (List.cons_ne_nil _ _).symm

end Mqtt

/-! ## Both programs -/

/-- **Exactly when no press on a different button is dropped.** In both programs every press that is
due makes its pass issue the one write of its button's value iff each such press differs in both
coordinates from the last detected sample before it, the initial content of `x_ant` and `y_ant`
taking the place of one that is missing; and what is issued is independent of that content iff no
press is due before another sample was detected. -/
theorem press_taken_iff (token : Bytes) (memory : Mqtt.Client) (net : Mqtt.Startup)
    (initial : LastTouch) (passes : List Http.Pass) (mqttPasses : List Mqtt.Pass) :
    ((EveryDue Http.Pass.touch passes fun before i button =>
          Http.callsAfter token initial before i = [(Http.writeOf button, i.net)]) ↔
        EveryDue Http.Pass.touch passes fun before i _ =>
          (initial.remembered (before.map Http.Pass.touch)).Differs i.touch) ∧
    ((EveryDue Mqtt.Pass.touch mqttPasses fun before i button =>
          Mqtt.writesAfter token memory net initial before i =
            [.addValue (ascii "demo") (Mqtt.buttonValue button), .send i.publish]) ↔
        EveryDue Mqtt.Pass.touch mqttPasses fun before i _ =>
          (initial.remembered (before.map Mqtt.Pass.touch)).Differs i.touch) ∧
    (Independent passes (Http.callsAfter token) ↔
      EveryDue Http.Pass.touch passes fun before _ _ =>
        lastDetected (before.map Http.Pass.touch) ≠ none) ∧
    (Independent mqttPasses (Mqtt.writesAfter token memory net) ↔
      EveryDue Mqtt.Pass.touch mqttPasses fun before _ _ =>
        lastDetected (before.map Mqtt.Pass.touch) ≠ none) :=
  ⟨(Http.loop_calls token).taken_iff initial passes,
    (Mqtt.loop_writes token memory net).taken_iff initial mqttPasses,
    (Http.loop_calls token).independent_iff passes,
    (Mqtt.loop_writes token memory net).independent_iff mqttPasses⟩

/-- The middle of the left button, and the middle of the right one. -/
def leftMiddle : TouchState := ⟨true, 160, 136⟩
/-- A touch in the middle of the right button. -/
def rightMiddle : TouchState := ⟨true, 320, 136⟩

theorem due_first : Due [] leftMiddle .left where
  detected := rfl
  covers := by decide
  moved := fun _ h => absurd h (by simp [lastDetected])

theorem due_across : Due [leftMiddle] rightMiddle .right where
  detected := rfl
  covers := by decide
  moved := fun last h => by
    obtain rfl : leftMiddle = last := Option.some.inj h
    decide

/-- Straight across from one middle to the other, the second press is dropped by both programs; and
where `x_ant` happens to hold 160, so is the first press of all. -/
theorem press_dropped :
    (¬ EveryDue Http.Pass.touch [⟨leftMiddle, Http.works []⟩, ⟨rightMiddle, Http.works []⟩]
      fun before i button =>
        Http.callsAfter [] ⟨0, 0⟩ before i = [(Http.writeOf button, i.net)]) ∧
    (¬ EveryDue Mqtt.Pass.touch
        [⟨[], Mqtt.acceptingNet, leftMiddle, ⟨[], [], 0⟩⟩,
          ⟨[], Mqtt.acceptingNet, rightMiddle, ⟨[], [], 0⟩⟩]
      fun before i button =>
        Mqtt.writesAfter [] .zeroed Mqtt.unansweredStartup ⟨0, 0⟩ before i =
          [.addValue (ascii "demo") (Mqtt.buttonValue button), .send i.publish]) ∧
    (¬ EveryDue Http.Pass.touch [⟨leftMiddle, Http.works []⟩] fun before i button =>
        Http.callsAfter [] ⟨160, 0⟩ before i = [(Http.writeOf button, i.net)]) := by
  refine ⟨?_, ?_, ?_⟩
  · intro h
    have hd := ((Http.loop_calls []).taken_iff _ _).mp h [_] _ [] _ rfl due_across
    exact hd.2 rfl
  · intro h
    have hd := ((Mqtt.loop_writes [] .zeroed _).taken_iff _ _).mp h [_] _ [] _ rfl due_across
    exact hd.2 rfl
  · intro h
    have hd := ((Http.loop_calls []).taken_iff _ _).mp h [] _ [] _ rfl due_first
    exact hd.1 rfl

end Thethings
