import Thethings.Http.Response
import Thethings.Touch

/-!
# The HTTP program

`main` (`main.cpp` l.14-66): a client object, made once, and a loop that samples the screen, counts
the presses of each button and writes the value of the pressed one.

Choices:

* `Pass` is what the screen and the network do during one pass; the loop is a run over passes, so a
  statement about every state of the program is one about every list of them.
* The token is the one compiled in, a parameter here; what the loop shows on the display, and the
  waits in front of it, are left out.
* The results of the writes are dropped, as in the source. The counters are the `int`s of the source
  without a width, since nothing but the display looks at them.
* The object is made with both its allocations; `write_returns` needs this, since a client with no
  buffer converts a `NULL` pointer.

Results:

* `loop_thethings`: the loop is a sequence of calls on the object, `loopCalls`.
* `write_returns`: none of these calls ends by an exception, so the loop goes on.
* `touched_eq`: the counters count the calls.
-/

namespace Thethings.Http

open Library

/-- The value a button stands for. -/
def buttonValue : Button → Bytes
  | .left => ascii "1"
  | .right => ascii "2"

/-- The state at the top of the loop. -/
structure Program where
  thethings : ThethingsiO
  touchedLeft : Int
  touchedRight : Int
  last : LastTouch

/-- What happens during one pass. -/
structure Pass where
  touch : TouchState
  net : Net

/-- One pass of the loop. -/
def Program.pass (p : Program) (i : Pass) : Program :=
  match p.last.sample i.touch with
  | (some .left, last) =>
    { thethings := (thingWrite p.thethings (ascii "demo") (buttonValue .left) i.net).object
      touchedLeft := p.touchedLeft + 1
      touchedRight := p.touchedRight
      last := last }
  | (some .right, last) =>
    { thethings := (thingWrite p.thethings (ascii "demo") (buttonValue .right) i.net).object
      touchedLeft := p.touchedLeft
      touchedRight := p.touchedRight + 1
      last := last }
  | (none, last) => { p with last := last }

/-- The program before its loop: the object's buffer was allocated, and `x_ant` and `y_ant` hold
whatever they hold. -/
def start (token : Bytes) (last : LastTouch) : Program where
  thethings := ThethingsiO.new token true true
  touchedLeft := 0
  touchedRight := 0
  last := last

/-- The program at the top of its loop, after some passes. -/
def main (token : Bytes) (last : LastTouch) (passes : List Pass) : Program :=
  run Program.pass (start token last) passes

/-! ## The loop as a sequence of calls -/

/-- The write of a button. -/
def writeOf (button : Button) : Call := .thingWrite (ascii "demo") (buttonValue button)

/-- The calls of one pass, each with what the network does during it. -/
def Pass.calls (i : Pass) : Option Button → List (Call × Net)
  | none => []
  | some button => [(writeOf button, i.net)]

/-- The calls a pass makes. -/
def Program.calls (p : Program) (i : Pass) : List (Call × Net) := i.calls (p.last.sample i.touch).1

/-- The calls of some passes. -/
def loopCalls : LastTouch → List Pass → List (Call × Net)
  | _, [] => []
  | last, i :: passes =>
    i.calls (last.sample i.touch).1 ++ loopCalls (last.sample i.touch).2 passes

theorem pass_thethings (p : Program) (i : Pass) :
    (p.pass i).thethings = run step p.thethings (p.calls i) ∧
      (p.pass i).last = (p.last.sample i.touch).2 := by
  unfold Program.pass Program.calls
  rcases p.last.sample i.touch with ⟨button, last⟩
  cases button with
  | none => exact ⟨rfl, rfl⟩
  | some button => cases button <;> exact ⟨rfl, rfl⟩

/-- **The loop is a sequence of calls on one object.** -/
theorem loop_thethings (p : Program) (passes : List Pass) :
    (run Program.pass p passes).thethings = run step p.thethings (loopCalls p.last passes) := by
  induction passes generalizing p with
  | nil => rfl
  | cons i passes ih =>
    obtain ⟨hthethings, hlast⟩ := pass_thethings p i
    rw [run_cons, ih, loopCalls, run_append, hthethings, hlast]
    rfl

/-- One call for each press, in order. -/
theorem loopCalls_eq (last : LastTouch) (passes : List Pass) :
    (loopCalls last passes).map Prod.fst =
      (last.presses (passes.map Pass.touch)).map writeOf := by
  induction passes generalizing last with
  | nil => rfl
  | cons i passes ih =>
    rw [loopCalls, List.map_append, ih, List.map_cons, LastTouch.presses, List.map_append]
    cases (last.sample i.touch).1 <;> rfl

/-- **The counters count the calls.** -/
theorem touched_eq (p : Program) (passes : List Pass) :
    (run Program.pass p passes).touchedLeft =
        p.touchedLeft + (p.last.presses (passes.map Pass.touch)).count .left ∧
      (run Program.pass p passes).touchedRight =
        p.touchedRight + (p.last.presses (passes.map Pass.touch)).count .right := by
  induction passes generalizing p with
  | nil => simp [LastTouch.presses]
  | cons i passes ih =>
    obtain ⟨hleft, hright⟩ := ih (p.pass i)
    rw [run_cons, hleft, hright, (pass_thethings p i).2, List.map_cons, LastTouch.presses,
      List.count_append, List.count_append]
    unfold Program.pass
    rcases p.last.sample i.touch with ⟨button, last⟩
    cases button with
    | none => simp
    | some button => cases button <;> simp <;> omega

/-! ## The object in the loop -/

theorem sound_main (token : Bytes) (last : LastTouch) (passes : List Pass) :
    Sound true (main token last passes).thethings := by
  rw [main, loop_thethings]
  exact run_invariant (Sound true) (sound_step true) _ (sound_new token true true)

/-- **No write ends the program**: in every state of the loop the write of a button returns. -/
theorem write_returns (token : Bytes) (last : LastTouch) (passes : List Pass) (button : Button)
    (net : Net) : ∃ v, ((writeOf button).run net (main token last passes).thethings).exit =
      .returned v := by
  have hsound := sound_main token last passes
  by_cases hs : (main token last passes).thethings.socket.status = .Closed
  · rcases Call.run_cases hs (hsound hs) (writeOf button) net with
      ⟨-, -, -, hv⟩ | ⟨⟨-, hans⟩, -, -⟩ | ⟨-, -, hv⟩
    · exact hv
    · exact absurd hans.symm Bool.false_ne_true
    · exact hv
  · exact ⟨_, by rw [Call.run_of_ne hs]⟩

end Thethings.Http
