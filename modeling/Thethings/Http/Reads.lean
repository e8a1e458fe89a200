import Thethings.Http.Response

/-!
# What the reads return

`thingReadAll`, `thingRead` and `thingActivate` ignore the result of the receive and return what
`substr` leaves of the text from its first blank line on (l.46, 79 and 154 of
`ThethingsiO_DISCO_F746NG.cpp`). Where there is none, `find` gives `npos` and `substr` throws; where
there is one, it is part of what is returned.

Choices:

* What a read survives is a question about the bytes of its receive, an empty one and a failed one
  among them; `Survives` asks for a value and for the object to be ready for the next call.
* A response is taken apart at its first blank line into head and body. `Fits` says that one receive
  can bring it whole: it is shorter than the buffer and has no NUL in it.

Results:

* `survives_iff`: a read that gets to its receive survives exactly the answers that hold a blank
  line in front of their first NUL.
* `separator_returned`: of a response `head`, blank line, `body` the reads return the blank line and
  `body`, and so never `body`.
-/

namespace Thethings.Http

open Thethings.Library

/-- The calls that return a text. -/
def Call.returnsText : Call → Bool
  | .thingWrite _ _ => false
  | _ => true

theorem Call.cut_of_returnsText {c : Call} (h : c.returnsText = true) (response : Bytes) :
    c.cut response = (cutBody response).map .text := by
  cases c with
  | thingWrite resource value => exact absurd h Bool.false_ne_true
  | _ => rfl

theorem Call.answers_iff {c : Call} (h : c.returnsText = true) {alloc : Bool} {net : Net} :
    c.Answers alloc net = true ↔ alloc = true ∧ blankLine <:+: net.response := by
  rw [← find_isSome_iff, ← Bool.and_eq_true]
  cases c with
  | thingWrite resource value => exact absurd h Bool.false_ne_true
  | _ => rfl

/-! ## Which answers are survived -/

/-- The caller gets a text, and the object is as before the call. -/
structure Survives (r : Outcome Value) : Prop where
  returned : ∃ s, r.exit = .returned (.text s)
  closed : r.object.socket.status = .Closed
  cleared : r.object.buffer.memory = some (List.replicate 1024 0)

/-- A read that gets past its write either completes or throws. -/
theorem survives_of_reading {o : ThethingsiO} {alloc : Bool} (hs : o.socket.status = .Closed)
    (hb : o.buffer = Buffer.ofSize 1024 alloc) {c : Call} (hc : c.returnsText = true) {net : Net}
    (hstage : net.stage c.host = .reading) :
    Survives (c.run net o) ↔ alloc = true ∧ blankLine <:+: net.response := by
  rw [← Call.answers_iff hc]
  rcases Call.run_cases hs hb c net with ⟨hcl, hclosed, hbuf, -⟩ | ⟨hthrows, -, hexit⟩ | ⟨hab, -, -⟩
  · have hans : c.Answers alloc net = true := by
      rcases hcl with hopen | ⟨-, hans⟩
      · exact absurd (hopen.symm.trans hstage) (by simp)
      · exact hans
    refine iff_of_true ?_ hans
    obtain ⟨rfl, hblank⟩ := (Call.answers_iff hc).mp hans
    obtain ⟨pos, hpos⟩ := Option.isSome_iff_exists.mp (find_isSome_iff.mpr hblank)
    refine ⟨⟨net.response.drop pos, ?_⟩, hclosed, by rw [hbuf]; rfl⟩
    rw [exit_returned_iff hs hb hstage, Call.cut_of_returnsText hc, cutBody, hpos]
    rfl
  · -- the exception skips the flush and the close
    refine iff_of_false ?_ ?_
    · intro h
      obtain ⟨s, hs⟩ := h.returned
      rw [hexit] at hs
      exact absurd hs (by simp)
    · intro h
      exact absurd (hthrows.2.symm.trans h) Bool.false_ne_true
  · rcases hab with hab | hab <;> exact absurd (hab.symm.trans hstage) (by simp)

/-- **Which answers a read survives.** After any calls, a read that gets to its receive and is
given fewer than 1024 bytes (none by an error or a close) returns a text, with its socket closed and
its buffer clear, iff a blank line stands in front of the first NUL of what it was given. The buffer
has to have been allocated, which the constructor does not check. -/
theorem survives_iff (token : Bytes) (calloc calloc' : Bool) (calls : List (Call × Net)) (c : Call)
    (net : Net) (o : ThethingsiO) (hc : c.returnsText = true)
    (h : c.atRead net (run step (ThethingsiO.new token calloc calloc') calls) = some o)
    (hlen : net.delivered.length < 1024) :
    Survives (c.run net (run step (ThethingsiO.new token calloc calloc') calls)) ↔
      (calloc && calloc') = true ∧ blankLine <:+: cstr net.delivered := by
  obtain ⟨hs, hstage, -, -⟩ := Call.atRead_eq_some h
  have hb := run_invariant (Sound (calloc && calloc')) (sound_step _) calls
    (sound_new token calloc calloc')
  rw [survives_of_reading hs (hb hs) hc hstage, Net.response_of_lt hlen]

/-- On a network where everything works, the first call of a fresh object gets to its receive. -/
theorem receives_works (c : Call) (queue : List Recv) :
    Receives c (works queue) (objectAfter [] []) := by
  have hstage : (works queue).stage c.host = .reading := rfl
  obtain ⟨o, ho⟩ := Call.atRead_of_closed (o := objectAfter [] []) rfl hstage
  exact ⟨o, ho, (Call.atRead_eq_some ho).2.2.1⟩

/-- The sample response is survived. -/
theorem survives_sample :
    Survives ((Call.thingReadAll 1).run (works [.data sampleResponse])
      (run step (ThethingsiO.new [] true true) [])) := by
  have hstage : (works [.data sampleResponse]).stage (Call.thingReadAll 1).host = .reading := rfl
  obtain ⟨o, ho⟩ := Call.atRead_of_closed (o := objectAfter [] []) rfl hstage
  refine (survives_iff [] true true [] _ _ o rfl ho (by decide)).mpr ⟨rfl, ?_⟩
  exact find_isSome_iff.mp (by decide)

/-- A receive error, and a response that breaks off in its head, end the call by the exception. -/
theorem throws_on_error :
    (Receives (.thingReadAll 1) (works [.error]) (objectAfter [] []) ∧
      ¬ Survives ((Call.thingReadAll 1).run (works [.error]) (objectAfter [] []))) ∧
    (Receives (.thingReadAll 1) (works [.data (ascii "HTTP/1.1 200 OK\r\n")]) (objectAfter [] []) ∧
      ¬ Survives ((Call.thingReadAll 1).run (works [.data (ascii "HTTP/1.1 200 OK\r\n")])
        (objectAfter [] []))) := by
  have hb : (objectAfter [] []).buffer = Buffer.ofSize 1024 true := new_buffer [] true true
  refine ⟨⟨receives_works _ _, ?_⟩, receives_works _ _, ?_⟩
  · intro h
    have hblank := ((survives_of_reading rfl hb rfl rfl).mp h).2
    exact absurd (find_isSome_iff.mpr hblank) (by decide)
  · intro h
    have hblank := ((survives_of_reading rfl hb rfl rfl).mp h).2
    exact absurd (find_isSome_iff.mpr hblank) (by decide)

/-! ## What is returned -/

/-- A response that one receive can bring whole and a C string can hold: its first blank line ends
`head`. -/
structure Fits (head body : Bytes) : Prop where
  short : (head ++ blankLine ++ body).length < 1024
  zero_notMem : 0 ∉ head ++ blankLine ++ body
  first : find blankLine (head ++ blankLine ++ body) = some head.length

/-- A head of one line is ended by the blank line behind it, whatever the body is. -/
theorem fits_of_line {head body : Bytes} (hcr : 13 ∉ head)
    (hlen : head.length + body.length < 1020) (hzero : 0 ∉ head ++ body) : Fits head body where
  short := by
    simp only [List.length_append, blankLine, List.length_cons, List.length_nil]
    omega
  zero_notMem := by
    rw [List.mem_append, not_or] at hzero
    simp [blankLine, hzero]
  first := by
    have hblank : blankLine = 13 :: [10, 13, 10] := rfl
    rw [List.append_assoc, hblank, find_append_of_notMem hcr,
      find_of_starts (List.prefix_append _ _), Option.map_some, Nat.zero_add]

/-- A response that arrives whole is read back whole. -/
theorem response_of_whole {c : Call} {net : Net} {o : ThethingsiO} (hr : Receives c net o)
    {response : Bytes} {later : List Recv} (hrecv : net.recv = .data response :: later)
    (hlen : response.length < 1024) (hzero : 0 ∉ response) : net.response = response := by
  obtain ⟨o', ho', hconn⟩ := hr
  have hsend : net.send ≠ 0 := by
    intro h0
    rw [(Call.atRead_eq_some ho').2.2.1, Net.statusAt, if_pos h0] at hconn
    exact absurd hconn (by simp)
  have hd : net.delivered = response := by
    rw [Net.delivered, if_neg hsend, hrecv]
    exact List.take_of_length_le (le_of_lt hlen)
  rw [Net.response_of_lt (by rwa [hd]), hd]
  exact cstr_eq_self_iff.mpr hzero

/-- How a call ends that is brought a whole response. -/
theorem exit_of_whole {token : Bytes} {calls : List (Call × Net)} {c : Call} {net : Net}
    (hr : Receives c net (objectAfter token calls)) {response : Bytes} {later : List Recv}
    (hrecv : net.recv = .data response :: later) (hlen : response.length < 1024)
    (hzero : 0 ∉ response) {v : Value} :
    (c.run net (objectAfter token calls)).exit = .returned v ↔ c.cut response = some v := by
  have hresp := response_of_whole hr hrecv hlen hzero
  obtain ⟨o', ho', -⟩ := hr
  obtain ⟨hs, hstage, -, -⟩ := Call.atRead_eq_some ho'
  rw [exit_returned_iff hs (sound_objectAfter token calls hs) hstage, hresp]

/-- From the first blank line on, the response is what a read returns. -/
theorem exit_of_fits {token : Bytes} {calls : List (Call × Net)} {c : Call} {net : Net}
    (hc : c.returnsText = true) (hr : Receives c net (objectAfter token calls)) {head body : Bytes}
    {later : List Recv} (hrecv : net.recv = .data (head ++ blankLine ++ body) :: later)
    (hfit : Fits head body) :
    (c.run net (objectAfter token calls)).exit = .returned (.text (blankLine ++ body)) := by
  rw [exit_of_whole hr hrecv hfit.short hfit.zero_notMem, Call.cut_of_returnsText hc, cutBody,
    hfit.first, List.append_assoc]
  simp only [Option.map_some, List.drop_left]

theorem separated_ne_body (body : Bytes) :
    Exit.returned (Value.text (blankLine ++ body)) ≠ .returned (.text body) := by
  intro h
  have hlen := congrArg List.length (Value.text.inj (Exit.returned.inj h))
  rw [List.length_append] at hlen
  exact absurd hlen (by simp [blankLine])

/-- **The separator is returned with the body**, by each of the reads and of every response. -/
theorem separator_returned (token : Bytes) (calls : List (Call × Net)) (c : Call) (net : Net)
    (head body : Bytes) (later : List Recv) (hc : c.returnsText = true)
    (hr : Receives c net (objectAfter token calls))
    (hrecv : net.recv = .data (head ++ blankLine ++ body) :: later) (hfit : Fits head body) :
    (c.run net (objectAfter token calls)).exit = .returned (.text (blankLine ++ body)) ∧
      (c.run net (objectAfter token calls)).exit ≠ .returned (.text body) := by
  have hexit := exit_of_fits hc hr hrecv hfit
  exact ⟨hexit, by rw [hexit]; exact separated_ne_body body⟩

/-- A head without the blank line. -/
def sampleHead : Bytes := ascii "HTTP/1.1 200 OK\r\nContent-Length: 2"

theorem sample_fits : Fits sampleHead (ascii "ok") where
  short := by decide
  zero_notMem := by decide
  first := by decide

/-- The body `ok` comes back as `\r\n\r\nok`. -/
theorem separator_returned_sample :
    ((Call.thingReadAll 1).run (works [.data (sampleHead ++ blankLine ++ ascii "ok")])
        (objectAfter [] [])).exit = .returned (.text (ascii "\r\n\r\nok")) := by
  have htext : ascii "\r\n\r\nok" = blankLine ++ ascii "ok" := by decide
  rw [htext]
  exact (separator_returned [] [] _ _ sampleHead (ascii "ok") [] rfl (receives_works _ _) rfl
    sample_fits).1

/-- What `thingRead` returns of the sample is not its body. -/
theorem body_not_returned :
    Receives (.thingRead (ascii "demo") 1) (works [.data (sampleHead ++ blankLine ++ ascii "ok")])
        (objectAfter [] []) ∧
      Fits sampleHead (ascii "ok") ∧
      ((Call.thingRead (ascii "demo") 1).run
        (works [.data (sampleHead ++ blankLine ++ ascii "ok")]) (objectAfter [] [])).exit ≠
          .returned (.text (ascii "ok")) := by
  have hr := receives_works (.thingRead (ascii "demo") 1)
    [.data (sampleHead ++ blankLine ++ ascii "ok")]
  refine ⟨hr, sample_fits, ?_⟩
  rw [exit_of_fits rfl hr rfl sample_fits]
  exact separated_ne_body (ascii "ok")

end Thethings.Http
