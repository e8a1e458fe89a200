import Thethings.Http.Client

/-!
# The life of one client object

What one call does to an object, and what a sequence of calls does, for `transact` and so for all
four calls of `ThethingsiO_DISCO_F746NG.cpp`.

Choices:

* The next call finds the object as the last one left it, by whatever exit: an exception is caught
  by the caller, and the object is used again.
* A call and what the network does during it are one input of a run. Nothing is assumed about
  either, and both `calloc`s of the constructor may fail.
* Whether a call closes its socket is decided on the input and the object before it (`Closes`), and
  the code is shown to agree. `close` itself may fail in lwIP, which changes nothing here.

Results:

* `Net.stage`: how far the network lets a call get. `exchange_of_closed` says the code agrees, and
  that the buffer is untouched until the read.
* `Call.run_cases`: the three ends of a call that finds its socket closed. It completes, with the
  socket closed and the buffer clean again; it is abandoned with the socket open; it throws with the
  socket open.
* `Session`: what a caller sees of an object, `ready` or `wedged` for good (`wedged_run`).
  `session_step` says the code simulates it.
* `Sound`: the buffer is clean whenever the socket is closed. It is what carries from call to call,
  since only a completed call closes the socket it opened.
* `socket_closed_iff_orderly`: no call of a sequence is refused and each returns with the socket
  closed exactly when every call closes it; the last may end by an exception instead.
-/

namespace Thethings.Http

open Thethings.Library

/-! ## What the network lets a call do -/

namespace Net

/-- How far a call gets. -/
def stage (net : Net) (host : Bytes) : Stage :=
  if net.socket < 0 then .openFailed
  else if fromHostname (net.gethostbyname host) = none ∨ net.connect < 0 then .connectFailed
  else if net.send < 0 then .writeFailed
  else .reading

/-- The status of the socket there. -/
def statusAt (net : Net) : Stage → Status
  | .openFailed => .Closed
  | .connectFailed => .Open
  | .writeFailed => .Connected
  | .reading => if net.send = 0 then .Disconnected else .Connected

/-- The bytes the read puts into the buffer: none where the peer closed during the write. -/
def delivered (net : Net) : Bytes :=
  if net.send = 0 then []
  else
    match net.recv with
    | .data bytes :: _ => bytes.take 1024
    | _ => []

/-- The C string that is read back from a clean buffer. -/
def response (net : Net) : Bytes :=
  cstr (net.delivered ++ List.replicate (1024 - net.delivered.length) 0 ++ net.past)

theorem length_delivered_le (net : Net) : net.delivered.length ≤ 1024 := by
  unfold delivered
  split_ifs
  · exact Nat.zero_le _
  · split
    · rw [List.length_take]; exact Nat.min_le_left _ _
    · exact Nat.zero_le _

theorem received_eq_delivered {net : Net} {s : Socket} (h : s.status = net.statusAt .reading) :
    s.received 1024 net.recv = net.delivered := by
  unfold Socket.received delivered
  rw [h, statusAt]
  by_cases hs : net.send = 0
  · rw [if_pos hs, if_pos hs, if_neg (by decide)]
  · rw [if_neg hs, if_neg hs]
    exact if_pos rfl

/-- A receive that leaves room for the terminator is read back up to its first NUL. -/
theorem response_of_lt {net : Net} (h : net.delivered.length < 1024) :
    net.response = cstr net.delivered := by
  obtain ⟨k, hk⟩ : ∃ k, 1024 - net.delivered.length = k + 1 :=
    ⟨1023 - net.delivered.length, by omega⟩
  rw [response, hk, List.replicate_succ, List.append_assoc, List.cons_append, cstr_append_zero]

/-- The part of the text that comes out of the buffer is what the receive put there. -/
theorem take_response (net : Net) : net.response.take 1024 = cstr net.delivered := by
  have hlen := net.length_delivered_le
  rcases Nat.lt_or_ge net.delivered.length 1024 with h | h
  · rw [response_of_lt h, List.take_of_length_le]
    exact ((List.takeWhile_prefix _).length_le).trans hlen
  · rw [response, show 1024 - net.delivered.length = 0 by omega, List.replicate_zero,
      List.append_nil]
    by_cases hz : 0 ∈ net.delivered
    · rw [cstr_append_of_mem hz, List.take_of_length_le]
      exact ((List.takeWhile_prefix _).length_le).trans hlen
    · have hc := cstr_eq_self_iff.mpr hz
      have happ : cstr (net.delivered ++ net.past) = net.delivered ++ cstr net.past := by
        unfold cstr at hc ⊢
        rw [List.takeWhile_append, hc, if_pos rfl]
      rw [happ, hc, List.take_append_of_le_length h, List.take_of_length_le hlen]

end Net

/-! ## One call -/

theorem Call.request_ne_nil (c : Call) (token : Bytes) : c.request token ≠ [] := by
  have hget : ascii "GET /v2/things/" = 71 :: ascii "ET /v2/things/" := by decide
  have hpost : ascii "POST /v2/things/" = 80 :: ascii "OST /v2/things/" := by decide
  cases c <;> simp [Call.request, readAllRequest, readRequest, writeRequest, activateRequest,
    postRequest, hget, hpost]

/-- A socket that is not closed is refused by `open`, and nothing else happens. -/
theorem exchange_of_ne {o : ThethingsiO} (h : o.socket.status ≠ .Closed) (host request : Bytes)
    (net : Net) : exchange o host request net = (.openFailed, o) := by
  unfold exchange
  rw [Socket.open_of_ne h]
  rfl

/-- **From a closed socket the network alone decides how far the call gets.** -/
theorem exchange_of_closed {o : ThethingsiO} (h : o.socket.status = .Closed) {request : Bytes}
    (hreq : request ≠ []) (host : Bytes) (net : Net) :
    (exchange o host request net).1 = net.stage host ∧
    (exchange o host request net).2.socket.status = net.statusAt (net.stage host) ∧
    (exchange o host request net).2.buffer = o.buffer := by
  unfold exchange Net.stage
  by_cases hopen : net.socket < 0
  · simp [Socket.open, h, hopen, Net.statusAt]
  · cases hhost : fromHostname (net.gethostbyname host) with
    | none => simp [Socket.open, h, hopen, Socket.connect, hhost, Net.statusAt]
    | some address =>
      by_cases hconnect : net.connect < 0
      · simp [Socket.open, h, hopen, Socket.connect, Socket.connectEndpoint, hhost, hconnect,
          Net.statusAt]
      · by_cases hsend : net.send < 0
        · have hs : net.send ≠ 0 := by omega
          simp [Socket.open, h, hopen, Socket.connect, Socket.connectEndpoint, hhost, hconnect,
            Socket.write, hreq, hsend, hs, Net.statusAt]
        · simp [Socket.open, h, hopen, Socket.connect, Socket.connectEndpoint, hhost, hconnect,
            Socket.write, hreq, hsend, Net.statusAt]

namespace Call

/-- The response gives the call a result: there is a buffer, and a blank line where one is cut
at. -/
def Answers (c : Call) (alloc : Bool) (net : Net) : Bool :=
  match c with
  | .thingWrite _ _ => alloc
  | _ => alloc && (find blankLine net.response).isSome

/-- The call closes the socket it opened, or opened none. -/
def Closes (c : Call) (alloc : Bool) (net : Net) : Prop :=
  net.stage c.host = .openFailed ∨ net.stage c.host = .reading ∧ c.Answers alloc net = true

/-- The call returns from the middle, with its socket open. -/
def Abandons (c : Call) (net : Net) : Prop :=
  net.stage c.host = .connectFailed ∨ net.stage c.host = .writeFailed

/-- The call ends by an exception. -/
def Throws (c : Call) (alloc : Bool) (net : Net) : Prop :=
  net.stage c.host = .reading ∧ c.Answers alloc net = false

instance (c : Call) (alloc : Bool) (net : Net) : Decidable (c.Closes alloc net) :=
  inferInstanceAs (Decidable (_ ∨ _ ∧ _))

instance (c : Call) (alloc : Bool) (net : Net) : Decidable (c.Throws alloc net) :=
  inferInstanceAs (Decidable (_ ∧ _))

theorem run_of_ne {o : ThethingsiO} (h : o.socket.status ≠ .Closed) (c : Call) (net : Net) :
    c.run net o = ⟨.returned c.failures.openFailed, o⟩ := by
  rw [run_eq, transact, exchange_of_ne h]

/-- The object as the call finds it when it reaches `socket.read`. -/
def atRead (c : Call) (net : Net) (o : ThethingsiO) : Option ThethingsiO :=
  match exchange o c.host (c.request o.thingToken) net with
  | (.reading, o) => some o
  | _ => none

/-- What a call that reaches `socket.read` finds there. -/
theorem atRead_eq_some {c : Call} {net : Net} {o o' : ThethingsiO} (h : c.atRead net o = some o') :
    o.socket.status = .Closed ∧ net.stage c.host = .reading ∧
      o'.socket.status = net.statusAt .reading ∧ o'.buffer = o.buffer := by
  unfold atRead at h
  by_cases hs : o.socket.status = .Closed
  · obtain ⟨h1, h2, h3⟩ := exchange_of_closed hs (c.request_ne_nil o.thingToken) c.host net
    rcases he : exchange o c.host (c.request o.thingToken) net with ⟨stage, o''⟩
    rw [he] at h h1 h2 h3
    simp only at h1 h2 h3
    cases stage with
    | reading =>
      obtain rfl := Option.some.inj h
      rw [← h1] at h2
      exact ⟨hs, h1.symm, h2, h3⟩
    | _ => exact absurd h (by simp)
  · rw [exchange_of_ne hs] at h
    exact absurd h (by simp)

theorem atRead_of_closed {c : Call} {net : Net} {o : ThethingsiO} (hs : o.socket.status = .Closed)
    (hstage : net.stage c.host = .reading) : ∃ o', c.atRead net o = some o' := by
  obtain ⟨h1, -, -⟩ := exchange_of_closed hs (c.request_ne_nil o.thingToken) c.host net
  unfold atRead
  split
  · exact ⟨_, rfl⟩
  · rename_i hne
    exact (hne (exchange o c.host (c.request o.thingToken) net).2
      (Prod.ext (h1.trans hstage) rfl)).elim

/-- The text of the response, read back from the buffer: none where there is no buffer. -/
theorem text_after_read {net : Net} {s : Socket} (alloc : Bool)
    (h : s.status = net.statusAt .reading) :
    (s.read (Buffer.ofSize 1024 alloc) net.recv).2.2.1.text net.past =
      if alloc then some net.response else none := by
  cases alloc with
  | false => rfl
  | true =>
    obtain ⟨⟨n, hn⟩, -⟩ := Socket.read_ofSize (show 0 < 1024 by decide) s net.recv
    rw [hn, Net.received_eq_delivered h, Buffer.setLength_text, Buffer.text,
      Buffer.data_store_ofSize (by decide), List.take_of_length_le net.length_delivered_le]
    rfl

theorem cut_isSome (c : Call) (alloc : Bool) (net : Net) :
    ((if alloc then some net.response else none).bind c.cut).isSome = c.Answers alloc net := by
  cases alloc <;> cases c <;> simp [Call.cut, Call.Answers, cutBody, cutStatus]

/-- **The ends of a call** that finds its socket closed and its buffer clean. -/
theorem run_cases {o : ThethingsiO} {alloc : Bool} (hs : o.socket.status = .Closed)
    (hb : o.buffer = Buffer.ofSize 1024 alloc) (c : Call) (net : Net) :
    (c.Closes alloc net ∧ (c.run net o).object.socket.status = .Closed ∧
      (c.run net o).object.buffer = Buffer.ofSize 1024 alloc ∧
      ∃ v, (c.run net o).exit = .returned v) ∨
    (c.Throws alloc net ∧ (c.run net o).object.socket.status ≠ .Closed ∧
      (c.run net o).exit = .threw) ∨
    (c.Abandons net ∧ (c.run net o).object.socket.status ≠ .Closed ∧
      ∃ v, (c.run net o).exit = .returned v) := by
  rw [run_eq]
  obtain ⟨h1, h2, h3⟩ := exchange_of_closed hs (c.request_ne_nil o.thingToken) c.host net
  rcases he : exchange o c.host (c.request o.thingToken) net with ⟨stage, o'⟩
  rw [he] at h1 h2 h3
  simp only at h1 h2 h3
  rw [← h1] at h2
  unfold transact
  rw [he]
  cases stage with
  | openFailed => exact Or.inl ⟨Or.inl h1.symm, h2, by rw [h3, hb], _, rfl⟩
  | connectFailed =>
    exact Or.inr (Or.inr ⟨Or.inl h1.symm, by simp [h2, Net.statusAt], _, rfl⟩)
  | writeFailed =>
    exact Or.inr (Or.inr ⟨Or.inr h1.symm, by simp [h2, Net.statusAt], _, rfl⟩)
  | reading =>
    have hbuf : o'.buffer = Buffer.ofSize 1024 alloc := by rw [h3, hb]
    have htext := text_after_read alloc h2
    have hcut := cut_isSome c alloc net
    have hopen : o'.socket.status ≠ .Closed := by
      rw [h2, Net.statusAt]
      split_ifs <;> decide
    simp only [hbuf, htext]
    cases hr : (if alloc then some net.response else none).bind c.cut with
    | none =>
      refine Or.inr (Or.inl ⟨⟨h1.symm, by rw [← hcut, hr]; rfl⟩, ?_, rfl⟩)
      -- without a buffer the read is refused; with one it leaves the socket open
      cases alloc with
      | false => exact hopen
      | true => exact (Socket.read_ofSize (by decide) o'.socket net.recv).2 hopen
    | some v =>
      refine Or.inl ⟨Or.inr ⟨h1.symm, by rw [← hcut, hr]; rfl⟩, Socket.close_status _ _, ?_, v, rfl⟩
      cases alloc with
      | false => rfl
      | true =>
        obtain ⟨⟨n, hn⟩, -⟩ := Socket.read_ofSize (show 0 < 1024 by decide) o'.socket net.recv
        simp only [hn]
        exact Buffer.flush_store_ofSize _ _ _

/-- How a call ends that gets to its read. -/
theorem exit_of_reading {o : ThethingsiO} (hs : o.socket.status = .Closed)
    (hb : o.buffer = Buffer.ofSize 1024 true) {c : Call} {net : Net}
    (hstage : net.stage c.host = .reading) :
    (c.run net o).exit =
      match c.cut net.response with
      | none => .threw
      | some v => .returned v := by
  rw [run_eq]
  obtain ⟨h1, h2, h3⟩ := exchange_of_closed hs (c.request_ne_nil o.thingToken) c.host net
  rcases he : exchange o c.host (c.request o.thingToken) net with ⟨stage, o'⟩
  rw [he] at h1 h2 h3
  simp only at h1 h2 h3
  rw [hstage] at h1 h2
  subst h1
  have htext := text_after_read true h2
  unfold transact
  rw [he]
  simp only [h3, hb, htext, if_true, Option.bind_some]
  cases c.cut net.response <;> rfl

end Call

/-! ## Sequences of calls -/

/-- One call of a sequence, with what the network does during it. The next call finds the object as
this one leaves it, by whatever exit. -/
def step (o : ThethingsiO) (i : Call × Net) : ThethingsiO := (i.1.run i.2 o).object

/-- The buffer is clean whenever the socket is closed. -/
def Sound (alloc : Bool) (o : ThethingsiO) : Prop :=
  o.socket.status = .Closed → o.buffer = Buffer.ofSize 1024 alloc

theorem new_buffer (token : Bytes) (calloc calloc' : Bool) :
    (ThethingsiO.new token calloc calloc').buffer = Buffer.ofSize 1024 (calloc && calloc') := by
  cases calloc with
  | false => rfl
  | true =>
    cases calloc' with
    | false => rfl
    | true => exact Buffer.assign_ofSize (show 0 < 1024 by decide)

theorem sound_new (token : Bytes) (calloc calloc' : Bool) :
    Sound (calloc && calloc') (ThethingsiO.new token calloc calloc') :=
  fun _ => new_buffer token calloc calloc'

/-- Every exit of every call keeps `Sound`: a call that flushes also closes, and one that does not
flush does not close. -/
theorem sound_step (alloc : Bool) (o : ThethingsiO) (i : Call × Net) (h : Sound alloc o) :
    Sound alloc (step o i) := by
  intro hclosed
  by_cases hs : o.socket.status = .Closed
  · rcases Call.run_cases hs (h hs) i.1 i.2 with ⟨-, -, hb, -⟩ | ⟨-, hne, -⟩ | ⟨-, hne, -⟩
    · exact hb
    · exact absurd hclosed hne
    · exact absurd hclosed hne
  · rw [step, Call.run_of_ne hs] at hclosed
    exact absurd hclosed hs

/-! ### What a caller sees -/

/-- A client object as its caller sees it. -/
inductive Session where
  /-- the next call opens a socket of its own -/
  | ready
  /-- every call fails at once -/
  | wedged
  deriving DecidableEq

/-- A call wedges the object unless it closes its socket. -/
def Session.step (alloc : Bool) : Session → Call × Net → Session
  | .ready, i => if i.1.Closes alloc i.2 then .ready else .wedged
  | .wedged, _ => .wedged

/-- What a caller sees of this object. -/
def session (o : ThethingsiO) : Session := if o.socket.status = .Closed then .ready else .wedged

theorem session_eq_ready {o : ThethingsiO} : session o = .ready ↔ o.socket.status = .Closed := by
  unfold session
  split_ifs with h <;> simp [h]

theorem session_eq_wedged {o : ThethingsiO} : session o = .wedged ↔ o.socket.status ≠ .Closed := by
  unfold session
  split_ifs with h <;> simp [h]

/-- The three ends of a call are told apart by what the network does. -/
theorem Call.closes_iff {o : ThethingsiO} {alloc : Bool} (hs : o.socket.status = .Closed)
    (hb : o.buffer = Buffer.ofSize 1024 alloc) (c : Call) (net : Net) :
    c.Closes alloc net ↔ (c.run net o).object.socket.status = .Closed := by
  have hnot : c.Throws alloc net ∨ c.Abandons net → ¬ c.Closes alloc net := by
    unfold Call.Closes Call.Throws Call.Abandons
    rintro (⟨h1, h2⟩ | h | h) <;> simp_all
  rcases Call.run_cases hs hb c net with ⟨hc, hclosed, -⟩ | ⟨ht, hne, -⟩ | ⟨ha, hne, -⟩
  · exact ⟨fun _ => hclosed, fun _ => hc⟩
  · exact ⟨fun hc => absurd hc (hnot (Or.inl ht)), fun h => absurd h hne⟩
  · exact ⟨fun hc => absurd hc (hnot (Or.inr ha)), fun h => absurd h hne⟩

/-- **The code simulates the session**: a wedged object stays wedged, and a ready one stays ready
exactly through the calls that close. -/
theorem session_step {alloc : Bool} {o : ThethingsiO} (h : Sound alloc o) (i : Call × Net) :
    session (step o i) = (session o).step alloc i := by
  by_cases hs : o.socket.status = .Closed
  · have hiff := Call.closes_iff hs (h hs) i.1 i.2
    rw [session_eq_ready.mpr hs, Session.step]
    split_ifs with hc
    · exact session_eq_ready.mpr (hiff.mp hc)
    · exact session_eq_wedged.mpr fun hclosed => hc (hiff.mpr hclosed)
  · rw [step, Call.run_of_ne hs, session_eq_wedged.mpr hs]
    rfl

/-- **A wedged object is lost**: no call brings it back. -/
theorem wedged_run {o : ThethingsiO} (h : o.socket.status ≠ .Closed) (calls : List (Call × Net)) :
    run step o calls = o := by
  induction calls with
  | nil => rfl
  | cons i calls ih => rw [run_cons, step, Call.run_of_ne h, ih]

/-! ### When the socket is closed again -/

/-- `open` refuses the call because of the status an earlier call left. -/
def Refused (o : ThethingsiO) (net : Net) : Prop := (o.socket.open net.socket).1 = -1

theorem refused_iff {o : ThethingsiO} {net : Net} : Refused o net ↔ o.socket.status ≠ .Closed := by
  unfold Refused Socket.open
  split_ifs with h1 h2 <;> simp [h1]

/-- What the life cycle promises of one call: it is not refused, and it returns with the socket
closed. -/
def LeavesClosed (o : ThethingsiO) (i : Call × Net) : Prop :=
  ¬ Refused o i.2 ∧
    ∀ v, (i.1.run i.2 o).exit = .returned v → (i.1.run i.2 o).object.socket.status = .Closed

/-- Every call closes its socket; only the last may throw instead. -/
def Orderly (alloc : Bool) : List (Call × Net) → Prop
  | [] => True
  | [i] => i.1.Closes alloc i.2 ∨ i.1.Throws alloc i.2
  | i :: j :: calls => i.1.Closes alloc i.2 ∧ Orderly alloc (j :: calls)

theorem leavesClosed_iff {o : ThethingsiO} {alloc : Bool} (hs : o.socket.status = .Closed)
    (hb : o.buffer = Buffer.ofSize 1024 alloc) (i : Call × Net) :
    LeavesClosed o i ↔ i.1.Closes alloc i.2 ∨ i.1.Throws alloc i.2 := by
  have hopen : ¬ Refused o i.2 := fun h => refused_iff.mp h hs
  have hnot : i.1.Abandons i.2 → ¬ (i.1.Closes alloc i.2 ∨ i.1.Throws alloc i.2) := by
    unfold Call.Closes Call.Throws Call.Abandons
    rintro (h | h) <;> simp [h]
  unfold LeavesClosed
  rcases Call.run_cases hs hb i.1 i.2 with ⟨hc, hclosed, -⟩ | ⟨ht, -, hx⟩ | ⟨ha, hne, v, hx⟩
  · exact ⟨fun _ => Or.inl hc, fun _ => ⟨hopen, fun _ _ => hclosed⟩⟩
  · exact ⟨fun _ => Or.inr ht,
      fun _ => ⟨hopen, fun v hv => by rw [hx] at hv; exact absurd hv (by simp)⟩⟩
  · exact ⟨fun h => absurd (h.2 v hx) hne, fun h => absurd h (hnot ha)⟩

/-- The life cycle from any sound object with a closed socket. -/
theorem leavesClosed_steps_iff {alloc : Bool} : ∀ {o : ThethingsiO} (calls : List (Call × Net)),
    o.socket.status = .Closed → Sound alloc o →
      ((∀ p ∈ steps step o calls, LeavesClosed p.1 p.2) ↔ Orderly alloc calls)
  | _, [], _, _ => by simp [Orderly]
  | o, [i], hs, h => by
    simp only [steps_cons, steps_nil, List.forall_mem_cons, List.not_mem_nil, false_implies,
      implies_true, and_true, Orderly]
    exact leavesClosed_iff hs (h hs) i
  | o, i :: j :: calls, hs, h => by
    rw [steps_cons, List.forall_mem_cons, Orderly]
    by_cases hc : i.1.Closes alloc i.2
    · have hclosed : (step o i).socket.status = .Closed := (Call.closes_iff hs (h hs) i.1 i.2).mp hc
      rw [leavesClosed_steps_iff (j :: calls) hclosed (sound_step alloc o i h)]
      exact and_congr_left fun _ =>
        ⟨fun _ => hc, fun _ => (leavesClosed_iff hs (h hs) i).mpr (Or.inl hc)⟩
    · -- the socket stays open, so the next call is refused
      refine ⟨fun ⟨_, hrest⟩ => ?_, fun ⟨hc', _⟩ => absurd hc' hc⟩
      have hne : (step o i).socket.status ≠ .Closed :=
        fun hclosed => hc ((Call.closes_iff hs (h hs) i.1 i.2).mpr hclosed)
      exact absurd (refused_iff.mpr hne) (hrest (step o i, j) List.mem_cons_self).1

/-- **The socket is closed again exactly when every call closes it.** All along any sequence of
calls no call is refused and each returns with the socket closed, iff each call either could not
create a socket or got through the name lookup, the connect, the send and its own cut; the last
call may end by an exception instead. -/
theorem socket_closed_iff_orderly (token : Bytes) (calloc calloc' : Bool)
    (calls : List (Call × Net)) :
    (∀ p ∈ steps step (ThethingsiO.new token calloc calloc') calls, LeavesClosed p.1 p.2) ↔
      Orderly (calloc && calloc') calls :=
  leavesClosed_steps_iff calls rfl (sound_new token calloc calloc')

/-- A network on which everything works but the connect. -/
def connectFails : Net where
  socket := 0
  gethostbyname := fun _ => some [10, 0, 0, 1]
  connect := -1
  send := 1
  recv := []
  close := 0
  past := []

/-- After one failed connect the socket is left open, and the write that follows is refused although
its own network would let it through. -/
theorem socket_left_open :
    ¬ ∀ p ∈ steps step (ThethingsiO.new [] true true)
        [(Call.thingReadAll 1, connectFails),
          (Call.thingWrite (ascii "demo") (ascii "1"), { connectFails with connect := 0 })],
      LeavesClosed p.1 p.2 := by
  intro h
  have hbuf : (ThethingsiO.new [] true true).buffer = Buffer.ofSize 1024 true :=
    new_buffer [] true true
  have ho := (leavesClosed_iff rfl hbuf _).mp (h _ List.mem_cons_self)
  revert ho
  decide

end Thethings.Http
