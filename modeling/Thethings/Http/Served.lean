import Thethings.Http.Addressing
import Thethings.Http.Body
import Thethings.Http.Framing
import Thethings.Http.Main

/-!
# What the server gets

The bytes of each connection, read by a server as one request. `lwip_send` may take less than it is
given, and the client goes on: then the request breaks off, and the server reads none.

Choices:

* What `lwip_send` took of each request is in the object's record (`sent`), written where the call
  makes its one `write`; the server reads each entry by itself, since each call opens a connection
  of its own.
* A server is a strict reader of HTTP/1.1 (`Library.Request`). It reads one request of a connection,
  and what a POST writes behind it is not looked at again.
* `Legible` is about the strings of a call: what would break its request line, or be read as another
  target. For the reads this is every byte that needs an escape.
* Whether a request arrives is asked of the network alone (`Arrives`), and whether a call gets to
  write it of the calls before it (`arrivals`).

Results:

* `request_split`: what the four calls write, as the request that is read and what is behind it.
* `served_run`: over any sequence of calls the server reads the requests that the network takes, up
  to the first call that leaves its socket open, and nothing after it.
* `server_reads`: so it is from the construction of an object on.
* `server_gets`: of the presses of the program some reach the server, in order.
-/

namespace Thethings.Http

open Library Library.Request Library.Target

/-- What a server reads of what it gets, each connection as one request. -/
def readBy (sent : List Bytes) : List Request :=
  sent.filterMap fun bytes => (parse bytes).map Prod.fst

/-- The requests of an object that a server has read. -/
def served (o : ThethingsiO) : List Request := readBy o.sent

namespace Call

/-! ## What is written -/

/-- The strings of the call do not break the head of its request. -/
def Legible (token : Bytes) : Call → Prop
  | .thingReadAll _ => Clean token
  | .thingRead resource _ => Clean token ∧ Clean resource
  | .thingWrite _ _ => 13 ∉ token ∧ 32 ∉ token
  | .thingActivate _ => True

/-- The request as it is read. -/
def asRead (token : Bytes) : Call → Request
  | .thingReadAll limit =>
    ⟨ascii "GET", targetText (readAllSegments token) (ascii "limit") (decimal limit), getFields, []⟩
  | .thingRead resource limit =>
    ⟨ascii "GET", targetText (readSegments token resource) (ascii "limit") (decimal limit),
      getFields, []⟩
  | .thingWrite resource value => posted token (writeBody resource value)
  | .thingActivate activationCode => posted [] (activateBody activationCode)

/-- What is written behind it. -/
def behind : Call → Bytes
  | .thingWrite _ _ => crlf
  | .thingActivate _ => crlf
  | _ => []

theorem split_post {token : Bytes} (hcr : 13 ∉ token) (hsp : 32 ∉ token) (body : Bytes) :
    ∃ s, postRequest token body = s ++ crlf ∧ parse s = some (posted token body, []) := by
  refine ⟨requestText (startLine (ascii "POST") (postTarget token) ::
    (postLines ++ [lengthLine body])) body, ?_, ?_⟩
  · simp only [postRequest_eq, requestText, List.append_assoc]
  · have hpath : ascii "/v2/things/" ≠ [] ∧ (32 : UInt8) ∉ ascii "/v2/things/" ∧
        (13 : UInt8) ∉ ascii "/v2/things/" := by decide
    obtain ⟨hne, h32, h13⟩ := hpath
    have hread := parse_requestText (show isToken (ascii "POST") = true by decide)
      (List.append_ne_nil_of_left_ne_nil hne token)
      (List.mem_append.not.mpr (not_or.mpr ⟨h32, hsp⟩))
      (List.mem_append.not.mpr (not_or.mpr ⟨h13, hcr⟩)) (lines_posted body) (fields_posted body)
      (bodyLength_posted body.length) []
    rw [List.append_nil] at hread
    exact hread

/-- **What a call writes** is one request, and two bytes more where it is a POST. -/
theorem request_split {c : Call} {token : Bytes} (h : c.Legible token) :
    ∃ s, c.request token = s ++ c.behind ∧ parse s = some (c.asRead token, []) := by
  obtain ⟨hv2, hthings, hresources, hall⟩ := clean_words
  cases c with
  | thingReadAll limit =>
    have htoken : Clean token := h
    refine ⟨_, (List.append_nil _).symm, ?_⟩
    rw [request, readAllRequest_eq]
    exact parse_getRequest (by simp [readAllSegments, hv2, hthings, hall, htoken]) limit
  | thingRead resource limit =>
    obtain ⟨htoken, hresource⟩ : Clean token ∧ Clean resource := h
    refine ⟨_, (List.append_nil _).symm, ?_⟩
    rw [request, readRequest_eq]
    exact parse_getRequest
      (by simp [readSegments, hv2, hthings, hresources, htoken, hresource]) limit
  | thingWrite resource value => exact split_post h.1 h.2 _
  | thingActivate activationCode => exact split_post List.not_mem_nil List.not_mem_nil _

/-- The network takes the request to its last byte; what is behind it may be missing. -/
def Arrives (c : Call) (token : Bytes) (net : Net) : Prop :=
  net.stage c.host = .reading ∧
    (c.request token).length ≤ net.send.toNat + c.behind.length

instance (c : Call) (token : Bytes) (net : Net) : Decidable (c.Arrives token net) :=
  inferInstanceAs (Decidable (_ ∧ _))

/-- A write that does not fail returns what `lwip_send` says. -/
theorem write_eq_send {s : Socket} {data : Bytes} {lwipSend : Int}
    (h : ¬ (s.write data lwipSend).1 < 0) : (s.write data lwipSend).1 = lwipSend := by
  unfold Socket.write at h ⊢
  by_cases hdata : data = []
  · rw [if_pos hdata] at h
    exact absurd (show (-1 : Int) < 0 by decide) h
  · by_cases hstatus : s.status ≠ .Connected
    · rw [if_neg hdata, if_pos hstatus] at h
      exact absurd (show (-2 : Int) < 0 by decide) h
    · rw [if_neg hdata, if_neg hstatus]

/-- A call adds to what was sent the part of its request that `lwip_send` takes. -/
theorem exchange_sent (o : ThethingsiO) (host request : Bytes) (net : Net) :
    (exchange o host request net).2.sent =
      o.sent ++ if (exchange o host request net).1 = .reading then
        [request.take net.send.toNat] else [] := by
  unfold exchange
  simp only
  by_cases hopen : (o.socket.open net.socket).1 < 0
  · simp [hopen]
  · by_cases hconnect : ((o.socket.open net.socket).2.connect (net.gethostbyname host) 80
        net.connect).1 < 0
    · simp [hopen, hconnect]
    · by_cases hwrite : (((o.socket.open net.socket).2.connect (net.gethostbyname host) 80
          net.connect).2.write request net.send).1 < 0
      · simp [hopen, hconnect, hwrite]
      · rw [if_neg hopen, if_neg hconnect, if_neg hwrite, write_eq_send hwrite]
        rfl

/-- Behind the write a call sends nothing, and the token stays. -/
theorem run_keeps (c : Call) (net : Net) (o : ThethingsiO) :
    (c.run net o).object.thingToken = o.thingToken ∧
      (c.run net o).object.sent = (exchange o c.host (c.request o.thingToken) net).2.sent := by
  have hexchange : (exchange o c.host (c.request o.thingToken) net).2.thingToken =
      o.thingToken := by
    unfold exchange
    simp only
    split_ifs <;> rfl
  rw [run_eq, transact]
  rcases he : exchange o c.host (c.request o.thingToken) net with ⟨stage, o'⟩
  rw [he] at hexchange
  cases stage with
  | reading =>
    simp only
    split
    · exact ⟨hexchange, rfl⟩
    · exact ⟨hexchange, rfl⟩
  | _ => exact ⟨hexchange, rfl⟩

/-- **One call.** From a closed socket the server reads the request exactly where it arrives. -/
theorem served_of_closed {c : Call} {o : ThethingsiO} (hs : o.socket.status = .Closed)
    (h : c.Legible o.thingToken) (net : Net) :
    served (c.run net o).object =
      served o ++ if c.Arrives o.thingToken net then [c.asRead o.thingToken] else [] := by
  obtain ⟨s, hsplit, hparse⟩ := request_split h
  have harrives : c.Arrives o.thingToken net ↔
      net.stage c.host = .reading ∧ s.length ≤ net.send.toNat := by
    rw [Arrives, hsplit, List.length_append, Nat.add_le_add_iff_right]
  obtain ⟨hstage, -, -⟩ := exchange_of_closed hs (c.request_ne_nil o.thingToken) c.host net
  rw [served, (c.run_keeps net o).2, exchange_sent, hstage, readBy, List.filterMap_append, hsplit]
  simp only [harrives]
  refine congrArg (served o ++ ·) ?_
  by_cases hreading : net.stage c.host = .reading
  · simp only [hreading, if_true, true_and, List.filterMap_cons, List.filterMap_nil,
      parse_take hparse]
    split_ifs <;> rfl
  · simp only [hreading, if_false, false_and]
    rfl

end Call

/-! ## Sequences of calls -/

/-- The calls whose requests arrive: none behind the first that leaves its socket open. -/
def arrivals (alloc : Bool) (token : Bytes) : List (Call × Net) → List Call
  | [] => []
  | i :: calls =>
    (if i.1.Arrives token i.2 then [i.1] else []) ++
      if i.1.Closes alloc i.2 then arrivals alloc token calls else []

/-- **What the server reads** over a sequence of calls on one object. -/
theorem served_run {alloc : Bool} {o : ThethingsiO} {calls : List (Call × Net)}
    (hs : o.socket.status = .Closed) (hsound : Sound alloc o)
    (h : ∀ i ∈ calls, i.1.Legible o.thingToken) :
    served (run step o calls) =
      served o ++ (arrivals alloc o.thingToken calls).map (Call.asRead o.thingToken) := by
  induction calls generalizing o with
  | nil => exact (List.append_nil _).symm
  | cons i calls ih =>
    rw [List.forall_mem_cons] at h
    have htoken : (step o i).thingToken = o.thingToken := (i.1.run_keeps i.2 o).1
    have hone : served (step o i) = served o ++
        if i.1.Arrives o.thingToken i.2 then [i.1.asRead o.thingToken] else [] :=
      Call.served_of_closed hs h.1 i.2
    have hlater : served (run step (step o i) calls) = served (step o i) ++
        (if i.1.Closes alloc i.2 then arrivals alloc o.thingToken calls else []).map
          (Call.asRead o.thingToken) := by
      have hsession := session_step hsound i
      rw [session_eq_ready.mpr hs, Session.step] at hsession
      split_ifs at hsession ⊢ with hc
      · rw [ih (session_eq_ready.mp hsession) (sound_step alloc o i hsound)
          (by rw [htoken]; exact h.2), htoken]
      · rw [wedged_run (session_eq_wedged.mp hsession), List.map_nil, List.append_nil]
    rw [run_cons, hlater, hone, arrivals, List.map_append, List.append_assoc]
    split_ifs <;> rfl

/-- The requests that arrive are some of those that were made, in order. -/
theorem arrivals_sublist (alloc : Bool) (token : Bytes) (calls : List (Call × Net)) :
    (arrivals alloc token calls).Sublist (calls.map Prod.fst) := by
  induction calls with
  | nil => exact .slnil
  | cons i calls ih =>
    rw [arrivals, List.map_cons]
    change List.Sublist _ ([i.1] ++ calls.map Prod.fst)
    refine List.Sublist.append ?_ ?_
    · split_ifs
      · exact .refl _
      · exact List.nil_sublist _
    · split_ifs
      · exact ih
      · exact List.nil_sublist _

/-- All of them, where the network takes each whole. -/
theorem arrivals_eq {alloc : Bool} {token : Bytes} {calls : List (Call × Net)}
    (h : ∀ i ∈ calls, i.1.Arrives token i.2 ∧ i.1.Closes alloc i.2) :
    arrivals alloc token calls = calls.map Prod.fst := by
  induction calls with
  | nil => rfl
  | cons i calls ih =>
    rw [List.forall_mem_cons] at h
    rw [arrivals, if_pos h.1.1, if_pos h.1.2, ih h.2, List.map_cons]
    rfl

/-- **What the server reads of an object's calls**: of any calls from its construction on, the
requests that the network takes to their last byte, each as the caller meant it and in order, up to
the first call that leaves its socket open. -/
theorem server_reads (token : Bytes) (calloc calloc' : Bool) (calls : List (Call × Net))
    (h : ∀ i ∈ calls, i.1.Legible token) :
    served (run step (ThethingsiO.new token calloc calloc') calls) =
        (arrivals (calloc && calloc') token calls).map (Call.asRead token) ∧
      (arrivals (calloc && calloc') token calls).Sublist (calls.map Prod.fst) :=
  ⟨served_run rfl (sound_new token calloc calloc') h, arrivals_sublist _ token calls⟩

/-- A write that arrives, a read that does not connect, and a write that finds the socket open. -/
def threeCalls : List (Call × Net) :=
  [(.thingWrite (ascii "demo") (ascii "1"), { connectFails with connect := 0, send := 200 }),
    (.thingRead (ascii "demo") 5, connectFails),
    (.thingWrite (ascii "demo") (ascii "2"), { connectFails with connect := 0, send := 200 })]

theorem server_reads_threeCalls :
    served (run step (ThethingsiO.new (ascii "abc") true true) threeCalls) =
      [posted (ascii "abc") (writeBody (ascii "demo") (ascii "1"))] := by
  have harrive : (arrivals true (ascii "abc") threeCalls).map (Call.asRead (ascii "abc")) =
      [posted (ascii "abc") (writeBody (ascii "demo") (ascii "1"))] := by
    decide +kernel
  have hread := (server_reads (ascii "abc") true true threeCalls (by
    simp only [threeCalls, List.forall_mem_cons, List.not_mem_nil, false_implies, implies_true,
      and_true]
    exact ⟨⟨by decide, by decide⟩, ⟨by decide, by decide⟩, by decide, by decide⟩)).1
  rw [hread, Bool.and_self, harrive]

/-! ## The program -/

/-- What is read of the write of a button. -/
def pressRead (token : Bytes) (button : Button) : Bytes × Bytes × Option Json :=
  (ascii "POST", postTarget token, some (valuesJson [(ascii "demo", buttonValue button)]))

theorem asRead_writeOf (token : Bytes) (button : Button) :
    (((writeOf button).asRead token).method, ((writeOf button).asRead token).target,
      Json.parse ((writeOf button).asRead token).body) = pressRead token button := by
  have hdemo : Json.Plain (ascii "demo") := by decide
  have hvalue : Json.Plain (buttonValue button) := by cases button <;> decide
  have hparse : Json.parse (writeBody (ascii "demo") (buttonValue button)) =
      some (valuesJson [(ascii "demo", buttonValue button)]) := by
    rw [writeBody_eq]
    exact parse_valuesText fun p hp => by
      obtain rfl := List.mem_singleton.mp hp
      exact ⟨hdemo, hvalue⟩
  rw [pressRead, ← hparse]
  rfl

/-- **What the server gets from the program.** In any run of `main`, whatever the network and the
touches do, the server reads some of the presses, in order and each once, as a POST to the token's
thing of the document with the value of the button; and all of them, where the network takes every
request to its end. -/
theorem server_gets (token : Bytes) (last : LastTouch) (passes : List Pass) (hcr : 13 ∉ token)
    (hsp : 32 ∉ token) :
    ∃ arrived : List Button,
      (served (main token last passes).thethings).map
          (fun r => (r.method, r.target, Json.parse r.body)) = arrived.map (pressRead token) ∧
      arrived.Sublist (last.presses (passes.map Pass.touch)) ∧
      ((∀ i ∈ loopCalls last passes, i.1.Arrives token i.2) →
        arrived = last.presses (passes.map Pass.touch)) := by
  have hcalls := loopCalls_eq last passes
  have hwrites : ∀ i ∈ loopCalls last passes, ∃ button, i.1 = writeOf button := by
    intro i hi
    have hmem : i.1 ∈ (loopCalls last passes).map Prod.fst := List.mem_map_of_mem hi
    rw [hcalls] at hmem
    obtain ⟨button, -, he⟩ := List.mem_map.mp hmem
    exact ⟨button, he.symm⟩
  have hlegible : ∀ i ∈ loopCalls last passes, i.1.Legible token := by
    intro i hi
    obtain ⟨button, he⟩ := hwrites i hi
    rw [he]
    exact ⟨hcr, hsp⟩
  have hserved : served (main token last passes).thethings =
      (arrivals true token (loopCalls last passes)).map (Call.asRead token) := by
    rw [main, loop_thethings]
    exact served_run (o := (start token last).thethings) rfl (sound_new token true true) hlegible
  have hsub := arrivals_sublist true token (loopCalls last passes)
  rw [hcalls] at hsub
  obtain ⟨arrived, harrived, he⟩ := List.sublist_map_iff.mp hsub
  refine ⟨arrived, ?_, harrived, ?_⟩
  · rw [hserved, he, List.map_map, List.map_map]
    exact List.map_congr_left fun button _ => asRead_writeOf token button
  · -- a write that arrives has its socket closed again
    intro hall
    have hwhole : arrivals true token (loopCalls last passes) =
        (loopCalls last passes).map Prod.fst := by
      refine arrivals_eq fun i hi => ⟨hall i hi, Or.inr ⟨(hall i hi).1, ?_⟩⟩
      obtain ⟨button, hbutton⟩ := hwrites i hi
      rw [hbutton]
      rfl
    have hlen := congrArg List.length (he.symm.trans (hwhole.trans hcalls))
    rw [List.length_map, List.length_map] at hlen
    exact harrived.eq_of_length hlen

/-- A pass that presses the left button, over a network that takes `n` bytes. -/
def leftPass (n : Int) : Pass :=
  ⟨⟨true, 160, 136⟩, { connectFails with connect := 0, send := n, recv := [.data (ascii "ok")] }⟩

/-- One press, whose request is taken but for the line end behind it. -/
theorem server_gets_left :
    (served (main (ascii "abc") ⟨0, 0⟩ [leftPass 184]).thethings).map
        (fun r => (r.method, r.target, Json.parse r.body)) = [pressRead (ascii "abc") .left] := by
  have hpresses : LastTouch.presses ⟨0, 0⟩ ([leftPass 184].map Pass.touch) = [.left] := by decide
  have harrives : ∀ i ∈ loopCalls ⟨0, 0⟩ [leftPass 184], i.1.Arrives (ascii "abc") i.2 := by
    decide +kernel
  obtain ⟨arrived, hread, -, hall⟩ :=
    server_gets (ascii "abc") ⟨0, 0⟩ [leftPass 184] (by decide) (by decide)
  rw [hread, hall harrives, hpresses]
  rfl

end Thethings.Http
