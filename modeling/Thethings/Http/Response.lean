import Thethings.Http.Lifecycle

/-!
# What a call makes of the response

A call reads once (`socket.read(buffer)`, l.44, 77, 114 and 151 of `ThethingsiO_DISCO_F746NG.cpp`).
What it returns is cut out of the C string at the front of the buffer, so it rests on three facts:
the buffer is clean when the read begins, the receive leaves room for a terminator, and the receive
brought the whole response.

Choices:

* The memory behind the block is a parameter of the conversion. Text is a call's own (`OwnText`)
  where it is the same whatever is there.
* How a response arrives is a list of segments of which only the first matters to one `lwip_recv`;
  two deliveries of one response are two such lists with the same bytes (`Delivers`).
* Values are compared as the caller gets them: a text, or the verdict of a write. A call that throws
  returns none.

Results:

* `text_own_iff`: after any sequence of calls, ended in whatever way, the buffer is all zero when a
  call reaches the read; but what is then read back from it is what this read put there only if the
  receive left room for a NUL.
* `terminated_iff_not_filled`: the conversion finds its NUL inside the buffer unless the receive
  filled the buffer with non-zero bytes.
* `same_value_iff_agrees`: two deliveries of one response give the same value iff their first
  segments agree: equal, with the blank line inside, for the calls that return a text.
-/

namespace Thethings.Http

open Thethings.Library

/-- The object after a sequence of calls, its buffer allocated. -/
def objectAfter (token : Bytes) (calls : List (Call × Net)) : ThethingsiO :=
  run step (ThethingsiO.new token true true) calls

theorem sound_objectAfter (token : Bytes) (calls : List (Call × Net)) :
    Sound true (objectAfter token calls) :=
  run_invariant (Sound true) (sound_step true) calls (sound_new token true true)

/-- The buffer after the read of a call that found `o` there. -/
def bufferAfterRead (o : ThethingsiO) (net : Net) : Buffer :=
  (o.socket.read o.buffer net.recv).2.2.1

/-- Any call that gets to the read finds the buffer as the constructor left it. -/
theorem buffer_at_read {token : Bytes} {calls : List (Call × Net)} {c : Call} {net : Net}
    {o : ThethingsiO} (h : c.atRead net (objectAfter token calls) = some o) :
    o.buffer = Buffer.ofSize 1024 true ∧ o.socket.status = net.statusAt .reading := by
  obtain ⟨hs, -, hstatus, hbuf⟩ := Call.atRead_eq_some h
  exact ⟨by rw [hbuf]; exact sound_objectAfter token calls hs, hstatus⟩

/-- The text that is read back after the read, over any memory behind the buffer. -/
theorem text_at_read {token : Bytes} {calls : List (Call × Net)} {c : Call} {net : Net}
    {o : ThethingsiO} (h : c.atRead net (objectAfter token calls) = some o) (past : Bytes) :
    (bufferAfterRead o net).text past = some { net with past := past }.response := by
  obtain ⟨hbuf, hstatus⟩ := buffer_at_read h
  rw [bufferAfterRead, hbuf]
  exact @Call.text_after_read { net with past := past } _ true hstatus

/-- What a call makes its result of rests on its own read alone: it is the same text whatever is in
memory behind the buffer. -/
def OwnText (o : ThethingsiO) (net : Net) : Prop :=
  ∃ text, ∀ past, (bufferAfterRead o net).text past = some text

/-- A text without a NUL goes on behind the buffer it fills. -/
theorem response_of_filled {net : Net} (hlen : net.delivered.length = 1024)
    (hzero : 0 ∉ net.delivered) : net.response = net.delivered ++ cstr net.past := by
  have hc := cstr_eq_self_iff.mpr hzero
  rw [Net.response, hlen, Nat.sub_self, List.replicate_zero, List.append_nil]
  unfold cstr at hc ⊢
  rw [List.takeWhile_append, hc, if_pos rfl]

/-- One that ends inside the buffer is what was delivered. -/
theorem response_of_not_filled {net : Net}
    (h : net.delivered.length < 1024 ∨ 0 ∈ net.delivered) : net.response = cstr net.delivered := by
  rcases h with hlt | hmem
  · exact Net.response_of_lt hlt
  · rw [Net.response, List.append_assoc, cstr_append_of_mem hmem]

theorem ownText_iff {token : Bytes} {calls : List (Call × Net)} {c : Call} {net : Net}
    {o : ThethingsiO} (h : c.atRead net (objectAfter token calls) = some o) :
    OwnText o net ↔ net.delivered.length < 1024 ∨ 0 ∈ net.delivered := by
  constructor
  · rintro ⟨text, htext⟩
    by_contra hnot
    rw [not_or, Nat.not_lt] at hnot
    have hlen : net.delivered.length = 1024 := Nat.le_antisymm net.length_delivered_le hnot.1
    -- a block that is filled without a NUL is read on into what is behind it
    have hpast : ∀ past, text = net.delivered ++ cstr past := fun past => by
      have hfilled : { net with past := past }.response = net.delivered ++ cstr past :=
        @response_of_filled { net with past := past } hlen hnot.2
      rw [← hfilled]
      exact Option.some.inj ((htext past).symm.trans (text_at_read h past))
    have hlong := congrArg List.length ((hpast []).symm.trans (hpast [65]))
    simp [cstr] at hlong
  · intro hroom
    exact ⟨cstr net.delivered, fun past => by
      rw [text_at_read h past]
      exact congrArg some (@response_of_not_filled { net with past := past } hroom)⟩

/-- **When no response leaks into a later one.** When a call reaches the read, every byte of the
buffer is zero, whatever the calls before it left; and of the text it then extracts, the part that
lies in the buffer is the C string of the bytes its own read delivered. The whole text is that,
and the same whatever is in memory behind the buffer, exactly when the read delivers fewer than
1024 bytes or a NUL. -/
theorem text_own_iff (token : Bytes) (calls : List (Call × Net)) (c : Call) (net : Net)
    (o : ThethingsiO) (h : c.atRead net (objectAfter token calls) = some o) :
    (o.buffer.memory = some (List.replicate 1024 0) ∧ o.buffer.size = 1024) ∧
      (∀ past, ∃ text, (bufferAfterRead o net).text past = some text ∧
        text.take 1024 = cstr net.delivered) ∧
      (OwnText o net ↔ net.delivered.length < 1024 ∨ 0 ∈ net.delivered) ∧
      (net.delivered.length < 1024 ∨ 0 ∈ net.delivered →
        ∀ past, (bufferAfterRead o net).text past = some (cstr net.delivered)) := by
  obtain ⟨hbuf, -⟩ := buffer_at_read h
  refine ⟨by rw [hbuf]; exact ⟨rfl, rfl⟩, fun past => ⟨_, text_at_read h past, ?_⟩,
    ownText_iff h, ?_⟩
  · exact Net.take_response { net with past := past }
  · intro hroom past
    rw [text_at_read h past]
    exact congrArg some (@response_of_not_filled { net with past := past } hroom)

/-- A network on which everything works and `queue` arrives. -/
def works (queue : List Recv) : Net where
  socket := 0
  gethostbyname := fun _ => some [10, 0, 0, 1]
  connect := 0
  send := 1
  recv := queue
  close := 0
  past := []

/-- A fresh object, given one long response, is clean again when the next call reads, and reads
its own response. -/
theorem text_own_after_long_response :
    ∃ o, (Call.thingReadAll 1).atRead (works [.data (ascii "ok")])
        (objectAfter [] [(Call.thingReadAll 1, works [.data (blankLine ++ ascii "a long body")])])
          = some o ∧
      o.buffer.memory = some (List.replicate 1024 0) ∧
      ∀ past, (bufferAfterRead o (works [.data (ascii "ok")])).text past = some (ascii "ok") := by
  have hs : (objectAfter [] [(Call.thingReadAll 1,
      works [.data (blankLine ++ ascii "a long body")])]).socket.status = .Closed :=
    (Call.closes_iff rfl (show _ = Buffer.ofSize 1024 true from new_buffer [] true true) _ _).mp
      (by decide)
  have hstage : (works [.data (ascii "ok")]).stage (Call.thingReadAll 1).host = .reading := rfl
  obtain ⟨o, ho⟩ := Call.atRead_of_closed hs hstage
  obtain ⟨hclean, -, -, hown⟩ := text_own_iff [] _ _ _ o ho
  exact ⟨o, ho, hclean.1, hown (Or.inl (by decide))⟩

/-- A response that fills the buffer. -/
def filling : Net := works [.data (List.replicate 1024 65)]

theorem delivered_filling : filling.delivered = List.replicate 1024 65 :=
  (if_neg (show ¬ (1 : Int) = 0 by decide)).trans
    (List.take_of_length_le (le_of_eq List.length_replicate))

/-- Nothing ends it inside. -/
theorem not_room_filling :
    ¬ (filling.delivered.length < 1024 ∨ 0 ∈ filling.delivered) := by
  rw [delivered_filling, List.length_replicate]
  rintro (hlt | hm)
  · exact absurd hlt (lt_irrefl _)
  · exact absurd (List.eq_of_mem_replicate hm) (by decide)

/-- Read by a fresh object, a response of 1024 bytes gives a text that is not its own. -/
theorem text_not_own_full :
    ∃ o, (Call.thingReadAll 1).atRead filling (objectAfter [] []) = some o ∧
      ¬ OwnText o filling := by
  have hstage : filling.stage (Call.thingReadAll 1).host = .reading := rfl
  obtain ⟨o, ho⟩ := Call.atRead_of_closed (o := objectAfter [] []) rfl hstage
  exact ⟨o, ho, fun hown => not_room_filling ((ownText_iff ho).mp hown)⟩

/-! ## The terminator -/

theorem terminated_after_read {token : Bytes} {calls : List (Call × Net)} {c : Call} {net : Net}
    {o : ThethingsiO} (h : c.atRead net (objectAfter token calls) = some o) :
    (bufferAfterRead o net).Terminated ↔ net.delivered.length < 1024 ∨ 0 ∈ net.delivered := by
  obtain ⟨hbuf, hstatus⟩ := buffer_at_read h
  obtain ⟨⟨n, hn⟩, -⟩ := Socket.read_ofSize (show 0 < 1024 by decide) o.socket net.recv
  rw [bufferAfterRead, hbuf, hn, Net.received_eq_delivered hstatus]
  have hterm := Buffer.terminated_store_iff (show 0 < 1024 by decide) net.delivered
  rw [List.take_of_length_le net.length_delivered_le] at hterm
  exact hterm

/-- **The conversion stays inside the buffer exactly when the receive does not fill it** with 1024
bytes none of which is a NUL. -/
theorem terminated_iff_not_filled (token : Bytes) (calls : List (Call × Net)) (c : Call) (net : Net)
    (o : ThethingsiO) (h : c.atRead net (objectAfter token calls) = some o) :
    (bufferAfterRead o net).Terminated ↔ net.delivered.length < 1024 ∨ 0 ∈ net.delivered :=
  terminated_after_read h

/-- A short response, read by a fresh object. -/
theorem terminated_short :
    ∃ o, (Call.thingReadAll 1).atRead (works [.data (ascii "ok")]) (objectAfter [] []) = some o ∧
      (bufferAfterRead o (works [.data (ascii "ok")])).Terminated := by
  have hstage : (works [.data (ascii "ok")]).stage (Call.thingReadAll 1).host = .reading := rfl
  obtain ⟨o, ho⟩ := Call.atRead_of_closed (o := objectAfter [] []) rfl hstage
  exact ⟨o, ho, (terminated_iff_not_filled [] [] _ _ o ho).mpr (Or.inl (by decide))⟩

/-- A response of 1024 bytes, read by a fresh object, leaves no terminator in the buffer. -/
theorem not_terminated_full :
    ∃ o, (Call.thingReadAll 1).atRead (works [.data (List.replicate 1024 65)]) (objectAfter [] []) =
        some o ∧
      ¬ (bufferAfterRead o (works [.data (List.replicate 1024 65)])).Terminated := by
  have hstage : filling.stage (Call.thingReadAll 1).host = .reading := rfl
  obtain ⟨o, ho⟩ := Call.atRead_of_closed (o := objectAfter [] []) rfl hstage
  exact ⟨o, ho, fun h => not_room_filling ((terminated_after_read ho).mp h)⟩

/-! ## Segments -/

/-- `segments` is one way in which successive receives may deliver `response`. -/
structure Delivers (response : Bytes) (segments : List Bytes) : Prop where
  flatten : segments.flatten = response
  nonempty : ∀ s ∈ segments, s ≠ []

/-- The same network, delivering these segments. -/
def Net.receiving (net : Net) (segments : List Bytes) : Net :=
  { net with recv := segments.map .data }

/-- The call gets to a receive. -/
def Receives (c : Call) (net : Net) (o : ThethingsiO) : Prop :=
  ∃ o', c.atRead net o = some o' ∧ o'.socket.status = .Connected

/-- Both runs return, and return the same value. -/
def SameValue (c : Call) (net net' : Net) (o : ThethingsiO) : Prop :=
  ∃ v, (c.run net o).exit = .returned v ∧ (c.run net' o).exit = .returned v

/-- What the call looks for in the response, it finds the same way in both first segments. -/
def Agrees (c : Call) (first first' : Bytes) : Prop :=
  match c with
  | .thingWrite _ _ =>
    (find (ascii "status:created") first).isSome = (find (ascii "status:created") first').isSome
  | _ => first = first' ∧ blankLine <:+: first

theorem Delivers.first_starts {response : Bytes} {segments : List Bytes}
    (h : Delivers response segments) : segments.headD [] <+: response := by
  cases segments with
  | nil => exact List.nil_prefix
  | cons s segments =>
    rw [← h.flatten, List.flatten_cons]
    exact List.prefix_append _ _

/-- A call that receives reads the first segment and no more. -/
theorem response_receiving {net : Net} (hsend : net.send ≠ 0) {response : Bytes}
    {segments : List Bytes} (h : Delivers response segments) (hlen : response.length < 1024)
    (hzero : 0 ∉ response) : (net.receiving segments).response = segments.headD [] := by
  have hpre := h.first_starts
  have hd : (net.receiving segments).delivered = segments.headD [] := by
    unfold Net.delivered Net.receiving
    rw [if_neg hsend]
    cases segments with
    | nil => rfl
    | cons s segments =>
      exact List.take_of_length_le (le_of_lt (lt_of_le_of_lt hpre.length_le hlen))
  rw [Net.response_of_lt (by rw [hd]; exact lt_of_le_of_lt hpre.length_le hlen), hd]
  exact cstr_eq_self_iff.mpr fun hm => hzero (hpre.subset hm)

/-- Cutting two beginnings of one text at their blank lines gives the same rest only where they are
the same. -/
theorem cutBody_eq_iff {response f f' : Bytes} (hf : f <+: response) (hf' : f' <+: response) :
    (∃ s, cutBody f = some s ∧ cutBody f' = some s) ↔ f = f' ∧ blankLine <:+: f := by
  have extend : ∀ {f x s : Bytes}, cutBody f = some s → cutBody (f ++ x) = some (s ++ x) := by
    intro f x s h
    obtain ⟨i, hi, rfl⟩ := Option.map_eq_some_iff.mp h
    rw [cutBody, find_append hi, Option.map_some,
      List.drop_append_of_le_length (find_eq_some_iff.mp hi).1]
  have hsome : ∀ {f : Bytes}, (∃ s, cutBody f = some s) ↔ blankLine <:+: f := by
    intro f
    rw [← find_isSome_iff, ← Option.isSome_iff_exists, cutBody, Option.isSome_map]
  constructor
  · rintro ⟨s, hs, hs'⟩
    refine ⟨?_, hsome.mp ⟨s, hs⟩⟩
    rcases List.prefix_or_prefix_of_prefix hf hf' with ⟨x, rfl⟩ | ⟨x, rfl⟩
    · rw [extend hs, Option.some.injEq, List.append_right_eq_self] at hs'
      rw [hs', List.append_nil]
    · rw [extend hs', Option.some.injEq, List.append_right_eq_self] at hs
      rw [hs, List.append_nil]
  · rintro ⟨rfl, hb⟩
    obtain ⟨s, hs⟩ := hsome.mpr hb
    exact ⟨s, hs, hs⟩

/-- Two cuts give the same result exactly when the texts agree on what the call looks for. -/
theorem cut_eq_iff_agrees (c : Call) {response f f' : Bytes} (hf : f <+: response)
    (hf' : f' <+: response) :
    (∃ v, c.cut f = some v ∧ c.cut f' = some v) ↔ Agrees c f f' := by
  have htext : (∃ v, (cutBody f).map Value.text = some v ∧ (cutBody f').map Value.text = some v) ↔
      f = f' ∧ blankLine <:+: f := by
    rw [← cutBody_eq_iff hf hf']
    constructor
    · rintro ⟨v, h, h'⟩
      obtain ⟨s, hs, rfl⟩ := Option.map_eq_some_iff.mp h
      obtain ⟨s', hs', he⟩ := Option.map_eq_some_iff.mp h'
      cases he
      exact ⟨s, hs, hs'⟩
    · rintro ⟨s, hs, hs'⟩
      exact ⟨.text s, by rw [hs]; rfl, by rw [hs']; rfl⟩
  cases c with
  | thingWrite resource value =>
    simp only [Call.cut, cutStatus, Agrees, Option.map_some, Option.some.injEq, exists_eq_left']
    cases (find (ascii "status:created") f).isSome <;>
      cases (find (ascii "status:created") f').isSome <;> simp
  | thingReadAll limit => exact htext
  | thingRead resource limit => exact htext
  | thingActivate activationCode => exact htext

theorem exit_returned_iff {o : ThethingsiO} (hs : o.socket.status = .Closed)
    (hb : o.buffer = Buffer.ofSize 1024 true) {c : Call} {net : Net}
    (hstage : net.stage c.host = .reading) {v : Value} :
    (c.run net o).exit = .returned v ↔ c.cut net.response = some v := by
  rw [Call.exit_of_reading hs hb hstage]
  cases c.cut net.response <;> simp

/-- A call that never gets to a receive does not depend on what would arrive. -/
theorem exit_of_not_receives {token : Bytes} {calls : List (Call × Net)} {c : Call} {net : Net}
    (h : ¬ Receives c net (objectAfter token calls)) (segments segments' : List Bytes) :
    (c.run (net.receiving segments) (objectAfter token calls)).exit =
      (c.run (net.receiving segments') (objectAfter token calls)).exit := by
  by_cases hs : (objectAfter token calls).socket.status = .Closed
  · by_cases hstage : net.stage c.host = .reading
    · -- the peer closed during the write, so the read is refused
      obtain ⟨o', ho'⟩ := Call.atRead_of_closed hs hstage
      have hsend : net.send = 0 := by
        by_contra hne
        refine h ⟨o', ho', ?_⟩
        rw [(Call.atRead_eq_some ho').2.2.1, Net.statusAt, if_neg hne]
      have hdel : ∀ segs, (net.receiving segs).delivered = [] := fun _ => if_pos hsend
      have hresp : (net.receiving segments).response = (net.receiving segments').response := by
        rw [Net.response, Net.response, hdel, hdel]
        rfl
      have hb := sound_objectAfter token calls hs
      have hstage' : ∀ segs, (net.receiving segs).stage c.host = .reading := fun _ => hstage
      rw [Call.exit_of_reading hs hb (hstage' segments),
        Call.exit_of_reading hs hb (hstage' segments'), hresp]
    · obtain ⟨h1, -, -⟩ := exchange_of_closed hs (c.request_ne_nil _) c.host net
      have hex : ∀ segs, exchange (objectAfter token calls) c.host
          (c.request (objectAfter token calls).thingToken) (net.receiving segs) =
          exchange (objectAfter token calls) c.host
            (c.request (objectAfter token calls).thingToken) net := fun _ => rfl
      rw [Call.run_eq, Call.run_eq]
      unfold transact
      rw [hex, hex]
      rcases he : exchange (objectAfter token calls) c.host
        (c.request (objectAfter token calls).thingToken) net with ⟨stage, o'⟩
      rw [he] at h1
      cases stage with
      | reading => exact absurd h1.symm hstage
      | _ => rfl
  · rw [Call.run_of_ne hs, Call.run_of_ne hs]

/-- A call that gets to a receive returns what it cuts out of the first segment. -/
theorem sameValue_iff {token : Bytes} {calls : List (Call × Net)} {c : Call} {net : Net}
    (hr : Receives c net (objectAfter token calls)) {response : Bytes}
    {segments segments' : List Bytes} (hlen : response.length < 1024) (hzero : 0 ∉ response)
    (h : Delivers response segments) (h' : Delivers response segments') :
    SameValue c (net.receiving segments) (net.receiving segments') (objectAfter token calls) ↔
      Agrees c (segments.headD []) (segments'.headD []) := by
  obtain ⟨o', ho', hconn⟩ := hr
  obtain ⟨hs, hstage, hstatus, -⟩ := Call.atRead_eq_some ho'
  have hsend : net.send ≠ 0 := by
    intro h0
    rw [hstatus, Net.statusAt, if_pos h0] at hconn
    exact absurd hconn (by decide)
  have hb := sound_objectAfter token calls hs
  unfold SameValue
  have hstage' : ∀ segs, (net.receiving segs).stage c.host = .reading := fun _ => hstage
  simp only [exit_returned_iff hs hb (hstage' segments),
    exit_returned_iff hs hb (hstage' segments'),
    response_receiving hsend h hlen hzero, response_receiving hsend h' hlen hzero]
  exact cut_eq_iff_agrees c h.first_starts h'.first_starts

/-- A response with a head and a body of two bytes. -/
def sampleResponse : Bytes := ascii "HTTP/1.1 200 OK\r\nContent-Length: 2\r\n\r\nok"

theorem sample_receives :
    Receives (.thingRead (ascii "demo") 1) (works []) (objectAfter [] []) := by
  have hstage : (works []).stage (Call.thingRead (ascii "demo") 1).host = .reading := rfl
  obtain ⟨o, ho⟩ := Call.atRead_of_closed (o := objectAfter [] []) rfl hstage
  exact ⟨o, ho, (Call.atRead_eq_some ho).2.2.1⟩

theorem sample_whole : Delivers sampleResponse [sampleResponse] where
  flatten := by simp
  nonempty := by decide

/-- The response cut inside its body. -/
theorem sample_split :
    Delivers sampleResponse [sampleResponse.take 39, sampleResponse.drop 39] where
  flatten := by simp
  nonempty := by decide

/-- Its head and the blank line, then its body in one segment. -/
theorem sample_body :
    Delivers sampleResponse [sampleResponse.take 38, ascii "ok"] where
  flatten := by decide
  nonempty := by decide

/-- Its head and the blank line, then its body byte by byte. -/
theorem sample_bytewise :
    Delivers sampleResponse [sampleResponse.take 38, ascii "o", ascii "k"] where
  flatten := by decide
  nonempty := by decide

theorem sample_blank : blankLine <:+: sampleResponse := find_isSome_iff.mp (by decide)

theorem sample_head_blank : blankLine <:+: sampleResponse.take 38 :=
  find_isSome_iff.mp (by decide)

/-- **Exactly when the segmentation does not show.** Two runs of a call that differ only in how one
response is delivered end alike where the call never gets to a receive; where it does, they return
the same value iff their first segments agree: for `thingWrite` on containing `status:created`,
for the other calls on everything, with the blank line inside. -/
theorem same_value_iff_agrees (token : Bytes) (calls : List (Call × Net)) (c : Call) (net : Net)
    (response : Bytes) (segments segments' : List Bytes) (hlen : response.length < 1024)
    (hzero : 0 ∉ response) (_hblank : blankLine <:+: response)
    (h : Delivers response segments) (h' : Delivers response segments') :
    (¬ Receives c net (objectAfter token calls) →
      (c.run (net.receiving segments) (objectAfter token calls)).exit =
        (c.run (net.receiving segments') (objectAfter token calls)).exit) ∧
    (Receives c net (objectAfter token calls) →
      (SameValue c (net.receiving segments) (net.receiving segments') (objectAfter token calls) ↔
        Agrees c (segments.headD []) (segments'.headD []))) :=
  ⟨fun hr => exit_of_not_receives hr segments segments',
    fun hr => sameValue_iff hr hlen hzero h h'⟩

/-- Two deliveries of the sample that differ behind the first segment, which ends with the blank
line, give the same value. -/
theorem same_value_bytewise :
    SameValue (.thingRead (ascii "demo") 1)
      ((works []).receiving [sampleResponse.take 38, ascii "ok"])
      ((works []).receiving [sampleResponse.take 38, ascii "o", ascii "k"]) (objectAfter [] []) :=
  ((same_value_iff_agrees [] [] _ (works []) sampleResponse _ _ (by decide) (by decide) sample_blank
    sample_body sample_bytewise).2 sample_receives).mpr ⟨rfl, sample_head_blank⟩

/-- Delivered whole and delivered in two pieces, the sample is read differently: the second read
loses the end of the body. -/
theorem segments_show :
    sampleResponse.length < 1024 ∧ 0 ∉ sampleResponse ∧ blankLine <:+: sampleResponse ∧
      Delivers sampleResponse [sampleResponse] ∧
      Delivers sampleResponse [sampleResponse.take 39, sampleResponse.drop 39] ∧
      ¬ SameValue (.thingRead (ascii "demo") 1) ((works []).receiving [sampleResponse])
        ((works []).receiving [sampleResponse.take 39, sampleResponse.drop 39])
        (objectAfter [] []) := by
  refine ⟨by decide, by decide, sample_blank, sample_whole, sample_split, ?_⟩
  intro h
  have ha := (sameValue_iff sample_receives (by decide) (by decide) sample_whole sample_split).mp h
  exact absurd ha.1 (by decide)

end Thethings.Http
