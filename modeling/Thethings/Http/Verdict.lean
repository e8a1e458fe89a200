import Thethings.Http.Body
import Thethings.Http.Reads

/-!
# The verdict of a write

`thingWrite` looks for the text `status:created` anywhere in the response (l.118 of
`ThethingsiO_DISCO_F746NG.cpp`). The answer is a JSON document, whose member `status` is written
with quotes around its name and its value, as the response recorded in the same file shows (l.158).

Choices:

* What the document says is what a decoder reads in it: the member `status` of the outer object, and
  whether its value is `created`. Of several such members the last one counts.
* The search goes over head and body alike, and over the blank line between them, which cannot be
  part of an occurrence.
* The responses are those that one receive can bring whole; what becomes of others is in `Response`.
* `answerText` is the form of the recorded answer: an object of strings, in any order, with the
  strings and names of any text that needs no escape.

Results:

* `verdict_iff`: the result is the verdict of the document iff the text occurs in the head or the
  body of a response with `"status":"created"`, and in neither of any other.
* `recorded_form`: in an answer of the form the server sends, the member `status` has no part in the
  result; the text has to occur in the head or inside one string.
-/

namespace Thethings.Http

open Library Library.Json

/-- The text `thingWrite` looks for. -/
def statusCreated : Bytes := ascii "status:created"

/-- The verdict of a document: its member `status` is the string `created`. -/
def created (body : Bytes) : Bool :=
  match parse body with
  | some (.obj members) =>
    match member (ascii "status") members with
    | some (.str s) => s == ascii "created"
    | _ => false
  | _ => false

/-- The text occurs in the head or in the body. -/
def SaysCreated (head body : Bytes) : Prop := statusCreated <:+: head ∨ statusCreated <:+: body

theorem statusCreated_infix_nil : ¬ statusCreated <:+: [] := by decide

/-- The separator holds no byte of the text. -/
theorem saysCreated_iff (head body : Bytes) :
    statusCreated <:+: head ++ blankLine ++ body ↔ SaysCreated head body := by
  have h13 : (13 : UInt8) ∉ statusCreated := by decide
  have h10 : (10 : UInt8) ∉ statusCreated := by decide
  have hsep : head ++ blankLine ++ body =
      head ++ 13 :: ([] ++ 10 :: ([] ++ 13 :: ([] ++ 10 :: body))) := by
    simp [blankLine]
  rw [hsep, infix_append_cons_iff h13, infix_append_cons_iff h10, infix_append_cons_iff h13,
    infix_append_cons_iff h10, SaysCreated]
  simp only [statusCreated_infix_nil, false_or]

/-- What a write returns that is brought a whole response. -/
theorem write_exit {token : Bytes} {calls : List (Call × Net)} {resource value : Bytes} {net : Net}
    (hr : Receives (.thingWrite resource value) net (objectAfter token calls)) {head body : Bytes}
    {later : List Recv} (hrecv : net.recv = .data (head ++ blankLine ++ body) :: later)
    (hfit : Fits head body) {n : Int} :
    ((Call.thingWrite resource value).run net (objectAfter token calls)).exit =
        .returned (.code n) ↔
      SaysCreated head body ∧ n = 0 ∨ ¬ SaysCreated head body ∧ n = -1 := by
  have hcut : ∀ response, (Call.thingWrite resource value).cut response =
      some (.code (if (find statusCreated response).isSome then 0 else -1)) := fun _ => rfl
  rw [exit_of_whole hr hrecv hfit.short hfit.zero_notMem, hcut, Option.some.injEq,
    Value.code.injEq, ← saysCreated_iff, ← find_isSome_iff]
  by_cases h : (find statusCreated (head ++ blankLine ++ body)).isSome = true
  · simp only [h, if_true, true_and, not_true_eq_false, false_and, or_false, eq_comm]
  · simp only [h, if_false, false_and, not_false_eq_true, true_and, false_or, eq_comm,
      Bool.false_eq_true]

/-- **When the result of a write is the verdict of the answer**: the document says `created` and the
text `status:created` occurs in the response, or the document does not and the text does not. -/
theorem verdict_iff (token : Bytes) (calls : List (Call × Net)) (resource value : Bytes) (net : Net)
    (head body : Bytes) (later : List Recv)
    (hr : Receives (.thingWrite resource value) net (objectAfter token calls))
    (hrecv : net.recv = .data (head ++ blankLine ++ body) :: later) (hfit : Fits head body) :
    ((Call.thingWrite resource value).run net (objectAfter token calls)).exit =
        .returned (.code (if created body then 0 else -1)) ↔
      created body = true ∧ SaysCreated head body ∨
        created body = false ∧ ¬ SaysCreated head body := by
  rw [write_exit hr hrecv hfit]
  cases created body <;> simp

/-! ## Answers of the form the server sends -/

/-- An object of strings without white space, as the answers of the server are written. -/
def answerText (ms : List (Bytes × Bytes)) : Bytes :=
  123 :: (commaSep (ms.map fun m => memberText m.1 (stringText m.2)) ++ [125])

theorem parse_answerText {ms : List (Bytes × Bytes)} (hne : ms ≠ [])
    (h : ∀ m ∈ ms, Plain m.1 ∧ Plain m.2) :
    parse (answerText ms) = some (.obj (ms.map fun m => (m.1, .str m.2))) := by
  have hobj := Reads.obj (n := 1) (ms.map fun m => (m.1, stringText m.2, .str m.2))
    (by simpa using hne) fun p hp => by
      obtain ⟨m, hm, rfl⟩ := List.mem_map.mp hp
      exact ⟨(h m hm).1, Reads.str (h m hm).2⟩
  simp only [List.map_map, Function.comp_def, List.length_map] at hobj
  refine parse_of_reads hobj ?_
  have hlen := length_le_commaSep (ms.map fun m => memberText m.1 (stringText m.2)) fun t ht => by
    obtain ⟨m, -, rfl⟩ := List.mem_map.mp ht
    exact List.cons_ne_nil _ _
  rw [List.length_map] at hlen
  simp only [answerText, List.length_cons, List.length_append, List.length_nil]
  omega

/-- The quotes and the punctuation hold no occurrence of the text. -/
theorem statusCreated_infix_member (k v rest : Bytes) :
    statusCreated <:+: memberText k (stringText v) ++ rest ↔
      (statusCreated <:+: k ∨ statusCreated <:+: v) ∨ statusCreated <:+: rest := by
  have hq : quote ∉ statusCreated := by decide
  have hcolon : ¬ statusCreated <:+: [58] := by decide
  have htext : memberText k (stringText v) ++ rest =
      [] ++ quote :: (k ++ quote :: ([58] ++ quote :: (v ++ quote :: rest))) := by
    simp [memberText, stringText]
  rw [htext, infix_append_cons_iff hq, infix_append_cons_iff hq, infix_append_cons_iff hq,
    infix_append_cons_iff hq]
  simp only [statusCreated_infix_nil, hcolon, false_or, or_assoc]

theorem statusCreated_infix_cons {b : UInt8} (hb : b ∉ statusCreated) (rest : Bytes) :
    statusCreated <:+: b :: rest ↔ statusCreated <:+: rest := by
  have h := infix_append_cons_iff (a := []) (b := rest) hb
  rwa [List.nil_append, or_iff_right statusCreated_infix_nil] at h

theorem statusCreated_infix_members (ms : List (Bytes × Bytes)) :
    statusCreated <:+: commaSep (ms.map fun m => memberText m.1 (stringText m.2)) ++ [125] ↔
      ∃ m ∈ ms, statusCreated <:+: m.1 ∨ statusCreated <:+: m.2 := by
  have hend : ¬ statusCreated <:+: [125] := by decide
  induction ms with
  | nil => simp [commaSep, hend]
  | cons m ms ih =>
    cases ms with
    | nil => simp [commaSep, statusCreated_infix_member, hend]
    | cons m' ms =>
      have hcomma : (44 : UInt8) ∉ statusCreated := by decide
      rw [List.map_cons, List.map_cons, commaSep, List.append_assoc, List.cons_append,
        statusCreated_infix_member, statusCreated_infix_cons hcomma]
      exact (or_congr_right ih).trans (List.exists_mem_cons_iff
        (fun m => statusCreated <:+: m.1 ∨ statusCreated <:+: m.2) m (m' :: ms)).symm

theorem statusCreated_infix_answerText (ms : List (Bytes × Bytes)) :
    statusCreated <:+: answerText ms ↔
      ∃ m ∈ ms, statusCreated <:+: m.1 ∨ statusCreated <:+: m.2 := by
  rw [answerText, statusCreated_infix_cons (by decide), statusCreated_infix_members]

/-- **The member `status` has no part in it**: of an answer of the server's form a write returns 0
iff the text occurs in the head, or inside a name or a value. -/
theorem recorded_form {token : Bytes} {calls : List (Call × Net)} {resource value : Bytes}
    {net : Net} (hr : Receives (.thingWrite resource value) net (objectAfter token calls))
    {head : Bytes} {ms : List (Bytes × Bytes)} {later : List Recv}
    (hrecv : net.recv = .data (head ++ blankLine ++ answerText ms) :: later)
    (hfit : Fits head (answerText ms)) :
    ((Call.thingWrite resource value).run net (objectAfter token calls)).exit =
        .returned (.code 0) ↔
      statusCreated <:+: head ∨ ∃ m ∈ ms, statusCreated <:+: m.1 ∨ statusCreated <:+: m.2 := by
  rw [write_exit hr hrecv hfit, SaysCreated, statusCreated_infix_answerText]
  simp

/-! ## Answers that are taken for others -/

theorem created_answerText {ms : List (Bytes × Bytes)} (hne : ms ≠ [])
    (h : ∀ m ∈ ms, Plain m.1 ∧ Plain m.2) :
    created (answerText ms) =
      match member (ascii "status") (ms.map fun m => (m.1, .str m.2)) with
      | some (.str s) => s == ascii "created"
      | _ => false := by
  rw [created, parse_answerText hne h]

/-- A head that is no more than a status line. -/
def sampleStatus : Bytes := ascii "HTTP/1.1 200 OK"

/-- `{"status":"error"}` -/
def errorAnswer : List (Bytes × Bytes) := [(ascii "status", ascii "error")]

/-- `{"status":"created","message":"thing activated"}` -/
def createdAnswer : List (Bytes × Bytes) :=
  [(ascii "status", ascii "created"), (ascii "message", ascii "thing activated")]

/-- `{"status":"error","message":"no status:created"}` -/
def echoAnswer : List (Bytes × Bytes) :=
  [(ascii "status", ascii "error"), (ascii "message", ascii "no status:created")]

theorem created_errorAnswer : created (answerText errorAnswer) = false := by
  rw [errorAnswer, created_answerText (List.cons_ne_nil _ _) (by decide)]
  decide

theorem created_createdAnswer : created (answerText createdAnswer) = true := by
  rw [createdAnswer, created_answerText (List.cons_ne_nil _ _) (by decide)]
  decide

theorem created_echoAnswer : created (answerText echoAnswer) = false := by
  rw [echoAnswer, created_answerText (List.cons_ne_nil _ _) (by decide)]
  decide

theorem errorAnswer_fits : Fits sampleStatus (answerText errorAnswer) :=
  fits_of_line (by decide) (by decide) (by decide)

theorem createdAnswer_fits : Fits sampleStatus (answerText createdAnswer) :=
  fits_of_line (by decide) (by decide) (by decide)

theorem echoAnswer_fits : Fits sampleStatus (answerText echoAnswer) :=
  fits_of_line (by decide) (by decide) (by decide)

/-- An error without the text is reported as one. -/
theorem verdict_error :
    ((Call.thingWrite (ascii "demo") (ascii "1")).run
        (works [.data (sampleStatus ++ blankLine ++ answerText errorAnswer)])
        (objectAfter [] [])).exit =
      .returned (.code (if created (answerText errorAnswer) then 0 else -1)) := by
  refine (verdict_iff [] [] _ _ _ sampleStatus (answerText errorAnswer) [] (receives_works _ _) rfl
    errorAnswer_fits).mpr (Or.inr ⟨created_errorAnswer, ?_⟩)
  rw [SaysCreated, statusCreated_infix_answerText]
  decide

/-- A value that was stored is reported as lost, and an error that mentions the text as success. -/
theorem verdict_wrong :
    (created (answerText createdAnswer) = true ∧ Fits sampleStatus (answerText createdAnswer) ∧
      ((Call.thingWrite (ascii "demo") (ascii "1")).run
          (works [.data (sampleStatus ++ blankLine ++ answerText createdAnswer)])
          (objectAfter [] [])).exit = .returned (.code (-1))) ∧
    (created (answerText echoAnswer) = false ∧ Fits sampleStatus (answerText echoAnswer) ∧
      ((Call.thingWrite (ascii "demo") (ascii "1")).run
          (works [.data (sampleStatus ++ blankLine ++ answerText echoAnswer)])
          (objectAfter [] [])).exit = .returned (.code 0)) := by
  refine ⟨⟨created_createdAnswer, createdAnswer_fits, ?_⟩, created_echoAnswer, echoAnswer_fits, ?_⟩
  · rw [write_exit (receives_works _ _) rfl createdAnswer_fits, SaysCreated,
      statusCreated_infix_answerText]
    exact Or.inr ⟨by decide, rfl⟩
  · rw [write_exit (receives_works _ _) rfl echoAnswer_fits, SaysCreated,
      statusCreated_infix_answerText]
    exact Or.inl ⟨by decide, rfl⟩

end Thethings.Http
