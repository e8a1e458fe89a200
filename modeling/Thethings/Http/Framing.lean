import Thethings.Http.Client
import Thethings.Library.Request

/-!
# The framing of the POST requests

What a reader of HTTP/1.1 makes of the bytes that `thingWrite` (l.85-123) and `thingActivate`
(l.125-160) write. The head is one head whatever the caller's strings are, and the declared length
is the length of the JSON body. But a line end follows the body that no length accounts for, and the
`Host` field still holds the `%s` it was to be formatted with.

Choices:

* The reader is the strict one of `Library.Request`, at the front of what is written. What it leaves
  over is what the server would find in front of a next request.
* `thingActivate` has no token in its target; both requests are `posted` with a token that may be
  empty. A token with a line end or a space in it would break the request line, which is why the
  general lemma asks that there is none.
* A host is told by the value of the `Host` field, compared with the name that the call connects to.

Results:

* `parse_postRequest`: one request with the JSON body as its body, and the two bytes left over.
* `post_framing`: so neither call ever writes exactly one request to its host.
-/

namespace Thethings.Http

open Library Library.Request

/-- The bytes are one POST request to `host` with this body, and nothing else. -/
def IsOnePost (host body s : Bytes) : Prop :=
  ∃ r, parse s = some (r, []) ∧ r.method = ascii "POST" ∧ r.body = body ∧
    values (ascii "Content-Length") r.fields = [decimalNat body.length] ∧
    values (ascii "Host") r.fields = [host]

example : IsOnePost (ascii "a.b") (ascii "ok")
    (ascii "POST / HTTP/1.1\r\nHost: a.b\r\nContent-Length: 2\r\n\r\nok") :=
  ⟨⟨ascii "POST", ascii "/", [(ascii "Host", ascii "a.b"), (ascii "Content-Length", ascii "2")],
    ascii "ok"⟩, by decide +kernel⟩

/-- The field lines in front of the length. -/
def postLines : List Bytes :=
  [ascii "Host: %s", ascii "User-Agent: curl/7.43.0", ascii "Accept: application/json",
    ascii "Content-Type: application/json"]

/-- The fields of a POST but for the length of its body. -/
def postFields : List (Bytes × Bytes) :=
  [(ascii "Host", ascii "%s"), (ascii "User-Agent", ascii "curl/7.43.0"),
    (ascii "Accept", ascii "application/json"), (ascii "Content-Type", ascii "application/json")]

/-- The path of a token. -/
def postTarget (token : Bytes) : Bytes := ascii "/v2/things/" ++ token

/-- What is read of a POST request. -/
def posted (token body : Bytes) : Request where
  method := ascii "POST"
  target := postTarget token
  fields := postFields ++ [(ascii "Content-Length", decimalNat body.length)]
  body := body

/-- The field line with the length of the body. -/
def lengthLine (body : Bytes) : Bytes :=
  ascii "Content-Length" ++ 58 :: 32 :: decimalNat body.length

/-- The request is its lines, its body and a line end. -/
theorem postRequest_eq (token body : Bytes) :
    postRequest token body =
      requestText (startLine (ascii "POST") (postTarget token) :: (postLines ++ [lengthLine body]))
        (body ++ crlf) := by
  have hstart : ascii "POST /v2/things/" = ascii "POST" ++ 32 :: ascii "/v2/things/" := by decide
  have hhead : postHead = 32 :: (ascii "HTTP/1.1" ++ (crlf ++ (ascii "Host: %s" ++ (crlf ++
      (ascii "User-Agent: curl/7.43.0" ++ (crlf ++ (ascii "Accept: application/json" ++ (crlf ++
        (ascii "Content-Type: application/json" ++ (crlf ++
          (ascii "Content-Length" ++ [58, 32]))))))))))) := by decide +kernel
  have hend : ascii "\r\n" = crlf := by decide
  have hblank : blankLine = crlf ++ crlf := rfl
  rw [postRequest, hstart, hhead, hend, hblank]
  simp only [requestText, postLines, startLine, postTarget, lengthLine, headText_cons,
    headText_singleton, List.append_assoc, List.cons_append, List.nil_append]

theorem fields_posted (body : Bytes) :
    (postLines ++ [lengthLine body]).mapM fieldLine =
      some (postFields ++ [(ascii "Content-Length", decimalNat body.length)]) := by
  have hconst : postLines.mapM fieldLine = some postFields := by decide +kernel
  have hlength : fieldLine (lengthLine body) =
      some (ascii "Content-Length", decimalNat body.length) :=
    fieldLine_decimalNat (by decide) body.length
  rw [List.mapM_append, hconst, List.mapM_cons, hlength]
  rfl

theorem values_length (n : Nat) :
    values (ascii "Content-Length") (postFields ++ [(ascii "Content-Length", decimalNat n)]) =
      [decimalNat n] := by
  have hconst : values (ascii "Content-Length") postFields = [] := by decide +kernel
  rw [values_append, hconst, values_self, List.nil_append]

theorem values_host (n : Nat) :
    values (ascii "Host") (postFields ++ [(ascii "Content-Length", decimalNat n)]) =
      [ascii "%s"] := by
  have hconst : values (ascii "Host") postFields = [ascii "%s"] := by decide +kernel
  rw [values_append, hconst, values_of_ne (by decide), List.append_nil]

/-- The declared length is the length of the JSON body. -/
theorem bodyLength_posted (n : Nat) :
    bodyLength (postFields ++ [(ascii "Content-Length", decimalNat n)]) = some n := by
  have hconst : values (ascii "Transfer-Encoding") postFields = [] := by decide +kernel
  have hcoding : values (ascii "Transfer-Encoding")
      (postFields ++ [(ascii "Content-Length", decimalNat n)]) = [] := by
    rw [values_append, hconst, values_of_ne (by decide), List.append_nil]
  rw [bodyLength, if_neg (not_not_intro hcoding), values_length]
  exact readDecimal_decimalNat n

theorem lines_posted (body : Bytes) :
    ∀ line ∈ postLines ++ [lengthLine body], 13 ∉ line ∧ line ≠ [] := by
  have hconst : ∀ line ∈ postLines, (13 : UInt8) ∉ line ∧ line ≠ [] := by decide +kernel
  have hname : (13 : UInt8) ∉ ascii "Content-Length" := by decide
  intro line hline
  rcases List.mem_append.mp hline with hline | hline
  · exact hconst line hline
  · obtain rfl := List.mem_singleton.mp hline
    refine ⟨?_, by simp [lengthLine]⟩
    simp only [lengthLine, List.mem_append, List.mem_cons, hname, false_or]
    rintro (h58 | h32 | hdigit)
    · exact absurd h58 (by decide)
    · exact absurd h32 (by decide)
    · exact absurd (isDigit_of_mem_decimalNat hdigit) (by decide)

/-- **What the two calls write**: one request with the JSON body as its body, and a line end. -/
theorem parse_postRequest {token : Bytes} (hcr : 13 ∉ token) (hsp : 32 ∉ token) (body : Bytes) :
    parse (postRequest token body) = some (posted token body, crlf) := by
  have hpath : ascii "/v2/things/" ≠ [] ∧ (32 : UInt8) ∉ ascii "/v2/things/" ∧
      (13 : UInt8) ∉ ascii "/v2/things/" := by decide
  obtain ⟨hne, h32, h13⟩ := hpath
  rw [postRequest_eq]
  refine parse_requestText (by decide) ?_ ?_ ?_ (lines_posted body) (fields_posted body)
    (bodyLength_posted body.length) crlf
  · exact List.append_ne_nil_of_left_ne_nil hne token
  · rw [postTarget, List.mem_append]
    exact not_or.mpr ⟨h32, hsp⟩
  · rw [postTarget, List.mem_append]
    exact not_or.mpr ⟨h13, hcr⟩

/-- What is left over and the `Host` field each rule it out. -/
theorem not_isOnePost {token : Bytes} (hcr : 13 ∉ token) (hsp : 32 ∉ token) (host body : Bytes) :
    ¬ IsOnePost host body (postRequest token body) := by
  rintro ⟨r, hr, -⟩
  rw [parse_postRequest hcr hsp, Option.some.injEq, Prod.mk.injEq] at hr
  exact absurd hr.2 (by simp [crlf])

/-- **Neither call writes exactly one request.** Of `thingWrite` and of `thingActivate` a reader
gets the request with the JSON body, whatever the strings are; but a line end is left over, and the
`Host` field is `%s` and no host. -/
theorem post_framing (token resource value activationCode : Bytes)
    (h : ∀ b ∈ token, b ≠ 13 ∧ b ≠ 10 ∧ b ≠ 32) :
    (parse ((Call.thingWrite resource value).request token) =
        some (posted token (writeBody resource value), crlf) ∧
      values (ascii "Host") (posted token (writeBody resource value)).fields = [ascii "%s"] ∧
      ¬ IsOnePost (Call.thingWrite resource value).host (writeBody resource value)
        ((Call.thingWrite resource value).request token)) ∧
    (parse ((Call.thingActivate activationCode).request token) =
        some (posted [] (activateBody activationCode), crlf) ∧
      values (ascii "Host") (posted [] (activateBody activationCode)).fields = [ascii "%s"] ∧
      ¬ IsOnePost (Call.thingActivate activationCode).host (activateBody activationCode)
        ((Call.thingActivate activationCode).request token)) := by
  have hcr : 13 ∉ token := fun hm => (h 13 hm).1 rfl
  have hsp : 32 ∉ token := fun hm => (h 32 hm).2.2 rfl
  exact ⟨⟨parse_postRequest hcr hsp _, values_host _, not_isOnePost hcr hsp _ _⟩,
    parse_postRequest List.not_mem_nil List.not_mem_nil _, values_host _,
    not_isOnePost List.not_mem_nil List.not_mem_nil _ _⟩

theorem plain_token : ∀ b ∈ ascii "abc", b ≠ 13 ∧ b ≠ 10 ∧ b ≠ 32 := by
  have htoken : ascii "abc" = [97, 98, 99] := by decide
  rw [htoken]
  simp

/-- A token of plain letters. -/
theorem post_framing_sample :
    parse ((Call.thingWrite (ascii "demo") (ascii "1")).request (ascii "abc")) =
        some (posted (ascii "abc") (writeBody (ascii "demo") (ascii "1")), crlf) ∧
      values (ascii "Host") (posted (ascii "abc") (writeBody (ascii "demo") (ascii "1"))).fields =
        [ascii "%s"] :=
  have h := (post_framing (ascii "abc") (ascii "demo") (ascii "1") [] plain_token).1
  ⟨h.1, h.2.1⟩

/-- What `thingWrite("demo", "1")` writes is not one request to `api.thethings.io`, nor is what
`thingActivate("code")` writes. -/
theorem more_than_one_post :
    ¬ IsOnePost apiHost (writeBody (ascii "demo") (ascii "1"))
        ((Call.thingWrite (ascii "demo") (ascii "1")).request (ascii "abc")) ∧
      ¬ IsOnePost apiHost (activateBody (ascii "code"))
        ((Call.thingActivate (ascii "code")).request (ascii "abc")) :=
  ⟨not_isOnePost (by decide) (by decide) _ _,
    not_isOnePost List.not_mem_nil List.not_mem_nil _ _⟩

end Thethings.Http
