import Thethings.Http.Client
import Thethings.Library.Request
import Thethings.Library.Target

/-!
# What the GET requests address

`thingReadAll` (l.23-50) and `thingRead` (l.52-83) put the token, the resource and the limit into
the request target as they are. A reader of HTTP/1.1 and of RFC 3986 gets them back from it exactly
where nothing in them needs a percent-escape.

Choices:

* What a target addresses is what `Target.decode` makes of it: the segments of the path, decoded,
  and the parameters. That the server looks at the same things is what the calls are written for.
* `Addresses` asks for a whole request: it is read as one GET with nothing behind it, and its target
  decodes to the segments and the limit that were meant. So a string that ends the request line
  early is caught as well as one that adds a segment.
* An empty string needs no escape: it is an empty segment, and is read back as one.

Results:

* `addresses_iff`: a GET request for some segments and a limit is read as one iff each of its
  segments is made of bytes that stand for themselves.
* `target_round_trips_iff`: the same of the two calls.
-/

namespace Thethings.Http

open Library Library.Request Library.Target

/-- The bytes are one GET request for the path of these segments, with `limit` as its one
parameter. -/
def Addresses (segments : List Bytes) (limit : Int) (s : Bytes) : Prop :=
  ∃ r, parse s = some (r, []) ∧ r.method = ascii "GET" ∧
    decode r.target = some ⟨segments, [(ascii "limit", decimal limit)]⟩

/-- The request as the two calls build it. -/
def getRequest (segments : List Bytes) (limit : Int) : Bytes :=
  ascii "GET" ++ 32 :: (targetText segments (ascii "limit") (decimal limit) ++ getHead)

/-- The path of a `thingReadAll`, as the caller means it. -/
def readAllSegments (token : Bytes) : List Bytes :=
  [ascii "v2", ascii "things", token, ascii "all_resources"]

/-- The path of a `thingRead`, as the caller means it. -/
def readSegments (token resource : Bytes) : List Bytes :=
  [ascii "v2", ascii "things", token, ascii "resources", resource]

theorem get_eq : ascii "GET /v2/things/" =
    ascii "GET" ++ 32 :: 47 :: (ascii "v2" ++ 47 :: (ascii "things" ++ [47])) := by decide

theorem readAllRequest_eq (token : Bytes) (limit : Int) :
    readAllRequest token limit = getRequest (readAllSegments token) limit := by
  have hall : ascii "/all_resources?limit=" =
      47 :: (ascii "all_resources" ++ 63 :: (ascii "limit" ++ [61])) := by decide
  rw [readAllRequest, get_eq, hall]
  simp [getRequest, targetText, pathText, readAllSegments]

theorem readRequest_eq (token resource : Bytes) (limit : Int) :
    readRequest token resource limit = getRequest (readSegments token resource) limit := by
  have hres : ascii "/resources/" = 47 :: (ascii "resources" ++ [47]) := by decide
  have hlimit : ascii "?limit=" = 63 :: (ascii "limit" ++ [61]) := by decide
  rw [readRequest, get_eq, hres, hlimit]
  simp [getRequest, targetText, pathText, readSegments]

/-! ## The request as a text of lines -/

/-- The field lines of a GET. -/
def getLines : List Bytes :=
  [ascii "Host: %s", ascii "User-Agent: curl/7.43.0", ascii "Accept: application/json"]

/-- What they are read as. -/
def getFields : List (Bytes × Bytes) :=
  [(ascii "Host", ascii "%s"), (ascii "User-Agent", ascii "curl/7.43.0"),
    (ascii "Accept", ascii "application/json")]

theorem getHead_eq : getHead = 32 :: (ascii "HTTP/1.1" ++ (crlf ++ (ascii "Host: %s" ++ (crlf ++
    (ascii "User-Agent: curl/7.43.0" ++ (crlf ++ (ascii "Accept: application/json" ++
      (crlf ++ crlf)))))))) := by decide +kernel

theorem getRequest_eq (segments : List Bytes) (limit : Int) :
    getRequest segments limit =
      requestText (startLine (ascii "GET")
        (targetText segments (ascii "limit") (decimal limit)) :: getLines) ([] ++ []) := by
  rw [getRequest, getHead_eq]
  simp only [requestText, getLines, startLine, headText_cons, headText_singleton,
    List.append_assoc, List.cons_append, List.append_nil]

theorem clean_limit : Clean (ascii "limit") := by decide

/-- **A target that needs no escape is read from the request.** -/
theorem parse_getRequest {segments : List Bytes} (h : ∀ segment ∈ segments, Clean segment)
    (limit : Int) :
    parse (getRequest segments limit) =
      some (⟨ascii "GET", targetText segments (ascii "limit") (decimal limit), getFields, []⟩,
        []) := by
  have hlines : ∀ line ∈ getLines, (13 : UInt8) ∉ line ∧ line ≠ [] := by decide +kernel
  have hfields : getLines.mapM fieldLine = some getFields := by decide +kernel
  have hlength : bodyLength getFields = some ([] : Bytes).length := by decide +kernel
  have hnot : ∀ {x : UInt8}, isPchar x = false → x ∉ [(47 : UInt8), 63] →
      x ∉ targetText segments (ascii "limit") (decimal limit) :=
    notMem_targetText h clean_limit (clean_decimal limit)
  rw [getRequest_eq]
  refine parse_requestText (by decide) ?_ (hnot (by decide) (by decide))
    (hnot (by decide) (by decide)) hlines hfields hlength []
  simp [targetText]

/-- **A GET request addresses its segments exactly when none of them needs an escape.** -/
theorem addresses_iff {segments : List Bytes} (hne : segments ≠ []) (limit : Int) :
    Addresses segments limit (getRequest segments limit) ↔
      ∀ segment ∈ segments, Clean segment := by
  constructor
  · rintro ⟨r, hr, hmethod, hdecode⟩
    obtain ⟨tail, he⟩ := eq_of_parse hr
    rw [hmethod, getRequest] at he
    have htarget := List.tail_eq_of_cons_eq (List.append_cancel_left he)
    rw [targetText, List.append_assoc] at htarget
    exact clean_of_decode hdecode (List.cons_ne_nil _ _) htarget.symm
  · intro h
    refine ⟨_, parse_getRequest h limit, rfl, ?_⟩
    refine decode_targetText hne h clean_limit (clean_decimal limit) (by decide) ?_
    have hname : (38 : UInt8) ∉ ascii "limit" := by decide
    simp only [List.mem_append, List.mem_cons, hname, false_or]
    rintro (h61 | hdigit)
    · exact absurd h61 (by decide)
    · rcases mem_decimal hdigit with h45 | hdigit
      · exact absurd h45 (by decide)
      · exact absurd hdigit (by decide)

/-- One text addresses one thing. -/
theorem addresses_unique {segments segments' : List Bytes} {limit limit' : Int} {s : Bytes}
    (h : Addresses segments limit s) (h' : Addresses segments' limit' s) :
    segments = segments' ∧ limit = limit' := by
  obtain ⟨r, hr, -, hdecode⟩ := h
  obtain ⟨r', hr', -, hdecode'⟩ := h'
  obtain rfl : r = r' := by
    rw [hr, Option.some.injEq, Prod.mk.injEq] at hr'
    exact hr'.1
  rw [hdecode, Option.some.injEq, Target.mk.injEq, List.cons.injEq, Prod.mk.injEq] at hdecode'
  exact ⟨hdecode'.1, decimal_injective hdecode'.2.1.2⟩

/-! ## The two calls -/

theorem clean_words : Clean (ascii "v2") ∧ Clean (ascii "things") ∧ Clean (ascii "resources") ∧
    Clean (ascii "all_resources") := by decide

theorem addresses_read_iff (token resource : Bytes) (limit : Int) :
    Addresses (readSegments token resource) limit
        ((Call.thingRead resource limit).request token) ↔ Clean token ∧ Clean resource := by
  obtain ⟨hv2, hthings, hresources, -⟩ := clean_words
  have hne : readSegments token resource ≠ [] := List.cons_ne_nil _ _
  rw [Call.request, readRequest_eq, addresses_iff hne]
  simp [readSegments, hv2, hthings, hresources]

theorem addresses_readAll_iff (token : Bytes) (limit : Int) :
    Addresses (readAllSegments token) limit ((Call.thingReadAll limit).request token) ↔
      Clean token := by
  obtain ⟨hv2, hthings, -, hall⟩ := clean_words
  have hne : readAllSegments token ≠ [] := List.cons_ne_nil _ _
  rw [Call.request, readAllRequest_eq, addresses_iff hne]
  simp [readAllSegments, hv2, hthings, hall]

/-- **Exactly when a GET request is for what was asked**: each string in its path is made of bytes
that need no percent-escape. -/
theorem target_round_trips_iff (token resource : Bytes) (limit : Int) :
    (Addresses (readSegments token resource) limit
        ((Call.thingRead resource limit).request token) ↔ Clean token ∧ Clean resource) ∧
    (Addresses (readAllSegments token) limit ((Call.thingReadAll limit).request token) ↔
      Clean token) :=
  ⟨addresses_read_iff token resource limit, addresses_readAll_iff token limit⟩

/-- Where nothing needs an escape, different arguments make different requests. -/
theorem read_requests_differ {token token' resource resource' : Bytes} {limit limit' : Int}
    (h : Clean token ∧ Clean resource) (h' : Clean token' ∧ Clean resource')
    (he : (Call.thingRead resource limit).request token =
      (Call.thingRead resource' limit').request token') :
    token = token' ∧ resource = resource' ∧ limit = limit' := by
  have hfirst := (addresses_read_iff token resource limit).mpr h
  rw [he] at hfirst
  have hsecond := (addresses_read_iff token' resource' limit').mpr h'
  obtain ⟨hsegments, hlimit⟩ := addresses_unique hfirst hsecond
  simp only [readSegments, List.cons.injEq, true_and, and_true] at hsegments
  exact ⟨hsegments.1, hsegments.2, hlimit⟩

/-- A resource with a slash is not addressed, and two different pairs of token and resource make one
request. -/
theorem slash_redirects :
    ¬ Addresses (readSegments (ascii "a") (ascii "b/resources/c")) 1
        ((Call.thingRead (ascii "b/resources/c") 1).request (ascii "a")) ∧
      (Call.thingRead (ascii "b/resources/c") 1).request (ascii "a") =
        (Call.thingRead (ascii "c") 1).request (ascii "a/resources/b") := by
  constructor
  · rw [addresses_read_iff]
    exact fun h => absurd h.2 (by decide)
  · decide +kernel

end Thethings.Http
