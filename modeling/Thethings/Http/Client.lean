import Thethings.Http.Socket
import Thethings.Library.Run

/-!
# The HTTP client

Model of the class `ThethingsiO_DISCO_F746NG` (`ThethingsiO_DISCO_F746NG.cpp`: constructors l.3-16,
`thingReadAll` l.23-50, `thingRead` l.52-83, `thingWrite` l.85-123, `thingActivate` l.125-160): the
request texts, and the four calls.

Every call is one `transact`: open a socket, look the host up and connect, write the request, read
once, cut the result out of the buffer, flush, close. A failure in one of the first three steps
returns at once, with the socket as the step left it; cutting a text that has no blank line leaves
by the exception of `substr`, before the flush and the close.

Choices:

* `Net` is what the network does during one call, one field for each lwIP call. Nothing relates the
  fields: a send may fail where a connect did not, or take fewer bytes than it is given.
* The texts are the literals of the source put together as it puts them, the `%s` of the heads
  included, which no `printf` ever sees. Numbers are printed as a stream prints them.
* A call ends with a value or by an exception (`Exit`); the object it leaves is part of the outcome
  either way, and the next call begins there.
* `sent` is no member of the class. It keeps, request by request, the bytes that `lwip_send` took,
  and no call reads it.
* `-1` and the messages stand for the failures as in the source, with nothing to tell a message from
  a response. `thingWrite` keeps what `find` returns in an `int`, where `npos` is negative.

Results:

* `Call.run_eq`: the four calls, as `transact` with their own host, request, failures and cut.

Left out: what `printf` shows, the Ethernet interface, and the second constructor, which differs in
the token only.
-/

namespace Thethings.Http

open Thethings.Library

/-- The class `ThethingsiO_DISCO_F746NG`. -/
structure ThethingsiO where
  thingToken : Bytes
  socket : Socket
  buffer : Buffer
  /-- what `lwip_send` took so far, of each request; for the statements only -/
  sent : List Bytes

/-- `ThethingsiO_DISCO_F746NG(token)`: one `calloc` for the temporary buffer, one for the member's
own block. -/
def ThethingsiO.new (token : Bytes) (calloc calloc' : Bool) : ThethingsiO where
  thingToken := token
  socket := Socket.init
  buffer := Buffer.assign Buffer.empty (Buffer.ofSize 1024 calloc) calloc'
  sent := []

/-- What the network does during one call. -/
structure Net where
  /-- `lwip_socket` -/
  socket : Int
  /-- `lwip_gethostbyname` -/
  gethostbyname : Bytes → Option Bytes
  /-- `lwip_connect` -/
  connect : Int
  /-- `lwip_send` -/
  send : Int
  /-- what successive calls of `lwip_recv` find -/
  recv : List Recv
  /-- `lwip_close` -/
  close : Int
  /-- the memory behind the receive buffer -/
  past : Bytes

/-- How a call ends: with a value, or by an exception. -/
inductive Exit (α : Type) where
  | returned (v : α)
  | threw
  deriving DecidableEq

/-- How a call ends, and the object it leaves. -/
structure Outcome (α : Type) where
  exit : Exit α
  object : ThethingsiO

/-! ## The requests -/

/-- `\r\n\r\n` -/
def blankLine : Bytes := [13, 10, 13, 10]

/-- The host of every call but `thingRead`. -/
def apiHost : Bytes := ascii "api.thethings.io"

/-- The host of `thingRead`. -/
def devicesHost : Bytes := ascii "api.devices.thethings.io"

/-- What follows the target of a GET; the `%s` is sent as it stands. -/
def getHead : Bytes := ascii
  " HTTP/1.1\r\nHost: %s\r\nUser-Agent: curl/7.43.0\r\nAccept: application/json\r\n\r\n"

/-- What follows the target of a POST, up to the length of its body. -/
def postHead : Bytes := ascii <|
  " HTTP/1.1\r\nHost: %s\r\nUser-Agent: curl/7.43.0\r\nAccept: application/json\r\n" ++
  "Content-Type: application/json\r\nContent-Length: "

/-- The request of `thingReadAll(limit)`. -/
def readAllRequest (token : Bytes) (limit : Int) : Bytes :=
  ascii "GET /v2/things/" ++ token ++ ascii "/all_resources?limit=" ++ decimal limit ++ getHead

/-- The request of `thingRead(resource, limit)`. -/
def readRequest (token resource : Bytes) (limit : Int) : Bytes :=
  ascii "GET /v2/things/" ++ token ++ ascii "/resources/" ++ resource ++ ascii "?limit=" ++
    decimal limit ++ getHead

/-- The body of a `thingWrite`: no string is escaped. -/
def writeBody (resource value : Bytes) : Bytes :=
  ascii "\x7b\"values\":[\x7b\"key\":\"" ++ resource ++ ascii "\",\"value\":\"" ++ value ++
    ascii "\"\x7d]\x7d"

/-- The body of a `thingActivate`. -/
def activateBody (activationCode : Bytes) : Bytes :=
  ascii "\x7b\"activationCode\":\"" ++ activationCode ++ ascii "\"\x7d"

/-- A request line's target, the fields, the length of the body and the body. -/
def postRequest (token body : Bytes) : Bytes :=
  ascii "POST /v2/things/" ++ token ++ postHead ++ decimalNat body.length ++ blankLine ++ body ++
    ascii "\r\n"

/-- The request of `thingWrite(resource, value)`. -/
def writeRequest (token resource value : Bytes) : Bytes :=
  postRequest token (writeBody resource value)

/-- The request of `thingActivate(activationCode)`: it has no token. -/
def activateRequest (activationCode : Bytes) : Bytes := postRequest [] (activateBody activationCode)

/-! ## The calls -/

/-- Where a call stands once its request has been written, or why it never was. -/
inductive Stage where
  | openFailed
  | connectFailed
  | writeFailed
  | reading
  deriving DecidableEq

/-- Open, connect, write. -/
def exchange (o : ThethingsiO) (host request : Bytes) (net : Net) : Stage × ThethingsiO :=
  let opened := o.socket.open net.socket
  if opened.1 < 0 then (.openFailed, { o with socket := opened.2 })
  else
    let connected := opened.2.connect (net.gethostbyname host) 80 net.connect
    if connected.1 < 0 then (.connectFailed, { o with socket := connected.2 })
    else
      let written := connected.2.write request net.send
      if written.1 < 0 then (.writeFailed, { o with socket := written.2 })
      else
        (.reading, { o with
          socket := written.2
          sent := o.sent ++ [request.take written.1.toNat] })

/-- The results a call gives when it cannot get to reading. -/
structure Failures (α : Type) where
  openFailed : α
  connectFailed : α
  writeFailed : α

/-- The shape of the four calls. `cut` takes the result out of the response text; `none` where
`substr` throws. -/
def transact {α : Type} (failures : Failures α) (cut : Bytes → Option α) (o : ThethingsiO)
    (host request : Bytes) (net : Net) : Outcome α :=
  match exchange o host request net with
  | (.openFailed, o) => ⟨.returned failures.openFailed, o⟩
  | (.connectFailed, o) => ⟨.returned failures.connectFailed, o⟩
  | (.writeFailed, o) => ⟨.returned failures.writeFailed, o⟩
  | (.reading, o) =>
    let (_, socket, buffer, _) := o.socket.read o.buffer net.recv
    match (buffer.text net.past).bind cut with
    | none => ⟨.threw, { o with socket := socket, buffer := buffer }⟩
    | some v =>
      ⟨.returned v, { o with socket := (socket.close net.close).2, buffer := buffer.flush }⟩

/-- The messages of the calls that return a text. -/
def textFailures : Failures Bytes where
  openFailed := ascii "Failed to open TCP Socket\n\r"
  connectFailed := ascii "Failed to connect with thethings.iO\n\r"
  writeFailed := ascii "Failed to write HTTP request\n\r"

/-- `response.substr(response.find("\r\n\r\n"))`. -/
def cutBody (response : Bytes) : Option Bytes :=
  (find blankLine response).map fun pos => response.drop pos

/-- `response.find("status:created") >= 0`. -/
def cutStatus (response : Bytes) : Option Int :=
  some (if (find (ascii "status:created") response).isSome then 0 else -1)

/-- `thingReadAll(limit)`, l.23-50. -/
def thingReadAll (o : ThethingsiO) (limit : Int) : Net → Outcome Bytes :=
  transact textFailures cutBody o apiHost (readAllRequest o.thingToken limit)

/-- `thingRead(resource, limit)`, l.52-83. -/
def thingRead (o : ThethingsiO) (resource : Bytes) (limit : Int) : Net → Outcome Bytes :=
  transact textFailures cutBody o devicesHost (readRequest o.thingToken resource limit)

/-- `thingWrite(resource, value)`, l.85-123: -1 stands for every failure. -/
def thingWrite (o : ThethingsiO) (resource value : Bytes) : Net → Outcome Int :=
  transact ⟨-1, -1, -1⟩ cutStatus o apiHost (writeRequest o.thingToken resource value)

/-- `thingActivate(activationCode)`, l.125-160. -/
def thingActivate (o : ThethingsiO) (activationCode : Bytes) : Net → Outcome Bytes :=
  transact textFailures cutBody o apiHost (activateRequest activationCode)

/-! ### The calls as one type -/

/-- A call, with its arguments. -/
inductive Call where
  | thingReadAll (limit : Int)
  | thingRead (resource : Bytes) (limit : Int)
  | thingWrite (resource value : Bytes)
  | thingActivate (activationCode : Bytes)

/-- What a call returns. -/
inductive Value where
  | text (s : Bytes)
  | code (n : Int)
  deriving DecidableEq

/-- The same end, with another value. -/
def Exit.map {α β : Type} (f : α → β) : Exit α → Exit β
  | .returned v => .returned (f v)
  | .threw => .threw

/-- The same outcome, with another value. -/
def Outcome.map {α β : Type} (f : α → β) (r : Outcome α) : Outcome β := ⟨r.exit.map f, r.object⟩

namespace Call

/-- The call is made. -/
def run (c : Call) (net : Net) (o : ThethingsiO) : Outcome Value :=
  match c with
  | .thingReadAll limit => (Http.thingReadAll o limit net).map .text
  | .thingRead resource limit => (Http.thingRead o resource limit net).map .text
  | .thingWrite resource value => (Http.thingWrite o resource value net).map .code
  | .thingActivate activationCode => (Http.thingActivate o activationCode net).map .text

/-- The host the call connects to. -/
def host : Call → Bytes
  | .thingRead _ _ => devicesHost
  | _ => apiHost

/-- What the call writes. -/
def request (token : Bytes) : Call → Bytes
  | .thingReadAll limit => readAllRequest token limit
  | .thingRead resource limit => readRequest token resource limit
  | .thingWrite resource value => writeRequest token resource value
  | .thingActivate activationCode => activateRequest activationCode

/-- What the call returns where it does not get to its read. -/
def failures : Call → Failures Value
  | .thingWrite _ _ => ⟨.code (-1), .code (-1), .code (-1)⟩
  | _ => ⟨.text textFailures.openFailed, .text textFailures.connectFailed,
      .text textFailures.writeFailed⟩

/-- What the call makes of the response text. -/
def cut : Call → Bytes → Option Value
  | .thingWrite _ _ => fun response => (cutStatus response).map .code
  | _ => fun response => (cutBody response).map .text

end Call

theorem transact_map {α β : Type} (f : α → β) (failures : Failures α) (cut : Bytes → Option α)
    (o : ThethingsiO) (host request : Bytes) (net : Net) :
    (transact failures cut o host request net).map f =
      transact ⟨f failures.openFailed, f failures.connectFailed, f failures.writeFailed⟩
        (fun response => (cut response).map f) o host request net := by
  unfold transact
  rcases exchange o host request net with ⟨stage, o'⟩
  cases stage with
  | openFailed => rfl
  | connectFailed => rfl
  | writeFailed => rfl
  | reading =>
    simp only
    cases (o'.socket.read o'.buffer net.recv).2.2.1.text net.past with
    | none => rfl
    | some response =>
      simp only [Option.bind_some]
      cases cut response <;> rfl

/-- **The four calls are one transaction** with their own host, request and result. -/
theorem Call.run_eq (c : Call) (net : Net) (o : ThethingsiO) :
    c.run net o = transact c.failures c.cut o c.host (c.request o.thingToken) net := by
  cases c <;> exact transact_map _ _ _ _ _ _ _

end Thethings.Http
