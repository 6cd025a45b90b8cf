import LkRequest.Library.Text

/-!
# The HTTP/2 connection driver

`lkh2/src/driver.rs`: the loop that dispatches requests to streams and hands what the engine
reports to the channels of the requests. A turn of the loop is one branch of its `select!` followed
by the dispatch of waiting requests; what the engine and the socket do in a turn is part of the
turn.
-/

namespace LkRequest.H2

open Library

abbrev StreamId := Nat
abbrev RequestId := Nat

/-! ## Errors -/

inductive DriverError where
  | io (message : Text)
  | protocol (message : Text)
  | streamReset (errorCode : Nat)
  | goAway (message : Text)
  | shutdown
  | channelClosed

namespace DriverError

/-- The `Display` of an error. -/
def display : DriverError → Text
  | io message => "I/O error: ".toList ++ message
  | protocol message => "protocol error: ".toList ++ message
  | streamReset errorCode => "stream reset: error_code=".toList ++ Text.ofNat errorCode
  | goAway message => "GOAWAY: ".toList ++ message
  | shutdown => "connection shut down".toList
  | channelClosed => "channel closed".toList

end DriverError

/-! ## Events of the engine -/

structure Headers where
  fields : List (Text × Text)
  deriving DecidableEq

/-- `get_status`: the first `:status` field, if it is a number of 16 bits. -/
def Headers.status? (headers : Headers) : Option Nat :=
  match headers.fields.find? (·.1 = ":status".toList) with
  | some (_, value) => (Text.parseU64 value).filter (· < 2 ^ 16)
  | none => none

/-- `is_interim_status`. -/
def isInterimStatus (status : Nat) : Bool := 100 ≤ status && status < 200

inductive H2Event where
  | settingsAcked
  | localSettingsAcked
  | responseHeaders (streamId : StreamId) (headers : Headers) (endStream : Bool)
  | responseData (streamId : StreamId) (data : Bytes) (endStream : Bool)
  | streamReset (streamId : StreamId) (errorCode : Nat)
  | pingAck
  | goAway (lastStreamId : StreamId) (errorCode : Nat) (debugData : Bytes)
  | windowUpdate (streamId : StreamId) (increment : Nat)
  | error (message : Text)
  deriving DecidableEq

/-! ## State -/

/-- What is sent on a request's two channels. -/
inductive Message where
  | headers (result : Except DriverError Headers)
  | body (result : Except DriverError Bytes)

/-- `PendingStream`: the request, and whether its `headers_tx` has not been used yet. -/
structure PendingStream where
  request : RequestId
  headersOpen : Bool

structure Driver where
  pending : List (StreamId × PendingStream)
  waiting : List RequestId
  shutdown : Bool
  exited : Bool
  sent : List (RequestId × Message)

namespace Driver

def start : Driver := ⟨[], [], false, false, []⟩

def find (driver : Driver) (streamId : StreamId) : Option PendingStream :=
  (driver.pending.find? (·.1 = streamId)).map Prod.snd

def remove (driver : Driver) (streamId : StreamId) : Driver :=
  { driver with pending := driver.pending.filter (·.1 ≠ streamId) }

def insert (driver : Driver) (streamId : StreamId) (stream : PendingStream) : Driver :=
  { driver with pending := driver.pending.filter (·.1 ≠ streamId) ++ [(streamId, stream)] }

def send (driver : Driver) (request : RequestId) (messages : List Message) : Driver :=
  { driver with sent := driver.sent ++ messages.map (request, ·) }

/-! ## Failing requests -/

/-- The messages of a failed stream: the headers channel, if it is still open, and the body. -/
def failure (stream : PendingStream) (error : DriverError) : List Message :=
  (if stream.headersOpen then [.headers (.error error)] else []) ++ [.body (.error error)]

/-- `notify_all_error`. -/
def notifyAllError (driver : Driver) (error : DriverError) : Driver :=
  let failed := driver.pending.foldl
    (fun failed entry => failed.send entry.2.request (failure entry.2 error)) driver
  { failed with pending := [] }

/-- `notify_waiting_error`. -/
def notifyWaitingError (driver : Driver) (error : DriverError) : Driver :=
  let failed := driver.waiting.foldl
    (fun failed request => failed.send request (failure ⟨request, true⟩ error)) driver
  { failed with waiting := [] }

/-! ## Events -/

/-- The text of a GOAWAY with an error code. -/
def goAwayMessage (errorCode : Nat) (debugData : Bytes) : Text :=
  "error_code=".toList ++ Text.ofNat errorCode ++ ", debug=".toList ++ Text.fromUtf8Lossy debugData

/-- The streams that a graceful GOAWAY leaves unprocessed: only the headers channel is told. -/
def rejectStale (driver : Driver) (lastStreamId : StreamId) : Driver :=
  driver.pending.foldl (fun rejected entry =>
    if lastStreamId < entry.1 then
      (rejected.remove entry.1).send entry.2.request
        (if entry.2.headersOpen then
          [.headers (.error (.goAway "stream rejected by GOAWAY".toList))] else [])
    else rejected) driver

/-- `handle_event`. -/
def handleEvent (driver : Driver) : H2Event → Driver
  | .responseHeaders streamId headers endStream =>
    match driver.find streamId with
    | none => driver
    | some stream =>
      if isInterimStatus (headers.status?.getD 0) then driver
      else
        let answered :=
          (driver.insert streamId { stream with headersOpen := false }).send stream.request
            (if stream.headersOpen then [.headers (.ok headers)] else [])
        if endStream then answered.remove streamId else answered
  | .responseData streamId data endStream =>
    match driver.find streamId with
    | none => driver
    | some stream =>
      let fed := driver.send stream.request (if data = [] then [] else [.body (.ok data)])
      if endStream then fed.remove streamId else fed
  | .streamReset streamId errorCode =>
    match driver.find streamId with
    | none => driver
    | some stream =>
      (driver.remove streamId).send stream.request (failure stream (.streamReset errorCode))
  | .goAway lastStreamId errorCode debugData =>
    if errorCode ≠ 0 then driver.notifyAllError (.goAway (goAwayMessage errorCode debugData))
    else driver.rejectStale lastStreamId
  -- An error is logged, and the other events are for the caller of the engine alone.
  | .settingsAcked | .localSettingsAcked | .pingAck | .windowUpdate .. | .error _ => driver

def handleEvents (driver : Driver) (events : List H2Event) : Driver :=
  events.foldl handleEvent driver

/-! ## Dispatch -/

/-- A stream the engine can open, and the error of writing the request's frames to it. -/
structure Slot where
  streamId : StreamId
  writeFailed : Option Text

/-- The loop of `dispatch_waiting_requests`: requests whose receivers are gone take no stream. The
result is the error that ends the connection, if any. -/
def dispatchLoop (canceled : List RequestId) :
    List Slot → List RequestId → Driver → Driver × Option DriverError
  | _, [], driver => ({ driver with waiting := [] }, none)
  | [], waiting, driver => ({ driver with waiting := waiting }, none)
  | slot :: slots, request :: waiting, driver =>
    if request ∈ canceled then dispatchLoop canceled (slot :: slots) waiting driver
    else
      match slot.writeFailed with
      | none =>
        dispatchLoop canceled slots waiting (driver.insert slot.streamId ⟨request, true⟩)
      | some message =>
        ((({ driver with waiting := waiting }).remove slot.streamId).send request
          (failure ⟨request, true⟩ (.io message)), some (.io message))

/-- What a turn of the loop meets besides its input: whether the engine has an error, the streams
it can open, and the waiting requests whose receivers are gone. -/
structure Circumstances where
  draining : Bool
  slots : List Slot
  canceled : List RequestId

/-- `dispatch_waiting_requests`. -/
def dispatchWaitingRequests (driver : Driver) (circumstances : Circumstances) :
    Driver × Option DriverError :=
  if circumstances.draining then
    (driver.notifyWaitingError (.goAway "connection is draining".toList), none)
  else dispatchLoop circumstances.canceled circumstances.slots driver.waiting driver

/-! ## The loop -/

/-- A branch of the `select!`. -/
inductive Input where
  | cancelled (request : RequestId)
  | closed
  | readFailed (message : Text)
  | received (events : List H2Event) (replyFailed : Option Text)
  | command (request : RequestId) (canceled : Bool)
  | shutdown
  | shutdownTimeout

/-- Every request fails with the error, and the loop ends. -/
def failConnection (driver : Driver) (error : DriverError) : Driver :=
  { (driver.notifyAllError error).notifyWaitingError error with exited := true }

/-- The branch that is taken; it may end the loop. -/
def select (driver : Driver) : Input → Driver
  | .cancelled request => { driver with waiting := driver.waiting.erase request }
  | .closed => driver.failConnection (.io "connection closed".toList)
  | .readFailed message => driver.failConnection (.io message)
  | .received events replyFailed =>
    match replyFailed with
    | some message => driver.failConnection (.io message)
    | none => driver.handleEvents events
  | .command request canceled =>
    if driver.shutdown ∨ canceled then driver
    else { driver with waiting := driver.waiting ++ [request] }
  | .shutdown =>
    { driver with
      shutdown := true
      exited := driver.exited || (driver.pending.isEmpty && driver.waiting.isEmpty) }
  | .shutdownTimeout =>
    if driver.shutdown then driver.failConnection .shutdown else driver

/-- One turn of `driver_loop`. -/
def turn (driver : Driver) (step : Input × Circumstances) : Driver :=
  if driver.exited then driver
  else
    let selected := driver.select step.1
    if selected.exited then selected
    else
      let (dispatched, failed) := selected.dispatchWaitingRequests step.2
      match failed with
      | some error => dispatched.failConnection error
      | none =>
        if dispatched.shutdown ∧ dispatched.pending = [] ∧ dispatched.waiting = [] then
          { dispatched with exited := true }
        else dispatched

/-- A run of `driver_loop`. -/
def run (driver : Driver) (steps : List (Input × Circumstances)) : Driver :=
  steps.foldl turn driver

end Driver

end LkRequest.H2
