import LkRequest.H2.Driver

/-!
# The HTTP/2 engine

`lkh2/src/engine.rs` with the stream and connection state it works on. The connection state is part
of the engine here. What the codec and HPACK do is part of the input: a frame comes decoded, with
the headers of the block it completes. The history of an engine is read by no function: it notes
what the engine emitted, reported and accepted, newest first.
-/

namespace LkRequest.H2

open Function Library

/-! ## Windows -/

/-- A cast to `i32`. -/
def asI32 (value : Int) : Int := value.bmod (2 ^ 32)

def maxWindow : Int := 2 ^ 31 - 1

/-- `consume_send_window`. -/
def consumeSendWindow (window : Int) (amount : Nat) : Int :=
  asI32 (window - asI32 (min amount window.toNat))

/-- `consume_recv_window`. -/
def consumeRecvWindow (window : Int) (amount : Nat) : Option Int :=
  if window < 0 ∨ window < amount then none else some (asI32 (window - asI32 amount))

/-- `update_send_window` and `update_recv_window`. -/
def updateWindow (window : Int) (increment : Int) : Option Int :=
  if maxWindow < window + increment then none else some (asI32 (window + increment))

/-! ## Streams -/

inductive StreamState where
  | idle
  | reservedLocal
  | reservedRemote
  | open
  | halfClosedLocal
  | halfClosedRemote
  | closed
  deriving DecidableEq

def StreamState.canSend (state : StreamState) : Bool := state = .open || state = .halfClosedRemote

def StreamState.canReceive (state : StreamState) : Bool := state = .open || state = .halfClosedLocal

structure H2Stream where
  state : StreamState
  sendWindow : Int
  recvWindow : Int
  initialWindowSize : Nat
  deriving DecidableEq

namespace H2Stream

/-- A stream of `open_stream`. -/
def newWithWindows (sendInitialWindow recvInitialWindow : Nat) : H2Stream :=
  ⟨.open, asI32 sendInitialWindow, asI32 recvInitialWindow, sendInitialWindow⟩

/-- No caller looks at the error of another state. -/
def sendEndStream (stream : H2Stream) : H2Stream :=
  match stream.state with
  | .open => { stream with state := .halfClosedLocal }
  | .halfClosedRemote => { stream with state := .closed }
  | _ => stream

def recvEndStream (stream : H2Stream) : H2Stream :=
  match stream.state with
  | .open => { stream with state := .halfClosedRemote }
  | .halfClosedLocal => { stream with state := .closed }
  | _ => stream

def reset (stream : H2Stream) : H2Stream := { stream with state := .closed }

def applyInitialWindowSize (stream : H2Stream) (newSize : Nat) : Option H2Stream :=
  (updateWindow stream.sendWindow (newSize - stream.initialWindowSize)).map fun window =>
    { stream with sendWindow := window, initialWindowSize := newSize }

end H2Stream

/-! ## Settings -/

structure H2Settings where
  headerTableSize : Nat := 4096
  enablePush : Bool := true
  maxConcurrentStreams : Option Nat := none
  initialWindowSize : Nat := 65535
  maxFrameSize : Nat := 16384
  maxHeaderListSize : Option Nat := none

/-- `SettingsParameter`. -/
structure SettingsParameter where
  id : Nat
  value : Nat
  deriving DecidableEq

/-- The text of a `SettingsError`. -/
def settingsError (param : SettingsParameter) (reason : Text) : Text :=
  "invalid setting 0x".toList ++ (Nat.toDigits 16 param.id).leftpad 4 '0' ++ "=".toList ++
    Text.ofNat param.value ++ ": ".toList ++ reason

namespace H2Settings

def apply (settings : H2Settings) (param : SettingsParameter) : Except Text H2Settings :=
  match param.id with
  | 1 => .ok { settings with headerTableSize := param.value }
  | 2 =>
    if 1 < param.value then .error (settingsError param "ENABLE_PUSH must be 0 or 1".toList)
    else .ok { settings with enablePush := param.value = 1 }
  | 3 => .ok { settings with maxConcurrentStreams := some param.value }
  | 4 =>
    if 0x7FFFFFFF < param.value then
      .error (settingsError param "INITIAL_WINDOW_SIZE must not exceed 2^31-1".toList)
    else .ok { settings with initialWindowSize := param.value }
  | 5 =>
    if 16384 ≤ param.value ∧ param.value ≤ 16777215 then
      .ok { settings with maxFrameSize := param.value }
    else
      .error (settingsError param "MAX_FRAME_SIZE must be between 16384 and 16777215".toList)
  | 6 => .ok { settings with maxHeaderListSize := some param.value }
  | _ => .ok settings

/-- The parameters one after the other, up to the first that is refused, and its error. -/
def applyAll (settings : H2Settings) : List SettingsParameter → H2Settings × Option Text
  | [] => (settings, none)
  | param :: params =>
    match settings.apply param with
    | .ok next => next.applyAll params
    | .error message => (settings, some message)

end H2Settings

/-! ## Frames -/

structure PrioritySpec where
  exclusive : Bool
  streamDependency : StreamId
  weight : Nat
  deriving DecidableEq

/-- `H2Frame`. The contents of frames that the engine ignores or refuses are left out. -/
inductive H2Frame where
  | data (streamId : StreamId) (data : Bytes) (endStream : Bool) (padding : Option Nat)
  | headers (streamId : StreamId) (headerBlock : Bytes) (endStream endHeaders : Bool)
      (priority : Option PrioritySpec)
  | continuation (streamId : StreamId) (headerBlock : Bytes) (endHeaders : Bool)
  | settings (ack : Bool) (settings : List SettingsParameter)
  | windowUpdate (streamId : StreamId) (increment : Nat)
  | rstStream (streamId : StreamId) (errorCode : Nat)
  | ping (ack : Bool) (data : Bytes)
  | goAway (lastStreamId : StreamId) (errorCode : Nat) (debugData : Bytes)
  | pushPromise
  | ignored
  deriving DecidableEq

/-- An inbound frame, with what the HPACK decoder makes of the header block that the frame
completes, and the order in which the hash map of the streams is visited for it. -/
structure Inbound where
  frame : H2Frame
  decoded : Except Text Headers := .error []
  order : List StreamId := []

/-! ## Header blocks -/

/-- `ContinuationAssembler`. -/
structure ContinuationAssembler where
  /-- The block so far, its END_STREAM flag and the number of CONTINUATION frames. -/
  bufs : StreamId → Option (Bytes × Bool × Nat)
  activeStream : Option StreamId
  maxHeaderBlockSize : Nat

inductive AssemblyResult where
  | incomplete
  | complete (streamId : StreamId) (headerBlock : Bytes) (endStream : Bool)
  | error (message : Text)

namespace ContinuationAssembler

def tooLarge (what : Text) (size limit : Nat) : Text :=
  what ++ " size ".toList ++ Text.ofNat size ++ " exceeds limit ".toList ++ Text.ofNat limit

/-- The error of a CONTINUATION frame on a stream without an open block. -/
def unexpected (streamId : StreamId) : Option StreamId → Text
  | none =>
    "CONTINUATION received for stream ".toList ++ Text.ofNat streamId ++
      " without preceding HEADERS".toList
  | some expected =>
    "unexpected CONTINUATION for stream ".toList ++ Text.ofNat streamId ++
      ", expected ".toList ++ Text.ofNat expected

/-- The error of a block that grows beyond a limit. -/
def overflow (streamId : StreamId) (count size limit : Nat) : Text :=
  if 64 < count then
    "too many CONTINUATION frames (".toList ++ Text.ofNat count ++ ") for stream ".toList ++
      Text.ofNat streamId
  else tooLarge "accumulated header block".toList size limit

def pushHeaders (assembler : ContinuationAssembler) (streamId : StreamId) (headerBlock : Bytes)
    (endStream endHeaders : Bool) : ContinuationAssembler × AssemblyResult :=
  if endHeaders then (assembler, .complete streamId headerBlock endStream)
  else if assembler.maxHeaderBlockSize < headerBlock.length then
    (assembler, .error (tooLarge "header block".toList headerBlock.length
      assembler.maxHeaderBlockSize))
  else
    ({ assembler with
        bufs := update assembler.bufs streamId (some (headerBlock, endStream, 0))
        activeStream := some streamId }, .incomplete)

def pushContinuation (assembler : ContinuationAssembler) (streamId : StreamId)
    (headerBlock : Bytes) (endHeaders : Bool) : ContinuationAssembler × AssemblyResult :=
  if assembler.activeStream ≠ some streamId then
    (assembler, .error (unexpected streamId assembler.activeStream))
  else
    let removed := { assembler with
      bufs := update assembler.bufs streamId none, activeStream := none }
    match assembler.bufs streamId with
    | none => (assembler, .incomplete)
    | some (block, endStream, count) =>
      if 64 < count + 1 ∨ assembler.maxHeaderBlockSize < block.length + headerBlock.length then
        (removed, .error (overflow streamId (count + 1) (block.length + headerBlock.length)
          assembler.maxHeaderBlockSize))
      else if endHeaders then (removed, .complete streamId (block ++ headerBlock) endStream)
      else
        ({ assembler with
            bufs := update assembler.bufs streamId
              (some (block ++ headerBlock, endStream, count + 1)) }, .incomplete)

end ContinuationAssembler

/-! ## Flow control -/

/-- `FlowControlPolicy`: `ThresholdFlowControl` with the threshold of an initial window, or
`ImmediateFlowControl`. -/
structure FlowControl where
  threshold : Option (Nat → Nat)
  accumulated : StreamId → Nat

namespace FlowControl

def onDataReceived (policy : FlowControl) (streamId : StreamId) (dataLen initialWindow : Nat) :
    FlowControl × Option Nat :=
  match policy.threshold with
  | none => (policy, if 0 < dataLen then some dataLen else none)
  | some threshold =>
    if dataLen = 0 then (policy, none)
    else
      let accumulated := policy.accumulated streamId + dataLen
      if threshold initialWindow ≤ accumulated then
        ({ policy with accumulated := update policy.accumulated streamId 0 },
          some accumulated)
      else
        ({ policy with accumulated := update policy.accumulated streamId accumulated },
          none)

def onStreamClosed (policy : FlowControl) (streamId : StreamId) : FlowControl :=
  { policy with accumulated := update policy.accumulated streamId 0 }

end FlowControl

/-! ## The engine -/

/-- Body data that wait for a window. -/
structure PendingBodyData where
  streamId : StreamId
  data : Bytes
  endStream : Bool
  deriving DecidableEq

inductive Note where
  /-- A frame, with the windows of the connection and of its stream just before it. -/
  | emitted (frame : H2Frame) (connWindow streamWindow : Int) (maxFrameSize : Nat)
  | reported (event : H2Event)
  | opened (streamId : StreamId)
  /-- A window update on a stream or on the connection. -/
  | accepted (stream : Option StreamId) (increment : Nat)
  deriving DecidableEq

/-- What `ConnState` and the engine record of the settings and the GOAWAY that came. -/
structure Progress where
  settingsAcked : Bool := false
  remoteSettingsReceived : Bool := false
  goawayReceived : Bool := false
  goawayLastStreamId : Option StreamId := none
  /-- The code of the error. -/
  error : Option Nat := none

/-- `handle_goaway` of `ConnState`. A code that `from_u32` does not know is an internal error. -/
def Progress.handleGoaway (progress : Progress) (lastStreamId : StreamId) (errorCode : Nat) :
    Progress :=
  { progress with
    goawayReceived := true
    goawayLastStreamId := some lastStreamId
    error :=
      if errorCode = 0 then progress.error
      else some (if errorCode ≤ 13 then errorCode else 2) }

structure H2Engine where
  streams : StreamId → Option H2Stream
  /-- Every stream that was opened. -/
  ids : List StreamId
  nextStreamId : StreamId
  remoteSettings : H2Settings
  localSettings : H2Settings
  pendingSettings : List H2Settings
  sendWindow : Int
  recvWindow : Int
  continuation : ContinuationAssembler
  flowControl : FlowControl
  connInitialRecvWindow : Nat
  pendingData : List PendingBodyData
  progress : Progress
  history : List Note

namespace H2Engine

/-- `client_with_policies`, of the settings and the window update of a profile. -/
def client (settings : List SettingsParameter) (windowUpdate : Nat) (flowControl : FlowControl) :
    H2Engine where
  streams _ := none
  ids := []
  nextStreamId := 1
  remoteSettings := {}
  localSettings := { enablePush := false }
  -- A parameter that is refused is passed over.
  pendingSettings :=
    [settings.foldl (fun pending param => (pending.apply param).toOption.getD pending)
      { enablePush := false }]
  sendWindow := 65535
  recvWindow := (updateWindow 65535 windowUpdate).getD 65535
  continuation :=
    ⟨fun _ => none, none,
      ((settings.find? (·.id = 6)).map SettingsParameter.value).getD (256 * 1024)⟩
  flowControl := flowControl
  connInitialRecvWindow := min (65535 + windowUpdate) (2 ^ 32 - 1)
  pendingData := []
  progress := {}
  history := []

def streamWindow (engine : H2Engine) (streamId : StreamId) : Int :=
  ((engine.streams streamId).map H2Stream.sendWindow).getD 0

def note (engine : H2Engine) (entry : Note) : H2Engine :=
  { engine with history := entry :: engine.history }

def emit (engine : H2Engine) (streamId : StreamId) (frame : H2Frame) : H2Engine :=
  engine.note (.emitted frame engine.sendWindow (engine.streamWindow streamId)
    engine.remoteSettings.maxFrameSize)

def report (engine : H2Engine) (event : H2Event) : H2Engine := engine.note (.reported event)

/-- `get_stream_mut`. -/
def modifyStream (engine : H2Engine) (streamId : StreamId) (change : H2Stream → H2Stream) :
    H2Engine :=
  { engine with
    streams := update engine.streams streamId ((engine.streams streamId).map change) }

def cleanupClosedStreams (engine : H2Engine) : H2Engine :=
  { engine with streams := fun id => (engine.streams id).filter (·.state ≠ .closed) }

def openStream (engine : H2Engine) : H2Engine :=
  let recvWindow :=
    ((engine.pendingSettings.getLast?).getD engine.localSettings).initialWindowSize
  { engine with
    streams := update engine.streams engine.nextStreamId
      (some (.newWithWindows engine.remoteSettings.initialWindowSize recvWindow))
    ids := engine.nextStreamId :: engine.ids
    nextStreamId := (engine.nextStreamId + 2) % 2 ^ 32
    history := .opened engine.nextStreamId :: engine.history }

/-! ## Sending -/

/-- The CONTINUATION frames of the rest of a header block, by at most the given number of turns. -/
def emitContinuation (engine : H2Engine) (streamId : StreamId) : Nat → Bytes → H2Engine
  | 0, _ => engine
  | fuel + 1, remaining =>
    if remaining = [] then engine
    else
      let chunkLen := min remaining.length engine.remoteSettings.maxFrameSize
      let later := remaining.drop chunkLen
      (engine.emit streamId (.continuation streamId (remaining.take chunkLen) later.isEmpty))
        |>.emitContinuation streamId fuel later

/-- `build_headers`, of the block that the HPACK encoder produced and the priority that was
resolved. -/
def buildHeaders (engine : H2Engine) (streamId : StreamId) (headerBlock : Bytes)
    (endStream : Bool) (priority : Option PrioritySpec) : H2Engine :=
  let firstMax := engine.remoteSettings.maxFrameSize - (if priority.isSome then 5 else 0)
  let fits : Bool := headerBlock.length ≤ firstMax
  let first := engine.emit streamId
    (.headers streamId (headerBlock.take firstMax) endStream fits priority)
  let emitted :=
    first.emitContinuation streamId headerBlock.length (headerBlock.drop firstMax)
  if endStream then emitted.modifyStream streamId H2Stream.sendEndStream else emitted

/-- A DATA frame that ends a stream ends it for sending. -/
def emitData (engine : H2Engine) (streamId : StreamId) (chunk : Bytes) (endStream : Bool) :
    H2Engine :=
  let emitted := engine.emit streamId (.data streamId chunk endStream none)
  if endStream then emitted.modifyStream streamId H2Stream.sendEndStream else emitted

def consume (engine : H2Engine) (streamId : StreamId) (amount : Nat) : H2Engine :=
  { engine.modifyStream streamId fun stream =>
      { stream with sendWindow := consumeSendWindow stream.sendWindow amount } with
    sendWindow := consumeSendWindow engine.sendWindow amount }

/-- How much of the remaining data the next frame holds. -/
def chunkSize (engine : H2Engine) (streamId : StreamId) (remaining : Bytes) : Nat :=
  min (min remaining.length engine.remoteSettings.maxFrameSize)
    (min engine.sendWindow.toNat (engine.streamWindow streamId).toNat)

/-- One turn of the loop of `build_data`. The frame is noted before its bytes are taken from the
windows. -/
def sendChunk (engine : H2Engine) (streamId : StreamId) (remaining : Bytes) (endStream : Bool) :
    H2Engine :=
  let size := engine.chunkSize streamId remaining
  (engine.emitData streamId (remaining.take size) (endStream && (remaining.drop size).isEmpty))
    |>.consume streamId size

def park (engine : H2Engine) (pending : PendingBodyData) : H2Engine :=
  { engine with pendingData := engine.pendingData ++ [pending] }

/-- The loop of `build_data`, by at most the given number of turns. -/
def sendChunks (engine : H2Engine) (streamId : StreamId) (endStream : Bool) : Nat → Bytes → H2Engine
  | 0, _ => engine
  | fuel + 1, remaining =>
    if remaining = [] then engine
    else if min engine.sendWindow.toNat (engine.streamWindow streamId).toNat = 0 then
      engine.park ⟨streamId, remaining, endStream⟩
    else
      (engine.sendChunk streamId remaining endStream).sendChunks streamId endStream fuel
        (remaining.drop (engine.chunkSize streamId remaining))

def buildData (engine : H2Engine) (streamId : StreamId) (data : Bytes) (endStream : Bool) :
    H2Engine :=
  if data = [] then if endStream then engine.emitData streamId [] true else engine
  else engine.sendChunks streamId endStream data.length data

def drainPendingData (engine : H2Engine) : H2Engine :=
  engine.pendingData.foldl
    (fun drained pending => drained.buildData pending.streamId pending.data pending.endStream)
    { engine with pendingData := [] }

/-- `build_request` and `build_native_request`. -/
def buildRequest (engine : H2Engine) (streamId : StreamId) (headerBlock : Bytes)
    (priority : Option PrioritySpec) (body : Option Bytes) : H2Engine :=
  match body with
  | some (byte :: rest) =>
    (engine.buildHeaders streamId headerBlock false priority).buildData streamId (byte :: rest) true
  | _ => engine.buildHeaders streamId headerBlock true priority

/-! ## Receiving -/

def emitRstStream (engine : H2Engine) (streamId : StreamId) (errorCode : Nat) : H2Engine :=
  (engine.modifyStream streamId H2Stream.reset).emit streamId (.rstStream streamId errorCode)

/-- `make_goaway`: no function changes `last_peer_stream_id`. -/
def emitGoAway (engine : H2Engine) (errorCode : Nat) : H2Engine :=
  engine.emit 0 (.goAway 0 errorCode [])

/-- A connection error is answered with GOAWAY and reported. -/
def refuse (engine : H2Engine) (errorCode : Nat) (message : Text) : H2Engine :=
  (engine.emitGoAway errorCode).report (.error message)

/-- The loop over the streams in `apply_remote_settings`, and its error. A second visit of a stream
changes nothing. -/
def rebaseStreams (engine : H2Engine) : List StreamId → H2Engine × Option Text
  | [] => (engine, none)
  | id :: ids =>
    match engine.streams id with
    | none => engine.rebaseStreams ids
    | some stream =>
      match stream.applyInitialWindowSize engine.remoteSettings.initialWindowSize with
      | none => (engine, some "flow control error: window size overflow".toList)
      | some rebased => (engine.modifyStream id fun _ => rebased).rebaseStreams ids

def applyRemoteSettings (engine : H2Engine) (params : List SettingsParameter)
    (order : List StreamId) : H2Engine × Option Text :=
  let (settings, refused) := engine.remoteSettings.applyAll params
  let applied := { engine with remoteSettings := settings }
  match refused with
  | none => applied.rebaseStreams (order ++ engine.ids)
  | some message => (applied, some ("settings error: ".toList ++ message))

def handleSettings (engine : H2Engine) (ack : Bool) (params : List SettingsParameter)
    (order : List StreamId) : H2Engine :=
  if ack then
    let acked := engine.report .localSettingsAcked
    match engine.pendingSettings with
    | [] => acked
    | pending :: later =>
      { acked with
        localSettings := pending
        pendingSettings := later
        progress := { engine.progress with settingsAcked := true } }
  else
    match engine.applyRemoteSettings params order with
    | (applied, none) =>
      { applied.emit 0 (.settings true []) with
        progress := { engine.progress with remoteSettingsReceived := true } }
        |>.report .settingsAcked
    | (applied, some message) => applied.refuse 1 message

def completeHeaders (engine : H2Engine) (streamId : StreamId) (endStream : Bool)
    (decoded : Except Text Headers) : H2Engine :=
  match decoded with
  | .error message =>
    engine.refuse 9 ("HPACK decode error on stream ".toList ++ Text.ofNat streamId ++
      ": HPACK error: ".toList ++ message)
  | .ok headers =>
    if (engine.streams streamId).isNone then
      engine.report
        (.error ("received HEADERS for unknown stream ".toList ++ Text.ofNat streamId))
    else
      (if endStream then engine.modifyStream streamId H2Stream.recvEndStream else engine)
        |>.report (.responseHeaders streamId headers endStream)

/-- The end of `handle_headers` and `handle_continuation`. -/
def assembled (engine : H2Engine) (decoded : Except Text Headers)
    (outcome : ContinuationAssembler × AssemblyResult) : H2Engine :=
  let pushed := { engine with continuation := outcome.1 }
  match outcome.2 with
  | .complete streamId _ endStream => pushed.completeHeaders streamId endStream decoded
  | .incomplete => pushed
  | .error message => pushed.refuse 1 message

/-- The credit that the policy gives for data on the connection. -/
def creditConnection (engine : H2Engine) (flowLen : Nat) : H2Engine :=
  let (policy, credit) :=
    engine.flowControl.onDataReceived 0 flowLen engine.connInitialRecvWindow
  let told := { engine with flowControl := policy }
  match credit with
  | none => told
  | some increment =>
    { told.emit 0 (.windowUpdate 0 increment) with
      recvWindow := (updateWindow engine.recvWindow increment).getD engine.recvWindow }

/-- The credit that the policy gives for data on a stream. -/
def creditStream (engine : H2Engine) (streamId : StreamId) (flowLen initialWindow : Nat) :
    H2Engine :=
  let (policy, credit) := engine.flowControl.onDataReceived streamId flowLen initialWindow
  let told := { engine with flowControl := policy }
  match credit with
  | none => told
  | some increment =>
    (told.emit streamId (.windowUpdate streamId increment)).modifyStream streamId fun stream =>
      { stream with
        recvWindow := (updateWindow stream.recvWindow increment).getD stream.recvWindow }

/-- The last part of `handle_data`. -/
def acceptData (engine : H2Engine) (streamId : StreamId) (data : Bytes) (endStream : Bool)
    (flowLen initialWindow : Nat) : H2Engine :=
  let credited :=
    if 0 < flowLen then
      (engine.creditConnection flowLen).creditStream streamId flowLen initialWindow
    else engine
  let closed :=
    if endStream then
      { credited with flowControl := credited.flowControl.onStreamClosed streamId }
        |>.cleanupClosedStreams
    else credited
  closed.report (.responseData streamId data endStream)

/-- The error of a charge beyond the window of the connection. -/
def exhausted (window : Int) (requested : Nat) : Text :=
  "flow control error: connection receive window exhausted: window=".toList ++
    (if window < 0 then ['-'] else []) ++ Text.ofNat window.natAbs ++ ", requested=".toList ++
    Text.ofNat requested

def handleData (engine : H2Engine) (streamId : StreamId) (data : Bytes) (endStream : Bool)
    (padding : Option Nat) : H2Engine :=
  let flowLen := data.length + (padding.map (1 + ·)).getD 0
  match consumeRecvWindow engine.recvWindow flowLen with
  | none => engine.refuse 3 (exhausted engine.recvWindow flowLen)
  | some recvWindow =>
    let charged := { engine with recvWindow := recvWindow }
    match engine.streams streamId with
    | none => charged.acceptData streamId data endStream flowLen 65535
    | some stream =>
      if ¬stream.state.canReceive then charged.emitRstStream streamId 5
      else
        match consumeRecvWindow stream.recvWindow flowLen with
        | none => (charged.emitRstStream streamId 3).report (.streamReset streamId 3)
        | some streamRecvWindow =>
          let consumed := { stream with recvWindow := streamRecvWindow }
          let received := if endStream then consumed.recvEndStream else consumed
          (charged.modifyStream streamId fun _ => received).acceptData streamId data endStream
            flowLen stream.initialWindowSize

def handleWindowUpdate (engine : H2Engine) (streamId : StreamId) (increment : Nat) : H2Engine :=
  if increment = 0 then
    if streamId = 0 then engine.refuse 1 "WINDOW_UPDATE increment=0 on connection".toList
    else engine.emitRstStream streamId 1
  else if streamId = 0 then
    match updateWindow engine.sendWindow increment with
    | none => engine.refuse 3 "flow control error: connection send window overflow".toList
    | some window =>
      ({ engine with sendWindow := window }.note (.accepted none increment)).drainPendingData
        |>.report (.windowUpdate streamId increment)
  else
    match engine.streams streamId with
    | none => engine.drainPendingData.report (.windowUpdate streamId increment)
    | some stream =>
      match updateWindow stream.sendWindow increment with
      | none =>
        (engine.emitRstStream streamId 3).report (.error "window size overflow".toList)
      | some window =>
        (engine.modifyStream streamId fun stream => { stream with sendWindow := window })
          |>.note (.accepted (some streamId) increment)
          |>.drainPendingData
          |>.report (.windowUpdate streamId increment)

def handleRstStream (engine : H2Engine) (streamId : StreamId) (errorCode : Nat) : H2Engine :=
  (engine.modifyStream streamId H2Stream.reset).cleanupClosedStreams
    |>.report (.streamReset streamId errorCode)

/-- `handle_frame`. -/
def handleFrame (engine : H2Engine) (inbound : Inbound) : H2Engine :=
  match inbound.frame with
  | .settings ack params => engine.handleSettings ack params inbound.order
  | .headers streamId block endStream endHeaders _ =>
    engine.assembled inbound.decoded
      (engine.continuation.pushHeaders streamId block endStream endHeaders)
  | .continuation streamId block endHeaders =>
    engine.assembled inbound.decoded
      (engine.continuation.pushContinuation streamId block endHeaders)
  | .data streamId data endStream padding => engine.handleData streamId data endStream padding
  | .windowUpdate streamId increment => engine.handleWindowUpdate streamId increment
  | .rstStream streamId errorCode => engine.handleRstStream streamId errorCode
  | .ping ack data =>
    if ack then engine else (engine.emit 0 (.ping true data)).report .pingAck
  | .goAway lastStreamId errorCode debugData =>
    { engine with progress := engine.progress.handleGoaway lastStreamId errorCode }
      |>.report (.goAway lastStreamId errorCode debugData)
  | .pushPromise => engine.refuse 1 "server push not supported".toList
  | .ignored => engine

/-! ## Runs -/

/-- A call of the driver. A call of `process` is the frames of its input one after the other, and
an error of the codec if it meets one. -/
inductive Call where
  | openStream
  | buildHeaders (streamId : StreamId) (headerBlock : Bytes) (endStream : Bool)
      (priority : Option PrioritySpec)
  | buildData (streamId : StreamId) (data : Bytes) (endStream : Bool)
  | buildRequest (streamId : StreamId) (headerBlock : Bytes) (priority : Option PrioritySpec)
      (body : Option Bytes)
  | receive (inbound : Inbound)
  | malformed (message : Text)

def call (engine : H2Engine) : Call → H2Engine
  | .openStream => engine.openStream
  | .buildHeaders streamId block endStream priority =>
    engine.buildHeaders streamId block endStream priority
  | .buildData streamId data endStream => engine.buildData streamId data endStream
  | .buildRequest streamId block priority body => engine.buildRequest streamId block priority body
  | .receive inbound => engine.handleFrame inbound
  | .malformed message => engine.refuse 1 message

def run (engine : H2Engine) (calls : List Call) : H2Engine := calls.foldl call engine

end H2Engine

end LkRequest.H2
