import LkRequest.H2.Codec
import LkRequest.Library.Incremental

/-!
# Inbound bytes

`process` of the engine over its codec. The bytes may arrive in any pieces: a frame is taken out of
the buffer when it is there in full and not before. HPACK is a parameter.
-/

namespace LkRequest.H2

open Library List

namespace H2Codec

variable {decodePayload : H2FrameHeader → Bytes → Except Text H2Frame} {codec : H2Codec}
  {buf rest : Bytes} {length : Nat} {read : Bytes → DecodeResult} {answer : DecodeResult}
  (hneed : ∀ minBytes, answer ≠ .needMoreData minBytes)
include hneed

/-- More bytes change nothing about a frame that is there in full. -/
theorem takeFrame_append (htake : takeFrame buf length read = (answer, rest)) (more : Bytes) :
    takeFrame (buf ++ more) length read = (answer, rest ++ more) ∧ rest.length < buf.length := by
  rw [takeFrame] at htake
  split at htake
  · exact absurd (Prod.mk.inj htake).1.symm (hneed _)
  next hwhole =>
    obtain ⟨rfl, rfl⟩ := Prod.mk.inj htake
    have hlength : (buf ++ more).length = buf.length + more.length := length_append
    rw [takeFrame, if_neg (by omega), slice, slice, drop_append_of_le_length (by omega),
      drop_append_of_le_length (by omega), take_append_of_le_length (by rw [length_drop]; omega),
      length_drop]
    exact ⟨rfl, by omega⟩

/-- More bytes change nothing about an answer that asks for none. -/
theorem decode_append (hdecode : codec.decode decodePayload buf = (answer, rest)) (more : Bytes) :
    codec.decode decodePayload (buf ++ more) = (answer, rest ++ more) ∧
      ((∀ message, answer ≠ .error message) → rest.length < buf.length) := by
  rw [decode] at hdecode
  split at hdecode
  · exact absurd (Prod.mk.inj hdecode).1.symm (hneed _)
  next hlong =>
    have hlength : (buf ++ more).length = buf.length + more.length := length_append
    have htake : (buf ++ more).take 9 = buf.take 9 := take_append_of_le_length (by omega)
    rw [decode, if_neg (by omega), htake]
    split at hdecode
    · exact (takeFrame_append hneed hdecode more).imp_right fun hless _ => hless
    · split at hdecode
      next hlarge =>
        obtain ⟨rfl, rfl⟩ := Prod.mk.inj hdecode
        simp only [if_pos hlarge]
        exact ⟨trivial, fun hframe => absurd rfl (hframe _)⟩
      next hsmall =>
        simp only [if_neg hsmall]
        exact (takeFrame_append hneed hdecode more).imp_right fun hless _ => hless

end H2Codec

/-- The engine with its codec, its HPACK decoder and encoder, and the bytes that wait. -/
structure Reader (η : Type) where
  codec : H2Codec
  engine : H2Engine
  hpack : η
  buffer : Bytes

/-- How payloads are decoded, what HPACK does, and the order in which the streams of an engine are
visited. -/
structure Environment (η : Type) where
  decodePayload : H2FrameHeader → Bytes → Except Text H2Frame
  decode : η → Bytes → η × Except Text (List (Text × Text))
  setDecoderTableSize : η → Nat → η
  setEncoderTableSize : η → Nat → η
  order : H2Engine → List StreamId

/-- The length of a `String`. -/
def utf8Length (text : Text) : Nat := (text.map Char.utf8Size).sum

/-- The end of `decode_header_block`. -/
def checkListSize (settings : H2Settings) (fields : List (Text × Text)) : Except Text Headers :=
  let maxSize := settings.maxHeaderListSize.getD (256 * 1024)
  let total := (fields.map fun field => utf8Length field.1 + utf8Length field.2 + 32).sum
  if maxSize < total then
    .error ("header list size ".toList ++ Text.ofNat total ++ " exceeds limit ".toList ++
      Text.ofNat maxSize)
  else .ok ⟨fields⟩

namespace Reader

variable {η : Type} (env : Environment η)

/-- The reader of a profile. -/
def client (settings : List SettingsParameter) (windowUpdate : Nat) (flowControl : FlowControl)
    (hpack : η) : Reader η :=
  ⟨.client settings, .client settings windowUpdate flowControl, hpack, []⟩

def feed (reader : Reader η) (bytes : Bytes) : Reader η :=
  { reader with buffer := reader.buffer ++ bytes }

def decodeHeaderBlock (reader : Reader η) (block : Bytes) : η × Except Text Headers :=
  let (hpack, decoded) := env.decode reader.hpack block
  (hpack, (decoded.bind (checkListSize reader.engine.localSettings)).mapError
    ("HPACK decoding error: ".toList ++ ·))

/-- HPACK after a SETTINGS frame. An acknowledgment resizes the decoder, and the settings of the
peer resize the encoder. -/
def resize (reader : Reader η) (ack : Bool) (params : List SettingsParameter) : η :=
  if ack then
    match reader.engine.pendingSettings with
    | [] => reader.hpack
    | pending :: _ =>
      if pending.headerTableSize ≠ reader.engine.localSettings.headerTableSize then
        env.setDecoderTableSize reader.hpack pending.headerTableSize
      else reader.hpack
  else
    match reader.engine.applyRemoteSettings params (env.order reader.engine) with
    | (_, some _) => reader.hpack
    | (applied, none) =>
      if applied.remoteSettings.headerTableSize ≠ reader.engine.remoteSettings.headerTableSize then
        env.setEncoderTableSize reader.hpack applied.remoteSettings.headerTableSize
      else reader.hpack

/-- HPACK after a frame, and what it makes of the block that the frame completes. -/
def readBlock (reader : Reader η) (frame : H2Frame) : η × Except Text Headers :=
  match frame with
  | .settings ack params => (reader.resize env ack params, .error [])
  | _ =>
    match (reader.engine.continuation.push frame).2 with
    | .complete _ block _ => reader.decodeHeaderBlock env block
    | _ => (reader.hpack, .error [])

/-- `handle_frame`. -/
def handle (reader : Reader η) (frame : H2Frame) : Reader η :=
  let (hpack, decoded) := reader.readBlock env frame
  { reader with
    engine := reader.engine.handleFrame ⟨frame, decoded, env.order reader.engine⟩
    hpack := hpack }

/-- The events and the frames since an earlier state, the oldest first. -/
def since (reader earlier : Reader η) : List Note :=
  (reader.engine.history.take
    (reader.engine.history.length - earlier.engine.history.length)).reverse

/-- A turn of the loop of `process`. -/
def consumer : Consumer (Reader η) UInt8 (List Note) (Reader η × Text) where
  feed := feed
  call reader :=
    match reader.codec.decode env.decodePayload reader.buffer with
    | (.needMoreData _, _) => .need reader
    | (.frame frame, rest) =>
      let next := { reader with buffer := rest }.handle env frame
      .emit next (next.since reader)
    | (.error message, rest) => .stop ({ reader with buffer := rest }, message)
  feedResult result bytes := (result.1.feed bytes, result.2)
  size reader := reader.buffer.length

/-- `process`: what it returns, and the reader after it. -/
def process (reader : Reader η) : List Note × Reader η :=
  match (consumer env).drain reader with
  | (outputs, .waiting next) => (outputs.flatten, next)
  | (outputs, .stopped (failed, message)) =>
    let next := { failed with engine := failed.engine.refuse 1 message }
    (outputs.flatten ++ next.since failed, next)

/-- Reads one after the other, with a call of `process` after each. -/
def reads (reader : Reader η) : List Bytes → List Note × Reader η
  | [] => ([], reader)
  | piece :: pieces =>
    let (outputs, next) := (reader.feed piece).process env
    let (later, last) := next.reads pieces
    (outputs ++ later, last)

/-- What happens in the life of an engine: bytes are read, or the driver calls it. -/
inductive Event where
  | read (bytes : Bytes)
  | call (call : H2Engine.Call)

def react (reader : Reader η) : Event → Reader η
  | .read bytes => ((reader.feed bytes).process env).2
  | .call call => { reader with engine := reader.engine.call call }

def live (reader : Reader η) (events : List Event) : Reader η :=
  events.foldl (fun reader event => reader.react env event) reader

variable {env} {reader : Reader η}

theorem handle_feed (frame : H2Frame) (more : Bytes) :
    (reader.feed more).handle env frame = (reader.handle env frame).feed more := rfl

theorem consumer_lawful : (consumer env).Lawful fun _ => True where
  feed_append reader left right := by simp [consumer, feed]
  feedResult_append reader left right := by simp [consumer, feed]
  emit_size reader next output hcall := by
    dsimp only [consumer] at hcall
    split at hcall
    · cases hcall
    next hdecode =>
      have hless := (H2Codec.decode_append (by nofun) hdecode []).2 nofun
      cases hcall
      exact hless
    · cases hcall
  emit_feed reader next output more hcall := by
    dsimp only [consumer] at hcall
    split at hcall
    · cases hcall
    next frame rest hdecode =>
      have hmore := (H2Codec.decode_append (by nofun) hdecode more).1
      cases hcall
      have hhandle := @handle_feed η env { reader with buffer := rest } frame more
      dsimp only [feed] at hhandle
      simp only [consumer, feed, hmore, hhandle]
      rfl
    · cases hcall
  stop_feed reader result more hcall := by
    dsimp only [consumer] at hcall
    split at hcall
    · cases hcall
    · cases hcall
    next hdecode =>
      have hmore := (H2Codec.decode_append (by nofun) hdecode more).1
      cases hcall
      simp only [consumer, feed, hmore]
  need_feed reader next more hcall _ := by
    dsimp only [consumer] at hcall
    split at hcall <;> cases hcall
    rfl

theorem reads_of_deliver {outputs : List (List Note)} {last : Reader η} {pieces : List Bytes}
    (hdeliver : (consumer env).deliver reader pieces = (outputs, .waiting last)) :
    reader.reads env pieces = (outputs.flatten, last) := by
  induction pieces generalizing reader outputs with
  | nil =>
    cases hdeliver
    rfl
  | cons piece pieces ih =>
    have hfeed : (consumer env).feed reader piece = reader.feed piece := rfl
    rw [Consumer.deliver, hfeed] at hdeliver
    rw [reads, process]
    rcases hdrain : (consumer env).drain (reader.feed piece) with ⟨first, next | failed⟩
    · rcases hrest : (consumer env).deliver next pieces with ⟨later, ending⟩
      simp only [hdrain, hrest] at hdeliver
      cases hdeliver
      simp [ih hrest]
    · simp only [hdrain] at hdeliver
      cases hdeliver

/-- Reads of bytes that the codec does not refuse return together what one read of all of them
returns, and leave the same reader. -/
theorem reads_eq_process (env : Environment η) (reader : Reader η) (piece : Bytes)
    (pieces : List Bytes)
    (hdecodes : ∀ failed, ((consumer env).drain
      (reader.feed (piece :: pieces).flatten)).2 ≠ .stopped failed) :
    reader.reads env (piece :: pieces) = (reader.feed (piece :: pieces).flatten).process env := by
  have hdeliver := Consumer.deliver_eq_drain (@consumer_lawful η env)
    (Consumer.waitsOnly_of_forall (fun _ => trivial) reader (piece :: pieces))
  have hfeed : (consumer env).feed reader (piece :: pieces).flatten =
    reader.feed (piece :: pieces).flatten := rfl
  rw [process]
  rcases hdrain : (consumer env).drain (reader.feed (piece :: pieces).flatten) with
    ⟨outputs, last | failed⟩
  · exact reads_of_deliver (hdeliver.trans hdrain)
  · exact absurd (congrArg Prod.snd hdrain) (hdecodes failed)

/-- Payloads of PING frames only. -/
def pings : Environment Unit where
  decodePayload _ payload := .ok (.ping false payload)
  decode _ _ := ((), .error [])
  setDecoderTableSize _ _ := ()
  setEncoderTableSize _ _ := ()
  order _ := []

def idle : Reader Unit := .client [] 0 ⟨none, fun _ => 0⟩ ()

/-- A PING frame, cut in its header and in its payload. -/
def cutPing : List Bytes := [[0, 0, 8, 6], [0, 0, 0, 0, 0, 1, 2, 3], [4, 5, 6, 7, 8]]

/-- The frame is answered when the last of its bytes is there. -/
theorem reads_ping :
    idle.reads pings cutPing = (idle.feed cutPing.flatten).process pings ∧
      (idle.reads pings cutPing).1 =
        [.emitted (.ping true [1, 2, 3, 4, 5, 6, 7, 8]) 65535 0 16384, .reported .pingAck] := by
  refine ⟨reads_eq_process pings idle _ _ fun failed hstopped => ?_, by decide +kernel⟩
  have hwaits : ((consumer pings).drain (idle.feed cutPing.flatten)).2 matches .waiting _ := by
    decide +kernel
  rw [cutPing, hstopped] at hwaits
  cases hwaits

/-! ## The limit of a frame -/

theorem codec_react (event : Event) : (reader.react env event).codec = reader.codec := by
  cases event with
  | call => rfl
  | read bytes =>
    have hcall (state : Reader η) (hstate : state.codec = reader.codec) :
        ((consumer env).call state).Holds (·.codec = reader.codec) (·.1.codec = reader.codec) := by
      dsimp only [consumer]
      split <;> exact hstate
    have hfed : (reader.feed bytes).codec = reader.codec := rfl
    have hend := Consumer.drain_holds hcall hfed
    dsimp only [react]
    rw [process]
    split
    next hdrain =>
      rw [hdrain] at hend
      exact hend
    next hdrain =>
      rw [hdrain] at hend
      exact hend

theorem codec_live (events : List Event) : (reader.live env events).codec = reader.codec := by
  induction events generalizing reader with
  | nil => rfl
  | cons event events ih => exact ih.trans (codec_react event)

/-- Whatever the peer sent and the driver asked for before, the codec wants no more than a frame of
the size that the profile advertised exactly if the buffer does not begin with a part of a larger
frame of an unknown type. -/
theorem need_bounded_iff_limited (env : Environment η) (settings : List SettingsParameter)
    (windowUpdate : Nat) (flowControl : FlowControl) (hpack : η) (events : List Event)
    (buf : Bytes) :
    (∀ minBytes, (((client settings windowUpdate flowControl hpack).live env events).codec.decode
        env.decodePayload buf).1 = .needMoreData minBytes →
      buf.length + minBytes ≤ 9 + (H2Codec.client settings).maxFrameSize) ↔
      (H2Codec.client settings).Limited buf := by
  rw [codec_live]
  exact H2Codec.need_bounded_iff ..

end Reader

end LkRequest.H2
