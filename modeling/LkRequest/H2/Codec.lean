import LkRequest.H2.HeaderBlocks

/-!
# Frames from bytes

`lkh2/src/codec.rs` as it cuts frames out of its buffer. How the payload of a known frame is decoded
is a parameter.
-/

namespace LkRequest.H2

open Library List

inductive H2FrameType where
  | data
  | headers
  | priority
  | rstStream
  | settings
  | pushPromise
  | ping
  | goAway
  | windowUpdate
  | continuation

def H2FrameType.fromU8 (value : UInt8) : Option H2FrameType :=
  [data, headers, priority, rstStream, settings, pushPromise, ping, goAway, windowUpdate,
    continuation][value.toNat]?

structure H2FrameHeader where
  length : Nat
  frameType : H2FrameType
  flags : UInt8
  streamId : StreamId

/-- The first bit of the stream id is reserved. -/
def H2FrameHeader.parse (data : Bytes) : Option H2FrameHeader :=
  (H2FrameType.fromU8 (byteAt data 3)).map fun frameType =>
    ⟨u24At data 0, frameType, byteAt data 4, (u16At data 5 * 65536 + u16At data 7) % 2 ^ 31⟩

inductive DecodeResult where
  | frame (frame : H2Frame)
  | needMoreData (minBytes : Nat)
  | error (message : Text)
  deriving DecidableEq

structure H2Codec where
  maxFrameSize : Nat := 16384

namespace H2Codec

def setMaxFrameSize (codec : H2Codec) (size : Nat) : H2Codec :=
  { codec with maxFrameSize := max 16384 (min size 16777215) }

/-- The codec of `client_with_policies`, which is never set again. -/
def client (settings : List SettingsParameter) : H2Codec :=
  match settings.find? (·.id = 5) with
  | some param => setMaxFrameSize {} param.value
  | none => {}

/-- A frame whose payload has the length, if it is there in full, and what is left of the buffer. -/
def takeFrame (buf : Bytes) (length : Nat) (read : Bytes → DecodeResult) : DecodeResult × Bytes :=
  if buf.length < 9 + length then (.needMoreData (9 + length - buf.length), buf)
  else (read (slice buf 9 (9 + length)), buf.drop (9 + length))

/-- The text of `CodecError::TooLarge`. -/
def tooLarge (size max : Nat) : Text :=
  "frame too large: ".toList ++ Text.ofNat size ++ " bytes (max ".toList ++ Text.ofNat max ++
    ")".toList

def decode (decodePayload : H2FrameHeader → Bytes → Except Text H2Frame) (codec : H2Codec)
    (buf : Bytes) : DecodeResult × Bytes :=
  if buf.length < 9 then (.needMoreData (9 - buf.length), buf)
  else
    match H2FrameHeader.parse (buf.take 9) with
    | none => takeFrame buf (u24At (buf.take 9) 0) fun _ => .frame .ignored
    | some header =>
      if codec.maxFrameSize < header.length then
        (.error (tooLarge header.length codec.maxFrameSize), buf)
      else
        takeFrame buf header.length fun payload =>
          match decodePayload header payload with
          | .ok frame => .frame frame
          | .error reason => .error ("invalid frame: ".toList ++ reason)

/-- A frame of an unknown type that is not there in full is no longer than the limit. -/
def Limited (codec : H2Codec) (buf : Bytes) : Prop :=
  9 ≤ buf.length → H2FrameHeader.parse (buf.take 9) = none →
    buf.length < 9 + u24At (buf.take 9) 0 → u24At (buf.take 9) 0 ≤ codec.maxFrameSize

variable {buf : Bytes} {length minBytes : Nat} {read : Bytes → DecodeResult}

theorem takeFrame_need (hread : ∀ payload minBytes, read payload ≠ .needMoreData minBytes) :
    (takeFrame buf length read).1 = .needMoreData minBytes ↔
      buf.length < 9 + length ∧ minBytes = 9 + length - buf.length := by
  rw [takeFrame]
  split
  next hpart => simp [hpart, eq_comm]
  next hwhole => simp [hwhole, hread]

/-- The codec asks for no more than a frame of the advertised size exactly if the buffer does not
begin with a part of a larger frame of an unknown type. -/
theorem need_bounded_iff (decodePayload : H2FrameHeader → Bytes → Except Text H2Frame)
    (codec : H2Codec) (buf : Bytes) :
    (∀ minBytes, (codec.decode decodePayload buf).1 = .needMoreData minBytes →
      buf.length + minBytes ≤ 9 + codec.maxFrameSize) ↔ codec.Limited buf := by
  rw [decode, Limited]
  split
  next hshort =>
    refine iff_of_true ?_ fun hlong => absurd hshort hlong.not_gt
    intro minBytes hneed
    cases hneed
    omega
  next hlong =>
    split
    next hparse =>
      have hread (_ : Bytes) (minBytes : Nat) :
        DecodeResult.frame .ignored ≠ .needMoreData minBytes := nofun
      simp only [takeFrame_need hread]
      constructor
      · intro hneed _ _ hpart
        have := hneed _ ⟨hpart, rfl⟩
        omega
      · rintro hlimit minBytes ⟨hpart, rfl⟩
        have := hlimit (by omega) hparse hpart
        omega
    next header hparse =>
      refine iff_of_true ?_ fun _ hunknown => absurd hunknown (by simp [hparse])
      intro minBytes hneed
      split at hneed
      · cases hneed
      · rw [takeFrame_need] at hneed
        · omega
        · intro payload
          cases decodePayload header payload <;> nofun

/-- A header of type 255 announces a payload of `2 ^ 24 - 1` bytes. -/
theorem unknown_frame_unlimited :
    ((client []).decode (fun _ _ => .error []) [0xff, 0xff, 0xff, 0xff, 0, 0, 0, 0, 0]).1 =
      .needMoreData 16777215 ∧ (client []).maxFrameSize = 16384 := by
  decide +kernel

end H2Codec

end LkRequest.H2
