import LkRequest.Handshake.Driver
import LkRequest.Library.Framing

/-!
# Handshake messages in a byte stream

Handshake messages frame themselves: a type byte, a 24-bit length and the body. Processing the
bytes of a record is processing its whole messages one after the other, and the reassembly buffer
of the driver keeps what `Framing.split` leaves over.
-/

namespace LkRequest.Handshake

open Library Crypto List

def messageLength (input : Bytes) : Option Nat :=
  if input.length < 4 then none
  else if input.length < 4 + u24At input 1 then none
  else some (4 + u24At input 1)

variable {input : Bytes} {length : Nat}

theorem messageLength_eq_some :
    messageLength input = some length ↔
      4 ≤ input.length ∧ length = 4 + u24At input 1 ∧ length ≤ input.length :=
  Framing.headed_eq_some 4 (u24At · 1)

theorem u24At_take_append (more : Bytes) (hlong : 4 ≤ length) (hle : length ≤ input.length) :
    u24At (input.take length ++ more) 1 = u24At input 1 := by
  have htake : (input.take length).length = length := length_take_of_le hle
  rw [u24At_append_left more (by omega), u24At_take (by omega) hle]

def messageFraming : Framing UInt8 where
  frameLength := messageLength
  pos := Framing.headed_pos 3 (u24At · 1)
  le hlength := (messageLength_eq_some.mp hlength).2.2
  take_append := Framing.headed_take_append 4 (u24At · 1) u24At_take_append

/-- The whole messages at the front of some bytes. -/
abbrev wholeMessages (data : Bytes) : List Bytes := (messageFraming.split data).1

/-- What follows the last whole message. -/
abbrev messageRest (data : Bytes) : Bytes := (messageFraming.split data).2

/-- Without a whole message, the bytes are too few for a header or for the body. -/
theorem messageLength_eq_none (hnone : messageLength input = none) :
    input.length < 4 ∨ (4 ≤ input.length ∧ input.length < 4 + u24At input 1) := by
  unfold messageLength at hnone
  split at hnone
  next hshort => exact .inl hshort
  next hlong =>
    split at hnone
    next htruncated => exact .inr ⟨by omega, htruncated⟩
    · cases hnone

section Cut

variable {input : Bytes} {length : Nat}

theorem wholeMessages_of_none (hnone : messageLength input = none) : wholeMessages input = [] := by
  rw [wholeMessages, Framing.split_of_none hnone]

theorem messageRest_of_none (hnone : messageLength input = none) : messageRest input = input := by
  rw [messageRest, Framing.split_of_none hnone]

theorem wholeMessages_of_some (hlength : messageLength input = some length) :
    wholeMessages input = input.take length :: wholeMessages (input.drop length) := by
  rw [wholeMessages, Framing.split_of_some hlength]

theorem messageRest_of_some (hlength : messageLength input = some length) :
    messageRest input = messageRest (input.drop length) := by
  rw [messageRest, Framing.split_of_some hlength]

/-- Whole messages are cut apart again, with nothing left over. -/
theorem split_wholeMessages (data : Bytes) :
    messageFraming.split (wholeMessages data).flatten = (wholeMessages data, []) := by
  have hframes : ∀ frame ∈ wholeMessages data, messageFraming.IsFrame frame :=
    fun _ => Framing.isFrame_of_mem_split
  have hnone : messageFraming.frameLength [] = none := rfl
  have hsplit := Framing.split_flatten_append [] hframes
  rw [append_nil, Framing.split_of_none hnone, append_nil] at hsplit
  exact hsplit

theorem wholeMessages_wholeMessages (data : Bytes) :
    wholeMessages (wholeMessages data).flatten = wholeMessages data := by
  rw [wholeMessages, split_wholeMessages]

theorem messageRest_wholeMessages (data : Bytes) :
    messageRest (wholeMessages data).flatten = [] := by
  rw [messageRest, split_wholeMessages]

end Cut

/-! ## The reassembly buffer -/

variable {fuel : Nat}

theorem completeLength_eq (hfuel : input.length ≤ fuel) :
    completeLength fuel input = (wholeMessages input).flatten.length := by
  induction input using messageFraming.induct generalizing fuel with
  | hrest input hnone =>
    rw [wholeMessages_of_none hnone, flatten_nil, length_nil]
    cases fuel with
    | zero => rfl
    | succ fuel =>
      rw [completeLength]
      obtain hshort | ⟨hlong, htruncated⟩ := messageLength_eq_none hnone
      · rw [if_pos hshort]
      · rw [if_neg (by omega), if_pos htruncated]
  | hframe input length hlength ih =>
    obtain ⟨fuel, rfl, hrest⟩ := Framing.exists_fuel hlength hfuel
    obtain ⟨hlong, rfl, hle⟩ := messageLength_eq_some.mp hlength
    rw [completeLength, if_neg (by omega), if_neg (by omega), ih hrest,
      wholeMessages_of_some hlength, flatten_cons, length_append,
      length_take_of_le hle]

theorem takeCompleteHandshakeMessages_eq (input : Bytes) :
    takeCompleteHandshakeMessages input =
      (if wholeMessages input = [] then none else some (wholeMessages input).flatten,
        messageRest input) := by
  have hlength := completeLength_eq (Nat.le_refl input.length)
  have hflatten := messageFraming.flatten_split input
  have htake : input.take (wholeMessages input).flatten.length = (wholeMessages input).flatten :=
    (congrArg _ hflatten.symm).trans take_left
  have hdrop : input.drop (wholeMessages input).flatten.length = messageRest input :=
    (congrArg _ hflatten.symm).trans drop_left
  rw [takeCompleteHandshakeMessages, hlength]
  by_cases hnone : wholeMessages input = []
  · rw [if_pos hnone, if_pos (by rw [hnone]; rfl)]
    rw [hnone] at hdrop
    rw [← hdrop]
    rfl
  · have hpos : (wholeMessages input).flatten.length ≠ 0 := by
      intro hzero
      obtain ⟨first, rest, hmessages⟩ := exists_cons_of_ne_nil hnone
      have hmem : first ∈ wholeMessages input := by
        rw [hmessages]
        exact mem_cons_self
      have hfirst := messageFraming.pos (Framing.isFrame_of_mem_split hmem)
      rw [hmessages, flatten_cons, length_append] at hzero
      omega
    rw [if_neg hnone, if_neg hpos, htake, hdrop]

theorem takeCompleteHandshakeMessages_getD (input : Bytes) :
    (takeCompleteHandshakeMessages input).1.getD [] = (wholeMessages input).flatten := by
  rw [takeCompleteHandshakeMessages_eq]
  split
  next hnone =>
    rw [hnone]
    rfl
  · rfl

namespace HandshakeDriver

theorem messagesWith_eq (driver : HandshakeDriver) (payload : Bytes) :
    driver.messagesWith payload = (wholeMessages (driver.hsBuffer ++ payload)).flatten :=
  takeCompleteHandshakeMessages_getD _

end HandshakeDriver

/-! ## Records of messages -/

namespace Tls13Handshake

section
variable (crypto : Primitives)

/-- One whole message. -/
def processMessage (handshake : Tls13Handshake) (message : Bytes) :
    Result (Tls13Handshake × HandshakeAction) :=
  handshake.processSingleMessage crypto (byteAt message 0) message (message.drop 4)

/-- Whole messages in turn; the action is that of the last one. -/
def feedMessages : Tls13Handshake → HandshakeAction → List Bytes →
    Result (Tls13Handshake × HandshakeAction)
  | handshake, lastAction, [] => .ok (handshake, lastAction)
  | handshake, _, message :: messages => do
    let (handshake, action) ← handshake.processMessage crypto message
    feedMessages handshake action messages

end

variable {crypto : Primitives} {fuel : Nat} {data : Bytes}

theorem processMessages_of_none (hfuel : data.length ≤ fuel)
    (hnone : messageLength data = none) (handshake : Tls13Handshake)
    (lastAction : HandshakeAction) : handshake.processMessages crypto fuel lastAction data =
      if data.length < 4 then .ok (handshake, lastAction)
      else .error (.unexpectedMessage "truncated handshake message in record") := by
  cases fuel with
  | zero => rw [processMessages, if_pos (by omega)]
  | succ fuel =>
    rw [processMessages]
    obtain hshort | ⟨hlong, htruncated⟩ := messageLength_eq_none hnone
    · rw [if_pos hshort, if_pos hshort]
    · rw [if_neg (by omega), if_pos htruncated, if_neg (by omega)]

theorem processMessages_of_some (hlength : messageLength data = some length) (fuel : Nat)
    (handshake : Tls13Handshake) (lastAction : HandshakeAction) :
    handshake.processMessages crypto (fuel + 1) lastAction data =
      (handshake.processMessage crypto (data.take length)).bind fun result =>
        result.1.processMessages crypto fuel result.2 (data.drop length) := by
  obtain ⟨hlong, rfl, hle⟩ := messageLength_eq_some.mp hlength
  have hmessage : handshake.processSingleMessage crypto (byteAt data 0)
      (data.take (4 + u24At data 1)) (slice data 4 (4 + u24At data 1)) =
      handshake.processMessage crypto (data.take (4 + u24At data 1)) := by
    rw [processMessage, byteAt_take (by omega) hle, slice, drop_take]
  rw [processMessages, if_neg (by omega), if_neg (by omega), hmessage]
  rfl

theorem processMessages_eq (hfuel : data.length ≤ fuel)
    (handshake : Tls13Handshake) (lastAction : HandshakeAction) :
    handshake.processMessages crypto fuel lastAction data =
      (handshake.feedMessages crypto lastAction (wholeMessages data)).bind fun result =>
        if (messageRest data).length < 4 then .ok result
        else .error (.unexpectedMessage "truncated handshake message in record") := by
  induction data using messageFraming.induct generalizing fuel handshake lastAction with
  | hrest data hnone =>
    rw [wholeMessages_of_none hnone, messageRest_of_none hnone,
      processMessages_of_none hfuel hnone, feedMessages, Except.bind]
  | hframe data length hlength ih =>
    obtain ⟨fuel, rfl, hrest⟩ := Framing.exists_fuel hlength hfuel
    rw [processMessages_of_some hlength, wholeMessages_of_some hlength,
      messageRest_of_some hlength, feedMessages]
    cases handshake.processMessage crypto (data.take length) with
    | error error => rfl
    | ok result => exact ih hrest result.1 result.2

theorem processHandshakeRecord_eq (handshake : Tls13Handshake) (data : Bytes) :
    handshake.processHandshakeRecord crypto data =
      (handshake.feedMessages crypto .continueReading (wholeMessages data)).bind fun result =>
        if (messageRest data).length < 4 then .ok result
        else .error (.unexpectedMessage "truncated handshake message in record") :=
  processMessages_eq (Nat.le_refl _) handshake .continueReading

end Tls13Handshake

namespace Tls12Handshake

section
variable (crypto : Primitives)

/-- One whole message. -/
def processMessage (handshake : Tls12Handshake) (message : Bytes) :
    Result (Tls12Handshake × Tls12HandshakeAction) :=
  handshake.processSingleMessage crypto (byteAt message 0) (message.drop 4) message

/-- Whole messages in turn, up to the first that asks for something else than more messages. -/
def feedMessages : Tls12Handshake → List Bytes → Result (Tls12Handshake × Tls12HandshakeAction)
  | handshake, [] => .ok (handshake, .continueReading)
  | handshake, message :: messages => do
    let (handshake, action) ← handshake.processMessage crypto message
    match action with
    | .continueReading => feedMessages handshake messages
    | action => return (handshake, action)

end

variable {crypto : Primitives} {data : Bytes}

/-- Go on with the messages after one that asks for nothing else. -/
def continueWith (rest : Tls12Handshake → Result (Tls12Handshake × Tls12HandshakeAction)) :
    Tls12Handshake × Tls12HandshakeAction → Result (Tls12Handshake × Tls12HandshakeAction)
  | (handshake, .continueReading) => rest handshake
  | result => .ok result

theorem processMessages_of_some (hlength : messageLength data = some length) (fuel : Nat)
    (handshake : Tls12Handshake) :
    processMessages crypto (fuel + 1) handshake data =
      (handshake.processMessage crypto (data.take length)).bind (continueWith fun next =>
        processMessages crypto fuel next (data.drop length)) := by
  obtain ⟨hlong, rfl, hle⟩ := messageLength_eq_some.mp hlength
  have hne : data ≠ [] := ne_nil_of_length_pos (by omega)
  have hmessage : handshake.processSingleMessage crypto (byteAt data 0)
      (slice data 4 (4 + u24At data 1)) (data.take (4 + u24At data 1)) =
      handshake.processMessage crypto (data.take (4 + u24At data 1)) := by
    rw [processMessage, byteAt_take (by omega) hle, slice, drop_take]
  rw [processMessages, if_neg hne, if_neg (by omega), if_neg (by omega), hmessage]
  cases handshake.processMessage crypto (data.take (4 + u24At data 1)) with
  | error error => rfl
  | ok result =>
    obtain ⟨next, action⟩ := result
    cases action <;> rfl

theorem feedMessages_cons (handshake : Tls12Handshake) (message : Bytes) (messages : List Bytes) :
    handshake.feedMessages crypto (message :: messages) =
      (handshake.processMessage crypto message).bind (continueWith fun next =>
        next.feedMessages crypto messages) := by
  rw [feedMessages]
  cases handshake.processMessage crypto message with
  | error error => rfl
  | ok result =>
    obtain ⟨next, action⟩ := result
    cases action <;> rfl

theorem processMessages_eq (hfuel : data.length ≤ fuel) (hrest : messageRest data = [])
    (handshake : Tls12Handshake) :
    processMessages crypto fuel handshake data =
      handshake.feedMessages crypto (wholeMessages data) := by
  induction data using messageFraming.induct generalizing fuel handshake with
  | hrest data hnone =>
    have hmessages := wholeMessages_of_none hnone
    obtain rfl : data = [] := by rw [← messageRest_of_none hnone, hrest]
    cases fuel <;> rfl
  | hframe data length hlength ih =>
    obtain ⟨fuel, rfl, hshorter⟩ := Framing.exists_fuel hlength hfuel
    rw [messageRest_of_some hlength] at hrest
    rw [processMessages_of_some hlength, wholeMessages_of_some hlength, feedMessages_cons]
    congr 2
    funext next
    exact ih hshorter hrest next

/-- Whole messages are processed one after the other. -/
theorem processHandshakeRecord_eq (hrest : messageRest data = []) (handshake : Tls12Handshake) :
    handshake.processHandshakeRecord crypto data =
      handshake.feedMessages crypto (wholeMessages data) :=
  processMessages_eq (Nat.le_refl _) hrest handshake

end Tls12Handshake

end LkRequest.Handshake
