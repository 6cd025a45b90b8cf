import LkRequest.H2.Engine
import LkRequest.Library.Machine

/-!
# What receiving does to the sending side

Apart from window updates and settings, a frame changes the sending side only by closing streams.
A property that is kept by such changes, by notes of other frames and by accepted window updates is
kept by every frame but SETTINGS.
-/

namespace LkRequest.H2

open Library Option

namespace H2Engine

/-- The same stream for sending, or one that may send less. -/
structure SameStream (stream next : H2Stream) : Prop where
  window : next.sendWindow = stream.sendWindow
  size : next.initialWindowSize = stream.initialWindowSize
  canSend : next.state.canSend → stream.state.canSend

structure SameSend (engine next : H2Engine) : Prop where
  window : next.sendWindow = engine.sendWindow
  settings : next.remoteSettings = engine.remoteSettings
  pending : next.pendingData = engine.pendingData
  history : next.history = engine.history
  streams : ∀ id stream', next.streams id = some stream' →
    ∃ stream, engine.streams id = some stream ∧ SameStream stream stream'

/-- A report, or a frame that carries nothing of a request. -/
def IsQuiet : Note → Prop
  | .reported _ => True
  | .emitted (.data ..) .. | .emitted (.headers ..) .. | .opened _ | .accepted .. => False
  | .emitted .. => True

/-- The properties that receiving keeps. -/
structure Kept (property : H2Engine → Prop) : Prop where
  same {engine next : H2Engine} : property engine → engine.SameSend next → property next
  note {engine : H2Engine} {entry : Note} : property engine → IsQuiet entry →
    property (engine.note entry)
  drain {engine : H2Engine} : property engine → property engine.drainPendingData
  update {engine : H2Engine} {increment : Nat} {window : Int} : property engine →
    updateWindow engine.sendWindow increment = some window →
    property
      ({ engine with sendWindow := window }.note (.accepted none increment)).drainPendingData
  updateStream {engine : H2Engine} {id : StreamId} {stream : H2Stream} {increment : Nat}
    {window : Int} : property engine → engine.streams id = some stream →
    updateWindow stream.sendWindow increment = some window →
    property ((engine.modifyStream id fun stream => { stream with sendWindow := window }).note
      (.accepted (some id) increment)).drainPendingData

section

variable {property : H2Engine → Prop} {engine next : H2Engine} {id : StreamId} {stream : H2Stream}
  {change : H2Stream → H2Stream} {errorCode increment flowLen initialWindow : Nat} {data : Bytes}
  {endStream : Bool}

theorem sameStream_recvEndStream : SameStream stream stream.recvEndStream := by
  obtain ⟨state, _⟩ := stream
  cases state <;> exact ⟨rfl, rfl, by simp [H2Stream.recvEndStream, StreamState.canSend]⟩

theorem sameStream_sendEndStream : SameStream stream stream.sendEndStream := by
  obtain ⟨state, _⟩ := stream
  cases state <;> exact ⟨rfl, rfl, by simp [H2Stream.sendEndStream, StreamState.canSend]⟩

theorem sameStream_reset : SameStream stream stream.reset := ⟨rfl, rfl, nofun⟩

/-- What the sending side does not read may change. -/
theorem sameSend_of_streams (hstreams : next.streams = engine.streams := by rfl)
    (hwindow : next.sendWindow = engine.sendWindow := by rfl)
    (hsettings : next.remoteSettings = engine.remoteSettings := by rfl)
    (hpending : next.pendingData = engine.pendingData := by rfl)
    (hhistory : next.history = engine.history := by rfl) : engine.SameSend next where
  window := hwindow
  settings := hsettings
  pending := hpending
  history := hhistory
  streams _ stream hstream := ⟨stream, hstreams ▸ hstream, rfl, rfl, fun h => h⟩

theorem sameSend_modifyStream
    (hchange : ∀ stream, engine.streams id = some stream → SameStream stream (change stream)) :
    engine.SameSend (engine.modifyStream id change) where
  window := rfl
  settings := rfl
  pending := rfl
  history := rfl
  streams other stream' hstream' := by
    rcases update_cases hstream' with ⟨rfl, hnew⟩ | ⟨-, hold⟩
    · obtain ⟨stream, hstream, rfl⟩ := map_eq_some_iff.mp hnew
      exact ⟨stream, hstream, hchange stream hstream⟩
    · exact ⟨stream', hold, rfl, rfl, fun h => h⟩

theorem sameSend_cleanup : engine.SameSend engine.cleanupClosedStreams where
  window := rfl
  settings := rfl
  pending := rfl
  history := rfl
  streams _ stream hstream :=
    ⟨stream, (filter_eq_some_iff.mp hstream).1, rfl, rfl, fun h => h⟩

/-! ## Handlers -/

variable (hkept : Kept property) (hengine : property engine)
include hkept hengine

theorem Kept.report {event : H2Event} : property (engine.report event) :=
  hkept.note hengine trivial

theorem Kept.emitWindowUpdate : property (engine.emit id (.windowUpdate id increment)) :=
  hkept.note hengine trivial

theorem Kept.emitRstStream : property (engine.emitRstStream id errorCode) :=
  hkept.note (hkept.same hengine (sameSend_modifyStream fun _ _ => sameStream_reset)) trivial

theorem Kept.emitGoAway : property (engine.emitGoAway errorCode) :=
  hkept.note hengine trivial

theorem Kept.refuse {message : Text} : property (engine.refuse errorCode message) :=
  hkept.report (hkept.emitGoAway hengine)

theorem Kept.assembled {decoded : Except Text Headers}
    {outcome : ContinuationAssembler × AssemblyResult} :
    property (engine.assembled decoded outcome) := by
  have hpushed : property { engine with continuation := outcome.1 } :=
    hkept.same hengine sameSend_of_streams
  rw [H2Engine.assembled]
  cases outcome.2 with
  | incomplete => exact hpushed
  | error => exact hkept.refuse hpushed
  | complete =>
    cases decoded with
    | error => exact hkept.refuse hpushed
    | ok =>
      dsimp only [completeHeaders]
      split
      · exact hkept.report hpushed
      · apply hkept.report
        split
        · exact hkept.same hpushed (sameSend_modifyStream fun _ _ => sameStream_recvEndStream)
        · exact hpushed

theorem Kept.setPolicy {policy : FlowControl} : property { engine with flowControl := policy } :=
  hkept.same hengine sameSend_of_streams

theorem Kept.creditConnection : property (engine.creditConnection flowLen) := by
  dsimp only [H2Engine.creditConnection]
  split
  · exact hkept.setPolicy hengine
  · exact hkept.same (hkept.emitWindowUpdate (hkept.setPolicy hengine)) sameSend_of_streams

theorem Kept.creditStream : property (engine.creditStream id flowLen initialWindow) := by
  dsimp only [H2Engine.creditStream]
  split
  · exact hkept.setPolicy hengine
  · exact hkept.same (hkept.emitWindowUpdate (hkept.setPolicy hengine))
      (sameSend_modifyStream fun _ _ => ⟨rfl, rfl, fun h => h⟩)

theorem Kept.acceptData : property (engine.acceptData id data endStream flowLen initialWindow) := by
  apply hkept.report
  have hcredited : property (if 0 < flowLen then
      (engine.creditConnection flowLen).creditStream id flowLen initialWindow else engine) := by
    split
    · exact hkept.creditStream (hkept.creditConnection hengine)
    · exact hengine
  cases endStream with
  | false => exact hcredited
  | true =>
    apply hkept.same _ sameSend_cleanup
    exact hkept.same hcredited sameSend_of_streams

theorem Kept.handleData {padding : Option Nat} :
    property (engine.handleData id data endStream padding) := by
  have hcharged (recvWindow : Int) : property { engine with recvWindow := recvWindow } :=
    hkept.same hengine sameSend_of_streams
  fun_cases H2Engine.handleData with
  | case1 => exact hkept.refuse hengine
  | case2 => exact hkept.acceptData (hcharged _)
  | case3 => exact hkept.emitRstStream (hcharged _)
  | case4 => exact hkept.note (hkept.emitRstStream (hcharged _)) trivial
  | case5 _ _ _ _ stream hstream _ window _ consumed received =>
    apply hkept.acceptData
    apply hkept.same (hcharged _)
    apply sameSend_modifyStream
    intro found hfound
    cases hstream.symm.trans hfound
    dsimp only [received]
    split
    · have hreceived : SameStream consumed _ := sameStream_recvEndStream
      exact ⟨hreceived.window, hreceived.size, hreceived.canSend⟩
    · exact ⟨rfl, rfl, fun h => h⟩

theorem Kept.handleWindowUpdate : property (engine.handleWindowUpdate id increment) := by
  fun_cases H2Engine.handleWindowUpdate with
  | case1 | case3 => exact hkept.refuse hengine
  | case2 => exact hkept.emitRstStream hengine
  | case4 _ _ _ hwindow => exact hkept.report (hkept.update hengine hwindow)
  | case5 => exact hkept.report (hkept.drain hengine)
  | case6 => exact hkept.report (hkept.emitRstStream hengine)
  | case7 _ _ _ hstream _ hwindow =>
    exact hkept.report (hkept.updateStream hengine hstream hwindow)

/-- Every frame but settings, of which the property is shown apart. -/
theorem Kept.handleFrame {inbound : Inbound}
    (hsettings : ∀ params, inbound.frame = .settings false params →
      property (engine.applyRemoteSettings params inbound.order).1) :
    property (engine.handleFrame inbound) := by
  rw [H2Engine.handleFrame]
  split
  next ack params hframe =>
    rw [handleSettings]
    split
    · dsimp only
      split
      · exact hkept.report hengine
      · exact hkept.same (hkept.report hengine) sameSend_of_streams
    next hack =>
      rw [Bool.not_eq_true] at hack
      subst hack
      have happlied := hsettings params hframe
      split
      next applied happly =>
        rw [happly] at happlied
        have hacked : property (applied.emit 0 (.settings true [])) :=
          hkept.note happlied trivial
        exact hkept.report (hkept.same hacked sameSend_of_streams)
      next happly =>
        rw [happly] at happlied
        exact hkept.refuse happlied
  · exact hkept.assembled hengine
  · exact hkept.assembled hengine
  · exact hkept.handleData hengine
  · exact hkept.handleWindowUpdate hengine
  · apply hkept.report
    exact hkept.same (hkept.same hengine (sameSend_modifyStream fun _ _ => sameStream_reset))
      sameSend_cleanup
  · split
    · exact hengine
    · apply hkept.report
      exact hkept.note hengine trivial
  · exact hkept.report (hkept.same hengine sameSend_of_streams)
  · exact hkept.refuse hengine
  · exact hengine

end

end H2Engine

end LkRequest.H2
