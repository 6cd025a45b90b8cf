import LkRequest.H2.Engine
import LkRequest.Library.Machine

/-!
# What sending leaves alone

Of the receiving side of an engine, only DATA frames and header blocks change the windows, the
policy that gives credit and the block that is being assembled.
-/

namespace LkRequest.H2

open Library

namespace H2Engine

/-- The engine without the streams, the settings and what was sent. -/
def unsent (engine : H2Engine) : H2Engine :=
  { engine with
    streams := fun _ => none
    remoteSettings := {}
    localSettings := {}
    pendingSettings := []
    sendWindow := 0
    pendingData := []
    progress := {}
    history := [] }

section

variable {engine next : H2Engine} {id : StreamId} {endStream : Bool} {block data : Bytes}
  {fuel : Nat} {decoded : Except Text Headers} {outcome : ContinuationAssembler × AssemblyResult}

/-! ## Sending -/

theorem unsent_endSending :
    (if endStream then engine.modifyStream id H2Stream.sendEndStream else engine).unsent =
      engine.unsent := by
  split <;> rfl

theorem unsent_emitContinuation :
    (engine.emitContinuation id fuel block).unsent = engine.unsent := by
  induction fuel generalizing engine block with
  | zero => rfl
  | succ fuel ih =>
    rw [emitContinuation]
    split
    · rfl
    · exact ih

theorem unsent_buildHeaders {priority : Option PrioritySpec} :
    (engine.buildHeaders id block endStream priority).unsent = engine.unsent :=
  unsent_endSending.trans unsent_emitContinuation

theorem unsent_sendChunks : (engine.sendChunks id endStream fuel data).unsent = engine.unsent := by
  induction fuel generalizing engine data with
  | zero => rfl
  | succ fuel ih =>
    rw [sendChunks]
    split
    · rfl
    · split
      · rfl
      · exact ih.trans unsent_endSending

theorem unsent_buildData : (engine.buildData id data endStream).unsent = engine.unsent := by
  rw [buildData]
  split
  · split <;> rfl
  · exact unsent_sendChunks

theorem unsent_drainPendingData : engine.drainPendingData.unsent = engine.unsent := by
  have hitems (items : List PendingBodyData) (taken : H2Engine) :
      (items.foldl (fun drained pending => drained.buildData pending.streamId pending.data
        pending.endStream) taken).unsent = taken.unsent := by
    induction items generalizing taken with
    | nil => rfl
    | cons item items ih => exact (ih _).trans unsent_buildData
  exact hitems ..

/-! ## Receiving -/

theorem unsent_rebaseStreams {ids : List StreamId} :
    (engine.rebaseStreams ids).1.unsent = engine.unsent := by
  induction ids generalizing engine with
  | nil => rfl
  | cons id ids ih =>
    rw [rebaseStreams]
    split
    · exact ih
    · split
      · rfl
      · exact ih

theorem unsent_handleSettings {ack : Bool} {params : List SettingsParameter}
    {order : List StreamId} : (engine.handleSettings ack params order).unsent = engine.unsent := by
  have happlied : (engine.applyRemoteSettings params order).1.unsent = engine.unsent := by
    dsimp only [applyRemoteSettings]
    split
    · exact unsent_rebaseStreams
    · rfl
  dsimp only [handleSettings]
  split
  · split <;> rfl
  · split
    next happly =>
      rw [happly] at happlied
      exact happlied
    next happly =>
      rw [happly] at happlied
      exact happlied

theorem unsent_handleWindowUpdate {increment : Nat} :
    (engine.handleWindowUpdate id increment).unsent = engine.unsent := by
  fun_cases handleWindowUpdate with
  | case4 | case5 | case7 => exact unsent_drainPendingData
  | _ => rfl

theorem unsent_assembled : (engine.assembled decoded outcome).unsent =
      { engine with continuation := outcome.1 }.unsent := by
  rw [assembled]
  split
  · cases decoded with
    | error => rfl
    | ok =>
      dsimp only [completeHeaders]
      split
      · rfl
      · split <;> rfl
  · rfl
  · rfl

/-- The frames that change the receiving side. -/
def Call.isReceiving : Call → Bool
  | .receive ⟨.data .., _, _⟩ | .receive ⟨.headers .., _, _⟩
  | .receive ⟨.continuation .., _, _⟩ => true
  | _ => false

theorem unsent_call {call : Call} (hquiet : call.isReceiving = false) (hopen : call ≠ .openStream) :
    (engine.call call).unsent = engine.unsent := by
  cases call with
  | openStream => exact absurd rfl hopen
  | malformed => rfl
  | buildHeaders => exact unsent_buildHeaders
  | buildData => exact unsent_buildData
  | buildRequest =>
    dsimp only [H2Engine.call, buildRequest]
    split
    · exact unsent_buildData.trans unsent_buildHeaders
    · exact unsent_buildHeaders
  | receive inbound =>
    obtain ⟨frame, decoded, order⟩ := inbound
    cases frame with
    | data | headers | continuation => cases hquiet
    | settings => exact unsent_handleSettings
    | windowUpdate => exact unsent_handleWindowUpdate
    | rstStream | goAway | pushPromise | ignored => rfl
    | ping ack data => cases ack <;> rfl

/-- The receiving side, without the streams and the settings. -/
def receiving (engine : H2Engine) : H2Engine :=
  { engine with
    streams := fun _ => none
    ids := []
    nextStreamId := 0
    remoteSettings := {}
    localSettings := {}
    pendingSettings := []
    sendWindow := 0
    pendingData := []
    progress := {}
    history := [] }

theorem receiving_of_unsent (hsame : next.unsent = engine.unsent) :
    next.receiving = engine.receiving := by
  have hreceiving := congrArg receiving hsame
  exact hreceiving

theorem receiving_assembled : (engine.assembled decoded outcome).receiving =
      { engine with continuation := outcome.1 }.receiving :=
  receiving_of_unsent unsent_assembled

theorem receiving_call {call : Call} (hquiet : call.isReceiving = false) :
    (engine.call call).receiving = engine.receiving := by
  by_cases hopen : call = .openStream
  · rw [hopen]
    rfl
  · exact receiving_of_unsent (unsent_call hquiet hopen)

end

end H2Engine

end LkRequest.H2
