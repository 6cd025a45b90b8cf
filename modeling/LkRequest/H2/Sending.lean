import LkRequest.H2.Receiving

/-!
# Sending bodies

`build_data` and `drain_pending_data` move body data from the hand of a loop into frames or back
into the pending list. The rule for them is about properties of the engine and of the data that
are in hand.
-/

namespace LkRequest.H2

open Library List Option

namespace H2Engine

/-- What a DATA frame with a payload does. -/
structure Sent (engine : H2Engine) (id : StreamId) (chunk : Bytes) (endStream : Bool)
    (next : H2Engine) : Prop where
  window : next.sendWindow = consumeSendWindow engine.sendWindow chunk.length
  settings : next.remoteSettings = engine.remoteSettings
  pending : next.pendingData = engine.pendingData
  history : next.history = .emitted (.data id chunk endStream none) engine.sendWindow
    (engine.streamWindow id) engine.remoteSettings.maxFrameSize :: engine.history
  streams : ∀ other stream', next.streams other = some stream' →
    ∃ stream, engine.streams other = some stream ∧
      stream'.initialWindowSize = stream.initialWindowSize ∧
      (stream'.state.canSend → stream.state.canSend) ∧
      stream'.sendWindow = if other = id then consumeSendWindow stream.sendWindow chunk.length
        else stream.sendWindow

/-- The properties that sending keeps, of the engine and the data in hand. -/
structure Sends (property : List PendingBodyData → H2Engine → Prop) : Prop where
  chunk {engine next : H2Engine} {hand : List PendingBodyData} {id : StreamId}
    {sent rest : Bytes} {endStream : Bool} :
    property (⟨id, sent ++ rest, endStream⟩ :: hand) engine → sent ≠ [] →
    sent.length ≤ engine.sendWindow → sent.length ≤ engine.streamWindow id →
    sent.length ≤ engine.remoteSettings.maxFrameSize →
    engine.Sent id sent (endStream && rest.isEmpty) next →
    property (if rest = [] then hand else ⟨id, rest, endStream⟩ :: hand) next
  park {engine : H2Engine} {hand : List PendingBodyData} {item : PendingBodyData} :
    property (item :: hand) engine → item.data ≠ [] →
    engine.sendWindow ≤ 0 ∨ engine.streamWindow item.streamId ≤ 0 →
    property hand (engine.park item)
  finish {engine : H2Engine} {hand : List PendingBodyData} {id : StreamId} {endStream : Bool} :
    property (⟨id, [], endStream⟩ :: hand) engine →
    property hand (if endStream then engine.emitData id [] true else engine)
  framed {engine : H2Engine} {hand : List PendingBodyData} :
    property hand engine → 0 < engine.remoteSettings.maxFrameSize

section

variable {property : List PendingBodyData → H2Engine → Prop} {engine : H2Engine}
  {hand : List PendingBodyData} {id : StreamId} {endStream : Bool} {remaining : Bytes}

theorem sameSend_emitData {chunk : Bytes} :
    (engine.emit id (.data id chunk endStream none)).SameSend
      (engine.emitData id chunk endStream) := by
  rw [emitData]
  split
  · exact sameSend_modifyStream fun _ _ => sameStream_sendEndStream
  · exact sameSend_of_streams

theorem sent_sendChunk (hsize : engine.chunkSize id remaining ≤ remaining.length) :
    engine.Sent id (remaining.take (engine.chunkSize id remaining))
      (endStream && (remaining.drop (engine.chunkSize id remaining)).isEmpty)
      (engine.sendChunk id remaining endStream) := by
  have hsame : SameSend _ (engine.emitData id (remaining.take (engine.chunkSize id remaining))
    (endStream && (remaining.drop (engine.chunkSize id remaining)).isEmpty)) := sameSend_emitData
  have hlength := length_take_of_le hsize
  refine ⟨?_, hsame.settings, hsame.pending, hsame.history, ?_⟩
  · rw [hlength]
    exact congrArg (consumeSendWindow · _) hsame.window
  · intro other stream' hstream'
    rw [hlength]
    rcases update_cases hstream' with ⟨rfl, hnew⟩ | ⟨hother, hold⟩
    · obtain ⟨middle, hmiddle, rfl⟩ := map_eq_some_iff.mp hnew
      obtain ⟨stream, hstream, hsent⟩ := hsame.streams other middle hmiddle
      exact ⟨stream, hstream, hsent.size, hsent.canSend, by rw [if_pos rfl, hsent.window]⟩
    · obtain ⟨stream, hstream, hsent⟩ := hsame.streams other stream' hold
      exact ⟨stream, hstream, hsent.size, hsent.canSend, by rw [if_neg hother, hsent.window]⟩

/-- The loop of `build_data`. It takes no more turns than there are bytes, since every frame has
one. -/
theorem Sends.sendChunks (hsends : Sends property) {fuel : Nat}
    (hfuel : remaining.length ≤ fuel) (hremaining : remaining ≠ [])
    (hengine : property (⟨id, remaining, endStream⟩ :: hand) engine) :
    property hand (engine.sendChunks id endStream fuel remaining) := by
  induction fuel generalizing engine remaining with
  | zero => exact absurd (length_eq_zero_iff.mp (Nat.le_zero.mp hfuel)) hremaining
  | succ fuel ih =>
    rw [H2Engine.sendChunks, if_neg hremaining]
    have hframed := hsends.framed hengine
    have hlength := length_pos_iff.mpr hremaining
    split
    next hwindow => exact hsends.park hengine hremaining (by grind)
    next hwindow =>
      have hbounds : 0 < engine.chunkSize id remaining ∧
          engine.chunkSize id remaining ≤ remaining.length ∧
          engine.chunkSize id remaining ≤ engine.remoteSettings.maxFrameSize ∧
          (engine.chunkSize id remaining : Int) ≤ engine.sendWindow ∧
          (engine.chunkSize id remaining : Int) ≤ engine.streamWindow id := by
        rw [chunkSize]
        omega
      obtain ⟨hpositive, hsize, hframe, hconnection, hstream⟩ := hbounds
      have htake := length_take_of_le hsize
      rw [← take_append_drop (engine.chunkSize id remaining) remaining] at hengine
      have hnext := hsends.chunk hengine (by grind) (by omega) (by omega) (by omega)
        (sent_sendChunk hsize)
      split at hnext
      next hrest =>
        rw [hrest]
        cases fuel with
        | zero => exact hnext
        | succ fuel => exact hnext
      next hrest => exact ih (by grind) hrest hnext

theorem Sends.buildData (hsends : Sends property) {data : Bytes}
    (hengine : property (⟨id, data, endStream⟩ :: hand) engine) :
    property hand (engine.buildData id data endStream) := by
  rw [H2Engine.buildData]
  split
  next hdata =>
    subst hdata
    exact hsends.finish hengine
  next hdata => exact hsends.sendChunks le_rfl hdata hengine

/-- The loop of `drain_pending_data` starts with all that was pending in hand. -/
theorem Sends.drain (hsends : Sends property)
    (hengine : property engine.pendingData { engine with pendingData := [] }) :
    property [] engine.drainPendingData := by
  rw [drainPendingData]
  generalize engine.pendingData = items at hengine
  generalize { engine with pendingData := [] } = taken at hengine
  induction items generalizing taken with
  | nil => exact hengine
  | cons item items ih => exact ih _ (hsends.buildData hengine)

/-! ## Header blocks -/

theorem Kept.emitContinuation {property : H2Engine → Prop} (hkept : Kept property)
    (hengine : property engine) {fuel : Nat} {block : Bytes} :
    property (engine.emitContinuation id fuel block) := by
  induction fuel generalizing engine block with
  | zero => exact hengine
  | succ fuel ih =>
    rw [H2Engine.emitContinuation]
    split
    · exact hengine
    · apply ih
      exact hkept.note hengine trivial

theorem Kept.buildHeaders {property : H2Engine → Prop} (hkept : Kept property)
    {priority : Option PrioritySpec} (hheaders : ∀ block endHeaders,
      property (engine.emit id (.headers id block endStream endHeaders priority)))
    {block : Bytes} : property (engine.buildHeaders id block endStream priority) := by
  dsimp only [H2Engine.buildHeaders]
  split
  · apply hkept.same _ (sameSend_modifyStream fun _ _ => sameStream_sendEndStream)
    exact hkept.emitContinuation (hheaders ..)
  · exact hkept.emitContinuation (hheaders ..)

/-- The call gives the stream a body. -/
def Call.Serves (id : StreamId) : Call → Prop
  | .buildData streamId _ _ => streamId = id
  | .buildRequest streamId _ _ body => streamId = id ∧ body.getD [] ≠ []
  | .openStream | .buildHeaders .. | .receive _ | .malformed _ => False

/-- Every call. Of a stream that is opened, of a frame with a header block, of a body that is taken
in hand and of settings the property is shown apart. -/
theorem Sends.call (hsends : Sends property) (hkept : Kept (property []))
    (hengine : property [] engine) (call : Call)
    (hopen : call = .openStream → property [] engine.openStream)
    (hheaders : ∀ id block endStream endHeaders priority,
      property [] (engine.emit id (.headers id block endStream endHeaders priority)))
    (hbody : ∀ {engine : H2Engine} {id} data endStream, call.Serves id → property [] engine →
      property [⟨id, data, endStream⟩] engine)
    (hsettings : ∀ inbound params, call = .receive inbound →
      inbound.frame = .settings false params →
        property [] (engine.applyRemoteSettings params inbound.order).1) :
    property [] (engine.call call) := by
  have hblock (id : StreamId) (block : Bytes) (endStream : Bool) (priority : Option PrioritySpec) :
      property [] (engine.buildHeaders id block endStream priority) :=
    hkept.buildHeaders fun _ _ => hheaders ..
  cases call with
  | openStream => exact hopen rfl
  | buildHeaders => exact hblock ..
  | buildData => exact hsends.buildData (hbody _ _ rfl hengine)
  | buildRequest id block priority body =>
    match body with
    | some (byte :: rest) =>
      exact hsends.buildData
        (hbody (byte :: rest) true ⟨rfl, nofun⟩ (hblock id block false priority))
    | some [] | none => exact hblock id block true priority
  | receive inbound =>
    exact hkept.handleFrame hengine fun params => hsettings inbound params rfl
  | malformed => exact hkept.refuse hengine

/-! ## Settings -/

/-- What `apply` lets through. -/
def Valid (settings : H2Settings) : Prop :=
  settings.initialWindowSize ≤ maxWindow ∧ 0 < settings.maxFrameSize

theorem valid_apply {settings next : H2Settings} {param : SettingsParameter}
    (hvalid : Valid settings) (hnext : settings.apply param = .ok next) : Valid next := by
  obtain ⟨hwindow, hframe⟩ := hvalid
  rw [maxWindow] at hwindow
  revert hnext
  fun_cases H2Settings.apply settings param with
  | case2 | case5 | case8 => exact nofun
  | case6 _ hsize =>
    rintro ⟨⟩
    refine ⟨?_, hframe⟩
    rw [maxWindow]
    dsimp only
    omega
  | case7 _ hsize =>
    rintro ⟨⟩
    exact ⟨hwindow, by dsimp only; omega⟩
  | _ =>
    rintro ⟨⟩
    exact ⟨hwindow, hframe⟩

variable {params : List SettingsParameter}

theorem valid_applyAll {settings : H2Settings} (hvalid : Valid settings) :
    Valid (settings.applyAll params).1 := by
  induction params generalizing settings with
  | nil => exact hvalid
  | cons param params ih =>
    rw [H2Settings.applyAll]
    split
    next hnext => exact ih (valid_apply hvalid hnext)
    · exact hvalid

/-- Some streams got the window that belongs to the initial size. -/
structure Rebased (engine next : H2Engine) : Prop where
  window : next.sendWindow = engine.sendWindow
  settings : next.remoteSettings = engine.remoteSettings
  pending : next.pendingData = engine.pendingData
  history : next.history = engine.history
  streams : ∀ id stream', next.streams id = some stream' →
    ∃ stream, engine.streams id = some stream ∧ (stream' = stream ∨
      stream.applyInitialWindowSize engine.remoteSettings.initialWindowSize = some stream')

/-- A second visit changes nothing. -/
theorem applyInitialWindowSize_again {stream rebased again : H2Stream} {size : Nat}
    (hrebased : stream.applyInitialWindowSize size = some rebased)
    (hagain : rebased.applyInitialWindowSize size = some again) : again = rebased := by
  obtain ⟨window, hwindow, rfl⟩ := map_eq_some_iff.mp hrebased
  obtain ⟨next, hnext, rfl⟩ := map_eq_some_iff.mp hagain
  obtain ⟨-, ⟨⟩⟩ := ite_none_left_eq_some.mp hwindow
  obtain ⟨-, ⟨⟩⟩ := ite_none_left_eq_some.mp hnext
  simp only [asI32, sub_self, add_zero, Int.bmod_bmod]

theorem Rebased.rebaseStreams {next : H2Engine} (hrebased : engine.Rebased next)
    {ids : List StreamId} : engine.Rebased (next.rebaseStreams ids).1 := by
  induction ids generalizing next with
  | nil => exact hrebased
  | cons id ids ih =>
    rw [H2Engine.rebaseStreams]
    split
    · exact ih hrebased
    next stream hstream =>
      split
      · exact hrebased
      next found hfound =>
        rw [hrebased.settings] at hfound
        apply ih
        refine { hrebased with streams := ?_ }
        intro other stream' hstream'
        rcases update_cases hstream' with ⟨rfl, hnew⟩ | ⟨-, hold⟩
        · rw [hstream] at hnew
          cases hnew
          obtain ⟨first, hfirst, rfl | hvisited⟩ := hrebased.streams other stream hstream
          · exact ⟨_, hfirst, .inr hfound⟩
          · exact ⟨first, hfirst, .inr (applyInitialWindowSize_again hvisited hfound ▸ hvisited)⟩
        · exact hrebased.streams other stream' hold

theorem rebased_applyRemoteSettings {order : List StreamId} :
    Rebased { engine with remoteSettings := (engine.remoteSettings.applyAll params).1 }
      (engine.applyRemoteSettings params order).1 := by
  have hsame : Rebased { engine with remoteSettings := (engine.remoteSettings.applyAll params).1 }
      { engine with remoteSettings := (engine.remoteSettings.applyAll params).1 } :=
    ⟨rfl, rfl, rfl, rfl, fun _ stream hstream => ⟨stream, hstream, .inl rfl⟩⟩
  dsimp only [applyRemoteSettings]
  split
  · exact hsame.rebaseStreams
  · exact hsame

end

end H2Engine

end LkRequest.H2
