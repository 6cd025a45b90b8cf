import LkRequest.H2.Sending

/-!
# Uploads

What becomes of the bodies that an engine is given. A body that waits is taken up again by window
updates only: new settings and a stream that is opened anew may leave it behind an open window.
-/

namespace LkRequest.H2

open Library List Option

/-- The payload of a DATA frame on the stream. -/
def Note.payload (id : StreamId) : Note → Bytes
  | .emitted (.data streamId data ..) .. => if streamId = id then data else []
  | _ => []

/-- A frame that ends the stream. -/
def Note.endsStream (id : StreamId) : Note → Bool
  | .emitted (.data streamId _ endStream _) .. | .emitted (.headers streamId _ endStream ..) .. =>
    streamId = id && endStream
  | _ => false

/-- The payloads of the stream, the oldest first. -/
def payloads (id : StreamId) (history : List Note) : Bytes :=
  history.reverse.flatMap (Note.payload id)

/-- Of the bodies of a stream, what was sent and what waits are the whole, what waits is to end the
stream, and a frame that ended it was the last of the body. -/
structure Delivered (id : StreamId) (bodies : List Bytes) (waiting : List PendingBodyData)
    (history : List Note) : Prop where
  bytes : payloads id history ++ waiting.flatMap PendingBodyData.data = bodies.flatten
  ends : history.countP (Note.endsStream id) + waiting.length = bodies.length
  last : ∀ note earlier, note :: earlier <:+ history → note.endsStream id = true →
    payloads id (note :: earlier) = bodies.flatten
  flags : ∀ item ∈ waiting, item.endStream = true

variable {id streamId : StreamId} {bodies : List Bytes} {waiting hand : List PendingBodyData}
  {history : List Note} {entry : Note} {sent rest : Bytes} {endStream : Bool}
  {engine next : H2Engine}

theorem payloads_cons :
    payloads id (entry :: history) = payloads id history ++ entry.payload id := by simp [payloads]

theorem Delivered.silent (hdelivered : Delivered id bodies waiting history)
    (hpayload : entry.payload id = []) (hends : entry.endsStream id = false) :
    Delivered id bodies waiting (entry :: history) where
  bytes := by rw [payloads_cons, hpayload, append_nil, hdelivered.bytes]
  ends := by rw [countP_cons_of_neg (by simp [hends]), hdelivered.ends]
  last note earlier hsuffix hnote := by
    rcases suffix_cons_iff.mp hsuffix with heq | hsuffix
    · cases heq
      rw [hends] at hnote
      cases hnote
    · exact hdelivered.last note earlier hsuffix hnote
  flags := hdelivered.flags

theorem Delivered.frame (hdelivered : Delivered id bodies [⟨id, sent ++ rest, endStream⟩] history)
    (hpayload : entry.payload id = sent)
    (hends : entry.endsStream id = (endStream && rest.isEmpty)) :
    Delivered id bodies (if rest = [] then [] else [⟨id, rest, endStream⟩]) (entry :: history) := by
  have hflag : endStream = true := hdelivered.flags _ (mem_singleton_self _)
  have hbytes := hdelivered.bytes
  have hcount := hdelivered.ends
  have hlast := hdelivered.last
  subst hflag hpayload
  rw [Bool.true_and] at hends
  refine ⟨?_, ?_, ?_, ?_⟩
  · rw [payloads_cons]
    split <;> simp_all
  · split <;> simp_all
  · intro note earlier hsuffix hnote
    rcases suffix_cons_iff.mp hsuffix with heq | hsuffix
    · cases heq
      rw [hends, List.isEmpty_iff] at hnote
      simpa [payloads_cons, hnote] using hbytes
    · exact hlast note earlier hsuffix hnote
  · split <;> simp

namespace H2Engine

/-! ## Bodies that wait -/

/-- Data wait for a window of the connection or of their stream. -/
def NotStuck (engine : H2Engine) : Prop :=
  ∀ item ∈ engine.pendingData, ∀ stream, engine.streams item.streamId = some stream →
    stream.state.canSend → engine.sendWindow ≤ 0 ∨ stream.sendWindow ≤ 0

structure Waiting (engine : H2Engine) : Prop where
  notStuck : engine.NotStuck
  framed : Valid engine.remoteSettings

theorem Waiting.same (hwaiting : engine.Waiting) (hsame : engine.SameSend next) : next.Waiting where
  notStuck item hitem stream' hstream' hcan := by
    obtain ⟨stream, hstream, hsent⟩ := hsame.streams _ stream' hstream'
    rw [hsame.window, hsent.window]
    exact hwaiting.notStuck item (hsame.pending ▸ hitem) stream hstream (hsent.canSend hcan)
  framed := hsame.settings ▸ hwaiting.framed

theorem Waiting.note (hwaiting : engine.Waiting) {entry : Note} : (engine.note entry).Waiting :=
  ⟨hwaiting.notStuck, hwaiting.framed⟩

theorem sends_waiting : Sends fun _ engine => engine.Waiting where
  -- Both windows are open for the frame, so that other data wait for another stream's window.
  chunk {engine next hand id sent rest endStream} hwaiting hsent hconnection hstreamWindow _
      hnext := by
    have hlength := length_pos_iff.mpr hsent
    refine ⟨fun item hitem stream' hstream' hcan => .inr ?_, hnext.settings ▸ hwaiting.framed⟩
    obtain ⟨stream, hstream, -, hcanSend, hwindow⟩ := hnext.streams _ stream' hstream'
    have hblocked := hwaiting.notStuck item (hnext.pending ▸ hitem) stream hstream (hcanSend hcan)
    have hclosed := hblocked.resolve_left (by omega)
    have hother : item.streamId ≠ id := by
      intro hequal
      rw [streamWindow, ← hequal, hstream, map_some, getD_some] at hstreamWindow
      omega
    rw [hwindow, if_neg hother]
    exact hclosed
  park {engine hand item} hwaiting _ hblocked := by
    refine ⟨fun other hother stream hstream hcan => ?_, hwaiting.framed⟩
    rcases mem_append.mp hother with hold | hnew
    · exact hwaiting.notStuck other hold stream hstream hcan
    · cases mem_singleton.mp hnew
      have hfound : engine.streams item.streamId = some stream := hstream
      rwa [streamWindow, hfound] at hblocked
  finish hwaiting := by
    split
    · exact hwaiting.note.same sameSend_emitData
    · exact hwaiting
  framed hwaiting := hwaiting.framed.2

/-- After `drain_pending_data` everything waits for a window, whatever waited before. -/
theorem waiting_drain (hframed : Valid engine.remoteSettings) : engine.drainPendingData.Waiting :=
  sends_waiting.drain ⟨nofun, hframed⟩

theorem kept_waiting : Kept Waiting where
  same := Waiting.same
  note hwaiting _ := hwaiting.note
  drain hwaiting := waiting_drain hwaiting.framed
  update hwaiting _ := waiting_drain hwaiting.framed
  updateStream hwaiting _ _ := waiting_drain hwaiting.framed

/-- The call opens no window that data wait for, except by a window update: settings leave the
stream's window at nothing, and a stream that is opened has no data waiting. -/
def Withholds (engine : H2Engine) : Call → Prop
  | .openStream => ∀ item ∈ engine.pendingData, item.streamId ≠ engine.nextStreamId
  | .receive inbound => ∀ params, inbound.frame = .settings false params →
    ∀ item ∈ engine.pendingData, ∀ stream, engine.streams item.streamId = some stream →
      stream.state.canSend → engine.sendWindow ≤ 0 ∨
        ∀ rebased, stream.applyInitialWindowSize
          (engine.remoteSettings.applyAll params).1.initialWindowSize = some rebased →
            rebased.sendWindow ≤ 0
  | _ => True

theorem Waiting.applyRemoteSettings (hwaiting : engine.Waiting) {inbound : Inbound}
    (hwithholds : engine.Withholds (.receive inbound)) {params : List SettingsParameter}
    (hframe : inbound.frame = .settings false params) :
    (engine.applyRemoteSettings params inbound.order).1.Waiting := by
  have hrebased := @rebased_applyRemoteSettings engine params inbound.order
  refine ⟨?_, hrebased.settings ▸ valid_applyAll hwaiting.framed⟩
  intro item hitem stream' hstream' hcan
  rw [hrebased.pending] at hitem
  rw [hrebased.window]
  obtain ⟨stream, hstream, rfl | hvisited⟩ := hrebased.streams _ stream' hstream'
  · exact hwaiting.notStuck item hitem _ hstream hcan
  · have hstate : stream'.state = stream.state := by
      obtain ⟨_, _, rfl⟩ := map_eq_some_iff.mp hvisited
      rfl
    rw [hstate] at hcan
    have hblocked := hwithholds params hframe item hitem stream hstream hcan
    exact hblocked.imp_right fun hclosed => hclosed stream' hvisited

theorem Waiting.call (hwaiting : engine.Waiting) {call : Call}
    (hwithholds : engine.Withholds call) : (engine.call call).Waiting := by
  apply sends_waiting.call kept_waiting hwaiting call
  · rintro rfl
    refine ⟨fun item hitem stream hstream hcan => ?_, hwaiting.framed⟩
    rcases update_cases hstream with ⟨hequal, -⟩ | ⟨-, hold⟩
    · exact absurd hequal (hwithholds item hitem)
    · exact hwaiting.notStuck item hitem stream hold hcan
  · exact fun _ _ _ _ _ => hwaiting.note
  · exact fun _ _ _ hengine => hengine
  · rintro inbound params rfl hframe
    exact hwaiting.applyRemoteSettings hwithholds hframe

/-- Every call of the run withholds windows. -/
def RunWithholds (engine : H2Engine) : List Call → Prop
  | [] => True
  | call :: calls => engine.Withholds call ∧ (engine.call call).RunWithholds calls

theorem Waiting.run {calls : List Call} (hwaiting : engine.Waiting)
    (hwithholds : engine.RunWithholds calls) : (engine.run calls).Waiting := by
  induction calls generalizing engine with
  | nil => exact hwaiting
  | cons call calls ih => exact ih (hwaiting.call hwithholds.1) hwithholds.2

/-- No data are left behind an open window in a run whose settings open no window that they wait
for. -/
theorem bodies_not_stuck (settings : List SettingsParameter) (windowUpdate : Nat)
    (flowControl : FlowControl) (calls : List Call)
    (hwithholds : (client settings windowUpdate flowControl).RunWithholds calls) :
    ((client settings windowUpdate flowControl).run calls).NotStuck := by
  have hstart : (client settings windowUpdate flowControl).Waiting :=
    ⟨forall_mem_nil _, by simp [client, Valid, maxWindow]⟩
  exact (hstart.run hwithholds).notStuck

/-- A body that the windows of the streams hold back. -/
def heldBack : List Call :=
  [.receive { frame := .settings false [⟨4, 4⟩] }, .openStream,
    .buildData 1 [1, 2, 3, 4, 5, 6] true]

theorem heldBack_not_stuck :
    ((client [] 0 ⟨none, fun _ => 0⟩).run heldBack).pendingData = [⟨1, [5, 6], true⟩] ∧
      ((client [] 0 ⟨none, fun _ => 0⟩).run heldBack).NotStuck :=
  ⟨by decide +kernel, bodies_not_stuck [] 0 _ heldBack
    ⟨fun _ _ => forall_mem_nil _, forall_mem_nil _, trivial, trivial⟩⟩

/-- Larger windows for all streams do not send what is left of the body. -/
theorem raised_window_stuck :
    ¬((client [] 0 ⟨none, fun _ => 0⟩).run
      (heldBack ++ [.receive { frame := .settings false [⟨4, 10⟩] }])).NotStuck := by
  intro hnotStuck
  have hwindows := hnotStuck ⟨1, [5, 6], true⟩ (by decide +kernel) ⟨.open, 6, 65535, 10⟩
    (by decide +kernel) rfl
  exact absurd hwindows (by decide +kernel)

/-! ## Whole bodies -/

/-- The data of a stream that wait or are in hand are what is left of its body. -/
structure Carries (id : StreamId) (bodies : List Bytes) (hand : List PendingBodyData)
    (engine : H2Engine) : Prop where
  delivered : Delivered id bodies ((engine.pendingData ++ hand).filter (·.streamId = id))
    engine.history
  one : bodies.length ≤ 1
  framed : Valid engine.remoteSettings

theorem Carries.silent (hcarries : Carries id bodies hand engine)
    (hhistory : next.history = entry :: engine.history)
    (hpending : next.pendingData = engine.pendingData)
    (hsettings : next.remoteSettings = engine.remoteSettings) (hpayload : entry.payload id = [])
    (hends : entry.endsStream id = false) : Carries id bodies hand next where
  delivered := by
    rw [hhistory, hpending]
    exact hcarries.delivered.silent hpayload hends
  one := hcarries.one
  framed := hsettings ▸ hcarries.framed

/-- A frame takes data out of the hand. There is but one item of a stream. -/
theorem Carries.frame
    (hcarries : Carries id bodies (⟨streamId, sent ++ rest, endStream⟩ :: hand) engine)
    (hhistory : next.history = entry :: engine.history)
    (hpending : next.pendingData = engine.pendingData)
    (hsettings : next.remoteSettings = engine.remoteSettings)
    (hpayload : entry.payload id = if streamId = id then sent else [])
    (hends : entry.endsStream id = (streamId = id && (endStream && rest.isEmpty))) :
    Carries id bodies (if rest = [] then hand else ⟨streamId, rest, endStream⟩ :: hand) next := by
  refine ⟨?_, hcarries.one, hsettings ▸ hcarries.framed⟩
  have hdelivered := hcarries.delivered
  rw [hhistory, hpending]
  by_cases hid : streamId = id
  · subst hid
    have hone := hcarries.one
    have hcount := hdelivered.ends
    rw [filter_append, filter_cons_of_pos (by simp)] at hdelivered hcount
    rw [length_append, length_cons] at hcount
    have hnone : engine.pendingData.filter (·.streamId = streamId) = [] :=
      length_eq_zero_iff.mp (by omega)
    have hhand : hand.filter (·.streamId = streamId) = [] := length_eq_zero_iff.mp (by omega)
    rw [hnone, hhand, nil_append] at hdelivered
    have hsent := hdelivered.frame (hpayload.trans (if_pos rfl)) (by simpa using hends)
    split at hsent
    next hrest => simpa [hrest, hnone, hhand] using hsent
    next hrest => simpa [hrest, hnone, hhand] using hsent
  · have hstill := hdelivered.silent (hpayload.trans (if_neg hid)) (by simp [hends, hid])
    split
    · simpa [hid] using hstill
    · simpa [hid] using hstill

theorem sends_carries : Sends (Carries id bodies) where
  chunk hcarries _ _ _ _ hnext := by
    apply hcarries.frame hnext.history hnext.pending hnext.settings
    · rfl
    · rfl
  park {engine hand item} hcarries _ _ := by
    refine ⟨?_, hcarries.one, hcarries.framed⟩
    rw [park, append_assoc]
    exact hcarries.delivered
  finish {engine hand streamId endStream} hcarries := by
    cases endStream with
    | true =>
      have hsame := @sameSend_emitData engine streamId true []
      exact hcarries.frame hsame.history hsame.pending hsame.settings rfl rfl
    | false =>
      have hid : streamId ≠ id := by
        intro hid
        have hflag := hcarries.delivered.flags ⟨streamId, [], false⟩ (by simp [hid])
        cases hflag
      have hdelivered := hcarries.delivered
      rw [filter_append, filter_cons_of_neg (by simpa using hid), ← filter_append] at hdelivered
      exact ⟨hdelivered, hcarries.one, hcarries.framed⟩
  framed hcarries := hcarries.framed.2

theorem Carries.drain (hcarries : Carries id bodies [] engine) :
    Carries id bodies [] engine.drainPendingData := by
  apply sends_carries.drain
  refine ⟨?_, hcarries.one, hcarries.framed⟩
  have hdelivered := hcarries.delivered
  rwa [append_nil] at hdelivered

theorem silent_of_isQuiet (hquiet : IsQuiet entry) :
    entry.payload id = [] ∧ entry.endsStream id = false := by
  cases entry with
  | emitted frame => cases frame <;> first | exact ⟨rfl, rfl⟩ | exact hquiet.elim
  | reported => exact ⟨rfl, rfl⟩
  | opened | accepted => exact hquiet.elim

theorem kept_carries : Kept (Carries id bodies []) where
  same hcarries hsame :=
    ⟨by rw [hsame.history, hsame.pending]; exact hcarries.delivered, hcarries.one,
      hsame.settings ▸ hcarries.framed⟩
  note hcarries hquiet :=
    hcarries.silent rfl rfl rfl (silent_of_isQuiet hquiet).1 (silent_of_isQuiet hquiet).2
  drain := Carries.drain
  update hcarries _ := by
    apply Carries.drain
    exact hcarries.silent rfl rfl rfl rfl rfl
  updateStream hcarries _ _ := by
    apply Carries.drain
    exact hcarries.silent rfl rfl rfl rfl rfl

/-- The bodies that a call gives to the stream. -/
def Call.given (id : StreamId) : Call → List Bytes
  | .buildHeaders streamId _ true _ => if streamId = id then [[]] else []
  | .buildData streamId data _ => if streamId = id then [data] else []
  | .buildRequest streamId _ _ body => if streamId = id then [body.getD []] else []
  | .openStream | .buildHeaders _ _ false _ | .receive _ | .malformed _ => []

/-- A body is taken in hand. -/
theorem Carries.give {body : Bytes} (hcarries : Carries id bodies [] engine)
    (hone : (bodies ++ if streamId = id then [body] else []).length ≤ 1)
    (hflag : streamId = id → endStream = true) :
    Carries id (bodies ++ if streamId = id then [body] else []) [⟨streamId, body, endStream⟩]
      engine := by
  refine ⟨?_, hone, hcarries.framed⟩
  have hdelivered := hcarries.delivered
  rw [append_nil] at hdelivered
  by_cases hid : streamId = id
  · subst hid
    rw [if_pos rfl, length_append, length_singleton] at hone
    obtain rfl : bodies = [] := length_eq_zero_iff.mp (by omega)
    have hcount := hdelivered.ends
    rw [length_nil, Nat.add_eq_zero_iff] at hcount
    have hnone := length_eq_zero_iff.mp hcount.2
    have hbytes := hdelivered.bytes
    rw [hnone, flatMap_nil, append_nil, flatten_nil] at hbytes
    rw [filter_append, hnone]
    refine ⟨by simp [hbytes], by simp [hcount.1], ?_, by simp [hflag]⟩
    intro note earlier hsuffix hnote
    exact absurd hnote (countP_eq_zero.mp hcount.1 note (hsuffix.subset mem_cons_self))
  · simpa [hid] using hdelivered

theorem Carries.call {call : Call} (hcarries : Carries id bodies [] engine)
    (hone : (bodies ++ call.given id).length ≤ 1)
    (hflag : ∀ data, call ≠ .buildData id data false) :
    Carries id (bodies ++ call.given id) [] (engine.call call) := by
  have hopen (streamId : StreamId) (block : Bytes) (priority : Option PrioritySpec) :
      Carries id bodies [] (engine.buildHeaders streamId block false priority) := by
    apply kept_carries.buildHeaders
    intro block endHeaders
    exact hcarries.silent rfl rfl rfl rfl (Bool.and_false _)
  have hend (streamId : StreamId) (block : Bytes) (priority : Option PrioritySpec)
      (hone : (bodies ++ if streamId = id then [[]] else []).length ≤ 1) :
      Carries id (bodies ++ if streamId = id then [[]] else []) []
        (engine.buildHeaders streamId block true priority) := by
    apply kept_carries.buildHeaders
    intro block endHeaders
    have hhand : Carries id _ [⟨streamId, [] ++ [], true⟩] engine :=
      hcarries.give hone fun _ => rfl
    exact hhand.frame rfl rfl rfl (ite_self _).symm rfl
  cases call with
  | openStream =>
    simp only [Call.given, append_nil]
    exact hcarries.silent rfl rfl rfl rfl rfl
  | buildHeaders streamId block endStream priority =>
    cases endStream with
    | true => exact hend streamId block priority hone
    | false =>
      simp only [Call.given, append_nil]
      exact hopen streamId block priority
  | buildData streamId data endStream =>
    apply sends_carries.buildData
    apply hcarries.give hone
    rintro rfl
    cases endStream with
    | true => rfl
    | false => exact absurd rfl (hflag data)
  | buildRequest streamId block priority body =>
    match body with
    | some (byte :: rest) => exact sends_carries.buildData ((hopen ..).give hone fun _ => rfl)
    | some [] | none => exact hend streamId block priority hone
  | receive inbound =>
    simp only [Call.given, append_nil]
    apply kept_carries.handleFrame hcarries
    intro params _
    have hrebased := @rebased_applyRemoteSettings engine params inbound.order
    refine ⟨?_, hcarries.one, hrebased.settings ▸ valid_applyAll hcarries.framed⟩
    rw [hrebased.history, hrebased.pending]
    exact hcarries.delivered
  | malformed =>
    simp only [Call.given, append_nil]
    exact kept_carries.refuse hcarries

theorem Carries.run {calls : List Call} (hcarries : Carries id bodies [] engine)
    (hone : (bodies ++ calls.flatMap (Call.given id)).length ≤ 1)
    (hflag : ∀ data, .buildData id data false ∉ calls) :
    Carries id (bodies ++ calls.flatMap (Call.given id)) [] (engine.run calls) := by
  induction calls generalizing engine bodies with
  | nil =>
    rw [flatMap_nil, append_nil]
    exact hcarries
  | cons call calls ih =>
    rw [flatMap_cons, ← append_assoc] at hone ⊢
    have hfirst : (bodies ++ call.given id).length ≤ 1 := by
      rw [length_append] at hone
      omega
    apply ih (hcarries.call hfirst _) hone
    · exact fun data hmem => hflag data (mem_cons_of_mem _ hmem)
    · exact fun data heq => hflag data (heq ▸ mem_cons_self)

/-- A stream that is given its body by one call, with the end of the stream, sends the body and
nothing else, and ends with the last byte. -/
theorem body_delivered (settings : List SettingsParameter) (windowUpdate : Nat)
    (flowControl : FlowControl) (calls : List Call) (id : StreamId)
    (hone : (calls.flatMap (Call.given id)).length ≤ 1)
    (hflag : ∀ data, .buildData id data false ∉ calls) :
    Delivered id (calls.flatMap (Call.given id))
      (((client settings windowUpdate flowControl).run calls).pendingData.filter
        (·.streamId = id))
      ((client settings windowUpdate flowControl).run calls).history := by
  have hstart : Carries id [] [] (client settings windowUpdate flowControl) :=
    ⟨⟨rfl, rfl, by simp [client], nofun⟩, Nat.zero_le _, by simp [client, Valid, maxWindow]⟩
  have hdelivered := (hstart.run hone hflag).delivered
  rwa [append_nil, nil_append] at hdelivered

theorem heldBack_delivered :
    Delivered 1 [[1, 2, 3, 4, 5, 6]] [⟨1, [5, 6], true⟩]
      ((client [] 0 ⟨none, fun _ => 0⟩).run heldBack).history := by
  exact body_delivered [] 0 ⟨none, fun _ => 0⟩ heldBack 1 (by decide) (by simp [heldBack])

end H2Engine

end LkRequest.H2
