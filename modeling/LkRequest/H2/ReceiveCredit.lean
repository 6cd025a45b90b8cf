import LkRequest.H2.ReceivingSide

/-!
# Credit for received data

`handle_data` charges the connection window first and tells the policy last. What the peer was
charged and has not got back is what the policy has counted, except for DATA that the engine
answers with RST_STREAM in between.
-/

namespace LkRequest.H2

open Function Library Option

theorem asI32_eq {value : Int} (hlow : -maxWindow ≤ value) (hhigh : value ≤ maxWindow) :
    asI32 value = value := by
  rw [maxWindow] at hlow hhigh
  exact Int.bmod_eq_of_le (by omega) (by omega)

theorem consumeRecvWindow_eq {window next : Int} {amount : Nat} (hwindow : window ≤ maxWindow)
    (hnext : consumeRecvWindow window amount = some next) : 0 ≤ next ∧ next = window - amount := by
  obtain ⟨henough, hvalue⟩ := ite_none_left_eq_some.mp hnext
  have hcast : asI32 amount = amount := asI32_eq (by rw [maxWindow]; omega) (by omega)
  rw [hcast, asI32_eq (by rw [maxWindow]; omega) (by omega)] at hvalue
  cases hvalue
  omega

/-- The bytes of a DATA frame that flow control counts. -/
abbrev flowLength (data : Bytes) (padding : Option Nat) : Nat :=
  data.length + (padding.map (1 + ·)).getD 0

/-- What the policy makes of received data. -/
structure FlowControl.Counts (policy : FlowControl) (id : StreamId) (dataLen : Nat)
    (told : FlowControl × Option Nat) : Prop where
  threshold : told.1.threshold.isSome
  others : ∀ other, other ≠ id → told.1.accumulated other = policy.accumulated other
  count : told.1.accumulated id + told.2.getD 0 = policy.accumulated id + dataLen

theorem FlowControl.onDataReceived_spec {policy : FlowControl} (hpolicy : policy.threshold.isSome)
    (id : StreamId) (dataLen initialWindow : Nat) :
    policy.Counts id dataLen (policy.onDataReceived id dataLen initialWindow) := by
  obtain ⟨threshold, hthreshold⟩ := isSome_iff_exists.mp hpolicy
  rw [onDataReceived, hthreshold]
  dsimp only
  split
  next hempty => exact ⟨hpolicy, fun _ _ => rfl, by rw [hempty, getD_none]⟩
  · split
    · exact ⟨rfl, fun _ hother => update_of_ne hother .., by simp⟩
    · exact ⟨rfl, fun _ hother => update_of_ne hother .., by simp⟩

namespace H2Engine

/-- What the peer was charged is credited back or counted by the policy. -/
def Conserved (engine : H2Engine) : Prop :=
  engine.connInitialRecvWindow - engine.recvWindow = engine.flowControl.accumulated 0

/-- DATA for a stream in the table can be received and is within the stream's window. DATA on stream
0 or beyond the window of the connection is a connection error. -/
def Accounted (engine : H2Engine) : Call → Prop
  | .receive ⟨.data streamId data _ padding, _, _⟩ =>
    streamId = 0 ∨ engine.recvWindow < flowLength data padding ∨ flowLength data padding = 0 ∨
      ∀ stream, engine.streams streamId = some stream → stream.state.canReceive = true ∧
        (consumeRecvWindow stream.recvWindow (flowLength data padding)).isSome
  | _ => True

/-- The account, with a debt for bytes that the policy has not been told about. -/
structure Owes (debt : Nat) (engine : H2Engine) : Prop where
  policy : engine.flowControl.threshold.isSome
  limit : (engine.connInitialRecvWindow : Int) ≤ maxWindow
  window : 0 ≤ engine.recvWindow
  account : engine.connInitialRecvWindow - engine.recvWindow =
    engine.flowControl.accumulated 0 + (debt : Int)

section

variable {engine next : H2Engine} {debt flowLen : Nat} {id : StreamId}

theorem Owes.of_receiving {assembler : ContinuationAssembler} (howes : engine.Owes debt)
    (hsame : next.receiving = { engine with continuation := assembler }.receiving) :
    next.Owes debt := by
  have hkept : next.receiving.Owes debt := by
    rw [hsame]
    exact ⟨howes.policy, howes.limit, howes.window, howes.account⟩
  exact ⟨hkept.policy, hkept.limit, hkept.window, hkept.account⟩

theorem Owes.creditConnection (howes : engine.Owes flowLen) :
    (engine.creditConnection flowLen).Owes 0 := by
  obtain ⟨hpolicy, hlimit, hwindow, haccount⟩ := howes
  have hspec := FlowControl.onDataReceived_spec hpolicy 0 flowLen engine.connInitialRecvWindow
  have hcount := hspec.count
  rw [H2Engine.creditConnection]
  generalize engine.flowControl.onDataReceived 0 flowLen engine.connInitialRecvWindow = told at *
  obtain ⟨policy, _ | increment⟩ := told
  · refine ⟨hspec.threshold, hlimit, hwindow, ?_⟩
    dsimp only [getD_none] at hcount ⊢
    omega
  · have hfull : (updateWindow engine.recvWindow increment).getD engine.recvWindow =
        engine.connInitialRecvWindow - policy.accumulated 0 := by
      dsimp only [getD_some] at hcount
      rw [updateWindow, if_neg (by omega), getD_some]
      rw [asI32_eq (by rw [maxWindow]; omega) (by omega)]
      omega
    dsimp only [getD_some] at hcount
    refine ⟨hspec.threshold, hlimit, ?_, ?_⟩ <;> dsimp only [emit, note] <;> omega

theorem Owes.creditStream (howes : engine.Owes debt) (hid : id ≠ 0) (initialWindow : Nat) :
    (engine.creditStream id flowLen initialWindow).Owes debt := by
  have hspec := FlowControl.onDataReceived_spec howes.policy id flowLen initialWindow
  have haccount := howes.account
  rw [← hspec.others 0 hid.symm] at haccount
  rw [H2Engine.creditStream]
  generalize engine.flowControl.onDataReceived id flowLen initialWindow = told at *
  obtain ⟨policy, _ | increment⟩ := told
  · exact ⟨hspec.threshold, howes.limit, howes.window, haccount⟩
  · exact ⟨hspec.threshold, howes.limit, howes.window, haccount⟩

theorem Owes.acceptData (howes : engine.Owes flowLen) (hid : id ≠ 0) (data : Bytes)
    (endStream : Bool) (initialWindow : Nat) :
    (engine.acceptData id data endStream flowLen initialWindow).Owes 0 := by
  have hcredited : (if 0 < flowLen then
      (engine.creditConnection flowLen).creditStream id flowLen initialWindow
      else engine).Owes 0 := by
    split
    · exact howes.creditConnection.creditStream hid initialWindow
    next hempty =>
      cases Nat.eq_zero_of_not_pos hempty
      exact howes
  rw [H2Engine.acceptData]
  split
  · refine ⟨hcredited.policy, hcredited.limit, hcredited.window, hcredited.account.trans ?_⟩
    simp [report, note, cleanupClosedStreams, FlowControl.onStreamClosed,
      update_of_ne hid.symm]
  · exact ⟨hcredited.policy, hcredited.limit, hcredited.window, hcredited.account⟩

/-- DATA leaves a debt exactly when it is not accounted for. -/
theorem Owes.handleData (howes : engine.Owes 0) (hid : id ≠ 0) (data : Bytes) (endStream : Bool)
    (padding : Option Nat) (decoded : Except Text Headers) (order : List StreamId) :
    ∃ debt, (engine.handleData id data endStream padding).Owes debt ∧ (debt = 0 ↔
      engine.Accounted (.receive ⟨.data id data endStream padding, decoded, order⟩)) := by
  dsimp only [H2Engine.handleData, Accounted, flowLength]
  generalize data.length + (padding.map (1 + ·)).getD 0 = flowLen
  rcases hconsumed : consumeRecvWindow engine.recvWindow flowLen with _ | window
  · have hbeyond : engine.recvWindow < flowLen := by
      simpa [consumeRecvWindow, howes.window.not_gt] using hconsumed
    exact ⟨0, howes.of_receiving rfl, by simp [hbeyond]⟩
  have haccount := howes.account
  have hlimit := howes.limit
  obtain ⟨hpositive, hcharge⟩ := consumeRecvWindow_eq (by omega) hconsumed
  have hwithin : ¬engine.recvWindow < flowLen := by omega
  have hcharged : { engine with recvWindow := window }.Owes flowLen :=
    ⟨howes.policy, hlimit, hpositive, by dsimp only; omega⟩
  rcases hstream : engine.streams id with _ | stream
  · exact ⟨0, hcharged.acceptData hid .., by simp⟩
  by_cases hstate : stream.state.canReceive = true
  · rcases hwindow : consumeRecvWindow stream.recvWindow flowLen with _ | later
    · simp only [hstate, hwindow]
      exact ⟨flowLen, hcharged.of_receiving rfl, by simp [hid, hwithin, hwindow]⟩
    · simp only [hstate, hwindow]
      refine ⟨0, Owes.acceptData ?_ hid .., by simp [hstate, hwindow]⟩
      exact ⟨hcharged.policy, hcharged.limit, hcharged.window, hcharged.account⟩
  · simp only [hstate]
    exact ⟨flowLen, hcharged.of_receiving rfl, by simp [hid, hwithin, hstate]⟩

/-- The codec refuses DATA on stream 0. -/
def Call.framed : Call → Call
  | .receive ⟨.data 0 .., _, _⟩ => .malformed "invalid frame: DATA frame with stream ID 0".toList
  | call => call

theorem Owes.call (howes : engine.Owes 0) (call : Call) :
    ∃ debt, (engine.call call.framed).Owes debt ∧ (debt = 0 ↔ engine.Accounted call) := by
  have hquiet (hquiet : call.isReceiving = false) : (engine.call call).Owes 0 :=
    howes.of_receiving (receiving_call hquiet)
  cases call with
  | receive inbound =>
    obtain ⟨frame, decoded, order⟩ := inbound
    cases frame with
    | data streamId =>
      by_cases hid : streamId = 0
      · subst hid
        exact ⟨0, howes.of_receiving rfl, by simp [Accounted]⟩
      · rw [Call.framed]
        · exact howes.handleData hid ..
        · rintro _ _ _ _ _ ⟨⟩
          exact hid rfl
    | headers | continuation =>
      exact ⟨0, howes.of_receiving receiving_assembled, iff_of_true rfl trivial⟩
    | _ => exact ⟨0, hquiet rfl, iff_of_true rfl trivial⟩
  | _ => exact ⟨0, hquiet rfl, iff_of_true rfl trivial⟩

theorem Owes.client (settings : List SettingsParameter) {windowUpdate : Nat}
    (hprofile : windowUpdate + 65535 ≤ maxWindow) (threshold : Nat → Nat) :
    (client settings windowUpdate ⟨some threshold, fun _ => 0⟩).Owes 0 := by
  have hwindow : (updateWindow 65535 windowUpdate).getD 65535 = 65535 + windowUpdate := by
    rw [updateWindow, if_neg (by omega), getD_some]
    exact asI32_eq (by rw [maxWindow]; omega) (by omega)
  rw [maxWindow] at hprofile
  have hlimit : min (65535 + windowUpdate) (2 ^ 32 - 1) = 65535 + windowUpdate := by omega
  rw [H2Engine.client, hwindow, hlimit]
  refine ⟨rfl, ?_, ?_, ?_⟩
  · rw [maxWindow]
    dsimp only
    omega
  · dsimp only
    omega
  · simp

end

/-! ## Runs -/

/-- The engine of a profile with `ThresholdFlowControl`. -/
def creditor (settings : List SettingsParameter) (windowUpdate : Nat) (threshold : Nat → Nat) :
    Machine H2Engine Call where
  start := client settings windowUpdate ⟨some threshold, fun _ => 0⟩
  step engine call := some (engine.call call.framed)

theorem connection_credit_conserved (settings : List SettingsParameter) {windowUpdate : Nat}
    (hprofile : windowUpdate + 65535 ≤ maxWindow) (threshold : Nat → Nat) (calls : List Call) :
    (creditor settings windowUpdate threshold).Throughout Conserved calls ↔
      (creditor settings windowUpdate threshold).Obeys Accounted calls := by
  apply Machine.throughout_iff_obeys (Owes 0)
  · exact .client settings hprofile threshold
  · rintro engine call _ howes haccounted ⟨⟩
    obtain ⟨debt, hdebt, hsettled⟩ := howes.call call
    cases hsettled.mpr haccounted
    exact hdebt
  · intro engine howes
    simpa [Conserved] using howes.account
  · intro engine call howes hunaccounted
    obtain ⟨debt, hdebt, hsettled⟩ := howes.call call
    refine ⟨_, rfl, fun hconserved => hunaccounted (hsettled.mp ?_)⟩
    have haccount := hdebt.account
    rw [Conserved] at hconserved
    omega

/-- A byte of DATA on the first stream. -/
def dataByte (endStream : Bool) : Call := .receive ⟨.data 1 [7] endStream none, .error [], []⟩

theorem accepted_byte_conserved :
    (creditor [] 0 (· / 2)).Throughout Conserved [.openStream, dataByte false] := by
  rw [connection_credit_conserved [] (by decide)]
  apply Machine.ObeysFrom.obeys
  refine ⟨trivial, forall_mem_some ⟨.inr (.inr (.inr ?_)), fun _ _ => trivial⟩⟩
  rintro stream ⟨⟩
  decide

/-- DATA after the end of the stream is charged and never given back. -/
theorem late_byte_lost :
    ¬(creditor [] 0 (· / 2)).Throughout Conserved
      [.openStream, dataByte true, dataByte false] := by
  intro hconserved
  have hlast : (65535 : Int) - 65533 = 1 := hconserved _ _ List.prefix_rfl rfl
  cases hlast

end H2Engine

end LkRequest.H2
