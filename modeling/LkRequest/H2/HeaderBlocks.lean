import LkRequest.H2.ReceivingSide

/-!
# Header blocks

`ContinuationAssembler` puts a header block together from a HEADERS frame and the CONTINUATION
frames after it. Only its CONTINUATION handler looks at the block that is open, so blocks are
whole as long as the peer sends nothing else in between.
-/

namespace LkRequest.H2

open Function Library List

/-- What the frame adds to an open block on the stream. -/
def H2Frame.fragmentOn (streamId : StreamId) : H2Frame → Bytes
  | .continuation id block _ => if id = streamId then block else []
  | _ => []

/-- The frames end with a HEADERS frame on the stream and other frames after it, and the block is
its fragment and those of the CONTINUATION frames on the stream. -/
inductive Assembled : List H2Frame → StreamId → Bytes → Prop
  | headers {before : List H2Frame} {streamId : StreamId} {fragment : Bytes}
      {endStream endHeaders : Bool} {priority : Option PrioritySpec} :
      Assembled (before ++ [.headers streamId fragment endStream endHeaders priority]) streamId
        fragment
  | later {frames : List H2Frame} {streamId : StreamId} {block : Bytes} (frame : H2Frame) :
      Assembled frames streamId block →
      (∀ id block endStream endHeaders priority,
        frame ≠ .headers id block endStream endHeaders priority) →
      Assembled (frames ++ [frame]) streamId (block ++ frame.fragmentOn streamId)

namespace ContinuationAssembler

/-- What a frame does to the assembler. A complete block goes to the HPACK decoder. -/
def push (assembler : ContinuationAssembler) : H2Frame → ContinuationAssembler × AssemblyResult
  | .headers streamId block endStream endHeaders _ =>
    assembler.pushHeaders streamId block endStream endHeaders
  | .continuation streamId block endHeaders =>
    assembler.pushContinuation streamId block endHeaders
  | _ => (assembler, .incomplete)

/-- While a block is open only CONTINUATION frames come, or PUSH_PROMISE, which is always
refused. A block without CONTINUATION frames keeps to the limit, which is not checked for it. -/
def Orderly (assembler : ContinuationAssembler) : H2Frame → Prop
  | .continuation .. | .pushPromise => True
  | .headers _ block _ endHeaders _ => assembler.activeStream = none ∧
    (endHeaders → block.length ≤ assembler.maxHeaderBlockSize)
  | _ => assembler.activeStream = none

/-- The open block is a part of what was received. -/
def Holds (assembler : ContinuationAssembler) (seen : List H2Frame) : Prop :=
  ∀ id, assembler.activeStream = some id →
    ∃ block rest, assembler.bufs id = some (block, rest) ∧ Assembled seen id block ∧
      block.length ≤ assembler.maxHeaderBlockSize

variable {seen : List H2Frame} {assembler : ContinuationAssembler} {frame : H2Frame}

/-- A frame that adds nothing to the open block. -/
theorem Holds.later (hholds : assembler.Holds seen)
    (hother : ∀ id, assembler.activeStream = some id → frame.fragmentOn id = [])
    (hframe : ∀ id block endStream endHeaders priority,
      frame ≠ .headers id block endStream endHeaders priority) :
    assembler.Holds (seen ++ [frame]) := by
  intro id hactive
  obtain ⟨block, rest, hbuf, hassembled, hlength⟩ := hholds id hactive
  have hsame := hassembled.later frame hframe
  rw [hother id hactive, append_nil] at hsame
  exact ⟨block, rest, hbuf, hsame, hlength⟩

theorem Holds.push (hholds : assembler.Holds seen) (horderly : assembler.Orderly frame) :
    (assembler.push frame).1.Holds (seen ++ [frame]) ∧
    ∀ id block endStream, (assembler.push frame).2 = .complete id block endStream →
      Assembled (seen ++ [frame]) id block ∧ block.length ≤ assembler.maxHeaderBlockSize := by
  cases frame with
  | headers streamId fragment =>
    have hnone {assembled : Prop} (id : StreamId)
        (hactive : assembler.activeStream = some id) : assembled := by
      rw [horderly.1] at hactive
      cases hactive
    rw [ContinuationAssembler.push, pushHeaders]
    split
    next hend =>
      refine ⟨fun id hactive => hnone id hactive, ?_⟩
      rintro id block ended ⟨⟩
      exact ⟨.headers, horderly.2 hend⟩
    · split
      · exact ⟨fun id hactive => hnone id hactive, nofun⟩
      next hlength =>
        refine ⟨?_, nofun⟩
        rintro id ⟨⟩
        exact ⟨fragment, _, update_self .., .headers, not_lt.mp hlength⟩
  | continuation streamId fragment endHeaders =>
    rw [ContinuationAssembler.push, pushContinuation]
    split
    next hother =>
      refine ⟨hholds.later ?_ nofun, nofun⟩
      intro id hactive
      apply if_neg
      rintro rfl
      exact hother hactive
    next hactive =>
      rw [not_not] at hactive
      obtain ⟨block, ⟨endStream, count⟩, hbuf, hassembled, -⟩ := hholds streamId hactive
      have hlater := hassembled.later (.continuation streamId fragment endHeaders) nofun
      rw [H2Frame.fragmentOn, if_pos rfl] at hlater
      rw [hbuf]
      dsimp only
      split
      · exact ⟨nofun, nofun⟩
      next hlimits =>
        have hlength : (block ++ fragment).length ≤ assembler.maxHeaderBlockSize := by
          rw [length_append]
          omega
        split
        · refine ⟨nofun, ?_⟩
          rintro id whole ended ⟨⟩
          exact ⟨hlater, hlength⟩
        · refine ⟨?_, nofun⟩
          intro id hid
          cases hactive.symm.trans hid
          exact ⟨_, _, update_self .., hlater, hlength⟩
  | _ => exact ⟨hholds.later (fun _ _ => rfl) nofun, nofun⟩

end ContinuationAssembler

namespace H2Engine

variable {engine : H2Engine} {seen : List H2Frame}

theorem continuation_call {call : Call} (hquiet : call.isReceiving = false) :
    (engine.call call).continuation = engine.continuation := by
  have hsame := congrArg continuation (@receiving_call engine call hquiet)
  exact hsame

/-- The block that is being assembled, the streams that were opened and the next of them. -/
def unread (engine : H2Engine) : ContinuationAssembler × List StreamId × StreamId :=
  (engine.continuation, engine.ids, engine.nextStreamId)

theorem unread_handleData (streamId : StreamId) (data : Bytes) (endStream : Bool)
    (padding : Option Nat) :
    (engine.handleData streamId data endStream padding).unread = engine.unread := by
  have haccept (next : H2Engine) (flowLen initialWindow : Nat) :
      (next.acceptData streamId data endStream flowLen initialWindow).unread = next.unread := by
    dsimp only [acceptData, creditConnection, creditStream, report, note]
    repeat' split
    all_goals rfl
  fun_cases handleData with
  | case2 | case5 => exact haccept ..
  | _ => rfl

theorem continuation_handleFrame (inbound : Inbound) :
    (engine.handleFrame inbound).continuation = (engine.continuation.push inbound.frame).1 := by
  obtain ⟨frame, decoded, order⟩ := inbound
  cases frame with
  | data => exact congrArg Prod.fst (unread_handleData ..)
  | headers | continuation =>
    exact congrArg continuation receiving_assembled
  | _ => exact @continuation_call engine (.receive ⟨_, decoded, order⟩) rfl

/-- A frame that may not come while a block is open is answered with a connection error and
nothing else, and a block that goes to the HPACK decoder is whole and keeps to the limit. -/
structure Atomic (seen : List H2Frame) (engine : H2Engine) (inbound : Inbound) : Prop where
  refused : ∀ id, engine.continuation.activeStream = some id →
    (∀ block endHeaders, inbound.frame ≠ .continuation id block endHeaders) →
    ∃ errorCode message, engine.handleFrame inbound = engine.refuse errorCode message
  whole : ∀ id block endStream,
    (engine.continuation.push inbound.frame).2 = .complete id block endStream →
    Assembled (seen ++ [inbound.frame]) id block ∧
      block.length ≤ engine.continuation.maxHeaderBlockSize

theorem Atomic.of_orderly {inbound : Inbound} (hholds : engine.continuation.Holds seen)
    (horderly : engine.continuation.Orderly inbound.frame) : Atomic seen engine inbound where
  whole := (hholds.push horderly).2
  refused id hactive hother := by
    obtain ⟨frame, decoded, order⟩ := inbound
    refine ⟨1, ?_⟩
    cases frame with
    | continuation streamId block endHeaders =>
      have hstream : engine.continuation.activeStream ≠ some streamId := by
        rintro hstream
        cases hactive.symm.trans hstream
        exact hother block endHeaders rfl
      simp only [handleFrame, ContinuationAssembler.pushContinuation, if_pos hstream, assembled]
      exact ⟨_, rfl⟩
    | pushPromise => exact ⟨_, rfl⟩
    | headers => cases hactive.symm.trans horderly.1
    | _ => cases hactive.symm.trans horderly

/-! ## Runs -/

/-- The engine of a profile, with the frames that it received. -/
def receiver (settings : List SettingsParameter) (windowUpdate : Nat) (flowControl : FlowControl) :
    Machine (H2Engine × List H2Frame) Call where
  start := (client settings windowUpdate flowControl, [])
  step state call :=
    match call with
    | .receive inbound => some (state.1.handleFrame inbound, state.2 ++ [inbound.frame])
    | _ => some (state.1.call call, state.2)

/-- Every frame that is received has the property. -/
def Call.Receives (property : Inbound → Prop) : Call → Prop
  | .receive inbound => property inbound
  | _ => True

theorem header_blocks_atomic (settings : List SettingsParameter) (windowUpdate : Nat)
    (flowControl : FlowControl) (calls : List Call)
    (horderly : (receiver settings windowUpdate flowControl).Obeys (fun state =>
      Call.Receives fun inbound => state.1.continuation.Orderly inbound.frame) calls) :
    (receiver settings windowUpdate flowControl).Obeys
      (fun state => Call.Receives (Atomic state.2 state.1)) calls := by
  intro before call after state hsplit hrun
  have hholds : state.1.continuation.Holds state.2 := by
    apply Machine.invariant _ _ (horderly.of_initial ⟨_, hsplit.symm⟩) hrun
    · exact nofun
    · rintro state call next hholds hallowed hnext
      cases call with
      | receive inbound =>
        cases hnext
        rw [continuation_handleFrame]
        exact (hholds.push hallowed).1
      | _ =>
        cases hnext
        rw [continuation_call rfl]
        exact hholds
  have hframe := horderly before call after state hsplit hrun
  cases call with
  | receive inbound => exact .of_orderly hholds hframe
  | _ => trivial

/-- A HEADERS frame that leaves its block open. -/
def openHeaders : Call := .receive ⟨.headers 1 [1] false false none, .error [], []⟩

theorem continued_block_atomic :
    (receiver [] 0 ⟨none, fun _ => 0⟩).Obeys (fun state => Call.Receives (Atomic state.2 state.1))
      [openHeaders, .receive ⟨.continuation 1 [2] true, .error [], []⟩] := by
  apply header_blocks_atomic
  apply Machine.ObeysFrom.obeys
  exact ⟨⟨rfl, nofun⟩, forall_mem_some ⟨trivial, fun _ _ => trivial⟩⟩

/-- DATA in the middle of a header block is reported to the driver. -/
theorem data_inside_block_reported :
    ¬(receiver [] 0 ⟨none, fun _ => 0⟩).Obeys (fun state => Call.Receives (Atomic state.2 state.1))
      [openHeaders, .receive ⟨.data 1 [2] false none, .error [], []⟩] := by
  intro hatomic
  obtain ⟨errorCode, message, hanswer⟩ := (hatomic [openHeaders] _ [] _ rfl rfl).refused 1 rfl nofun
  have hlast := congrArg (fun engine => engine.history.head?) hanswer
  cases hlast

end H2Engine

end LkRequest.H2
