import LkRequest.H2.Engine

/-!
# The frames of a header block

A block that is too long for one frame goes on in CONTINUATION frames. The writes are groups of
frames, which `group_frames` cuts out.
-/

namespace LkRequest.H2

open Library List

/-- `ConfigurableWritePolicy`. -/
structure WritePolicy where
  splitHeaders : Bool
  splitData : Bool

namespace WritePolicy

variable (policy : WritePolicy)

def isolates : H2Frame → Bool
  | .headers .. => policy.splitHeaders
  | .data .. => policy.splitData
  | _ => false

/-- The loop of `group_frames`: the groups, and the group that is still open. -/
def group : List (List H2Frame) → List H2Frame → List H2Frame → List (List H2Frame)
  | groups, current, [] => if current = [] then groups else groups ++ [current]
  | groups, current, frame :: frames =>
    if policy.isolates frame then
      group ((if current = [] then groups else groups ++ [current]) ++ [[frame]]) [] frames
    else group groups (current ++ [frame]) frames

def groupFrames (frames : List H2Frame) : List (List H2Frame) :=
  if frames = [] then []
  else if !policy.splitHeaders && !policy.splitData then [frames]
  else policy.group [] [] frames

theorem flatten_group (groups : List (List H2Frame)) (current frames : List H2Frame) :
    (policy.group groups current frames).flatten = groups.flatten ++ current ++ frames := by
  have hclosed : ∀ groups : List (List H2Frame), ∀ current : List H2Frame,
      (if current = [] then groups else groups ++ [current]).flatten =
        groups.flatten ++ current := by
    intro groups current
    split
    next hempty => rw [hempty, append_nil]
    · exact flatten_concat
  induction frames generalizing groups current with
  | nil => rw [group, hclosed, append_nil]
  | cons frame frames ih =>
    rw [group]
    split
    · rw [ih, flatten_concat, hclosed]
      simp
    · rw [ih]
      simp

theorem flatten_groupFrames {frames : List H2Frame} :
    (policy.groupFrames frames).flatten = frames := by
  rw [groupFrames]
  split
  next hempty => rw [hempty, flatten_nil]
  · split
    · exact flatten_singleton
    · exact policy.flatten_group [] [] frames

end WritePolicy

def PrioritySpec.encode (priority : PrioritySpec) : Bytes :=
  be32 (if priority.exclusive then priority.streamDependency ||| 0x80000000
    else priority.streamDependency) ++ [UInt8.ofNat priority.weight]

/-- The payload of a frame with a part of a header block. -/
def H2Frame.payload : H2Frame → Bytes
  | .headers _ block _ _ priority => priority.elim [] PrioritySpec.encode ++ block
  | .continuation _ block _ => block
  | _ => []

/-- CONTINUATION frames, of which the last ends the block. -/
def continuations (streamId : StreamId) : List Bytes → List H2Frame
  | [] => []
  | chunk :: later => .continuation streamId chunk later.isEmpty :: continuations streamId later

namespace H2Engine

/-- Frames that were emitted one after the other, as the history has them. -/
def noted (engine : H2Engine) (streamId : StreamId) (frames : List H2Frame) : List Note :=
  frames.reverse.map fun frame => .emitted frame engine.sendWindow (engine.streamWindow streamId)
    engine.remoteSettings.maxFrameSize

variable {engine : H2Engine} {streamId : StreamId}

theorem payload_mem_of_continuations {chunks : List Bytes} {frame : H2Frame}
    (hframe : frame ∈ continuations streamId chunks) : frame.payload ∈ chunks := by
  induction chunks with
  | nil => cases hframe
  | cons chunk later ih =>
    rcases mem_cons.mp hframe with rfl | hlater
    · exact mem_cons_self
    · exact mem_cons_of_mem _ (ih hlater)

theorem isEmpty_chunksFuel {size fuel : Nat} {data : Bytes} (hfuel : data.length ≤ fuel) :
    (chunksFuel size fuel data).isEmpty = data.isEmpty := by
  cases data with
  | nil => cases fuel <;> rfl
  | cons byte rest =>
    obtain ⟨fuel, rfl⟩ := Nat.exists_eq_succ_of_ne_zero (Nat.ne_zero_of_lt hfuel)
    rfl

theorem history_emitContinuation {fuel : Nat} {remaining : Bytes}
    (hmax : 0 < engine.remoteSettings.maxFrameSize) (hfuel : remaining.length ≤ fuel) :
    (engine.emitContinuation streamId fuel remaining).history =
      engine.noted streamId (continuations streamId
        (chunksFuel engine.remoteSettings.maxFrameSize fuel remaining)) ++ engine.history := by
  induction fuel generalizing engine remaining with
  | zero => rfl
  | succ fuel ih =>
    cases remaining with
    | nil => rfl
    | cons byte rest =>
      have hlater : ((byte :: rest).drop engine.remoteSettings.maxFrameSize).length ≤ fuel := by
        rw [length_drop]
        omega
      rw [emitContinuation, if_neg (cons_ne_nil _ _), chunksFuel, continuations,
        isEmpty_chunksFuel hlater]
      simp only [Nat.min_comm (byte :: rest).length, ← take_eq_take_min, ← drop_eq_drop_min]
      refine (@ih (engine.emit _ _) _ hmax hlater).trans ?_
      simp [noted, emit, note, streamWindow]

/-- The frames of a header block: HEADERS and then CONTINUATION frames on the same stream. They
carry the whole block in payloads that the peer accepts, and the writes keep their order. -/
theorem header_block_frames (engine : H2Engine) (streamId : StreamId) (block : Bytes)
    (endStream : Bool) (priority : Option PrioritySpec) (policy : WritePolicy)
    (hmax : 16384 ≤ engine.remoteSettings.maxFrameSize) :
    ∃ first chunks frames,
      (engine.buildHeaders streamId block endStream priority).history =
        engine.noted streamId frames ++ engine.history ∧
      frames = .headers streamId first endStream chunks.isEmpty priority ::
        continuations streamId chunks ∧
      first ++ chunks.flatten = block ∧
      (∀ frame ∈ frames, frame.payload.length ≤ engine.remoteSettings.maxFrameSize) ∧
      (policy.groupFrames frames).flatten = frames := by
  set firstMax := engine.remoteSettings.maxFrameSize - if priority.isSome then 5 else 0 with hfirst
  have hrest : (block.drop firstMax).length ≤ block.length := by
    rw [length_drop]
    omega
  refine ⟨block.take firstMax, chunksFuel engine.remoteSettings.maxFrameSize block.length
    (block.drop firstMax), _, ?_, rfl, ?_, ?_, policy.flatten_groupFrames⟩
  · have hended : ∀ emitted : H2Engine, (if endStream then emitted.modifyStream streamId
        H2Stream.sendEndStream else emitted).history = emitted.history := by
      intro emitted
      split <;> rfl
    rw [buildHeaders, hended]
    have hpos : 0 < engine.remoteSettings.maxFrameSize := by omega
    have hfits : (block.drop firstMax).isEmpty = decide (block.length ≤ firstMax) := by
      rw [Bool.eq_iff_iff, List.isEmpty_iff, drop_eq_nil_iff, decide_eq_true_iff]
    refine (@history_emitContinuation (engine.emit _ _) _ _ _ hpos hrest).trans ?_
    rw [isEmpty_chunksFuel hrest, hfits]
    simp [noted, emit, note, streamWindow, hfirst]
  · rw [flatten_chunksFuel (by omega) hrest, take_append_drop]
  · refine forall_mem_cons.mpr ⟨?_, ?_⟩
    · have hpriority : (priority.elim [] PrioritySpec.encode).length =
          if priority.isSome then 5 else 0 := by
        cases priority <;> rfl
      rw [H2Frame.payload, length_append, hpriority, length_take]
      split at hfirst <;> omega
    · intro frame hframe
      exact length_le_of_mem_chunksFuel (payload_mem_of_continuations hframe)

/-- A block of 20000 bytes with a priority: HEADERS takes 16379 of them at most, and CONTINUATION
frames the rest. -/
theorem header_block_frames_split :
    ∃ first chunks, first ++ flatten chunks = replicate 20000 0x82 ∧ first.length ≤ 16379 ∧
      chunks ≠ [] ∧
      ((client [] 0 ⟨none, fun _ => 0⟩).buildHeaders 1 (replicate 20000 0x82) true
        (some ⟨true, 0, 255⟩)).history =
        (client [] 0 ⟨none, fun _ => 0⟩).noted 1
          (.headers 1 first true false (some ⟨true, 0, 255⟩) :: continuations 1 chunks) ++ [] := by
  obtain ⟨first, chunks, _, hhistory, rfl, hblock, hpayloads, -⟩ :=
    header_block_frames (client [] 0 ⟨none, fun _ => 0⟩) 1 (replicate 20000 0x82) true
      (some ⟨true, 0, 255⟩) ⟨true, true⟩ (by decide)
  have hfirst : 5 + first.length ≤ 16384 := by
    have hpayload := hpayloads _ mem_cons_self
    rwa [H2Frame.payload, length_append] at hpayload
  have hchunks : chunks ≠ [] := by
    rintro rfl
    have hlength := congrArg length hblock
    rw [flatten_nil, append_nil, length_replicate] at hlength
    omega
  rw [isEmpty_eq_false_iff.mpr hchunks] at hhistory
  exact ⟨first, chunks, hblock, by omega, hchunks, hhistory⟩

end H2Engine

end LkRequest.H2
