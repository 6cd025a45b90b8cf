import LkRequest.H2.HeaderBlocks

/-!
# Stream identifiers

The counter of `open_stream` is never compared with the last identifier that a frame can carry.
-/

namespace LkRequest.H2

open Function List

/-- The stream id that `H2FrameHeader::new` puts into a frame. -/
def wireId (id : Nat) : Nat := id &&& 0x7FFFFFFF

namespace H2Engine

def Call.opens : Call → Bool
  | .openStream => true
  | _ => false

/-- The streams of an engine are odd and strictly increasing on the wire, the newest first, and the
counter has not wrapped. -/
structure FreshIds (engine : H2Engine) : Prop where
  odd : ∀ id ∈ engine.ids, wireId id % 2 = 1
  limit : ∀ id ∈ engine.ids, wireId id ≤ 2 ^ 31 - 1
  increasing : (engine.ids.map wireId).Pairwise (· > ·)
  counter : engine.nextStreamId = 1 + 2 * engine.ids.length

section

variable {engine next : H2Engine} {count : Nat}

/-- The engine opened as many streams. -/
structure Opened (count : Nat) (engine : H2Engine) : Prop where
  ids : engine.ids = (range count).reverse.map fun i => (1 + 2 * i) % 2 ^ 32
  next : engine.nextStreamId = (1 + 2 * count) % 2 ^ 32

theorem ids_of_unsent {assembler : ContinuationAssembler}
    (hsame : next.unsent = { engine with continuation := assembler }.unsent) :
    next.ids = engine.ids ∧ next.nextStreamId = engine.nextStreamId := by
  have hids := congrArg ids hsame
  have hnext := congrArg nextStreamId hsame
  exact ⟨hids, hnext⟩

theorem ids_call {call : Call} (hcall : call.opens = false) :
    (engine.call call).ids = engine.ids ∧
      (engine.call call).nextStreamId = engine.nextStreamId := by
  have hquiet (hquiet : call.isReceiving = false) :=
    ids_of_unsent (@unsent_call engine call hquiet (by rintro rfl; cases hcall))
  cases call with
  | receive inbound =>
    obtain ⟨frame, decoded, order⟩ := inbound
    cases frame with
    | data =>
      have hunread := @unread_handleData engine
      exact Prod.ext_iff.mp (congrArg Prod.snd (hunread ..))
    | headers | continuation => exact ids_of_unsent unsent_assembled
    | _ => exact hquiet rfl
  | openStream => cases hcall
  | _ => exact hquiet rfl

theorem Opened.run (hopened : engine.Opened count) (calls : List Call) :
    (engine.run calls).Opened (count + calls.countP Call.opens) := by
  induction calls generalizing engine count with
  | nil => exact hopened
  | cons call calls ih =>
    by_cases hcall : call.opens = true
    · have hnext : (engine.call call).Opened (count + 1) := by
        cases call with
        | openStream =>
          refine ⟨?_, ?_⟩
          · simp [H2Engine.call, openStream, hopened.ids, hopened.next, range_succ]
          · have hnext : ((1 + 2 * count) % 2 ^ 32 + 2) % 2 ^ 32 =
                (1 + 2 * (count + 1)) % 2 ^ 32 := by
              omega
            simpa only [H2Engine.call, openStream, hopened.next] using hnext
        | _ => cases hcall
      rw [countP_cons_of_pos hcall, Nat.add_comm (calls.countP _), ← Nat.add_assoc]
      exact ih hnext
    · obtain ⟨hids, hnext⟩ := @ids_call engine call (Bool.not_eq_true _ ▸ hcall)
      rw [countP_cons_of_neg hcall]
      exact ih ⟨hids.trans hopened.ids, hnext.trans hopened.next⟩

theorem Opened.freshIds_iff (hopened : engine.Opened count) : engine.FreshIds ↔ count ≤ 2 ^ 30 := by
  have hwire (i : Nat) : wireId ((1 + 2 * i) % 2 ^ 32) = (1 + 2 * i) % 2 ^ 31 := by
    rw [wireId, show 0x7FFFFFFF = 2 ^ 31 - 1 from rfl, Nat.and_two_pow_sub_one_eq_mod]
    omega
  constructor
  · intro hfresh
    by_contra hmany
    have hincreasing := hfresh.increasing
    rw [hopened.ids, map_map, pairwise_map, pairwise_reverse, pairwise_iff_getElem] at hincreasing
    have hlength : 2 ^ 30 < (range count).length := by simpa using hmany
    have hlast := hincreasing 0 (2 ^ 30) (by omega) hlength (by omega)
    rw [getElem_range, getElem_range, comp_apply, comp_apply] at hlast
    exact absurd hlast (by decide)
  · intro hfew
    have hwide {i : Nat} (hi : i ∈ range count) : wireId ((1 + 2 * i) % 2 ^ 32) = 1 + 2 * i := by
      have hi := mem_range.mp hi
      rw [hwire]
      omega
    have hids {id : StreamId} (hid : id ∈ engine.ids) : ∃ i < count, wireId id = 1 + 2 * i := by
      rw [hopened.ids, map_reverse, mem_reverse] at hid
      obtain ⟨i, hi, rfl⟩ := mem_map.mp hid
      exact ⟨i, mem_range.mp hi, hwide hi⟩
    refine ⟨?_, ?_, ?_, ?_⟩
    · intro id hid
      obtain ⟨i, -, heq⟩ := hids hid
      omega
    · intro id hid
      obtain ⟨i, hi, heq⟩ := hids hid
      omega
    · rw [hopened.ids, map_map, pairwise_map, pairwise_reverse]
      apply (pairwise_lt_range (n := count)).imp_of_mem
      intro i j hi hj hlt
      dsimp only [comp_apply]
      rw [hwide hi, hwide hj]
      omega
    · have hcounter : (1 + 2 * count) % 2 ^ 32 = 1 + 2 * count := by omega
      rw [hopened.next, hopened.ids, length_map, length_reverse, length_range, hcounter]

end

/-- The ids of a connection are fresh exactly as long as no more than `2 ^ 30` streams were
opened. -/
theorem stream_ids_fresh_iff (settings : List SettingsParameter) (windowUpdate : Nat)
    (flowControl : FlowControl) (calls : List Call) :
    ((client settings windowUpdate flowControl).run calls).FreshIds ↔
      calls.countP Call.opens ≤ 2 ^ 30 := by
  have hstart : (client settings windowUpdate flowControl).Opened 0 := ⟨rfl, rfl⟩
  have hopened := hstart.run calls
  rw [Nat.zero_add] at hopened
  exact hopened.freshIds_iff

/-- The stream after the last has the first id again. -/
theorem first_id_reused : ¬((client [] 0 ⟨none, fun _ => 0⟩).run
    (replicate (2 ^ 30 + 1) .openStream)).FreshIds := by
  have hstart : (client [] 0 ⟨none, fun _ => 0⟩).Opened 0 := ⟨rfl, rfl⟩
  rw [(hstart.run _).freshIds_iff, countP_replicate]
  simp [Call.opens]

end H2Engine

end LkRequest.H2
