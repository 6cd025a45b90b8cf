import LkRequest.H2.Sending

/-!
# Announced table sizes

How the engine announces the size of its HPACK table to the peer: the encoder of `hpack_enc/mod.rs`
as far as size updates go, and what `handle_settings` does with it.
-/

namespace LkRequest.H2

open List

/-- `hpack_enc::Encoder`. -/
structure Encoder where
  maxSize : Nat := 4096
  pendingTableSizeUpdate : Option Nat := none

namespace Encoder

def setMaxTableSize (_ : Encoder) (size : Nat) : Encoder := ⟨size, some size⟩

/-- The size updates at the start of a header block. -/
def emitPendingTableSizeUpdate (encoder : Encoder) : Encoder × List Nat :=
  ({ encoder with pendingTableSizeUpdate := none }, encoder.pendingTableSizeUpdate.toList)

end Encoder

/-- A SETTINGS frame of the peer, and the order in which the streams are visited for it. -/
structure SettingsFrame where
  settings : List SettingsParameter
  order : List StreamId := []

/-- The values of SETTINGS_HEADER_TABLE_SIZE. -/
def tableSizes (params : List SettingsParameter) : List Nat :=
  (params.filter (·.id = 1)).map (·.value)

/-- The sizes that frames set, one after the other. -/
def sizesSet (frames : List SettingsFrame) : List Nat :=
  frames.flatMap fun frame => tableSizes frame.settings

/-- A frame as a whole changes the size. -/
def Changes (size : Nat) : List SettingsFrame → Prop
  | [] => False
  | frame :: later =>
    (tableSizes frame.settings).getLastD size ≠ size ∨
      Changes ((tableSizes frame.settings).getLastD size) later

/-- RFC 7541, section 4.2: if the sizes that were set are not the one that the peer knows, the
updates reach down to the smallest of them and end with the last. -/
def Announced (signalled : Nat) (sizes updates : List Nat) : Prop :=
  (∃ size ∈ sizes, size ≠ signalled) →
    (∃ update ∈ updates, ∀ size ∈ sizes, update ≤ size) ∧ updates.getLast? = sizes.getLast?

theorem applyAll_headerTableSize {settings : H2Settings} {params : List SettingsParameter}
    (haccepted : (settings.applyAll params).2 = none) :
    (settings.applyAll params).1.headerTableSize =
      (tableSizes params).getLastD settings.headerTableSize := by
  induction params generalizing settings with
  | nil => rfl
  | cons param params ih =>
    rw [H2Settings.applyAll] at haccepted ⊢
    split at haccepted
    next next happly =>
      have hsize : next.headerTableSize =
          if param.id = 1 then param.value else settings.headerTableSize := by
        clear haccepted
        revert happly
        fun_cases H2Settings.apply settings param with
        | case2 | case5 | case8 =>
          intro happly
          cases happly
        | case10 hother =>
          rintro ⟨⟩
          exact (if_neg hother).symm
        | _ =>
          rintro ⟨⟩
          simp [*]
      rw [ih haccepted, hsize]
      by_cases hid : param.id = 1
      · simp only [tableSizes, hid, decide_true, filter_cons_of_pos, if_true, map_cons,
          getLastD_cons]
      · simp [tableSizes, hid]
    · cases haccepted

namespace H2Engine

/-- `handle_settings` for the settings of the peer, with the encoder. -/
def takeSettings (state : H2Engine × Encoder) (frame : SettingsFrame) : H2Engine × Encoder :=
  let outcome := state.1.applyRemoteSettings frame.settings frame.order
  let size := outcome.1.remoteSettings.headerTableSize
  (state.1.handleSettings false frame.settings frame.order,
    if outcome.2 = none ∧ size ≠ state.1.remoteSettings.headerTableSize then
      state.2.setMaxTableSize size
    else state.2)

/-- The engine refuses none of the frames. -/
def Applies (engine : H2Engine) : List SettingsFrame → Prop
  | [] => True
  | frame :: later =>
    (engine.applyRemoteSettings frame.settings frame.order).2 = none ∧
      (engine.handleSettings false frame.settings frame.order).Applies later

variable {engine : H2Engine} {encoder : Encoder} {frames : List SettingsFrame}

theorem applied_headerTableSize {frame : SettingsFrame}
    (haccepted : (engine.applyRemoteSettings frame.settings frame.order).2 = none) :
    (engine.applyRemoteSettings frame.settings frame.order).1.remoteSettings.headerTableSize =
      (tableSizes frame.settings).getLastD engine.remoteSettings.headerTableSize := by
  rw [rebased_applyRemoteSettings.settings]
  apply applyAll_headerTableSize
  rw [applyRemoteSettings] at haccepted
  grind

/-- The encoder is told of the last size if a frame changes the size at all. -/
theorem pending_of_applies (happlies : engine.Applies frames) {size : Nat}
    (hsize : engine.remoteSettings.headerTableSize = size) :
    Changes size frames ∧ (frames.foldl takeSettings (engine, encoder)).2.pendingTableSizeUpdate =
        some ((sizesSet frames).getLastD size) ∨
      ¬ Changes size frames ∧ (sizesSet frames).getLastD size = size ∧
        (frames.foldl takeSettings (engine, encoder)).2 = encoder := by
  induction frames generalizing engine encoder size with
  | nil => exact .inr ⟨id, rfl, rfl⟩
  | cons frame later ih =>
    subst hsize
    have hafter := applied_headerTableSize happlies.1
    have hkeeps : (engine.handleSettings false frame.settings frame.order).remoteSettings =
        (engine.applyRemoteSettings frame.settings frame.order).1.remoteSettings := by
      rw [handleSettings, if_neg Bool.false_ne_true]
      split
      next happly =>
        rw [happly]
        rfl
      next happly =>
        rw [happly]
        rfl
    have hlast : (sizesSet (frame :: later)).getLastD engine.remoteSettings.headerTableSize =
        (sizesSet later).getLastD
          ((tableSizes frame.settings).getLastD engine.remoteSettings.headerTableSize) := by
      simp only [sizesSet, flatMap_cons, getLastD_eq_getLast?, getLast?_append]
      cases (later.flatMap _).getLast? <;> rfl
    have hsize := (congrArg H2Settings.headerTableSize hkeeps).trans hafter
    simp only [foldl_cons, takeSettings, happlies.1, hafter, hlast, true_and]
    by_cases hchange : (tableSizes frame.settings).getLastD
        engine.remoteSettings.headerTableSize = engine.remoteSettings.headerTableSize
    · rw [if_neg (not_not.mpr hchange)]
      rcases ih happlies.2 hsize with ⟨hlater, htold⟩ | ⟨hlater, hfinal, htold⟩
      · exact .inl ⟨.inr hlater, htold⟩
      · exact .inr ⟨not_or.mpr ⟨not_not.mpr hchange, hlater⟩, hfinal.trans hchange, htold⟩
    · rw [if_pos hchange]
      rcases ih happlies.2 hsize with ⟨-, htold⟩ | ⟨-, hfinal, htold⟩
      · exact .inl ⟨.inl hchange, htold⟩
      · exact .inl ⟨.inl hchange, by rw [htold, hfinal]; rfl⟩

/-- The updates of the next header block are as they have to be exactly if no size that was set is
new to the peer, or if the last size is the smallest and some frame as a whole changes the size. -/
theorem table_size_announced_iff (engine : H2Engine) (encoder : Encoder)
    (hsent : encoder.pendingTableSizeUpdate = none) (signalled : Nat)
    (frames : List SettingsFrame) (happlies : engine.Applies frames) :
    Announced signalled (sizesSet frames)
        (frames.foldl takeSettings (engine, encoder)).2.emitPendingTableSizeUpdate.2 ↔
      (∀ size ∈ sizesSet frames, size = signalled) ∨
        Changes engine.remoteSettings.headerTableSize frames ∧
          ∀ last ∈ (sizesSet frames).getLast?, ∀ size ∈ sizesSet frames, last ≤ size := by
  by_cases hknown : ∀ size ∈ sizesSet frames, size = signalled
  · apply iff_of_true _ (.inl hknown)
    rintro ⟨size, hmem, hnew⟩
    exact absurd (hknown size hmem) hnew
  · have hnew := hknown
    push Not at hnew
    obtain ⟨first, hmem, hfirst⟩ := hnew
    obtain ⟨last, hlast⟩ := Option.isSome_iff_exists.mp
      (getLast?_isSome.mpr (ne_nil_of_mem hmem))
    rw [Announced, imp_iff_right ⟨first, hmem, hfirst⟩, or_iff_right hknown,
      Encoder.emitPendingTableSizeUpdate]
    rcases pending_of_applies happlies rfl with ⟨hchanges, htold⟩ | ⟨hsame, -, htold⟩
    · rw [htold, getLastD_eq_getLast?, hlast]
      simp [hchanges]
    · rw [htold, hsent]
      simp [hsame]

/-- A new engine, which has sent no header block. -/
def newEngine : H2Engine × Encoder := (client [] 0 ⟨none, fun _ => 0⟩, {})

/-- A table that the peer empties is announced as empty. -/
theorem emptied_table_announced :
    Announced 4096 [0] ([SettingsFrame.mk [⟨1, 0⟩] []].foldl takeSettings
      newEngine).2.emitPendingTableSizeUpdate.2 :=
  (table_size_announced_iff newEngine.1 {} rfl 4096 [⟨[⟨1, 0⟩], []⟩]
    ⟨by decide, trivial⟩).mpr (.inr ⟨.inl (by decide), by decide⟩)

/-- If the peer sets the size back in the same frame, nothing is announced. -/
theorem emptied_and_restored_unannounced :
    ¬ Announced 4096 [0, 4096]
      ([SettingsFrame.mk [⟨1, 0⟩, ⟨1, 4096⟩] []].foldl takeSettings
        newEngine).2.emitPendingTableSizeUpdate.2 := by
  rw [Announced]
  decide

end H2Engine

end LkRequest.H2
