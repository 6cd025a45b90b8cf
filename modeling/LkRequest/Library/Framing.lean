import Mathlib.Data.List.Basic

/-!
# Frames at the front of a stream

A framing finds the length of the first frame of an input, once the input holds all of it. `split`
cuts an input into its whole frames and the rest, and cutting does not depend on how the input
arrived (`split_append`).
-/

namespace LkRequest.Library

open List

variable {α : Type}

structure Framing (α : Type) where
  frameLength : List α → Option Nat
  pos : ∀ {input length}, frameLength input = some length → 0 < length
  le : ∀ {input length}, frameLength input = some length → length ≤ input.length
  /-- Only the frame itself decides its length. -/
  take_append : ∀ {input length} (more : List α), frameLength input = some length →
    frameLength (input.take length ++ more) = some length

namespace Framing

variable (framing : Framing α)

def splitFuel : Nat → List α → List (List α) × List α
  | 0, input => ([], input)
  | fuel + 1, input =>
    match framing.frameLength input with
    | none => ([], input)
    | some length =>
      let rest := splitFuel fuel (input.drop length)
      (input.take length :: rest.1, rest.2)

/-- The whole frames at the front of an input, and the rest. -/
def split (input : List α) : List (List α) × List α := framing.splitFuel input.length input

def IsFrame (frame : List α) : Prop := framing.frameLength frame = some frame.length

instance (frame : List α) : Decidable (framing.IsFrame frame) :=
  inferInstanceAs (Decidable (_ = _))

/-- The length of the first frame where a header of a fixed size tells the length of the body. -/
def headed (header : Nat) (bodyLength : List α → Nat) (input : List α) : Option Nat :=
  if input.length < header then none
  else if input.length < header + bodyLength input then none
  else some (header + bodyLength input)

variable {framing} {input frame : List α} {length : Nat}

theorem headed_eq_some (header : Nat) (bodyLength : List α → Nat) :
    headed header bodyLength input = some length ↔
      header ≤ input.length ∧ length = header + bodyLength input ∧ length ≤ input.length := by
  rw [headed]
  split
  · simp
    omega
  · split
    · simp
      omega
    · simp
      omega

theorem headed_pos (header : Nat) (bodyLength : List α → Nat)
    (hlength : headed (header + 1) bodyLength input = some length) : 0 < length := by
  have heq := ((headed_eq_some (header + 1) bodyLength).mp hlength).2.1
  omega

theorem headed_take_append (header : Nat) (bodyLength : List α → Nat)
    (hread : ∀ {input length} (more : List α), header ≤ length → length ≤ input.length →
      bodyLength (input.take length ++ more) = bodyLength input) (more : List α)
    (hlength : headed header bodyLength input = some length) :
    headed header bodyLength (input.take length ++ more) = some length := by
  obtain ⟨hlong, heq, hle⟩ := (headed_eq_some header bodyLength).mp hlength
  apply (headed_eq_some header bodyLength).mpr
  rw [length_append, length_take_of_le hle, hread more (by omega) hle]
  exact ⟨by omega, heq, by omega⟩

/-- The fuel of a loop over the frames lasts for one more frame. -/
theorem exists_fuel {fuel : Nat} (hlength : framing.frameLength input = some length)
    (hfuel : input.length ≤ fuel) :
    ∃ less, fuel = less + 1 ∧ (input.drop length).length ≤ less := by
  have hpos := framing.pos hlength
  have hle := framing.le hlength
  refine ⟨fuel - 1, by omega, ?_⟩
  rw [length_drop]
  omega

theorem frameLength_append {more : List α} (hframe : framing.frameLength input = some length) :
    framing.frameLength (input ++ more) = some length := by
  rw [← take_append_drop length input, append_assoc]
  exact framing.take_append _ hframe

theorem isFrame_take
    (hframe : framing.frameLength input = some length) : framing.IsFrame (input.take length) := by
  have htake := framing.take_append [] hframe
  rw [append_nil] at htake
  rw [IsFrame, htake, length_take_of_le (framing.le hframe)]

/-- The rule of induction on an input: it starts with a frame, or no frame is whole. -/
theorem induct {property : List α → Prop}
    (hrest : ∀ input, framing.frameLength input = none → property input)
    (hframe : ∀ input length, framing.frameLength input = some length →
      property (input.drop length) → property input) (input : List α) : property input := by
  induction hsize : input.length using Nat.strongRecOn generalizing input with
  | _ size ih =>
    cases hlength : framing.frameLength input with
    | none => exact hrest input hlength
    | some length =>
      have hpos := framing.pos hlength
      have hle := framing.le hlength
      apply hframe input length hlength
      apply ih (input.drop length).length _ _ rfl
      rw [length_drop]
      omega

theorem splitFuel_eq_split {fuel : Nat} (hfuel : input.length ≤ fuel) :
    framing.splitFuel fuel input = framing.split input := by
  suffices hsame : ∀ first second, input.length ≤ first → input.length ≤ second →
      framing.splitFuel first input = framing.splitFuel second input from
    hsame _ _ hfuel (Nat.le_refl _)
  clear hfuel
  induction input using framing.induct with
  | hrest input hnone =>
    intro first second _ _
    cases first <;> cases second <;> simp [splitFuel, hnone]
  | hframe input length hlength ih =>
    intro first second hfirst hsecond
    obtain ⟨first, rfl, hless⟩ := exists_fuel hlength hfirst
    obtain ⟨second, rfl, hother⟩ := exists_fuel hlength hsecond
    simp only [splitFuel, hlength, ih first second hless hother]

theorem split_of_none (hnone : framing.frameLength input = none) :
    framing.split input = ([], input) := by
  unfold split
  cases input.length <;> simp [splitFuel, hnone]

theorem split_of_some (hlength : framing.frameLength input = some length) :
    framing.split input = (input.take length :: (framing.split (input.drop length)).1,
      (framing.split (input.drop length)).2) := by
  obtain ⟨fuel, hfuel, hrest⟩ := exists_fuel hlength (Nat.le_refl _)
  rw [← splitFuel_eq_split hrest, split, hfuel]
  simp only [splitFuel, hlength]

theorem flatten_split (input : List α) :
    (framing.split input).1.flatten ++ (framing.split input).2 = input := by
  induction input using framing.induct with
  | hrest input hnone => rw [split_of_none hnone, flatten_nil, nil_append]
  | hframe input length hlength ih =>
    rw [split_of_some hlength, flatten_cons, append_assoc, ih, take_append_drop]

theorem isFrame_of_mem_split (hmem : frame ∈ (framing.split input).1) : framing.IsFrame frame := by
  induction input using framing.induct with
  | hrest input hnone =>
    rw [split_of_none hnone] at hmem
    cases hmem
  | hframe input length hlength ih =>
    rw [split_of_some hlength, mem_cons] at hmem
    cases hmem with
    | inl hfirst =>
      rw [hfirst]
      exact isFrame_take hlength
    | inr hrest => exact ih hrest

/-- **Cutting commutes with arrival.** The rest of a first part waits in front of the second. -/
theorem split_append (left right : List α) :
    framing.split (left ++ right) =
      ((framing.split left).1 ++ (framing.split ((framing.split left).2 ++ right)).1,
        (framing.split ((framing.split left).2 ++ right)).2) := by
  induction left using framing.induct with
  | hrest left hnone => rw [split_of_none hnone, nil_append]
  | hframe left length hlength ih =>
    have hle := framing.le hlength
    rw [split_of_some (frameLength_append hlength), split_of_some hlength,
      take_append_of_le_length hle, drop_append_of_le_length hle, ih,
      cons_append]

theorem split_frame (hframe : framing.IsFrame frame) : framing.split frame = ([frame], []) := by
  rw [split_of_some hframe, take_length, drop_length]
  have hnone : framing.frameLength [] = none := by
    cases hlength : framing.frameLength [] with
    | none => rfl
    | some length => exact absurd (framing.le hlength) (Nat.not_le.mpr (framing.pos hlength))
  rw [split_of_none hnone]

/-- Frames that are written one after the other are cut apart again. -/
theorem split_flatten_append {frames : List (List α)} (rest : List α)
    (hframes : ∀ frame ∈ frames, framing.IsFrame frame) :
    framing.split (frames.flatten ++ rest) =
      (frames ++ (framing.split rest).1, (framing.split rest).2) := by
  induction frames with
  | nil => rw [flatten_nil, nil_append, nil_append]
  | cons frame frames ih =>
    have hframe := hframes frame mem_cons_self
    have hrest := ih (forall_mem_cons.mp hframes).2
    rw [flatten_cons, append_assoc, split_append, split_frame hframe,
      nil_append, hrest, singleton_append, cons_append]

end Framing

end LkRequest.Library
