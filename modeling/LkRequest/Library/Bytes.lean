import Mathlib.Data.List.Basic
import Mathlib.Data.Nat.Bitwise
import Mathlib.Tactic.Ring

/-!
# Big-endian byte strings

Byte strings, fixed-width big-endian integers with the truncation of a machine cast, and slices.
The lemmas say when a truncating encoder loses nothing and how indexing behaves across an append.
-/

namespace LkRequest.Library

open List UInt8

abbrev Bytes := List UInt8

/-! ## Encoders -/

/-- The two low bytes of a number, most significant first (`(n as u16).to_be_bytes()`). -/
def be16 (n : Nat) : Bytes := [UInt8.ofNat (n / 256), UInt8.ofNat n]

/-- The three low bytes of a number, most significant first. -/
def be24 (n : Nat) : Bytes := [UInt8.ofNat (n / 65536), UInt8.ofNat (n / 256), UInt8.ofNat n]

/-- The four low bytes of a number, most significant first. -/
def be32 (n : Nat) : Bytes := be16 (n / 65536) ++ be16 n

/-- The eight low bytes of a number, most significant first. -/
def be64 (n : Nat) : Bytes := be32 (n / 4294967296) ++ be32 n

/-! ## Decoders -/

def readBe16 (high low : UInt8) : Nat := high.toNat * 256 + low.toNat

def readBe24 (high middle low : UInt8) : Nat :=
  high.toNat * 65536 + middle.toNat * 256 + low.toNat

/-- The byte at an index; every reader guards the index with a length check first. -/
def byteAt (data : Bytes) (index : Nat) : UInt8 := data.getD index 0

def u16At (data : Bytes) (index : Nat) : Nat :=
  readBe16 (byteAt data index) (byteAt data (index + 1))

def u24At (data : Bytes) (index : Nat) : Nat :=
  readBe24 (byteAt data index) (byteAt data (index + 1)) (byteAt data (index + 2))

/-- The half-open range `data[start..stop]`. -/
def slice (data : Bytes) (start stop : Nat) : Bytes := (data.drop start).take (stop - start)

/-- The range `data.get(start..stop)`, if it is in bounds. -/
def slice? (data : Bytes) (start stop : Nat) : Option Bytes :=
  if stop ≤ data.length then some (slice data start stop) else none

/-- The bytes with the range from `offset` on replaced. -/
def overwrite (data : Bytes) (offset : Nat) (bytes : Bytes) : Bytes :=
  data.take offset ++ bytes ++ data.drop (offset + bytes.length)

/-! ## Lengths -/

@[simp]
theorem length_be16 (n : Nat) : (be16 n).length = 2 := rfl

@[simp]
theorem length_be24 (n : Nat) : (be24 n).length = 3 := rfl

@[simp]
theorem length_be32 (n : Nat) : (be32 n).length = 4 := rfl

@[simp]
theorem length_be64 (n : Nat) : (be64 n).length = 8 := rfl

/-! ## Reading back what was encoded -/

theorem readBe16_lt (high low : UInt8) : readBe16 high low < 65536 := by
  have hhigh := high.toNat_lt
  have hlow := low.toNat_lt
  simp only [readBe16]
  omega

@[simp]
theorem readBe16_ofNat (n : Nat) :
    readBe16 (ofNat (n / 256)) (ofNat n) = n % 65536 := by
  simp only [readBe16, toNat_ofNat']
  omega

theorem be16_toNat_ofNat_readBe16 (high low : UInt8) :
    be16 (UInt16.ofNat (readBe16 high low)).toNat = [high, low] := by
  have hhigh := high.toNat_lt
  have hlow := low.toNat_lt
  have hvalue : (UInt16.ofNat (readBe16 high low)).toNat = high.toNat * 256 + low.toNat := by
    rw [UInt16.toNat_ofNat', Nat.mod_eq_of_lt (readBe16_lt high low), readBe16]
  refine cons_eq_cons.mpr ⟨?_, cons_eq_cons.mpr ⟨?_, rfl⟩⟩
  · apply toNat.inj
    rw [toNat_ofNat']
    omega
  · apply toNat.inj
    rw [toNat_ofNat']
    omega

theorem be16_mod_injective {left right : Nat} (heq : be16 left = be16 right) :
    left % 65536 = right % 65536 := by
  have hread := congrArg (fun bytes => u16At bytes 0) heq
  simpa [u16At, byteAt, be16] using hread

theorem be32_mod_injective {left right : Nat} (heq : be32 left = be32 right) :
    left % 4294967296 = right % 4294967296 := by
  obtain ⟨hhigh, hlow⟩ := append_inj heq rfl
  have hhigh' := be16_mod_injective hhigh
  have hlow' := be16_mod_injective hlow
  omega

/-! ## Reading across an append -/

variable {index : Nat} {left : Bytes} {count : Nat}

theorem byteAt_append_left (right : Bytes)
    (hindex : index < left.length) : byteAt (left ++ right) index = byteAt left index := by
  rw [byteAt, byteAt, getD_append _ _ _ _ hindex]

theorem u24At_append_left (right : Bytes)
    (hindex : index + 2 < left.length) : u24At (left ++ right) index = u24At left index := by
  rw [u24At, u24At, byteAt_append_left right (by omega), byteAt_append_left right (by omega),
    byteAt_append_left right hindex]

theorem byteAt_take {data : Bytes} (hindex : index < count)
    (hcount : count ≤ data.length) : byteAt (data.take count) index = byteAt data index := by
  have hshort : index < (data.take count).length := by
    rw [length_take_of_le hcount]
    exact hindex
  have happend := byteAt_append_left (data.drop count) hshort
  rw [take_append_drop] at happend
  exact happend.symm

theorem u24At_take {data : Bytes} (hindex : index + 2 < count)
    (hcount : count ≤ data.length) : u24At (data.take count) index = u24At data index := by
  rw [u24At, u24At, byteAt_take (by omega) hcount, byteAt_take (by omega) hcount,
    byteAt_take hindex hcount]

theorem byteAt_append_right (left right : Bytes) (index : Nat) :
    byteAt (left ++ right) (left.length + index) = byteAt right index := by
  rw [byteAt, byteAt, getD_append_right _ _ _ _ (Nat.le_add_right _ _), Nat.add_sub_cancel_left]

theorem u16At_append_right (left right : Bytes) (index : Nat) :
    u16At (left ++ right) (left.length + index) = u16At right index := by
  rw [u16At, u16At, Nat.add_assoc, byteAt_append_right, byteAt_append_right]

theorem u16At_be16_append (n : Nat) (right : Bytes) : u16At (be16 n ++ right) 0 = n % 65536 :=
  readBe16_ofNat n

theorem slice_append (left middle right : Bytes) :
    slice (left ++ (middle ++ right)) left.length (left.length + middle.length) = middle := by
  rw [slice, drop_left, Nat.add_sub_cancel_left, take_left]

/-! ## Chunks -/

section Chunks

variable {α : Type} {size fuel : Nat} {data chunk : List α}

def chunksFuel (size : Nat) : Nat → List α → List (List α)
  | 0, _ => []
  | fuel + 1, data =>
    match data with
    | [] => []
    | _ :: _ => data.take size :: chunksFuel size fuel (data.drop size)

/-- Consecutive pieces of `size` elements, the last one possibly shorter (`slice::chunks`). -/
def chunks (size : Nat) (data : List α) : List (List α) := chunksFuel size data.length data

theorem flatten_chunksFuel (hsize : 0 < size)
    (hfuel : data.length ≤ fuel) : (chunksFuel size fuel data).flatten = data := by
  induction fuel generalizing data with
  | zero =>
    rw [length_eq_zero_iff.mp (Nat.le_zero.mp hfuel)]
    rfl
  | succ fuel ih =>
    cases data with
    | nil => rfl
    | cons head tail =>
      have hrest : ((head :: tail).drop size).length ≤ fuel := by
        rw [length_drop]
        omega
      rw [chunksFuel, flatten_cons, ih hrest, take_append_drop]

theorem flatten_chunks (hsize : 0 < size) (data : List α) : (chunks size data).flatten = data :=
  flatten_chunksFuel hsize (le_refl _)

theorem length_le_of_mem_chunksFuel
    (hchunk : chunk ∈ chunksFuel size fuel data) : chunk.length ≤ size := by
  induction fuel generalizing data with
  | zero => cases hchunk
  | succ fuel ih =>
    cases data with
    | nil => cases hchunk
    | cons head tail =>
      rcases mem_cons.mp hchunk with rfl | hrest
      · exact length_take_le _ _
      · exact ih hrest

theorem length_le_of_mem_chunks (hchunk : chunk ∈ chunks size data) : chunk.length ≤ size :=
  length_le_of_mem_chunksFuel hchunk

/-- What fits into one piece is one piece. -/
theorem chunks_of_length_le (hdata : data ≠ [])
    (hlength : data.length ≤ size) : chunks size data = [data] := by
  obtain ⟨head, tail, rfl⟩ := exists_cons_of_ne_nil hdata
  have hrest : ∀ fuel, chunksFuel size fuel ([] : List α) = [] := by
    intro fuel
    cases fuel <;> rfl
  rw [chunks, length_cons, chunksFuel, take_of_length_le hlength, drop_eq_nil_of_le hlength, hrest]

end Chunks

end LkRequest.Library
