import LkRequest.Error

/-!
# QUIC header protection

The mask of a sample of the ciphertext is applied to the first byte of a packet and to its packet
number. `encrypt` reads the length of the packet number before the first byte is masked and
`decrypt` afterwards; both flip the same bits of the same packet.
-/

namespace LkRequest.Quic.HeaderKey

abbrev Mask := Vector UInt8 5

open Function Library List

/-- The bits of the first byte that are masked, four in a long header and five in a short one. -/
def maskedBits (first : UInt8) : UInt8 := if first &&& 0x80 ≠ 0 then 0x0f else 0x1f

def pnLen (first : UInt8) : Nat := (first &&& 0x03).toNat + 1

def sample (pnOffset : Nat) (packet : Bytes) : Bytes := slice packet (pnOffset + 4) (pnOffset + 20)

section Masks

variable (mask : Mask)

def maskFirst (packet : Bytes) : Bytes :=
  packet.modify 0 (· ^^^ (mask.get 0 &&& maskedBits (byteAt packet 0)))

def maskNumber (pnOffset count : Nat) (packet : Bytes) : Bytes :=
  (range count).foldl
    (fun packet idx => packet.modify (pnOffset + idx) (· ^^^ mask.getD (idx + 1) 0)) packet

/-- What is added to the byte at an index. -/
def numberMask (pnOffset count index : Nat) : UInt8 :=
  if pnOffset ≤ index ∧ index < pnOffset + count then mask.getD (index - pnOffset + 1) 0 else 0

end Masks

section Keys

variable (mask : Bytes → Mask) (pnOffset : Nat) (packet : Bytes)

/-- A sample that is out of range is a slicing panic. -/
def decrypt : Result Bytes :=
  if packet.length < pnOffset + 20 then .error (.noReturn "range end index out of range")
  else
    let mask := mask (sample pnOffset packet)
    let packet := maskFirst mask packet
    .ok (maskNumber mask pnOffset (pnLen (byteAt packet 0)) packet)

def encrypt : Result Bytes :=
  if packet.length < pnOffset + 20 then .error (.noReturn "range end index out of range")
  else
    let mask := mask (sample pnOffset packet)
    .ok (maskNumber mask pnOffset (pnLen (byteAt packet 0)) (maskFirst mask packet))

end Keys

/-- What masking leaves alone: the form of the header, the sample, and every byte but the first and
those of the packet number. -/
structure Keeps (pnOffset count : Nat) (packet masked : Bytes) : Prop where
  length : masked.length = packet.length
  form : byteAt masked 0 &&& 0x80 = byteAt packet 0 &&& 0x80
  sample : sample pnOffset masked = sample pnOffset packet
  others : ∀ index, index ≠ 0 → ¬ (pnOffset ≤ index ∧ index < pnOffset + count) →
    masked[index]? = packet[index]?

variable (mask : Mask) (pnOffset count : Nat) (packet : Bytes)

theorem getElem?_maskNumber (index : Nat) : (maskNumber mask pnOffset count packet)[index]? =
    packet[index]?.map (· ^^^ numberMask mask pnOffset count index) := by
  induction count with
  | zero => simp [maskNumber, numberMask, show ¬ (pnOffset ≤ index ∧ index < pnOffset) by omega]
  | succ count ih =>
    rw [maskNumber, range_succ, foldl_concat, ← maskNumber, getElem?_modify, ih]
    by_cases hlast : pnOffset + count = index
    · subst hlast
      simp [numberMask]
    · simp [numberMask, hlast,
        show index < pnOffset + (count + 1) ↔ index < pnOffset + count by omega]

theorem length_maskNumber : (maskNumber mask pnOffset count packet).length = packet.length := by
  induction count with
  | zero => rfl
  | succ count ih => rw [maskNumber, range_succ, foldl_concat, ← maskNumber, length_modify, ih]

theorem xor_xor_self (byte mask : UInt8) : byte ^^^ mask ^^^ mask = byte := by
  rw [UInt8.xor_assoc, UInt8.xor_self, UInt8.xor_zero]

theorem maskNumber_maskNumber :
    maskNumber mask pnOffset count (maskNumber mask pnOffset count packet) = packet := by
  apply ext_getElem?
  intro index
  rw [getElem?_maskNumber, getElem?_maskNumber]
  simp only [Option.map_map, comp_def, xor_xor_self, Option.map_id_fun', id_eq]

theorem form_maskFirst : byteAt (maskFirst mask packet) 0 &&& 0x80 = byteAt packet 0 &&& 0x80 := by
  cases packet with
  | nil => rfl
  | cons first rest =>
    change (first ^^^ (mask.get 0 &&& maskedBits first)) &&& 0x80 = first &&& 0x80
    have hform : maskedBits first &&& 0x80 = 0 := by
      rw [maskedBits]
      split <;> rfl
    have hsplit : (first ^^^ (mask.get 0 &&& maskedBits first)) &&& 0x80 =
        (first &&& 0x80) ^^^ (mask.get 0 &&& maskedBits first &&& 0x80) := by
      apply UInt8.toNat.inj
      simp [Nat.and_xor_distrib_right]
    rw [hsplit, UInt8.and_assoc, hform]
    simp

theorem maskFirst_maskFirst : maskFirst mask (maskFirst mask packet) = packet := by
  rw [maskFirst, maskedBits, form_maskFirst, ← maskedBits, maskFirst]
  cases packet with
  | nil => rfl
  | cons first rest => simp only [modify_zero_cons, xor_xor_self]

theorem pnLen_le (first : UInt8) : pnLen first ≤ 4 := by
  rw [pnLen, UInt8.toNat_and]
  exact Nat.succ_le_succ Nat.and_le_right

section Masked

variable {pnOffset} (hoffset : 1 ≤ pnOffset)
include hoffset

theorem byteAt_maskNumber : byteAt (maskNumber mask pnOffset count packet) 0 = byteAt packet 0 := by
  rw [byteAt, getD_eq_getElem?_getD, getElem?_maskNumber, numberMask, if_neg (by omega)]
  simp [byteAt]

/-- Masking twice with one mask gives the packet back. -/
theorem masked_twice :
    maskNumber mask pnOffset count (maskFirst mask (maskNumber mask pnOffset count
      (maskFirst mask packet))) = packet := by
  have hcomm (packet : Bytes) : maskFirst mask (maskNumber mask pnOffset count packet) =
      maskNumber mask pnOffset count (maskFirst mask packet) := by
    rw [maskFirst, byteAt_maskNumber _ _ _ hoffset, maskFirst]
    apply ext_getElem?
    intro index
    rw [getElem?_modify, getElem?_maskNumber, getElem?_maskNumber, getElem?_modify]
    by_cases hfirst : 0 = index
    · subst hfirst
      simp [numberMask, comp_def, show ¬ pnOffset = 0 by omega]
    · simp [hfirst]
  rw [hcomm, maskNumber_maskNumber, maskFirst_maskFirst]

theorem keeps_masked (hcount : count ≤ 4) :
    Keeps pnOffset count packet (maskNumber mask pnOffset count (maskFirst mask packet)) := by
  have hothers (index : Nat) (hfirst : index ≠ 0)
      (hnumber : ¬ (pnOffset ≤ index ∧ index < pnOffset + count)) :
      (maskNumber mask pnOffset count (maskFirst mask packet))[index]? = packet[index]? := by
    rw [getElem?_maskNumber, numberMask, if_neg hnumber, maskFirst, getElem?_modify]
    simp [hfirst.symm]
  refine ⟨?_, ?_, ?_, hothers⟩
  · rw [length_maskNumber, maskFirst, length_modify]
  · rw [byteAt_maskNumber _ _ _ hoffset, form_maskFirst]
  · apply ext_getElem?
    intro index
    rw [sample, sample, slice, slice, getElem?_take, getElem?_take, getElem?_drop, getElem?_drop,
      hothers _ (by omega) (by omega)]

end Masked

/-- **Header protection and its removal undo each other**, and neither touches more than the masked
bits of the first byte and the packet number. -/
theorem header_protection_undone (mask : Bytes → Mask) (hoffset : 1 ≤ pnOffset)
    (hlength : pnOffset + 20 ≤ packet.length) :
    (∃ masked, encrypt mask pnOffset packet = .ok masked ∧
      decrypt mask pnOffset masked = .ok packet ∧
      Keeps pnOffset (pnLen (byteAt packet 0)) packet masked) ∧
    ∃ opened, decrypt mask pnOffset packet = .ok opened ∧
      encrypt mask pnOffset opened = .ok packet ∧
      Keeps pnOffset (pnLen (byteAt opened 0)) packet opened := by
  have hlong : ¬ packet.length < pnOffset + 20 := Nat.not_lt.mpr hlength
  have hkeeps (first : UInt8) := keeps_masked (mask (sample pnOffset packet)) _ packet hoffset
    (pnLen_le first)
  have htwice (count : Nat) := masked_twice (mask (sample pnOffset packet)) count packet hoffset
  constructor
  · refine ⟨_, if_neg hlong, ?_, hkeeps _⟩
    -- Once the first byte is unmasked it has the length that was read from it.
    have hfirst := congrArg (byteAt · 0) (htwice (pnLen (byteAt packet 0)))
    rw [byteAt_maskNumber _ _ _ hoffset] at hfirst
    rw [decrypt, (hkeeps _).length, if_neg hlong, (hkeeps _).sample]
    dsimp only
    rw [hfirst, htwice]
  · refine ⟨_, if_neg hlong, ?_, ?_⟩
    · rw [encrypt, (hkeeps _).length, if_neg hlong, (hkeeps _).sample]
      dsimp only
      rw [byteAt_maskNumber _ _ _ hoffset, htwice]
    · rw [byteAt_maskNumber _ _ _ hoffset]
      exact hkeeps _

/-- A short header with a packet number of two bytes. -/
theorem short_header_undone :
    let mask : Bytes → Mask := fun _ => #v[0xff, 0x11, 0x22, 0x33, 0x44]
    ∃ masked, encrypt mask 1 (replicate 21 0x41) = .ok masked ∧
      decrypt mask 1 masked = .ok (replicate 21 0x41) := by
  intro mask
  obtain ⟨masked, hencrypt, hdecrypt, _⟩ :=
    (header_protection_undone 1 (replicate 21 0x41) mask (by decide) (by decide)).1
  exact ⟨masked, hencrypt, hdecrypt⟩

end LkRequest.Quic.HeaderKey
