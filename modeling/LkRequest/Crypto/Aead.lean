import LkRequest.Crypto.Primitives

/-!
# AEAD record protection

The AEAD wrapper of TLS 1.3: a key with its IV, and the nonce of a record, which is the IV with
the sequence number folded into its last eight bytes. Distinct sequence numbers give distinct
nonces (`makeNonce_injective`), which is what the record layer relies on.
-/

namespace LkRequest.Crypto

open Library List

/-- The per-record nonce: the 64-bit sequence number, left-padded to the IV, is XORed into it. -/
def xorNonce (iv : Bytes) (seqNum : UInt64) : Bytes :=
  iv.take 4 ++ List.zipWith (· ^^^ ·) (iv.drop 4) (be64 seqNum.toNat)

structure Aead where
  key : AeadKey
  iv : Bytes
  iv_length : iv.length = 12
  deriving DecidableEq

namespace Aead

def algorithm (aead : Aead) : AeadAlgorithm := aead.key.algorithm

def new (algorithm : AeadAlgorithm) (key iv : Bytes) : Result Aead :=
  if hkey : key.length = algorithm.keyLen then
    if hiv : iv.length = 12 then
      .ok ⟨⟨algorithm, key, hkey⟩, iv, hiv⟩
    else
      .error (.cryptoError (s!"AEAD IV length mismatch: expected 12, got {iv.length}"))
  else
    .error (.cryptoError
      (s!"AEAD key length mismatch: expected {algorithm.keyLen}, got {key.length}"))

def makeNonce (aead : Aead) (seqNum : UInt64) : Bytes := xorNonce aead.iv seqNum

variable (crypto : Primitives)

def encrypt (aead : Aead) (seqNum : UInt64) (aad plaintext : Bytes) : Result Bytes :=
  match crypto.aeadSeal aead.key (aead.makeNonce seqNum) aad plaintext with
  | some ciphertext => .ok ciphertext
  | none => .error (.cryptoError "AEAD encryption failed")

def decrypt (aead : Aead) (seqNum : UInt64) (aad ciphertext : Bytes) : Result Bytes :=
  match crypto.aeadOpen aead.key (aead.makeNonce seqNum) aad ciphertext with
  | some plaintext => .ok plaintext
  | none => .error (.cryptoError "AEAD decryption failed")

end Aead

/-! ## Nonces -/

variable {left right : UInt64}

theorem be64_toNat_injective (heq : be64 left.toNat = be64 right.toNat) : left = right := by
  have hleft := left.toNat_lt
  have hright := right.toNat_lt
  obtain ⟨hhigh, hlow⟩ := append_inj heq rfl
  have hhigh' := be32_mod_injective hhigh
  have hlow' := be32_mod_injective hlow
  apply UInt64.toNat.inj
  omega

theorem zipWith_xor_left_injective {mask left right : Bytes}
    (hleft : left.length = mask.length) (hright : right.length = mask.length)
    (heq : zipWith (· ^^^ ·) mask left = zipWith (· ^^^ ·) mask right) :
    left = right := by
  induction mask generalizing left right with
  | nil =>
    rw [length_eq_zero_iff.mp hleft, length_eq_zero_iff.mp hright]
  | cons byte mask ih =>
    obtain ⟨first, left, rfl⟩ := exists_cons_of_length_eq_add_one hleft
    obtain ⟨second, right, rfl⟩ := exists_cons_of_length_eq_add_one hright
    simp only [zipWith_cons_cons, cons.injEq] at heq
    have hhead : first = second := UInt8.xor_right_inj byte |>.mp heq.1
    rw [hhead, ih (by simpa using hleft) (by simpa using hright) heq.2]

@[simp]
theorem length_xorNonce {iv : Bytes} (hiv : iv.length = 12) (seqNum : UInt64) :
    (xorNonce iv seqNum).length = 12 := by
  simp [xorNonce, hiv]

theorem xorNonce_injective {iv : Bytes} (hiv : iv.length = 12)
    (heq : xorNonce iv left = xorNonce iv right) : left = right := by
  have hzip := (append_inj heq rfl).2
  exact be64_toNat_injective
    (zipWith_xor_left_injective (by simp [hiv]) (by simp [hiv]) hzip)

theorem Aead.makeNonce_injective (aead : Aead)
    (heq : aead.makeNonce left = aead.makeNonce right) : left = right :=
  xorNonce_injective aead.iv_length heq

/-! ## Opening what was sealed -/

section Protection

variable {crypto : Primitives} (hcrypto : RecordProtection crypto)

include hcrypto

theorem Aead.encrypt_ok (aead : Aead) (seqNum : UInt64) (aad : Bytes) {plaintext : Bytes}
    (hlength : plaintext.length ≤ 16385) :
    ∃ ciphertext, aead.encrypt crypto seqNum aad plaintext = .ok ciphertext ∧
      ciphertext.length = plaintext.length + 16 ∧
      aead.decrypt crypto seqNum aad ciphertext = .ok plaintext := by
  obtain ⟨ciphertext, hseal⟩ := hcrypto.seal_succeeds aead.key (aead.makeNonce seqNum) aad
    plaintext (length_xorNonce aead.iv_length seqNum) hlength
  refine ⟨ciphertext, ?_, hcrypto.seal_length _ _ _ _ _ hseal, ?_⟩
  · simp only [encrypt, hseal]
  · simp only [decrypt, hcrypto.open_seal _ _ _ _ _ hseal]

end Protection

end LkRequest.Crypto
