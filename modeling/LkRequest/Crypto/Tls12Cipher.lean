import LkRequest.Crypto.Aead

/-!
# TLS 1.2 record ciphers

The TLS 1.2 cipher suites with their record-protection parameters, and the three cipher modes:
AES-GCM with an explicit nonce in the record, ChaCha20-Poly1305 with the nonce of TLS 1.3, and
AES-CBC with an HMAC inside the encryption. For every mode, decryption undoes encryption.
-/

namespace LkRequest.Crypto

open Library List

/-! ## Cipher suites -/

inductive PrfAlgorithm where
  | sha256
  | sha384
  deriving DecidableEq

def PrfAlgorithm.hash : PrfAlgorithm → HashAlgorithm
  | sha256 => .sha256
  | sha384 => .sha384

inductive HkdfAlgorithm where
  | sha256
  | sha384
  deriving DecidableEq

namespace HkdfAlgorithm

def hash : HkdfAlgorithm → HashAlgorithm
  | sha256 => .sha256
  | sha384 => .sha384

def hashLen (algorithm : HkdfAlgorithm) : Nat := algorithm.hash.hashLen

end HkdfAlgorithm

inductive Tls12KeyExchange where
  | ecdhe
  | rsa

inductive Tls12CipherSuite where
  | ecdheEcdsaAes128GcmSha256
  | ecdheRsaAes128GcmSha256
  | ecdheEcdsaAes256GcmSha384
  | ecdheRsaAes256GcmSha384
  | ecdheEcdsaChacha20Poly1305
  | ecdheRsaChacha20Poly1305
  | ecdheRsaAes128CbcSha
  | ecdheRsaAes256CbcSha
  | ecdheRsaAes128CbcSha256
  | ecdheRsaAes256CbcSha384
  | rsaAes256CbcSha
  | rsaAes128CbcSha
  | rsaAes256CbcSha256
  | rsaAes128CbcSha256
  | rsaAes128GcmSha256
  | rsaAes256GcmSha384
  deriving DecidableEq

namespace Tls12CipherSuite

def fromCodePoint : UInt16 → Option Tls12CipherSuite
  | 0xC02B => some ecdheEcdsaAes128GcmSha256
  | 0xC02F => some ecdheRsaAes128GcmSha256
  | 0xC02C => some ecdheEcdsaAes256GcmSha384
  | 0xC030 => some ecdheRsaAes256GcmSha384
  | 0xCCA9 => some ecdheEcdsaChacha20Poly1305
  | 0xCCA8 => some ecdheRsaChacha20Poly1305
  | 0xC013 => some ecdheRsaAes128CbcSha
  | 0xC014 => some ecdheRsaAes256CbcSha
  | 0xC027 => some ecdheRsaAes128CbcSha256
  | 0xC028 => some ecdheRsaAes256CbcSha384
  | 0x0035 => some rsaAes256CbcSha
  | 0x002F => some rsaAes128CbcSha
  | 0x003D => some rsaAes256CbcSha256
  | 0x003C => some rsaAes128CbcSha256
  | 0x009C => some rsaAes128GcmSha256
  | 0x009D => some rsaAes256GcmSha384
  | _ => none

def codePoint : Tls12CipherSuite → UInt16
  | ecdheEcdsaAes128GcmSha256 => 0xC02B
  | ecdheRsaAes128GcmSha256 => 0xC02F
  | ecdheEcdsaAes256GcmSha384 => 0xC02C
  | ecdheRsaAes256GcmSha384 => 0xC030
  | ecdheEcdsaChacha20Poly1305 => 0xCCA9
  | ecdheRsaChacha20Poly1305 => 0xCCA8
  | ecdheRsaAes128CbcSha => 0xC013
  | ecdheRsaAes256CbcSha => 0xC014
  | ecdheRsaAes128CbcSha256 => 0xC027
  | ecdheRsaAes256CbcSha384 => 0xC028
  | rsaAes256CbcSha => 0x0035
  | rsaAes128CbcSha => 0x002F
  | rsaAes256CbcSha256 => 0x003D
  | rsaAes128CbcSha256 => 0x003C
  | rsaAes128GcmSha256 => 0x009C
  | rsaAes256GcmSha384 => 0x009D

def keyExchange : Tls12CipherSuite → Tls12KeyExchange
  | rsaAes256CbcSha | rsaAes128CbcSha | rsaAes256CbcSha256 | rsaAes128CbcSha256
  | rsaAes128GcmSha256 | rsaAes256GcmSha384 => .rsa
  | _ => .ecdhe

def isAead : Tls12CipherSuite → Bool
  | ecdheEcdsaAes128GcmSha256 | ecdheRsaAes128GcmSha256 | ecdheEcdsaAes256GcmSha384
  | ecdheRsaAes256GcmSha384 | ecdheEcdsaChacha20Poly1305 | ecdheRsaChacha20Poly1305
  | rsaAes128GcmSha256 | rsaAes256GcmSha384 => true
  | _ => false

def isCbc (suite : Tls12CipherSuite) : Bool := !suite.isAead

def encKeyLen : Tls12CipherSuite → Nat
  | ecdheEcdsaAes128GcmSha256 | ecdheRsaAes128GcmSha256 | ecdheRsaAes128CbcSha
  | ecdheRsaAes128CbcSha256 | rsaAes128CbcSha | rsaAes128CbcSha256 | rsaAes128GcmSha256 => 16
  | ecdheEcdsaAes256GcmSha384 | ecdheRsaAes256GcmSha384 | ecdheEcdsaChacha20Poly1305
  | ecdheRsaChacha20Poly1305 | ecdheRsaAes256CbcSha | ecdheRsaAes256CbcSha384
  | rsaAes256CbcSha | rsaAes256CbcSha256 | rsaAes256GcmSha384 => 32

def macKeyLen : Tls12CipherSuite → Nat
  | ecdheRsaAes128CbcSha | ecdheRsaAes256CbcSha | rsaAes128CbcSha | rsaAes256CbcSha => 20
  | ecdheRsaAes128CbcSha256 | rsaAes128CbcSha256 | rsaAes256CbcSha256 => 32
  | ecdheRsaAes256CbcSha384 => 48
  | _ => 0

def fixedIvLen (suite : Tls12CipherSuite) : Nat :=
  if suite.isCbc then 16
  else match suite with
    | ecdheEcdsaChacha20Poly1305 | ecdheRsaChacha20Poly1305 => 12
    | _ => 4

def prfAlgorithm : Tls12CipherSuite → PrfAlgorithm
  | ecdheEcdsaAes256GcmSha384 | ecdheRsaAes256GcmSha384 | ecdheRsaAes256CbcSha384
  | rsaAes256GcmSha384 => .sha384
  | _ => .sha256

end Tls12CipherSuite

/-! ## Cipher modes -/

/-- AES-GCM: a 4-byte implicit IV and an 8-byte explicit nonce sent with the record. -/
structure Tls12GcmCipher where
  key : AeadKey
  implicitIv : Bytes
  iv_length : implicitIv.length = 4
  deriving DecidableEq

namespace Tls12GcmCipher

def new (key implicitIv : Bytes) (hiv : implicitIv.length = 4) (isAes256 : Bool) :
    Result Tls12GcmCipher :=
  match AeadKey.new? (if isAes256 then .aes256Gcm else .aes128Gcm) key with
  | some key => .ok ⟨key, implicitIv, hiv⟩
  | none => .error (.cryptoError "Failed to create GCM opening key")

variable (crypto : Primitives)

def encrypt (cipher : Tls12GcmCipher) (seqNum : UInt64) (aad plaintext : Bytes) : Result Bytes :=
  let explicitNonce := be64 seqNum.toNat
  match crypto.aeadSeal cipher.key (cipher.implicitIv ++ explicitNonce) aad plaintext with
  | some sealed => .ok (explicitNonce ++ sealed)
  | none => .error (.cryptoError "TLS 1.2 GCM encryption failed")

def decrypt (cipher : Tls12GcmCipher) (aad ciphertextWithNonce : Bytes) : Result Bytes :=
  if ciphertextWithNonce.length < 8 + 16 then
    .error (.cryptoError "TLS 1.2 GCM record too short")
  else
    let explicitNonce := ciphertextWithNonce.take 8
    match crypto.aeadOpen cipher.key (cipher.implicitIv ++ explicitNonce) aad
        (ciphertextWithNonce.drop 8) with
    | some plaintext => .ok plaintext
    | none => .error (.cryptoError "TLS 1.2 GCM decryption failed")

end Tls12GcmCipher

/-- ChaCha20-Poly1305: the nonce construction of TLS 1.3. -/
structure Tls12Chacha20Cipher where
  key : AeadKey
  iv : Bytes
  iv_length : iv.length = 12

instance : DecidableEq Tls12Chacha20Cipher := fun left right =>
  decidable_of_iff (left.key = right.key ∧ left.iv = right.iv) (by cases left; cases right; simp)

namespace Tls12Chacha20Cipher

def new (key iv : Bytes) (hiv : iv.length = 12) : Result Tls12Chacha20Cipher :=
  match AeadKey.new? .chacha20Poly1305 key with
  | some key => .ok ⟨key, iv, hiv⟩
  | none => .error (.cryptoError "Failed to create ChaCha20 key")

def makeNonce (cipher : Tls12Chacha20Cipher) (seqNum : UInt64) : Bytes :=
  xorNonce cipher.iv seqNum

variable (crypto : Primitives)

def encrypt (cipher : Tls12Chacha20Cipher) (seqNum : UInt64) (aad plaintext : Bytes) :
    Result Bytes :=
  match crypto.aeadSeal cipher.key (cipher.makeNonce seqNum) aad plaintext with
  | some ciphertext => .ok ciphertext
  | none => .error (.cryptoError "TLS 1.2 ChaCha20 encryption failed")

def decrypt (cipher : Tls12Chacha20Cipher) (seqNum : UInt64) (aad ciphertext : Bytes) :
    Result Bytes :=
  match crypto.aeadOpen cipher.key (cipher.makeNonce seqNum) aad ciphertext with
  | some plaintext => .ok plaintext
  | none => .error (.cryptoError "TLS 1.2 ChaCha20 decryption failed")

end Tls12Chacha20Cipher

inductive CbcMacAlgorithm where
  | hmacSha1
  | hmacSha256
  | hmacSha384
  deriving DecidableEq

namespace CbcMacAlgorithm

def hash : CbcMacAlgorithm → HashAlgorithm
  | hmacSha1 => .sha1
  | hmacSha256 => .sha256
  | hmacSha384 => .sha384

def macLen : CbcMacAlgorithm → Nat
  | hmacSha1 => 20
  | hmacSha256 => 32
  | hmacSha384 => 48

end CbcMacAlgorithm

/-- AES-CBC with HMAC, MAC-then-encrypt. -/
structure Tls12CbcCipher where
  encKey : Bytes
  macKey : Bytes
  macAlgorithm : CbcMacAlgorithm
  deriving DecidableEq

namespace Tls12CbcCipher

def blockSize : Nat := 16

variable (crypto : Primitives)

def computeMac (cipher : Tls12CbcCipher) (aad plaintext : Bytes) : Bytes :=
  crypto.hmac cipher.macAlgorithm.hash cipher.macKey (aad ++ plaintext)

def cbcEncrypt (cipher : Tls12CbcCipher) (iv data : Bytes) : Result Bytes :=
  if cipher.encKey.length = 16 then
    match crypto.cbcEncrypt cipher.encKey iv data with
    | some ciphertext => .ok ciphertext
    | none => .error (.cryptoError "AES-128-CBC encryption failed")
  else if cipher.encKey.length = 32 then
    match crypto.cbcEncrypt cipher.encKey iv data with
    | some ciphertext => .ok ciphertext
    | none => .error (.cryptoError "AES-256-CBC encryption failed")
  else
    .error (.cryptoError (s!"Invalid CBC key length: {cipher.encKey.length}"))

def cbcDecrypt (cipher : Tls12CbcCipher) (iv ciphertext : Bytes) : Result Bytes :=
  if cipher.encKey.length = 16 then
    match crypto.cbcDecrypt cipher.encKey iv ciphertext with
    | some data => .ok data
    | none => .error (.cryptoError "AES-128-CBC decryption failed")
  else if cipher.encKey.length = 32 then
    match crypto.cbcDecrypt cipher.encKey iv ciphertext with
    | some data => .ok data
    | none => .error (.cryptoError "AES-256-CBC decryption failed")
  else
    .error (.cryptoError (s!"Invalid CBC key length: {cipher.encKey.length}"))

/-- The value of every padding byte, for a plaintext and MAC of the given total length. -/
def paddingLength (contentLen : Nat) : Nat := blockSize - (contentLen + 1) % blockSize

/-- Plaintext, MAC and padding, as they are encrypted. -/
def assemble (plaintext mac : Bytes) : Bytes :=
  let padding := paddingLength (plaintext.length + mac.length)
  plaintext ++ mac ++ List.replicate (padding + 1) (UInt8.ofNat padding)

/-- The draw gives the record's IV. -/
def encrypt (cipher : Tls12CbcCipher) (draw : Draw) (aad plaintext : Bytes) : Result Bytes :=
  let data := assemble plaintext (cipher.computeMac crypto aad plaintext)
  match crypto.random draw 16 with
  | none => .error (.cryptoError "Failed to generate CBC IV")
  | some iv =>
    match cipher.cbcEncrypt crypto iv data with
    | .error error => .error error
    | .ok encrypted => .ok (iv ++ encrypted)

/-- The MAC input header, with the plaintext length in place of the record length. -/
def macAad (aad : Bytes) (plaintextLen : Nat) : Bytes :=
  if 13 ≤ aad.length then aad.take 11 ++ be16 plaintextLen ++ aad.drop 13 else aad

/-- Remove padding and MAC from decrypted data, checking both. -/
def openDecrypted (cipher : Tls12CbcCipher) (aad decrypted : Bytes) : Result Bytes :=
  match decrypted.getLast? with
  | none => .error (.cryptoError "Empty CBC plaintext")
  | some padding =>
    let totalPadding := padding.toNat + 1
    let macLen := cipher.macAlgorithm.macLen
    if decrypted.length < totalPadding + macLen then
      .error (.cryptoError "TLS 1.2 CBC record too short after decrypt")
    else
      let contentEnd := decrypted.length - totalPadding
      let paddingOk := (decrypted.drop contentEnd).foldl
        (fun seen byte => seen ||| (byte ^^^ padding)) 0
      let plaintextEnd := contentEnd - macLen
      let plaintext := decrypted.take plaintextEnd
      let receivedMac := slice decrypted plaintextEnd contentEnd
      let expectedMac := crypto.hmac cipher.macAlgorithm.hash cipher.macKey
        (macAad aad plaintextEnd ++ plaintext)
      if paddingOk ≠ 0 ∨ expectedMac ≠ receivedMac then
        .error (.cryptoError "TLS 1.2 CBC MAC or padding verification failed")
      else
        .ok plaintext

def decrypt (cipher : Tls12CbcCipher) (aad data : Bytes) : Result Bytes :=
  if data.length < 16 + blockSize then
    .error (.cryptoError "TLS 1.2 CBC record too short")
  else
    let ciphertext := data.drop 16
    if ciphertext.length % blockSize ≠ 0 then
      .error (.cryptoError "TLS 1.2 CBC ciphertext not block-aligned")
    else
      match cipher.cbcDecrypt crypto (data.take 16) ciphertext with
      | .error error => .error error
      | .ok decrypted => cipher.openDecrypted crypto aad decrypted

/-! ## CBC padding -/

theorem paddingLength_le (contentLen : Nat) : paddingLength contentLen ≤ 16 := by
  simp only [paddingLength, blockSize]
  omega

theorem length_assemble (plaintext mac : Bytes) :
    (assemble plaintext mac).length =
      plaintext.length + mac.length + paddingLength (plaintext.length + mac.length) + 1 := by
  simp only [assemble, length_append, length_replicate]
  omega

/-- Plaintext, MAC and padding fill whole blocks. -/
theorem length_assemble_mod (plaintext mac : Bytes) : (assemble plaintext mac).length % 16 = 0 := by
  rw [length_assemble]
  simp only [paddingLength, blockSize]
  omega

theorem foldl_padding_eq_zero (count : Nat) (padding : UInt8) :
    (replicate count padding).foldl (fun seen byte => seen ||| (byte ^^^ padding)) 0 = 0 := by
  induction count with
  | zero => rfl
  | succ count ih =>
    rw [replicate_succ, foldl_cons, UInt8.xor_self, UInt8.or_zero]
    exact ih

theorem CbcMacAlgorithm.hashLen_hash (algorithm : CbcMacAlgorithm) :
    algorithm.hash.hashLen = algorithm.macLen := by
  cases algorithm <;> rfl

/-- Padding and MAC of an assembled plaintext are removed again. -/
theorem openDecrypted_assemble {crypto : Primitives} (hcrypto : HashLengths crypto)
    {cipher : Tls12CbcCipher} {aad recordAad plaintext : Bytes}
    (haad : macAad recordAad plaintext.length = aad) :
    cipher.openDecrypted crypto recordAad
      (assemble plaintext (cipher.computeMac crypto aad plaintext)) = .ok plaintext := by
  set mac := cipher.computeMac crypto aad plaintext with hmac
  have hmacLength : mac.length = cipher.macAlgorithm.macLen := by
    rw [hmac, computeMac, hcrypto.hmac_length, CbcMacAlgorithm.hashLen_hash]
  set padding := paddingLength (plaintext.length + mac.length) with hpadding
  have hpaddingNat : (UInt8.ofNat padding).toNat = padding := by
    have := paddingLength_le (plaintext.length + mac.length)
    rw [UInt8.toNat_ofNat']
    omega
  have hassemble : assemble plaintext mac =
      plaintext ++ mac ++ replicate (padding + 1) (UInt8.ofNat padding) := rfl
  have hlast : (assemble plaintext mac).getLast? = some (UInt8.ofNat padding) := by
    rw [hassemble, replicate_succ', ← append_assoc, getLast?_concat]
  have hlength : (assemble plaintext mac).length =
      plaintext.length + mac.length + padding + 1 := length_assemble plaintext mac
  have hcontent : (assemble plaintext mac).length - (padding + 1) = (plaintext ++ mac).length := by
    rw [hlength, length_append]
    omega
  have hplaintextEnd : (plaintext ++ mac).length - mac.length = plaintext.length := by
    omega
  have hpad : (assemble plaintext mac).drop (plaintext ++ mac).length =
      replicate (padding + 1) (UInt8.ofNat padding) := by
    rw [hassemble, drop_left]
  have hplain : (assemble plaintext mac).take plaintext.length = plaintext := by
    rw [hassemble, append_assoc, take_left]
  have hreceived : slice (assemble plaintext mac) plaintext.length (plaintext ++ mac).length =
      mac := by
    rw [slice, hassemble, append_assoc, drop_left, length_append,
      Nat.add_sub_cancel_left, take_left]
  have hbound : ¬ (assemble plaintext mac).length < padding + 1 + mac.length := by
    omega
  simp only [openDecrypted, hlast, hpaddingNat, ← hmacLength, hbound, if_false, hcontent,
    hplaintextEnd, hpad, hplain, hreceived, foldl_padding_eq_zero, haad]
  rw [if_neg]
  rw [not_or]
  exact ⟨not_not.mpr rfl, not_not.mpr hmac.symm⟩

end Tls12CbcCipher

/-! ## Decryption undoes encryption -/

section Protection

variable {crypto : Primitives} (hcrypto : RecordProtection crypto) {plaintext : Bytes}

include hcrypto

theorem Tls12GcmCipher.encrypt_ok (cipher : Tls12GcmCipher) (seqNum : UInt64) (aad : Bytes)
    (hlength : plaintext.length ≤ 16384) :
    ∃ ciphertext, cipher.encrypt crypto seqNum aad plaintext = .ok ciphertext ∧
      ciphertext.length = plaintext.length + 24 ∧
      cipher.decrypt crypto aad ciphertext = .ok plaintext := by
  obtain ⟨sealed, hseal⟩ := hcrypto.seal_succeeds cipher.key
    (cipher.implicitIv ++ be64 seqNum.toNat) aad plaintext (by simp [cipher.iv_length]) (by omega)
  have hsealed := hcrypto.seal_length _ _ _ _ _ hseal
  have hciphertext : (be64 seqNum.toNat ++ sealed).length = plaintext.length + 24 := by
    rw [length_append, length_be64, hsealed]
    omega
  refine ⟨be64 seqNum.toNat ++ sealed, ?_, hciphertext, ?_⟩
  · simp only [encrypt, hseal]
  · have hlong : ¬ (be64 seqNum.toNat ++ sealed).length < 8 + 16 := by
      omega
    have htake : (be64 seqNum.toNat ++ sealed).take 8 = be64 seqNum.toNat :=
      take_left' (length_be64 _)
    have hdrop : (be64 seqNum.toNat ++ sealed).drop 8 = sealed :=
      drop_left' (length_be64 _)
    simp only [decrypt, hlong, if_false, htake, hdrop, hcrypto.open_seal _ _ _ _ _ hseal]

theorem Tls12Chacha20Cipher.encrypt_ok (cipher : Tls12Chacha20Cipher) (seqNum : UInt64)
    (aad : Bytes) (hlength : plaintext.length ≤ 16384) :
    ∃ ciphertext, cipher.encrypt crypto seqNum aad plaintext = .ok ciphertext ∧
      ciphertext.length = plaintext.length + 16 ∧
      cipher.decrypt crypto seqNum aad ciphertext = .ok plaintext := by
  obtain ⟨ciphertext, hseal⟩ := hcrypto.seal_succeeds cipher.key (cipher.makeNonce seqNum) aad
    plaintext (length_xorNonce cipher.iv_length seqNum) (by omega)
  refine ⟨ciphertext, ?_, hcrypto.seal_length _ _ _ _ _ hseal, ?_⟩
  · simp only [encrypt, hseal]
  · simp only [decrypt, hcrypto.open_seal _ _ _ _ _ hseal]

/-- An AES-CBC cipher with an AES key of either length encrypts every plaintext, and decryption
with the record's own length in the header gives it back. -/
theorem Tls12CbcCipher.encrypt_ok (cipher : Tls12CbcCipher)
    (hkey : cipher.encKey.length = 16 ∨ cipher.encKey.length = 32) (draw : Draw)
    {aad recordAad : Bytes} (haad : macAad recordAad plaintext.length = aad) :
    ∃ ciphertext, cipher.encrypt crypto draw aad plaintext = .ok ciphertext ∧
      plaintext.length + 16 ≤ ciphertext.length ∧
      ciphertext.length ≤ plaintext.length + 81 ∧
      cipher.decrypt crypto recordAad ciphertext = .ok plaintext := by
  set mac := cipher.computeMac crypto aad plaintext with hmac
  have hmacLength : mac.length = cipher.macAlgorithm.macLen := by
    rw [hmac, computeMac, hcrypto.hmac_length, CbcMacAlgorithm.hashLen_hash]
  have hmacLe : cipher.macAlgorithm.macLen ≤ 48 := by
    cases cipher.macAlgorithm <;> decide
  have hpaddingLe := paddingLength_le (plaintext.length + mac.length)
  have hdata := length_assemble plaintext mac
  have hblocks := length_assemble_mod plaintext mac
  obtain ⟨iv, hrandom, hivLength⟩ := hcrypto.random_succeeds draw 16
  obtain ⟨encrypted, hcbc⟩ :=
    hcrypto.cbc_succeeds cipher.encKey iv (assemble plaintext mac) hkey hivLength hblocks
  have hencryptedLength := hcrypto.cbc_length _ _ _ _ hcbc
  have hencrypt : cipher.cbcEncrypt crypto iv (assemble plaintext mac) = .ok encrypted := by
    simp only [cbcEncrypt, hcbc]
    rcases hkey with hkey | hkey <;> simp [hkey]
  have hdecrypt : cipher.cbcDecrypt crypto iv encrypted = .ok (assemble plaintext mac) := by
    simp only [cbcDecrypt, hcrypto.cbcDecrypt_encrypt _ _ _ _ hcbc]
    rcases hkey with hkey | hkey <;> simp [hkey]
  have htotal : (iv ++ encrypted).length = 16 + (assemble plaintext mac).length := by
    rw [length_append, hivLength, hencryptedLength]
  refine ⟨iv ++ encrypted, ?_, by omega, by omega, ?_⟩
  · simp only [encrypt, ← hmac, hrandom, hencrypt]
  · have hlong : ¬ (iv ++ encrypted).length < 16 + blockSize := by
      simp only [blockSize]
      omega
    have hdrop : (iv ++ encrypted).drop 16 = encrypted := drop_left' hivLength
    have htake : (iv ++ encrypted).take 16 = iv := take_left' hivLength
    have haligned : ¬ encrypted.length % blockSize ≠ 0 := by
      rw [hencryptedLength]
      exact not_not.mpr hblocks
    simp only [decrypt, hlong, if_false, hdrop, htake, haligned, hdecrypt]
    exact openDecrypted_assemble hcrypto.toHashLengths haad

end Protection

end LkRequest.Crypto
