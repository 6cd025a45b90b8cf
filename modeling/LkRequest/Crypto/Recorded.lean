import LkRequest.Crypto.Primitives

/-!
# Recorded primitives

Concrete primitives for runs on fixed inputs. A recording lists calls of the real algorithms with
their outputs; on those inputs the primitives answer as the real ones do. Elsewhere they fall back
to functions with the right lengths, so that a sound recording satisfies the assumptions of the
general results (`Recording.Sound.protection`).
-/

namespace LkRequest.Crypto

open Library List Option

/-- The bytes of a number, most significant first: `ofHex 2 0x0301` is `[0x03, 0x01]`. -/
def ofHex (length value : Nat) : Bytes :=
  (List.range length).reverse.map fun i => UInt8.ofNat (value / 256 ^ i)

structure DigestCall where
  algorithm : HashAlgorithm
  data : Bytes
  output : Bytes

structure HmacCall where
  algorithm : HashAlgorithm
  key : Bytes
  data : Bytes
  output : Bytes

structure SealCall where
  algorithm : AeadAlgorithm
  key : Bytes
  nonce : Bytes
  aad : Bytes
  plaintext : Bytes
  ciphertext : Bytes

structure ExtractCall where
  algorithm : HashAlgorithm
  salt : Bytes
  keyMaterial : Bytes
  output : Bytes

structure ExpandCall where
  algorithm : HashAlgorithm
  prk : Bytes
  info : Bytes
  output : Bytes

structure AgreeCall where
  group : KxGroup
  privateKey : Bytes
  peerPublicKey : Bytes
  output : Bytes

structure Recording where
  digests : List DigestCall := []
  hmacs : List HmacCall := []
  seals : List SealCall := []
  extracts : List ExtractCall := []
  expands : List ExpandCall := []
  agreements : List AgreeCall := []
  /-- The key pairs that were generated, as group, private key and public key. -/
  keyPairs : List (KxGroup × Bytes × Bytes) := []
  /-- The random draws. -/
  draws : List (Draw × Bytes) := []

namespace Recording

/-- The tag of a fallback ciphertext. -/
def zeroTag : Bytes := List.replicate 16 0

variable (recording : Recording)

def digest (algorithm : HashAlgorithm) (data : Bytes) : Bytes :=
  match recording.digests.find? fun call => call.algorithm = algorithm ∧ call.data = data with
  | some call => call.output
  | none => List.replicate algorithm.hashLen 0

def hmac (algorithm : HashAlgorithm) (key data : Bytes) : Bytes :=
  match recording.hmacs.find? fun call =>
      call.algorithm = algorithm ∧ call.key = key ∧ call.data = data with
  | some call => call.output
  | none => List.replicate algorithm.hashLen 0

def aeadSeal (key : AeadKey) (nonce aad plaintext : Bytes) : Option Bytes :=
  match recording.seals.find? fun call => call.algorithm = key.algorithm ∧ call.key = key.bytes ∧
      call.nonce = nonce ∧ call.aad = aad ∧ call.plaintext = plaintext with
  | some call => some call.ciphertext
  | none => some (plaintext ++ zeroTag)

def aeadOpen (key : AeadKey) (nonce aad ciphertext : Bytes) : Option Bytes :=
  match recording.seals.find? fun call => call.algorithm = key.algorithm ∧ call.key = key.bytes ∧
      call.nonce = nonce ∧ call.aad = aad ∧ call.ciphertext = ciphertext with
  | some call => some call.plaintext
  | none =>
    if ciphertext.drop (ciphertext.length - 16) = zeroTag then
      some (ciphertext.take (ciphertext.length - 16))
    else none

def hkdfExtract (algorithm : HashAlgorithm) (salt keyMaterial : Bytes) : Bytes :=
  match recording.extracts.find? fun call =>
      call.algorithm = algorithm ∧ call.salt = salt ∧ call.keyMaterial = keyMaterial with
  | some call => call.output
  | none => List.replicate algorithm.hashLen 0

def hkdfExpand (algorithm : HashAlgorithm) (prk info : Bytes) (length : Nat) : Option Bytes :=
  match recording.expands.find? fun call => call.algorithm = algorithm ∧ call.prk = prk ∧
      call.info = info ∧ call.output.length = length with
  | some call => some call.output
  | none => some (List.replicate length 0)

def random (draw : Draw) (length : Nat) : Option Bytes :=
  match recording.draws.find? fun entry => entry.1 = draw ∧ entry.2.length = length with
  | some entry => some entry.2
  | none => some (List.replicate length 0)

def primitives : Primitives where
  unixTime := 0
  ticketAgeMs _ := 0
  digest := recording.digest
  hmac := recording.hmac
  hkdfExtract := recording.hkdfExtract
  hkdfExpand := recording.hkdfExpand
  aeadSeal := recording.aeadSeal
  aeadOpen := recording.aeadOpen
  cbcEncrypt _ _ data := some data
  cbcDecrypt _ _ data := some data
  random := recording.random
  randomWords _ := []
  agreementGenerate group _ :=
    (recording.keyPairs.find? fun pair => pair.1 = group).map fun pair => pair.2.1
  agreementPublicKey group privateKey :=
    (recording.keyPairs.find? fun pair => pair.1 = group ∧ pair.2.1 = privateKey).map
      fun pair => pair.2.2
  agree group privateKey peerPublicKey :=
    (recording.agreements.find? fun call => call.group = group ∧ call.privateKey = privateKey ∧
      call.peerPublicKey = peerPublicKey).map fun call => call.output
  mlkemGenerate _ := none
  mlkemPublicKey _ := none
  mlkemDecapsulate _ _ := .error "not recorded"
  rsaEncrypt _ _ _ := .error "not recorded"
  verifySignature _ _ _ _ := false
  parseEndEntity _ := .error "not recorded"
  verifyForUsage _ _ _ _ := .error "not recorded"
  utf8Lossy _ := ""
  parsesIpAddr _ := false
  validServerName _ := false
  verifySubjectName _ _ := .error "not recorded"
  zlibDecompress _ := .error "not recorded"
  brotliDecompress _ := .error "not recorded"
  hpkeSetup _ _ _ _ := .error "not recorded"
  hpkeSeal _ _ _ _ _ := .error "not recorded"

/-- The outputs have the lengths of their algorithms, no recorded tag is the fallback tag, and
equal ciphertexts under one key, nonce and header open to one plaintext. -/
structure Sound (recording : Recording) : Prop where
  digest_length : ∀ call ∈ recording.digests, call.output.length = call.algorithm.hashLen
  hmac_length : ∀ call ∈ recording.hmacs, call.output.length = call.algorithm.hashLen
  seal_length : ∀ call ∈ recording.seals, call.ciphertext.length = call.plaintext.length + 16
  seal_tag : ∀ call ∈ recording.seals, call.ciphertext.drop (call.ciphertext.length - 16) ≠ zeroTag
  seal_injective : ∀ left ∈ recording.seals, ∀ right ∈ recording.seals,
    left.algorithm = right.algorithm → left.key = right.key → left.nonce = right.nonce →
    left.aad = right.aad → left.ciphertext = right.ciphertext → left.plaintext = right.plaintext

variable {recording}

/-- What a lookup finds is in the table and matches. -/
theorem mem_and_of_find? {α : Type} {entries : List α} {matching : α → Prop}
    [DecidablePred matching] {entry : α}
    (hfind : entries.find? (fun candidate => decide (matching candidate)) = some entry) :
    entry ∈ entries ∧ matching entry :=
  ⟨mem_of_find?_eq_some hfind,
    of_decide_eq_true (p := matching entry) (by simpa using find?_some hfind)⟩

theorem Sound.hashLengths (hsound : recording.Sound) : HashLengths recording.primitives where
  digest_length algorithm data := by
    change (recording.digest algorithm data).length = _
    unfold digest
    split
    next call hfind =>
      have ⟨hmem, hmatch⟩ := mem_and_of_find? hfind
      rw [hsound.digest_length call hmem, hmatch.1]
    · exact length_replicate
  hmac_length algorithm key data := by
    change (recording.hmac algorithm key data).length = _
    unfold hmac
    split
    next call hfind =>
      have ⟨hmem, hmatch⟩ := mem_and_of_find? hfind
      rw [hsound.hmac_length call hmem, hmatch.1]
    · exact length_replicate

/-- The draws of a recording have the length that was asked for. -/
theorem drawLengths (recording : Recording) : DrawLengths recording.primitives where
  random_length draw length bytes hdraw := by
    change recording.random draw length = some bytes at hdraw
    unfold random at hdraw
    split at hdraw
    next entry hfind =>
      obtain rfl := some.inj hdraw
      exact (mem_and_of_find? hfind).2.2
    · rw [← some.inj hdraw]
      exact length_replicate

/-- Opening inverts sealing, recorded or not. -/
theorem Sound.open_seal (hsound : recording.Sound) {key : AeadKey}
    {nonce aad plaintext ciphertext : Bytes}
    (hseal : recording.aeadSeal key nonce aad plaintext = some ciphertext) :
    recording.aeadOpen key nonce aad ciphertext = some plaintext := by
  unfold aeadSeal at hseal
  unfold aeadOpen
  split at hseal
  next call hfind =>
    obtain rfl := some.inj hseal
    obtain ⟨hmem, halgorithm, hkey, hnonce, haad, rfl⟩ := mem_and_of_find? hfind
    split
    next found hfound =>
      obtain ⟨hfoundMem, halgorithm', hkey', hnonce', haad', hciphertext⟩ :=
        mem_and_of_find? hfound
      rw [hsound.seal_injective found hfoundMem call hmem (halgorithm'.trans halgorithm.symm)
        (hkey'.trans hkey.symm) (hnonce'.trans hnonce.symm) (haad'.trans haad.symm) hciphertext]
    next hnone =>
      have hnot := find?_eq_none.mp hnone call hmem
      exact absurd (decide_eq_true ⟨halgorithm, hkey, hnonce, haad, rfl⟩) hnot
  · obtain rfl := some.inj hseal
    have hlength : (plaintext ++ zeroTag).length - 16 = plaintext.length := by
      simp [zeroTag]
    split
    next found hfound =>
      obtain ⟨hfoundMem, _, _, _, _, hciphertext⟩ := mem_and_of_find? hfound
      have htag := hsound.seal_tag found hfoundMem
      rw [hciphertext, hlength, drop_left] at htag
      exact absurd rfl htag
    · rw [hlength, drop_left, if_pos rfl, take_left]

/-- The primitives of a sound recording protect records as the record layer assumes. -/
theorem Sound.protection (hsound : recording.Sound) : RecordProtection recording.primitives where
  toHashLengths := hsound.hashLengths
  seal_succeeds key nonce aad plaintext _ _ := by
    change ∃ ciphertext, recording.aeadSeal key nonce aad plaintext = some ciphertext
    unfold aeadSeal
    split <;> exact ⟨_, rfl⟩
  seal_length key nonce aad plaintext ciphertext hseal := by
    change recording.aeadSeal key nonce aad plaintext = some ciphertext at hseal
    unfold aeadSeal at hseal
    split at hseal
    next call hfind =>
      obtain ⟨hmem, _, _, _, _, rfl⟩ := mem_and_of_find? hfind
      rw [← some.inj hseal]
      exact hsound.seal_length call hmem
    · rw [← some.inj hseal, length_append, zeroTag, length_replicate]
  open_seal key nonce aad plaintext ciphertext hseal := hsound.open_seal hseal
  cbc_succeeds key iv data _ _ _ := ⟨data, rfl⟩
  cbc_length key iv data ciphertext hencrypt := by rw [some.inj hencrypt]
  cbcDecrypt_encrypt key iv data ciphertext hencrypt := by
    rw [← some.inj hencrypt]
    rfl
  random_succeeds draw length := by
    change ∃ bytes, recording.random draw length = some bytes ∧ bytes.length = length
    unfold random
    split
    next entry hfind =>
      exact ⟨entry.2, rfl, (mem_and_of_find? hfind).2.2⟩
    · exact ⟨_, rfl, length_replicate⟩

end Recording

end LkRequest.Crypto
