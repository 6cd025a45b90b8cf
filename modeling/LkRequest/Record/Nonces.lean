import Mathlib.Data.List.Nodup
import LkRequest.Record.Session

/-!
# Nonces of a record session

The records a writer emits, each with the key and nonce it is sealed with (`sessionRecords_spec`).
Key and nonce never repeat within an epoch (`sessionNonces_spec`), and with a fresh key for every
epoch they never repeat at all (`nodup_nonces`).
-/

namespace LkRequest.Record

open Library Crypto List RecordWriter Option

/-! ## Keys and nonces of the emitted records -/

/-- The key and nonce of the record at a sequence number, for a protection that has one. -/
def nonceAt (tls12Cipher : Option Tls12RecordCipher) (aead : Option Aead) (seqNum : UInt64) :
    Option (AeadKey × Bytes) :=
  match tls12Cipher, aead with
  | some (.gcm cipher), _ => some (cipher.key, cipher.implicitIv ++ be64 seqNum.toNat)
  | some (.chacha20 cipher), _ => some (cipher.key, cipher.makeNonce seqNum)
  | some (.cbc _), _ => none
  | none, some aead => some (aead.key, aead.makeNonce seqNum)
  | none, none => none

variable {tls12Cipher : Option Tls12RecordCipher} {aead : Option Aead} {used : AeadKey × Bytes}

theorem nonceAt_injective {left right : UInt64} (hleft : nonceAt tls12Cipher aead left = some used)
    (hright : nonceAt tls12Cipher aead right = some used) : left = right := by
  have heq := hleft.trans hright.symm
  cases tls12Cipher with
  | some cipher =>
    cases cipher with
    | gcm cipher =>
      have hnonce := (Prod.mk.inj (some.inj heq)).2
      exact be64_toNat_injective (append_cancel_left hnonce)
    | chacha20 cipher =>
      exact xorNonce_injective cipher.iv_length (Prod.mk.inj (some.inj heq)).2
    | cbc cipher => exact absurd hleft (by simp [nonceAt])
  | none =>
    cases aead with
    | some aead => exact aead.makeNonce_injective (Prod.mk.inj (some.inj heq)).2
    | none => exact absurd hleft (by simp [nonceAt])

namespace RecordWriter

def nonce (writer : RecordWriter) : Option (AeadKey × Bytes) :=
  nonceAt writer.tls12Cipher writer.aead writer.seqNum

variable (crypto : Primitives)

/-- Each record that `writeFragments` encodes, with the key and nonce of its protection. -/
def fragmentRecords (contentType : UInt8) :
    RecordWriter → List Bytes → List (Bytes × Option (AeadKey × Bytes))
  | _, [] => []
  | writer, piece :: pieces =>
    match writer.encodeSingleRecord crypto contentType piece with
    | (_, .error _) => []
    | (next, .ok record) =>
      (record, writer.nonce) :: fragmentRecords contentType (next.emit [] record).1 pieces

def fragmentNonces (contentType : UInt8) (writer : RecordWriter) (pieces : List Bytes) :
    List (AeadKey × Bytes) :=
  (fragmentRecords crypto contentType writer pieces).filterMap Prod.snd

variable {crypto}

variable {writer next : RecordWriter} {record payload : Bytes} {contentType : UInt8} {key : AeadKey}

variable {nonceBytes : Bytes}

/-- An AEAD ciphertext of TLS 1.2 ends in what was sealed with the writer's nonce. -/
theorem encryptTls12_seals {cipher : Tls12RecordCipher} {aad ciphertext : Bytes}
    (hencrypt : writer.encryptTls12 crypto cipher aad payload = (next, .ok ciphertext))
    (hnonce : nonceAt (some cipher) aead writer.seqNum = some (key, nonceBytes)) :
    ∃ sealed, crypto.aeadSeal key nonceBytes aad payload = some sealed ∧ sealed <:+ ciphertext := by
  cases cipher with
  | gcm cipher =>
    obtain ⟨rfl, rfl⟩ := Prod.mk.inj (some.inj hnonce)
    have hresult := (Prod.mk.inj hencrypt).2
    unfold Tls12GcmCipher.encrypt at hresult
    dsimp only at hresult
    split at hresult
    next sealed hseal =>
      rw [← Except.ok.inj hresult]
      exact ⟨sealed, hseal, suffix_append _ _⟩
    · cases hresult
  | chacha20 cipher =>
    obtain ⟨rfl, rfl⟩ := Prod.mk.inj (some.inj hnonce)
    have hresult := (Prod.mk.inj hencrypt).2
    unfold Tls12Chacha20Cipher.encrypt at hresult
    split at hresult
    next sealed hseal =>
      rw [← Except.ok.inj hresult]
      exact ⟨sealed, hseal, suffix_refl _⟩
    · cases hresult
  | cbc cipher => exact absurd hnonce (by simp [nonceAt])

/-- The record ends in what was sealed with the key and nonce. -/
def SealedWith (crypto : Primitives) (record : Bytes) (used : AeadKey × Bytes) : Prop :=
  ∃ aad plaintext sealed, crypto.aeadSeal used.1 used.2 aad plaintext = some sealed ∧
    sealed <:+ record

/-- Where the protection is an AEAD, a record is sealed with the writer's nonce. -/
theorem encodeSingleRecord_protected {used : AeadKey × Bytes}
    (hencode : writer.encodeSingleRecord crypto contentType payload = (next, .ok record))
    (hnonce : writer.nonce = some used) : SealedWith crypto record used := by
  obtain ⟨key, nonceBytes⟩ := used
  unfold encodeSingleRecord at hencode
  unfold nonce at hnonce
  split at hencode
  next _ cipher htls12 =>
    unfold encodeTls12EncryptedRecord at hencode
    dsimp only at hencode
    split at hencode
    · cases hencode
    next middle ciphertext hencrypt =>
      obtain ⟨-, rfl, -⟩ := advance_spec hencode
      rw [htls12] at hnonce
      obtain ⟨sealed, hseal, hsuffix⟩ := encryptTls12_seals hencrypt hnonce
      exact ⟨_, _, sealed, hseal, hsuffix.trans (suffix_append _ _)⟩
  next aead htls12 haead =>
    unfold encodeTls13EncryptedRecord at hencode
    dsimp only at hencode
    split at hencode
    · cases hencode
    next ciphertext hencrypt =>
      obtain ⟨-, rfl, -⟩ := advance_spec hencode
      rw [htls12, haead] at hnonce
      obtain ⟨rfl, rfl⟩ := Prod.mk.inj (some.inj hnonce)
      unfold Aead.encrypt at hencrypt
      split at hencrypt
      next sealed hseal =>
        rw [← Except.ok.inj hencrypt]
        exact ⟨_, _, sealed, hseal, suffix_append _ _⟩
      · cases hencrypt
  next htls12 haead =>
    exact absurd hnonce (by simp [nonceAt, htls12, haead])

theorem isEncrypted_of_nonce (hnonce : writer.nonce = some used) : writer.isEncrypted = true := by
  unfold nonce nonceAt at hnonce
  unfold isEncrypted
  split at hnonce <;> simp_all

/-- Encoding never goes back, and an AEAD record uses its sequence number up. -/
theorem encodeSingleRecord_seqNum
    (hencode : writer.encodeSingleRecord crypto contentType payload = (next, .ok record)) :
    writer.seqNum.toNat ≤ next.seqNum.toNat ∧
    (writer.nonce.isSome → writer.seqNum.toNat < next.seqNum.toNat) := by
  have hnext := (encodeSingleRecord_spec hencode).2
  constructor
  · omega
  · intro hsome
    obtain ⟨used, hused⟩ := isSome_iff_exists.mp hsome
    rw [isEncrypted_of_nonce hused, Bool.toNat_true] at hnext
    omega

/-- A record uses up at most one sequence number. -/
theorem encodeSingleRecord_seqNum_le
    (hencode : writer.encodeSingleRecord crypto contentType payload = (next, .ok record)) :
    next.seqNum.toNat ≤ writer.seqNum.toNat + 1 := by
  have hnext := (encodeSingleRecord_spec hencode).2
  have hone := writer.isEncrypted.toNat_le
  omega

theorem fragmentNonces_cons {piece : Bytes} {pieces : List Bytes}
    (hencode : writer.encodeSingleRecord crypto contentType piece = (next, .ok record)) :
    fragmentNonces crypto contentType writer (piece :: pieces) =
      writer.nonce.toList ++ fragmentNonces crypto contentType (next.emit [] record).1 pieces := by
  simp only [fragmentNonces, fragmentRecords, hencode]
  cases writer.nonce <;> simp

/-- The records of a payload are what the write hands out, each sealed with its nonce. -/
theorem fragmentRecords_spec {output bytes : Bytes} {pieces : List Bytes}
    (himmediate : writer.flushStrategy = .immediate)
    (hwrite : writeFragments crypto contentType writer output pieces = (next, .ok bytes)) :
    output ++ (fragmentRecords crypto contentType writer pieces).flatMap Prod.fst = bytes ∧
      ∀ entry ∈ fragmentRecords crypto contentType writer pieces, ∀ used ∈ entry.2,
        SealedWith crypto entry.1 used := by
  induction pieces generalizing writer output with
  | nil =>
    obtain ⟨-, hbytes⟩ := Prod.mk.inj hwrite
    exact ⟨(append_nil output).trans (Except.ok.inj hbytes), nofun⟩
  | cons piece pieces ih =>
    have hsame := sameKeys_encodeSingleRecord crypto writer contentType piece
    rcases hencode : writer.encodeSingleRecord crypto contentType piece with ⟨middle, result⟩
    rw [hencode] at hsame
    simp only [writeFragments, hencode] at hwrite
    cases result with
    | error error => cases hwrite
    | ok record =>
      have hmiddle : middle.flushStrategy = .immediate := hsame.flushStrategy_eq.trans himmediate
      simp only [emit, hmiddle] at hwrite
      obtain ⟨hbytes, hsealed⟩ := ih hmiddle hwrite
      simp only [fragmentRecords, hencode, emit, hmiddle, flatMap_cons]
      refine ⟨(append_assoc ..).symm.trans hbytes, forall_mem_cons.mpr ⟨?_, hsealed⟩⟩
      intro used hused
      exact encodeSingleRecord_protected hencode hused

/-- The nonces of one payload's records are those of the sequence numbers the write used up. -/
theorem fragmentNonces_spec {output bytes : Bytes} {pieces : List Bytes}
    (hwrite : writeFragments crypto contentType writer output pieces = (next, .ok bytes)) :
    (fragmentNonces crypto contentType writer pieces).Nodup ∧
    ∀ used ∈ fragmentNonces crypto contentType writer pieces, ∃ seqNum : UInt64,
      writer.seqNum.toNat ≤ seqNum.toNat ∧ seqNum.toNat < next.seqNum.toNat ∧
      nonceAt writer.tls12Cipher writer.aead seqNum = some used := by
  induction pieces generalizing writer output with
  | nil =>
    exact ⟨nodup_nil, fun used hused => absurd hused not_mem_nil⟩
  | cons piece pieces ih =>
    rcases hencode : writer.encodeSingleRecord crypto contentType piece with ⟨middle, result⟩
    have hsame := sameKeys_encodeSingleRecord crypto writer contentType piece
    rw [hencode] at hsame
    simp only [writeFragments, hencode] at hwrite
    cases result with
    | error error => cases hwrite
    | ok record =>
      obtain ⟨hemitEq, hemitSame, hemitSeq⟩ := middle.emit_fields output [] record
      obtain ⟨hle, hlt⟩ := encodeSingleRecord_seqNum hencode
      have hnext := (writeFragments_spec hwrite).2
      obtain ⟨hnodup, hused⟩ := ih hwrite
      rw [hemitSeq] at hnext hused
      rw [hemitEq] at hnodup hused
      have hkeys := hsame.trans hemitSame
      rw [hemitEq] at hkeys
      rw [fragmentNonces_cons hencode]
      refine ⟨?_, ?_⟩
      · refine nodup_append.mpr ⟨?_, hnodup, ?_⟩
        · cases writer.nonce <;> simp
        · intro used hhead later hlater heq
          subst heq
          have hnonce : writer.nonce = some used := by simpa using hhead
          obtain ⟨seqNum, hfrom, _, hat⟩ := hused used hlater
          rw [hkeys.tls12Cipher_eq, hkeys.aead_eq] at hat
          have hseq := nonceAt_injective hnonce hat
          have := hlt (by simp [hnonce])
          rw [← hseq] at hfrom
          omega
      · intro used hmem
        rcases mem_append.mp hmem with hhead | hlater
        · have hnonce : writer.nonce = some used := by simpa using hhead
          have := hlt (by simp [hnonce])
          exact ⟨writer.seqNum, le_refl _, by omega, hnonce⟩
        · obtain ⟨seqNum, hfrom, hbefore, hat⟩ := hused used hlater
          rw [hkeys.tls12Cipher_eq, hkeys.aead_eq] at hat
          exact ⟨seqNum, le_trans hle hfrom, hbefore, hat⟩

end RecordWriter

/-! ## Nonces of a session -/

variable (crypto : Primitives)

/-- A record that a script emits, with the number of key changes before it and the key and nonce of
its protection. -/
structure EmittedRecord where
  epoch : Nat
  bytes : Bytes
  used : Option (AeadKey × Bytes)

def sessionRecords : Nat → RecordWriter → List WriterOp → List EmittedRecord
  | _, _, [] => []
  | epoch, writer, .write contentType payload :: ops =>
    match writer.writeRecord crypto contentType payload with
    | (next, .ok _) =>
      (writer.fragmentRecords crypto contentType (fragments payload)).map
        (fun (record, used) => ⟨epoch, record, used⟩) ++ sessionRecords epoch next ops
    | (next, .error _) => sessionRecords epoch next ops
  | epoch, writer, .rekey keys :: ops => sessionRecords (epoch + 1) (writer.install keys) ops

/-- The key and nonce of every AEAD record that a script emits, with its epoch. -/
def sessionNonces (epoch : Nat) (writer : RecordWriter) (ops : List WriterOp) :
    List (Nat × AeadKey × Bytes) :=
  (sessionRecords crypto epoch writer ops).filterMap fun entry => entry.used.map (entry.epoch, ·)

/-- A record sealed in the current epoch at or after the writer's sequence number, or in a later
epoch. -/
def UsedFrom (epoch : Nat) (writer : RecordWriter) (used : Nat × AeadKey × Bytes) : Prop :=
  (used.1 = epoch ∧ ∃ seqNum : UInt64, writer.seqNum.toNat ≤ seqNum.toNat ∧
    nonceAt writer.tls12Cipher writer.aead seqNum = some used.2) ∨ epoch < used.1

variable {crypto}

variable {writer next : RecordWriter} {epoch : Nat} {used : Nat × AeadKey × Bytes}
  {ops : List WriterOp}

variable {contentType : UInt8} {payload bytes : Bytes}

theorem sessionNonces_ok
    (hwrite : writer.writeRecord crypto contentType payload = (next, .ok bytes)) :
    sessionNonces crypto epoch writer (.write contentType payload :: ops) =
      (writer.fragmentNonces crypto contentType (fragments payload)).map (epoch, ·) ++
        sessionNonces crypto epoch next ops := by
  simp only [sessionNonces, sessionRecords, hwrite, filterMap_append, fragmentNonces,
    filterMap_map, map_filterMap]
  rfl

theorem sessionNonces_error {error : TlsError}
    (hwrite : writer.writeRecord crypto contentType payload = (next, .error error)) :
    sessionNonces crypto epoch writer (.write contentType payload :: ops) =
      sessionNonces crypto epoch next ops := by
  simp only [sessionNonces, sessionRecords, hwrite]

/-- The records of a script are the bytes on the wire, each sealed with its key and nonce. -/
theorem sessionRecords_spec (epoch : Nat) {writer : RecordWriter}
    (himmediate : writer.flushStrategy = .immediate) (ops : List WriterOp) :
    (sessionRecords crypto epoch writer ops).flatMap EmittedRecord.bytes =
        (runWriter crypto writer ops).flatMap WireItem.bytes ∧
      ∀ entry ∈ sessionRecords crypto epoch writer ops, ∀ used ∈ entry.used,
        SealedWith crypto entry.bytes used := by
  induction ops generalizing epoch writer with
  | nil => exact ⟨rfl, nofun⟩
  | cons op ops ih =>
    cases op with
    | rekey keys => exact ih (epoch + 1) ((flushStrategy_install writer keys).trans himmediate)
    | write contentType payload =>
      rcases hwrite : writer.writeRecord crypto contentType payload with ⟨next, result⟩
      have hsame := (writeFragments_spec hwrite).1
      obtain ⟨hbytes, hsealed⟩ := ih epoch (hsame.flushStrategy_eq.trans himmediate)
      simp only [sessionRecords, runWriter, hwrite]
      cases result with
      | error error => exact ⟨hbytes, hsealed⟩
      | ok bytes =>
        obtain ⟨hwritten, hfragments⟩ := fragmentRecords_spec himmediate hwrite
        rw [nil_append] at hwritten
        refine ⟨?_, forall_mem_append.mpr ⟨?_, hsealed⟩⟩
        · rw [flatMap_append, flatMap_map, hbytes, flatMap_cons, WireItem.bytes, ← hwritten]
        · intro entry hentry
          obtain ⟨record, hrecord, rfl⟩ := mem_map.mp hentry
          exact hfragments record hrecord

theorem UsedFrom.of_sameKeys (hused : UsedFrom epoch next used)
    (hsame : writer.SameKeys next) (hle : writer.seqNum.toNat ≤ next.seqNum.toNat) :
    UsedFrom epoch writer used := by
  rcases hused with ⟨hepoch, seqNum, hfrom, hat⟩ | hlater
  · rw [hsame.tls12Cipher_eq, hsame.aead_eq] at hat
    exact .inl ⟨hepoch, seqNum, le_trans hle hfrom, hat⟩
  · exact .inr hlater

/-- Within an epoch every AEAD record has a nonce of its own. -/
theorem sessionNonces_spec (epoch : Nat) (writer : RecordWriter) (ops : List WriterOp) :
    (sessionNonces crypto epoch writer ops).Nodup ∧
    ∀ used ∈ sessionNonces crypto epoch writer ops, UsedFrom epoch writer used := by
  induction ops generalizing epoch writer with
  | nil => exact ⟨nodup_nil, fun used hused => absurd hused not_mem_nil⟩
  | cons op ops ih =>
    cases op with
    | rekey keys =>
      obtain ⟨hnodup, hfrom⟩ := ih (epoch + 1) (writer.install keys)
      refine ⟨hnodup, fun used hused => .inr ?_⟩
      rcases hfrom used hused with ⟨hepoch, _⟩ | hlater <;> omega
    | write contentType payload =>
      rcases hwrite : writer.writeRecord crypto contentType payload with ⟨next, result⟩
      obtain ⟨hnodup, hfrom⟩ := ih epoch next
      obtain ⟨hsame, hle⟩ := writeFragments_spec hwrite
      cases result with
      | error error =>
        rw [sessionNonces_error hwrite]
        exact ⟨hnodup, fun used hused => (hfrom used hused).of_sameKeys hsame hle⟩
      | ok bytes =>
        obtain ⟨hfragments, hwritten⟩ := fragmentNonces_spec hwrite
        rw [sessionNonces_ok hwrite]
        constructor
        · refine nodup_append.mpr
            ⟨hfragments.map fun left right heq => (Prod.mk.inj heq).2, hnodup, ?_⟩
          intro used hhead later hlater heq
          subst heq
          obtain ⟨record, hrecord, rfl⟩ := mem_map.mp hhead
          obtain ⟨seqNum, _, hbefore, hat⟩ := hwritten record hrecord
          rcases hfrom _ hlater with ⟨_, later, hlaterFrom, hlaterAt⟩ | hepoch
          · rw [hsame.tls12Cipher_eq, hsame.aead_eq] at hlaterAt
            rw [nonceAt_injective hat hlaterAt] at hbefore
            omega
          · exact absurd hepoch (lt_irrefl _)
        · intro used hused
          rcases mem_append.mp hused with hhead | hlater
          · obtain ⟨record, hrecord, rfl⟩ := mem_map.mp hhead
            obtain ⟨seqNum, hfromSeq, _, hat⟩ := hwritten record hrecord
            exact .inl ⟨rfl, seqNum, hfromSeq, hat⟩
          · exact (hfrom used hlater).of_sameKeys hsame hle

/-! ## Sessions that never install a key twice -/

def RecordWriter.aeadKey (writer : RecordWriter) : Option AeadKey :=
  (writer.nonce).map Prod.fst

/-- The AEAD key of each epoch of a script. -/
def epochKeys : RecordWriter → List WriterOp → List (Option AeadKey)
  | writer, [] => [writer.aeadKey]
  | writer, .write _ _ :: ops => epochKeys writer ops
  | writer, .rekey keys :: ops => writer.aeadKey :: epochKeys (writer.install keys) ops

/-- No AEAD key is installed for two epochs. -/
def FreshKeys (writer : RecordWriter) (ops : List WriterOp) : Prop :=
  ∀ (left right : Nat) (key : AeadKey), (epochKeys writer ops)[left]? = some (some key) →
    (epochKeys writer ops)[right]? = some (some key) → left = right

theorem nonceAt_key {left right : UInt64} :
    (nonceAt tls12Cipher aead left).map Prod.fst =
      (nonceAt tls12Cipher aead right).map Prod.fst := by
  unfold nonceAt
  split <;> rfl

theorem RecordWriter.SameKeys.aeadKey_eq
    (hsame : writer.SameKeys next) : next.aeadKey = writer.aeadKey := by
  unfold aeadKey nonce
  rw [hsame.tls12Cipher_eq, hsame.aead_eq]
  exact nonceAt_key

theorem RecordWriter.SameKeys.install (hsame : writer.SameKeys next)
    (keys : RecordKeys) : (writer.install keys).SameKeys (next.install keys) := by
  cases keys <;> exact ⟨rfl, rfl, hsame.flushStrategy_eq⟩

theorem epochKeys_congr (hsame : writer.SameKeys next)
    (ops : List WriterOp) : epochKeys next ops = epochKeys writer ops := by
  induction ops generalizing writer next with
  | nil => rw [epochKeys, epochKeys, hsame.aeadKey_eq]
  | cons op ops ih =>
    cases op with
    | write contentType payload => exact ih hsame
    | rekey keys => rw [epochKeys, epochKeys, hsame.aeadKey_eq, ih (hsame.install keys)]

theorem epochKeys_zero {writer : RecordWriter} {ops : List WriterOp} :
    (epochKeys writer ops)[0]? = some writer.aeadKey := by
  induction ops with
  | nil => rfl
  | cons op ops ih =>
    cases op with
    | write contentType payload => exact ih
    | rekey keys => rfl

/-- A record is sealed with the key of its epoch. -/
theorem epochKeys_of_mem_sessionNonces (hused : used ∈ sessionNonces crypto epoch writer ops) :
    epoch ≤ used.1 ∧ (epochKeys writer ops)[used.1 - epoch]? = some (some used.2.1) := by
  induction ops generalizing epoch writer with
  | nil => cases hused
  | cons op ops ih =>
    cases op with
    | rekey keys =>
      obtain ⟨hle, hkey⟩ := ih hused
      have hindex : used.1 - epoch = (used.1 - (epoch + 1)) + 1 := by omega
      rw [epochKeys, hindex]
      exact ⟨by omega, hkey⟩
    | write contentType payload =>
      rcases hwrite : writer.writeRecord crypto contentType payload with ⟨next, result⟩
      have hsame := (writeFragments_spec hwrite).1
      have hlater : used ∈ sessionNonces crypto epoch next ops → epoch ≤ used.1 ∧
          (epochKeys writer ops)[used.1 - epoch]? = some (some used.2.1) := by
        intro hmem
        rw [← epochKeys_congr hsame]
        exact ih hmem
      cases result with
      | error error =>
        rw [sessionNonces_error hwrite] at hused
        exact hlater hused
      | ok bytes =>
        rw [sessionNonces_ok hwrite] at hused
        rcases mem_append.mp hused with hhead | hmem
        · obtain ⟨record, hrecord, rfl⟩ := mem_map.mp hhead
          obtain ⟨_, hwritten⟩ := fragmentNonces_spec hwrite
          obtain ⟨seqNum, _, _, hat⟩ := hwritten record hrecord
          refine ⟨le_refl _, ?_⟩
          rw [Nat.sub_self]
          refine epochKeys_zero.trans (congrArg some ?_)
          rw [aeadKey, nonce, nonceAt_key, hat]
          rfl
        · exact hlater hmem

/-- With a fresh key for every epoch, no key and nonce protect two emitted records. -/
theorem nodup_nonces (hfresh : FreshKeys writer ops) :
    ((sessionRecords crypto 0 writer ops).filterMap EmittedRecord.used).Nodup := by
  have hused : (sessionRecords crypto 0 writer ops).filterMap EmittedRecord.used =
      (sessionNonces crypto 0 writer ops).map Prod.snd := by
    rw [sessionNonces, map_filterMap]
    refine filterMap_congr fun entry _ => ?_
    cases entry.used <;> rfl
  rw [hused]
  refine List.Nodup.map_on ?_ (sessionNonces_spec 0 writer ops).1
  intro left hleft right hright heq
  have hleftKey := (epochKeys_of_mem_sessionNonces hleft).2
  have hrightKey := (epochKeys_of_mem_sessionNonces hright).2
  rw [heq] at hleftKey
  exact Prod.ext (hfresh _ _ _ hleftKey hrightKey) heq

end LkRequest.Record
