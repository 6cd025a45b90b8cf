import LkRequest.Library.Action
import LkRequest.Record.Reader

/-!
# Authentic records

Once read keys are installed, a record is authentic if it comes out of the decryption under the
current key and sequence number. The TLS 1.2 ciphers open every record. The TLS 1.3 reader opens
those of one outer type only, and hands every other record on as it came.
-/

namespace LkRequest.Record

open Library Crypto

namespace RecordReader

/-- The record comes out of the decryption of a framed record under the reader's keys. -/
inductive Authentic (crypto : Primitives) (reader : RecordReader) (header : RecordHeader)
    (rawPayload : Bytes) : PlaintextRecord → Prop
  | tls12 {cipher : Tls12RecordCipher} {plaintext : Bytes}
      (hcipher : reader.tls12Cipher = some cipher)
      (hopen : decryptTls12 crypto reader.seqNum cipher header rawPayload = .ok plaintext) :
      Authentic crypto reader header rawPayload ⟨header.contentType, plaintext⟩
  | tls13 {aead : Aead} {plaintext payload : Bytes} {contentType : UInt8}
      (hcipher : reader.tls12Cipher = none) (haead : reader.aead = some aead)
      (houter : header.contentType = ContentType.applicationData)
      (hopen : aead.decrypt crypto reader.seqNum header.toBytes rawPayload = .ok plaintext)
      (hinner : stripInnerContentType plaintext = .ok (contentType, payload)) :
      Authentic crypto reader header rawPayload ⟨contentType, payload⟩

/-- The reader does not pass the record on unopened: it has TLS 1.2 keys, or the outer type is that
of protected records or of the change of ciphers, which callers ignore. -/
def Guarded (reader : RecordReader) (header : RecordHeader) : Prop :=
  reader.tls12Cipher ≠ none ∨ header.contentType = ContentType.applicationData ∨
    header.contentType = ContentType.changeCipherSpec

instance (reader : RecordReader) (header : RecordHeader) : Decidable (reader.Guarded header) :=
  inferInstanceAs (Decidable (_ ∨ _ ∨ _))

section

variable {crypto : Primitives} {reader next : RecordReader} {header : RecordHeader}
  {rawPayload rest : Bytes} {record : PlaintextRecord}

theorem advance_eq_ok {opened : Result PlaintextRecord}
    (hadvance : reader.advance opened = (next, .ok record)) : opened = .ok record := by
  unfold advance at hadvance
  split at hadvance
  · cases hadvance
  · exact congrArg Prod.snd hadvance

/-- What opening a record returns under installed keys. -/
theorem openRecord_eq_ok (hkeys : reader.isEncrypted = true)
    (hopen : openRecord crypto reader header rawPayload = (next, .ok record)) :
    Authentic crypto reader header rawPayload record ∨
      reader.tls12Cipher = none ∧ header.contentType ≠ ContentType.applicationData ∧
        record = ⟨header.contentType, rawPayload⟩ := by
  revert hopen
  fun_cases openRecord with
  | case1 | case3 => exact nofun
  | case2 cipher hcipher plaintext hplaintext =>
    intro hopen
    cases advance_eq_ok hopen
    exact .inl (.tls12 hcipher hplaintext)
  | case4 hcipher aead haead houter plaintext hplaintext =>
    intro hopen
    obtain ⟨⟨contentType, payload⟩, hinner, heq⟩ := map_eq_ok.mp (advance_eq_ok hopen)
    cases heq
    exact .inl (.tls13 hcipher haead houter hplaintext hinner)
  | case5 hcipher aead haead houter =>
    rintro ⟨⟩
    exact .inr ⟨hcipher, houter, rfl⟩
  | case6 hcipher haead =>
    rw [isEncrypted, haead, hcipher] at hkeys
    cases hkeys

/-- Whether a record is authentic does not depend on the buffer behind it. -/
theorem authentic_of_buf
    (hauthentic : Authentic crypto { reader with buf := rest } header rawPayload record) :
    Authentic crypto reader header rawPayload record := by
  cases hauthentic with
  | tls12 hcipher hopen => exact .tls12 hcipher hopen
  | tls13 hcipher haead houter hopen hinner => exact .tls13 hcipher haead houter hopen hinner

variable (hkeys : reader.isEncrypted = true)
  (hframed : reader.Framed header rawPayload rest)
include hkeys hframed

/-- What a call returns under installed keys: an authentic record, or one of another outer type as
it came. -/
theorem nextRecord_eq_ok (hread : reader.nextRecord crypto = (next, .ok (some record))) :
    Authentic crypto reader header rawPayload record ∨
      reader.tls12Cipher = none ∧ header.contentType ≠ ContentType.applicationData ∧
        record = ⟨header.contentType, rawPayload⟩ := by
  rw [nextRecord_of_framed hframed, Prod.mk.injEq] at hread
  obtain ⟨value, hvalue, heq⟩ := map_eq_ok.mp hread.2
  cases heq
  have hkeyed : RecordReader.isEncrypted { reader with buf := rest } = true := hkeys
  rcases openRecord_eq_ok hkeyed (Prod.ext hread.1 hvalue) with hauthentic | hunopened
  · exact .inl (authentic_of_buf hauthentic)
  · exact .inr hunopened

/-- A returned record is authentic, or a change of ciphers, exactly if it was guarded. -/
theorem authentic_or_ccs_iff (hread : reader.nextRecord crypto = (next, .ok (some record))) :
    (Authentic crypto reader header rawPayload record ∨
      record.contentType = ContentType.changeCipherSpec) ↔ reader.Guarded header := by
  have hguardedOf : Authentic crypto reader header rawPayload record → reader.Guarded header := by
    intro hauthentic
    cases hauthentic with
    | tls12 hcipher =>
      left
      rw [hcipher]
      exact Option.some_ne_none _
    | tls13 _ _ houter => exact .inr (.inl houter)
  rcases nextRecord_eq_ok hkeys hframed hread with hauthentic | ⟨hcipher, houter, rfl⟩
  · exact ⟨fun _ => hguardedOf hauthentic, fun _ => .inl hauthentic⟩
  · constructor
    · rintro (hauthentic | hccs)
      · exact hguardedOf hauthentic
      · exact .inr (.inr hccs)
    · rintro (hsome | happlication | hccs)
      · exact absurd hcipher hsome
      · exact absurd happlication houter
      · exact .inr hccs

/-- A guarded record that is neither authentic nor a change of ciphers is an error. -/
theorem nextRecord_fails_of_guarded (hguarded : reader.Guarded header)
    (hforged : ∀ record, ¬ Authentic crypto reader header rawPayload record)
    (hkind : header.contentType ≠ ContentType.changeCipherSpec) :
    ∃ next error, reader.nextRecord crypto = (next, .error error) := by
  rcases hread : reader.nextRecord crypto with ⟨next, error | _ | record⟩
  · exact ⟨next, error, rfl⟩
  · rw [nextRecord_of_framed hframed, Prod.mk.injEq] at hread
    obtain ⟨_, _, heq⟩ := map_eq_ok.mp hread.2
    cases heq
  · rcases nextRecord_eq_ok hkeys hframed hread with hauthentic | ⟨hcipher, houter, -⟩
    · exact absurd hauthentic (hforged record)
    · rcases hguarded with hsome | happlication | hccs
      · exact absurd hcipher hsome
      · exact absurd happlication houter
      · exact absurd hccs hkind

end

end RecordReader

end LkRequest.Record
