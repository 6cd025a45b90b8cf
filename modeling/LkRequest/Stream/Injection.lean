import LkRequest.Handshake.Passes
import LkRequest.Record.Authentic
import LkRequest.Record.Lossless
import LkRequest.Stream.TlsStream

/-!
# Records that an attacker injects

What the handshake driver and an established connection do with a record that does not come out of
the decryption. A guarded record that is forged stops both with an error, and only the reader
changes. A TLS 1.3 reader does not guard itself against records of other outer types.
-/

namespace LkRequest.Stream

open Library Crypto Session Record Handshake

namespace TlsStream

section

variable {crypto : Primitives} {stream : TlsStream} {reader : RecordReader} {error : TlsError}

/-- A read that fails in the record layer changes nothing but the reader. -/
theorem tryReadAppData_of_readFailed
    (hread : stream.reader.nextRecord crypto = (reader, .error error)) :
    tryReadAppData crypto stream = ({ stream with reader := reader }, .error (.record error)) := by
  have hnext : nextRecord crypto stream =
      ({ stream with reader := reader }, .error (.record error)) := by
    unfold nextRecord
    rw [hread]
    rfl
  have hbody : readBody crypto stream =
      ({ stream with reader := reader }, .error (.record error)) :=
    Action.bind_of_error hnext
  change (readBody crypto).loop false (stream.reader.buf.length + 1) stream = _
  rw [Action.loop_succ, hbody]

end

end TlsStream

/-- **No unauthenticated record is acted upon, if records are guarded.** Under installed keys, the
record at the front of the buffer is returned as authentic, or is a change of ciphers, exactly if it
is guarded; and a guarded record that is forged changes neither the handshake nor an established
connection. -/
theorem acts_on_authentic_iff_guarded {crypto : Primitives} {reader : RecordReader}
    {header : RecordHeader} {rawPayload rest : Bytes} (hkeys : reader.isEncrypted = true)
    (hframed : reader.Framed header rawPayload rest) :
    (∀ next record, reader.nextRecord crypto = (next, .ok (some record)) →
      (reader.Authentic crypto header rawPayload record ∨
        record.contentType = ContentType.changeCipherSpec ↔ reader.Guarded header)) ∧
    (reader.Guarded header → (∀ record, ¬ reader.Authentic crypto header rawPayload record) →
      header.contentType ≠ ContentType.changeCipherSpec →
      (∀ driver : HandshakeDriver, driver.reader = reader →
        ∃ last writer alert error, driver.progress crypto =
          ({ driver with reader := last, writer := writer, pendingAlert := alert }, .error error)) ∧
      (∀ stream : TlsStream, stream.reader = reader →
        ∃ last error, stream.tryReadAppData crypto =
          ({ stream with reader := last }, .error error) ∧
          last.aead = reader.aead ∧ last.tls12Cipher = reader.tls12Cipher)) := by
  constructor
  · intro next record hread
    exact RecordReader.authentic_or_ccs_iff hkeys hframed hread
  · intro hguarded hforged hkind
    obtain ⟨last, error, hread⟩ :=
      RecordReader.nextRecord_fails_of_guarded hkeys hframed hguarded hforged hkind
    constructor
    · intro driver hreader
      rw [← hreader] at hread
      obtain ⟨writer, alert, hprogress⟩ := HandshakeDriver.progress_of_readFailed hread
      exact ⟨last, writer, alert, error, hprogress⟩
    · intro stream hreader
      have hsame := RecordReader.nextRecord_keys hread
      rw [← hreader] at hread
      exact ⟨last, _, TlsStream.tryReadAppData_of_readFailed hread, hsame⟩

/-! A sealed record of an honest peer, which is authentic. -/

def helloHeader : RecordHeader := ⟨ContentType.applicationData, 0x0303, 0x16⟩

def helloSealed : Bytes := ofHex 22 0xad433e6986bbc458173c71523f2d54915c27ffabc42c

def helloReader : RecordReader := ⟨helloHeader.toBytes ++ helloSealed, 0, some helloAead, none⟩

theorem acts_on_authentic_hello :
    helloReader.Authentic helloRecording.primitives helloHeader helloSealed
      ⟨ContentType.applicationData, [0x68, 0x65, 0x6c, 0x6c, 0x6f]⟩ := by
  have hframed : helloReader.Framed helloHeader helloSealed [] :=
    ⟨by decide, by decide, by decide⟩
  have hreturned := (acts_on_authentic_iff_guarded rfl hframed).1 _ _
    (Prod.ext rfl (show (helloReader.nextRecord helloRecording.primitives).2 =
      .ok (some ⟨ContentType.applicationData, [0x68, 0x65, 0x6c, 0x6c, 0x6f]⟩) by decide +kernel))
  exact (hreturned.mpr (.inr (.inl rfl))).resolve_right (by decide)

/-! ## An established connection

A connection under AES-128-GCM, with the secrets and keys of its first KeyUpdate in each direction
as HKDF-SHA256 makes them. -/

namespace Established

def serverSecret : Bytes := List.replicate 32 0x55

def clientSecret : Bytes := List.replicate 32 0x66

def nextServerSecret : Bytes :=
  ofHex 32 0x822aa0a52c64e6ca8dff0722763a6551af334a0be741161588c2c3261befcbba

def nextClientSecret : Bytes :=
  ofHex 32 0xfdd66b9c1f65ef9dde8c4d9878ab2131c1a5d9902384738f6e1209f16145a236

def updateLabel : Bytes := [0x00, 0x20, 0x11] ++ utf8 "tls13 traffic upd" ++ [0x00]

def keyLabel : Bytes := [0x00, 0x10, 0x09] ++ utf8 "tls13 key" ++ [0x00]

def ivLabel : Bytes := [0x00, 0x0c, 0x08] ++ utf8 "tls13 iv" ++ [0x00]

def serverAead : Aead :=
  ⟨⟨.aes128Gcm, ofHex 16 0x1388f67715c37dba230d56b83c6f8521, by decide⟩,
    ofHex 12 0x52187fe0284a7bf6936e465b, by decide⟩

def clientAead : Aead :=
  ⟨⟨.aes128Gcm, ofHex 16 0xe43735f9fb76fc7d26b4652a6442f99d, by decide⟩,
    ofHex 12 0x3e14ba30485174464afd01c1, by decide⟩

def nextServerAead : Aead :=
  ⟨⟨.aes128Gcm, ofHex 16 0x918c055c159f23d06ff3b418619fae49, by decide⟩,
    ofHex 12 0x05bcc57745f6410be8dfc70d, by decide⟩

def nextClientAead : Aead :=
  ⟨⟨.aes128Gcm, ofHex 16 0xc672a1cac8e73c23918d8874cceec41f, by decide⟩,
    ofHex 12 0x2ca16079238ce3f45782077a, by decide⟩

def hello : Bytes := [0x68, 0x65, 0x6c, 0x6c, 0x6f]

def world : Bytes := [0x77, 0x6f, 0x72, 0x6c, 0x64]

def closeNotify : Bytes := [0x01, 0x00]

def sealedHello : Bytes := ofHex 22 0x37ad4e659e5fef8fc7d1a7c0158a715063db28bba16e

def sealedEmpty : Bytes := ofHex 17 0x489b6d97ab8325923cbfd869ef48c464d2

def sealedWorld : Bytes := ofHex 22 0x34773dc08a9b4bd595892b92f508403b5c9ab094cafa

def sealedClose : Bytes := ofHex 19 0x5ec837a7c81ad0f9c36bc483cfe1743320d9f4

def sealedSecondClose : Bytes := ofHex 19 0x42185a609727581c5ab22d71b581ecadc88101

/-- A protected record on the wire. -/
def onWire (sealedPayload : Bytes) : Bytes :=
  [0x17, 0x03, 0x03, 0x00, UInt8.ofNat sealedPayload.length] ++ sealedPayload

/-- A record that the server seals under its first key. -/
def serverSeal (seqNum : UInt64) (contentType : UInt8) (payload sealedPayload : Bytes) : SealCall :=
  ⟨.aes128Gcm, serverAead.key.bytes, serverAead.makeNonce seqNum,
    [0x17, 0x03, 0x03, 0x00, UInt8.ofNat sealedPayload.length], payload ++ [contentType],
    sealedPayload⟩

def recording : Recording where
  seals :=
    [serverSeal 0 ContentType.applicationData hello sealedHello,
      serverSeal 0 ContentType.applicationData [] sealedEmpty,
      serverSeal 1 ContentType.applicationData world sealedWorld,
      serverSeal 0 ContentType.alert closeNotify sealedClose,
      serverSeal 1 ContentType.alert closeNotify sealedSecondClose]
  expands :=
    [⟨.sha256, serverSecret, updateLabel, nextServerSecret⟩,
      ⟨.sha256, nextServerSecret, keyLabel, nextServerAead.key.bytes⟩,
      ⟨.sha256, nextServerSecret, ivLabel, nextServerAead.iv⟩,
      ⟨.sha256, clientSecret, updateLabel, nextClientSecret⟩,
      ⟨.sha256, nextClientSecret, keyLabel, nextClientAead.key.bytes⟩,
      ⟨.sha256, nextClientSecret, ivLabel, nextClientAead.iv⟩]

abbrev crypto : Primitives := recording.primitives

def stream : TlsStream where
  reader := RecordReader.new.setKeys serverAead
  writer := RecordWriter.new.setKeys clientAead
  postHandshake := some ⟨serverSecret, clientSecret, .sha256, .aes128Gcm, []⟩
  sessionTicketCtx := none

def keyUpdate : Bytes := [0x18, 0x00, 0x00, 0x01, 0x00]

def injectedHeader : RecordHeader := ⟨ContentType.handshake, 0x0303, 0x05⟩

/-- The connection after an attacker has put a KeyUpdate in plaintext on the wire. -/
def injected : TlsStream := stream.feed (injectedHeader.toBytes ++ keyUpdate)

/-- The injected record is taken out of the buffer as it came, though no decryption yields it, and
the connection changes its read key. -/
theorem injected_keyUpdate_acted_upon :
    injected.reader.isEncrypted = true ∧ injected.reader.Framed injectedHeader keyUpdate [] ∧
      (injected.reader.nextRecord crypto).2 = .ok (some ⟨ContentType.handshake, keyUpdate⟩) ∧
      (∀ record, ¬ injected.reader.Authentic crypto injectedHeader keyUpdate record) ∧
      injected.reader.aead = some serverAead ∧
      (injected.tryReadAppData crypto).1.reader.aead = some nextServerAead := by
  refine ⟨rfl, ⟨by decide, by decide, by decide⟩, by decide +kernel, ?_, rfl, by decide +kernel⟩
  intro record hauthentic
  cases hauthentic with
  | tls12 hcipher => cases hcipher
  | tls13 _ _ houter => cases houter

end Established

end LkRequest.Stream
