import LkRequest.Crypto.KeySchedule

/-!
# Session tickets

What a NewSessionTicket of either version leaves behind, and the age a TLS 1.3 ticket is offered
with.
-/

namespace LkRequest.Session

open Library Crypto

inductive TicketTlsVersion where
  | tls13
  | tls12
  deriving DecidableEq

structure SessionTicketData where
  ticket : Bytes
  resumptionPsk : Bytes
  tlsVersion : TicketTlsVersion
  cipherSuite : UInt16
  lifetimeSecs : UInt32
  ageAdd : UInt32
  alpn : Option String
  hkdfAlgorithm : HkdfAlgorithm
  aeadAlgorithm : AeadAlgorithm
  masterSecret : Bytes
  maxEarlyDataSize : UInt32
  peerTransportParameters : Option Bytes
  deriving DecidableEq

section
variable (crypto : Primitives)

/-- The age at the time a hello is built, in 32 bits and with `ticket_age_add` added. -/
def SessionTicketData.obfuscatedTicketAge (ticket : SessionTicketData) (hello : Nat) : UInt32 :=
  UInt32.ofNat (crypto.ticketAgeMs hello) + ticket.ageAdd

end

def u32At (data : Bytes) (index : Nat) : UInt32 :=
  UInt32.ofNat (u16At data index * 65536 + u16At data (index + 2))

/-- The message body, if the bytes start with the header of a NewSessionTicket. -/
def ticketBody (payload : Bytes) : Bytes :=
  if 4 < payload.length ∧ byteAt payload 0 = 0x04 then payload.drop 4 else payload

/-- The last `early_data` limit among the ticket's extensions, or `limit`. -/
def ticketEarlyData : Nat → Bytes → UInt32 → UInt32
  | 0, _, limit => limit
  | fuel + 1, data, limit =>
    if data.length < 4 then limit
    else
      let extLen := u16At data 2
      if data.length < 4 + extLen then limit
      else
        let limit := if u16At data 0 = 0x002a ∧ 4 ≤ extLen then u32At data 4 else limit
        ticketEarlyData fuel (data.drop (4 + extLen)) limit

section
variable (crypto : Primitives)

/-- The error is the text the source logs. -/
def parseTls13NewSessionTicket (payload resumptionMasterSecret : Bytes)
    (hkdfAlgorithm : HkdfAlgorithm) (aeadAlgorithm : AeadAlgorithm) (cipherSuite : UInt16)
    (alpn : Option String) : Except String SessionTicketData :=
  let data := ticketBody payload
  if data.length < 12 then .error "NewSessionTicket too short"
  else
    let nonceLen := (byteAt data 8).toNat
    if data.length < 9 + nonceLen then .error "NewSessionTicket truncated at nonce data"
    else
      let lenPos := 9 + nonceLen
      if data.length < lenPos + 2 then .error "NewSessionTicket truncated at ticket length"
      else
        let ticketEnd := lenPos + 2 + u16At data lenPos
        if data.length < ticketEnd then .error "NewSessionTicket truncated at ticket data"
        else
          let maxEarlyDataSize :=
            if ticketEnd + 2 ≤ data.length then
              let extensions := (data.drop (ticketEnd + 2)).take (u16At data ticketEnd)
              ticketEarlyData extensions.length extensions 0
            else 0
          match hkdfExpandLabel crypto hkdfAlgorithm resumptionMasterSecret "resumption"
              (slice data 9 lenPos) hkdfAlgorithm.hashLen with
          | .error _ =>
            .error "failed to derive resumption PSK: crypto error: HKDF-Expand-Label failed"
          | .ok resumptionPsk => .ok
            { ticket := slice data (lenPos + 2) ticketEnd
              resumptionPsk, tlsVersion := .tls13, cipherSuite
              lifetimeSecs := u32At data 0
              ageAdd := u32At data 4
              alpn, hkdfAlgorithm, aeadAlgorithm, masterSecret := []
              maxEarlyDataSize, peerTransportParameters := none }

end

/-- The suite code, hash and AEAD recorded for a ticket of the negotiated TLS 1.2 suite. -/
def tls12TicketAlgorithms : Option Tls12CipherSuite → UInt16 × HkdfAlgorithm × AeadAlgorithm
  | none => (0, .sha256, .aes128Gcm)
  | some suite =>
    let hkdf : HkdfAlgorithm := match suite.prfAlgorithm with
      | .sha256 => .sha256
      | .sha384 => .sha384
    let aead : AeadAlgorithm :=
      if suite.isAead then
        if suite.encKeyLen = 32 then
          if suite = .ecdheEcdsaChacha20Poly1305 ∨ suite = .ecdheRsaChacha20Poly1305 then
            .chacha20Poly1305
          else .aes256Gcm
        else .aes128Gcm
      else .aes128Gcm
    (suite.codePoint, hkdf, aead)

def parseTls12NewSessionTicket (payload masterSecret : Bytes) (alpn : Option String)
    (negotiatedSuite : Option Tls12CipherSuite) : Except String SessionTicketData :=
  let data := ticketBody payload
  if data.length < 6 then .error "TLS 1.2 NewSessionTicket too short"
  else
    let ticketLen := u16At data 4
    if data.length < 6 + ticketLen then .error "TLS 1.2 NewSessionTicket truncated"
    else
      let (cipherSuite, hkdfAlgorithm, aeadAlgorithm) := tls12TicketAlgorithms negotiatedSuite
      .ok
        { ticket := slice data 6 (6 + ticketLen)
          resumptionPsk := [], tlsVersion := .tls12, cipherSuite
          lifetimeSecs := u32At data 0
          ageAdd := 0
          alpn, hkdfAlgorithm, aeadAlgorithm, masterSecret
          maxEarlyDataSize := 0, peerTransportParameters := none }

end LkRequest.Session
