import LkRequest.Handshake.Tls13State

/-!
# The ClientHellos of a TLS 1.3 handshake

Building the first hello, the second one after a HelloRetryRequest, and the pre-shared key offer
at the end of either.
-/

namespace LkRequest.Handshake

open Library Crypto Profile Hello Session

namespace Tls13Handshake

/-! ## The profile of a hello -/

/-- The index at which the QUIC parameters go into a list without them. -/
def quicInsertAt (extensions : List ExtensionSpec) : Nat :=
  extensions.findIdx fun spec =>
    spec.extensionType == ExtType.padding || spec.extensionType == ExtType.preSharedKey

def withQuicExtension (extensions : List ExtensionSpec) : List ExtensionSpec :=
  if extensions.any (·.extensionType == ExtType.quicTransportParameters) then extensions
  else extensions.insertIdx (quicInsertAt extensions) ⟨ExtType.quicTransportParameters, .auto⟩

/-- `profile_for_ch`: without ALPS when there is no payload, and TLS 1.3 only under QUIC. -/
def profileForCh (handshake : Tls13Handshake) : TlsProfile :=
  let profile :=
    if handshake.alpsPayload.isNone then { handshake.profile with alpsProtocols := none }
    else handshake.profile
  if handshake.quicMode then
    { profile with
      tlsMinVersion := .tls13
      tlsMaxVersion := .tls13
      sessionIdLength := 0
      extensions := withQuicExtension profile.extensions }
  else profile

/-! ## Pre-shared keys -/

/-- The offsets of the walk to the extensions length of a hello message. -/
def extLenPos (message : Bytes) : Nat :=
  let suitesStart := 39 + (byteAt message 38).toNat
  let methodsStart := suitesStart + 2 + u16At message suitesStart
  methodsStart + 1 + (byteAt message methodsStart).toNat

/-- The hello with the extension appended and its two length fields patched. A walk that leaves
the message is an indexing panic. -/
def appendExtension (message extension : Bytes) : Result Bytes :=
  let longer := message ++ extension
  let withBodyLen := overwrite longer 1 (be24 (longer.length - 4))
  let position := extLenPos withBodyLen
  if withBodyLen.length < position + 2 then .error (.noReturn "index out of bounds")
  else .ok (overwrite withBodyLen position
    (be16 (u16At withBodyLen position + extension.length)))

section
variable (crypto : Primitives)

/-- `append_psk_extension`: the extension with its binder, over the transcript so far if there is
one. `hello` numbers the ClientHello. -/
def appendPskExtension (handshake : Tls13Handshake) (message : Bytes) (ticket : SessionTicketData)
    (transcriptPrefix : Option TranscriptHash) (hello : Nat) :
    Result (Tls13Handshake × Bytes) := do
  let algorithm := ticket.hkdfAlgorithm
  let binderLen := algorithm.hashLen
  let (extension, binderOffset) :=
    encodePskExtension ⟨ticket.ticket, ticket.obfuscatedTicketAge crypto hello⟩ binderLen
  let patched ← appendExtension message extension
  let truncated := patched.take (patched.length - bindersSize 1 binderLen)
  let transcriptHash := match transcriptPrefix with
    | some transcript => (transcript.update truncated).currentHash crypto
    | none => crypto.digest algorithm.hash truncated
  let binder ← computePskBinder crypto algorithm ticket.resumptionPsk transcriptHash
  let handshake := { handshake with
    earlySecretFromPsk := some (computeEarlySecret crypto algorithm ticket.resumptionPsk) }
  let final ← copyFromSlice patched (message.length + binderOffset) binderLen binder
  return (handshake, final)

/-- The transcript before an inner second hello, under the ticket's hash. -/
def echHrrPskTranscriptPrefix (algorithm : HkdfAlgorithm)
    (innerClientHello helloRetryRequest : Bytes) : Bytes :=
  messageHash (crypto.digest algorithm.hash innerClientHello) ++ helloRetryRequest

def pskOfferOf (ticket : SessionTicketData) (hello : Nat) (transcriptPrefix : Bytes) : PskOffer :=
  ⟨ticket.ticket, ticket.obfuscatedTicketAge crypto hello, ticket.resumptionPsk,
    ticket.hkdfAlgorithm, transcriptPrefix⟩

/-! ## The first hello -/

def firstBuilder (handshake : Tls13Handshake) : ClientHelloBuilder :=
  { profile := handshake.profileForCh
    hostname := handshake.hostname
    sessionTicketData := handshake.tls12SessionTicketData
    echConfigList := handshake.echConfigList
    quicTransportParameters := handshake.quicTransportParameters
    earlyData := handshake.pskTicket.any fun ticket => 0 < ticket.maxEarlyDataSize
    pskOffer :=
      if handshake.echConfigList.isSome then
        handshake.pskTicket.map fun ticket => pskOfferOf crypto ticket 0 []
      else none
    hello := 0 }

def pskExtraLen (handshake : Tls13Handshake) : Nat :=
  match handshake.pskTicket with
  | some ticket => pskExtensionLength ticket.ticket.length ticket.hkdfAlgorithm.hashLen
  | none => 0

/-- Keep what a second hello and the key exchange need of the built hello. -/
def rememberHello (handshake : Tls13Handshake) (output : ClientHelloOutput) : Tls13Handshake :=
  let sidLen := (byteAt output.message 38).toNat
  let remembered := { handshake with
    clientRandom := some (slice output.message 6 38)
    sessionId := some (slice output.message 39 (39 + sidLen))
    keyPairs := output.keyShares
    greaseValues := some output.greaseValues
    extensionOrder := some output.shuffledExtensions
    echGreaseExtension := output.echGreaseExtension }
  if output.echOffered then
    { remembered with
      echOffered := true
      echInnerHello := output.innerHello
      echRetryState := output.echRetryState }
  else remembered

/-- The hello with its pre-shared key: under ECH the inner hello has it already. -/
def finishHello (handshake : Tls13Handshake) (echOffered : Bool) (message : Bytes)
    (transcriptPrefix : Option TranscriptHash) (hello : Nat) : Result (Tls13Handshake × Bytes) :=
  match handshake.pskTicket with
  | none => .ok (handshake, message)
  | some ticket =>
    if echOffered then
      .ok ({ handshake with
        earlySecretFromPsk :=
          some (computeEarlySecret crypto ticket.hkdfAlgorithm ticket.resumptionPsk) }, message)
    else handshake.appendPskExtension crypto message ticket transcriptPrefix hello

def buildClientHello (handshake : Tls13Handshake) : Result (Tls13Handshake × Bytes) := do
  if handshake.state ≠ .start then
    .error (.handshakeFailure "build_client_hello called in wrong state")
  let output ← (handshake.firstBuilder crypto).buildWithPskHint crypto handshake.pskExtraLen
  if handshake.quicMode ∧ byteAt output.message 38 ≠ 0 then
    .error (.handshakeFailure "QUIC ClientHello must use an empty legacy_session_id")
  let (handshake, message) ←
    (handshake.rememberHello output).finishHello crypto output.echOffered output.message none 0
  return ({ handshake with bufferedClientHello := some message, state := .waitServerHello },
    message)

/-! ## The second hello -/

/-- The pre-shared key offer of an inner second hello. -/
def retryPskOffer (handshake : Tls13Handshake) : Result (Option PskOffer) :=
  if handshake.echRetryState.isNone then .ok none
  else
    match handshake.pskTicket with
    | none => .ok none
    | some ticket =>
      match handshake.echInnerHello with
      | none => .error (.handshakeFailure "missing ClientHelloInner1 for ECH PSK HRR")
      | some innerHello =>
        match handshake.hrrRawBytes with
        | none => .error (.handshakeFailure "missing HelloRetryRequest for ECH PSK binder")
        | some hrr => .ok (some (pskOfferOf crypto ticket 1
            (echHrrPskTranscriptPrefix crypto ticket.hkdfAlgorithm innerHello hrr)))

def retryBuilder (handshake : Tls13Handshake) (random sessionId : Bytes) (cookie : Option Bytes)
    (pskOffer : Option PskOffer) : ClientHelloBuilder :=
  { profile := handshake.profileForCh
    hostname := handshake.hostname
    random := some random
    sessionId := some sessionId
    cookie := cookie
    sessionTicketData := handshake.tls12SessionTicketData
    echConfigList := handshake.echConfigList
    quicTransportParameters := handshake.quicTransportParameters
    pskOffer := pskOffer
    greaseValues := handshake.greaseValues
    extensionOrder := handshake.extensionOrder
    echGreaseExtension := handshake.echGreaseExtension
    hello := 1 }

def buildClientHelloRetry (handshake : Tls13Handshake) (cookie : Option Bytes)
    (replaceKeyShare : Bool) : Result (Tls13Handshake × Bytes) := do
  let random ←
    orMalformed (.handshakeFailure "missing client_random for HRR") handshake.clientRandom
  let sessionId ← orMalformed (.handshakeFailure "missing session_id for HRR") handshake.sessionId
  let pskOffer ← handshake.retryPskOffer crypto
  let builder := handshake.retryBuilder random sessionId cookie pskOffer
  let (output, echRetryState) ←
    if replaceKeyShare then
      builder.buildRetryWithKeyPairs crypto handshake.keyPairs handshake.echRetryState
    else builder.buildCookieRetryWithKeyPairs crypto handshake.keyPairs handshake.echRetryState
  let handshake := { handshake with
    echRetryState := echRetryState
    hrrInnerCh2 := if output.echOffered then output.innerHello else handshake.hrrInnerCh2 }
  handshake.finishHello crypto output.echOffered output.message handshake.transcript 1

end

end Tls13Handshake

end LkRequest.Handshake
