import LkRequest.Handshake.Transcript
import LkRequest.Hello.EchBuilder
import LkRequest.Hello.ServerHello
import LkRequest.SessionTicket
import LkRequest.Verify.CertChain

/-!
# The state of a TLS 1.3 handshake

The state of `Tls13Handshake` and what its steps hand to a driver.
-/

namespace LkRequest.Handshake

open Library Crypto Profile Hello Session Verify

/-! ## Handshake state -/

inductive Tls13State where
  | start
  | waitServerHello
  | waitEncryptedExtensions
  | waitCertificate
  | waitCertificateVerify
  | waitFinished
  | connected
  deriving DecidableEq

/-- The `Debug` text of a state. -/
def Tls13State.debug : Tls13State → String
  | start => "Start"
  | waitServerHello => "WaitServerHello"
  | waitEncryptedExtensions => "WaitEncryptedExtensions"
  | waitCertificate => "WaitCertificate"
  | waitCertificateVerify => "WaitCertificateVerify"
  | waitFinished => "WaitFinished"
  | connected => "Connected"

structure HandshakeKeys where
  hkdfAlgorithm : HkdfAlgorithm
  aeadAlgorithm : AeadAlgorithm
  serverSecret : Bytes
  clientSecret : Bytes
  serverKey : Bytes
  serverIv : Bytes
  clientKey : Bytes
  clientIv : Bytes

structure TrafficSecrets where
  aeadAlgorithm : AeadAlgorithm
  hkdfAlgorithm : HkdfAlgorithm
  clientKey : Bytes
  clientIv : Bytes
  serverKey : Bytes
  serverIv : Bytes
  serverAppSecret : Bytes
  clientAppSecret : Bytes
  exporterMasterSecret : Bytes

structure HandshakeComplete where
  clientEncryptedExtensions : Option Bytes
  clientCertificate : Option Bytes
  clientFinished : Bytes
  trafficSecrets : TrafficSecrets
  negotiatedAlpn : Option String
  resumptionMasterSecret : Bytes
  negotiatedCipherSuite : UInt16
  serverCertificates : List Bytes
  echRetryConfigs : Option Bytes
  echAccepted : Bool
  peerQuicTransportParams : Option (List QuicTransportParam)
  earlyDataAccepted : Bool

/-- What the caller has to do after a message. -/
inductive HandshakeAction where
  | installHandshakeKeys (keys : HandshakeKeys)
  | continueReading
  | complete (complete : HandshakeComplete)
  | retryClientHello (message : Bytes)

structure Tls13Handshake where
  state : Tls13State := .start
  profile : TlsProfile
  hostname : String
  transcript : Option TranscriptHash := none
  bufferedClientHello : Option Bytes := none
  keyPairs : List EphemeralKeyPair := []
  clientRandom : Option Bytes := none
  sessionId : Option Bytes := none
  hrrReceived : Bool := false
  greaseValues : Option GreaseValues := none
  extensionOrder : Option (List ExtensionSpec) := none
  echGreaseExtension : Option Bytes := none
  cipherSuite : Option UInt16 := none
  hkdfAlgorithm : Option HkdfAlgorithm := none
  aeadAlgorithm : Option AeadAlgorithm := none
  handshakeSecret : Option HkdfPrk := none
  clientHsTrafficSecret : Option Bytes := none
  serverHsTrafficSecret : Option Bytes := none
  serverCertificates : List Bytes := []
  clientCertificateRequestContext : Option Bytes := none
  alpsPayload : Option Bytes := none
  serverAlpsData : Option Bytes := none
  alpsCodePoint : Option UInt16 := none
  negotiatedAlpn : Option String := none
  echConfigList : Option Bytes := none
  echRetryConfigs : Option Bytes := none
  quicTransportParameters : Option Bytes := none
  peerQuicTransportParams : Option (List QuicTransportParam) := none
  quicMode : Bool := false
  earlyDataAccepted : Bool := false
  echOffered : Bool := false
  echAccepted : Bool := false
  echInnerHello : Option Bytes := none
  echRetryState : Option EchRetryState := none
  echHrrAccepted : Option Bool := none
  hrrRawBytes : Option Bytes := none
  hrrInnerCh2 : Option Bytes := none
  verificationPolicy : VerificationPolicy := .strict
  customCaAnchors : List Bytes := []
  pskTicket : Option SessionTicketData := none
  tls12SessionTicketData : Option Bytes := none
  pskAccepted : Bool := false
  earlySecretFromPsk : Option HkdfPrk := none
  deriving DecidableEq

namespace Tls13Handshake

/-- Feed a message to the transcript, if there is one. -/
def hashMessage (handshake : Tls13Handshake) (message : Bytes) : Tls13Handshake :=
  { handshake with transcript := handshake.transcript.map (·.update message) }

end Tls13Handshake

/-- The hash and the AEAD of a TLS 1.3 suite. -/
def cipherSuiteInfo (suite : UInt16) : Result (HkdfAlgorithm × AeadAlgorithm) :=
  if suite = 0x1301 then .ok (.sha256, .aes128Gcm)
  else if suite = 0x1302 then .ok (.sha384, .aes256Gcm)
  else if suite = 0x1303 then .ok (.sha256, .chacha20Poly1305)
  else .error (.handshakeFailure ("unsupported cipher suite: 0x" ++ hex04 suite))

/-- The `Debug` text of a hash algorithm. -/
def hkdfDebug : HkdfAlgorithm → String
  | .sha256 => "Sha256"
  | .sha384 => "Sha384"

end LkRequest.Handshake
