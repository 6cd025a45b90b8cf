import LkRequest.Client.Error

/-!
# The texts of errors

The `Display` of the client's errors, which the pipeline formats into further errors, and the
`Debug` text of the durations in its timeout messages.
-/

namespace LkRequest

open Library

/-! ## Errors of the TLS engine -/

def AlertLevel.display : AlertLevel → Text
  | warning => "warning".toList
  | fatal => "fatal".toList
  | unknown byte => "unknown(".toList ++ Text.ofNat byte.toNat ++ ")".toList

def AlertDescription.name : AlertDescription → Text
  | closeNotify => "close_notify".toList
  | unexpectedMessage => "unexpected_message".toList
  | badRecordMac => "bad_record_mac".toList
  | decryptionFailed => "decryption_failed".toList
  | recordOverflow => "record_overflow".toList
  | decompressionFailure => "decompression_failure".toList
  | handshakeFailure => "handshake_failure".toList
  | noCertificate => "no_certificate".toList
  | badCertificate => "bad_certificate".toList
  | unsupportedCertificate => "unsupported_certificate".toList
  | certificateRevoked => "certificate_revoked".toList
  | certificateExpired => "certificate_expired".toList
  | certificateUnknown => "certificate_unknown".toList
  | illegalParameter => "illegal_parameter".toList
  | unknownCa => "unknown_ca".toList
  | accessDenied => "access_denied".toList
  | decodeError => "decode_error".toList
  | decryptError => "decrypt_error".toList
  | exportRestriction => "export_restriction".toList
  | protocolVersion => "protocol_version".toList
  | insufficientSecurity => "insufficient_security".toList
  | internalError => "internal_error".toList
  | inappropriateFallback => "inappropriate_fallback".toList
  | userCanceled => "user_canceled".toList
  | noRenegotiation => "no_renegotiation".toList
  | missingExtension => "missing_extension".toList
  | unsupportedExtension => "unsupported_extension".toList
  | certificateUnobtainable => "certificate_unobtainable".toList
  | unrecognizedName => "unrecognized_name".toList
  | badCertificateStatusResponse => "bad_certificate_status_response".toList
  | badCertificateHashValue => "bad_certificate_hash_value".toList
  | unknownPskIdentity => "unknown_psk_identity".toList
  | certificateRequired => "certificate_required".toList
  | noApplicationProtocol => "no_application_protocol".toList
  | unknown _ => "unknown".toList

def TlsAlert.display (alert : TlsAlert) : Text :=
  alert.level.display ++ " alert: ".toList ++ alert.description.name ++ " (".toList ++
    Text.ofNat alert.description.asByte.toNat ++ ")".toList

def TlsError.display : TlsError → Text
  | io message => "I/O error: ".toList ++ message.toList
  | invalidProfile message => "invalid profile: ".toList ++ message.toList
  | handshakeFailure message => "handshake failure: ".toList ++ message.toList
  | alert received => "TLS alert from server: ".toList ++ received.display
  | localAlert raised message =>
    "local TLS alert ".toList ++ raised.display ++ ": ".toList ++ message.toList
  | cryptoError message => "crypto error: ".toList ++ message.toList
  | certificateError message => "certificate error: ".toList ++ message.toList
  | unexpectedMessage message => "unexpected message: ".toList ++ message.toList
  | notImplemented message => "not implemented: ".toList ++ message.toList
  | noReturn reason => reason.toList

namespace Client

/-! ## Errors of the client -/

def ConnectionPhase.display : ConnectionPhase → Text
  | dnsResolution => "DNS resolution".toList
  | tcpConnect => "TCP connect".toList
  | proxyTunnel => "proxy tunnel".toList
  | tlsHandshake => "TLS handshake".toList
  | h2Negotiation => "H2 negotiation".toList
  | h2cUpgrade => "h2c upgrade".toList
  | quicHandshake => "QUIC handshake".toList
  | h3Negotiation => "H3 negotiation".toList
  | quicFallback => "QUIC fallback".toList
  | httpRequest => "HTTP request".toList

def ConnectionClosedKind.display : ConnectionClosedKind → Text
  | reset => "reset".toList
  | eof => "eof".toList
  | goaway => "goaway".toList
  | refusedStream => "refused stream".toList
  | brokenPipe => "broken pipe".toList
  | notConnected => "not connected".toList
  | channelClosed => "channel closed".toList
  | generic => "closed".toList

def QuicPhase.display : QuicPhase → Text
  | handshake => "handshake".toList
  | established => "established".toList
  | migration => "migration".toList

namespace Error

def display : Error → Text
  | tls error => "TLS error: ".toList ++ error.display
  | http message => "HTTP error: ".toList ++ message
  | body message => "response body error: ".toList ++ message
  | h2 message => "H2 error: ".toList ++ message
  | connectionClosed phase kind message =>
    "connection closed during ".toList ++ phase.display ++ ": ".toList ++ kind.display ++
      ": ".toList ++ message
  | quic message => "QUIC error: ".toList ++ message
  | quicTransport phase message =>
    "QUIC error: ".toList ++ phase.display ++ " phase failed: ".toList ++ message
  | quicHandshake message => "QUIC handshake failed: ".toList ++ message
  | h3 message => "H3 error: ".toList ++ message
  | http3Request message => "H3 request failed: ".toList ++ message
  | io _ message => "I/O error: ".toList ++ message
  | proxy _ message => "proxy error: ".toList ++ message
  | connection phase message => phase.display ++ " failed: ".toList ++ message
  | timeout message _ => "timeout: ".toList ++ message
  | tooManyRedirects limit => "too many redirects (limit: ".toList ++ Text.ofNat limit ++ ")".toList
  | pool message => "session pool error: ".toList ++ message
  | invalidConfig message => "invalid config: ".toList ++ message
  | urlParse message => "invalid URL: ".toList ++ message
  | resourceLimitExceeded message => "resource limit exceeded: ".toList ++ message
  | status code url =>
    "HTTP status error ".toList ++ Text.ofNat code ++ " for url (".toList ++ url ++ ")".toList

def phase : Error → Option ConnectionPhase
  | connection phase _ => some phase
  | timeout _ phase => phase
  | proxy .. => some .proxyTunnel
  | tls _ => some .tlsHandshake
  | quic _ | quicHandshake _ => some .quicHandshake
  | quicTransport .handshake _ => some .quicHandshake
  | quicTransport .established _ => some .httpRequest
  | quicTransport .migration _ => some .quicFallback
  | h3 _ => some .h3Negotiation
  | connectionClosed phase .. => some phase
  | _ => none

def isTimeout : Error → Bool
  | timeout .. => true
  | _ => false

def isProxyTunnel (error : Error) : Bool := error.phase == some .proxyTunnel

end Error

/-! ## Durations -/

/-- The fraction of a duration in the unit of `digits` decimal digits, without trailing zeros. -/
def fractionText (fraction digits : Nat) : Text :=
  let written := Text.ofNat fraction
  let padded := List.replicate (digits - written.length) '0' ++ written
  let kept := padded.rdropWhile (· == '0')
  if kept.isEmpty then [] else '.' :: kept

/-- The `Debug` text of a duration of some nanoseconds. -/
def durationText (nanos : Nat) : Text :=
  if 1000000000 ≤ nanos then
    Text.ofNat (nanos / 1000000000) ++ fractionText (nanos % 1000000000) 9 ++ "s".toList
  else if 1000000 ≤ nanos then
    Text.ofNat (nanos / 1000000) ++ fractionText (nanos % 1000000) 6 ++ "ms".toList
  else if 1000 ≤ nanos then
    Text.ofNat (nanos / 1000) ++ fractionText (nanos % 1000) 3 ++ "µs".toList
  else Text.ofNat nanos ++ "ns".toList

example : durationText 10000000000 = "10s".toList := by decide +kernel

example : durationText 1500000 = "1.5ms".toList := by decide +kernel

end Client

end LkRequest
