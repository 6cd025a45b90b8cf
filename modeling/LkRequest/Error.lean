import LkRequest.Library.Bytes

/-!
# Errors and alerts of the TLS engine

The error type of `lktls`, with the message texts the engine formats, and the two-byte alerts of
the record layer.
-/

namespace LkRequest

open Library

/-! ## Message formatting -/

def hexDigit (n : Nat) : Char :=
  if n < 10 then Char.ofNat (48 + n) else Char.ofNat (87 + n)

/-- The format `{:02x}` of a byte. -/
def hex02 (byte : UInt8) : String :=
  String.ofList [hexDigit (byte.toNat / 16), hexDigit (byte.toNat % 16)]

/-- The format `{:04x}` of a 16-bit word. -/
def hex04 (word : UInt16) : String :=
  hex02 (UInt8.ofNat (word.toNat / 256)) ++ hex02 (UInt8.ofNat word.toNat)

/-- The bytes of a Rust `String`. -/
def utf8 (text : String) : Bytes := text.toByteArray.data.toList

/-- `std::str::from_utf8(..).ok()`. -/
def fromUtf8? (data : Bytes) : Option String := String.fromUTF8? ⟨data.toArray⟩

/-! ## Alerts -/

inductive AlertLevel where
  | warning
  | fatal
  | unknown (byte : UInt8)
  deriving DecidableEq

namespace AlertLevel

def fromByte : UInt8 → AlertLevel
  | 1 => warning
  | 2 => fatal
  | other => unknown other

def asByte : AlertLevel → UInt8
  | warning => 1
  | fatal => 2
  | unknown byte => byte

end AlertLevel

inductive AlertDescription where
  | closeNotify
  | unexpectedMessage
  | badRecordMac
  | decryptionFailed
  | recordOverflow
  | decompressionFailure
  | handshakeFailure
  | noCertificate
  | badCertificate
  | unsupportedCertificate
  | certificateRevoked
  | certificateExpired
  | certificateUnknown
  | illegalParameter
  | unknownCa
  | accessDenied
  | decodeError
  | decryptError
  | exportRestriction
  | protocolVersion
  | insufficientSecurity
  | internalError
  | inappropriateFallback
  | userCanceled
  | noRenegotiation
  | missingExtension
  | unsupportedExtension
  | certificateUnobtainable
  | unrecognizedName
  | badCertificateStatusResponse
  | badCertificateHashValue
  | unknownPskIdentity
  | certificateRequired
  | noApplicationProtocol
  | unknown (byte : UInt8)
  deriving DecidableEq

namespace AlertDescription

def fromByte : UInt8 → AlertDescription
  | 0 => closeNotify
  | 10 => unexpectedMessage
  | 20 => badRecordMac
  | 21 => decryptionFailed
  | 22 => recordOverflow
  | 30 => decompressionFailure
  | 40 => handshakeFailure
  | 41 => noCertificate
  | 42 => badCertificate
  | 43 => unsupportedCertificate
  | 44 => certificateRevoked
  | 45 => certificateExpired
  | 46 => certificateUnknown
  | 47 => illegalParameter
  | 48 => unknownCa
  | 49 => accessDenied
  | 50 => decodeError
  | 51 => decryptError
  | 60 => exportRestriction
  | 70 => protocolVersion
  | 71 => insufficientSecurity
  | 80 => internalError
  | 86 => inappropriateFallback
  | 90 => userCanceled
  | 100 => noRenegotiation
  | 109 => missingExtension
  | 110 => unsupportedExtension
  | 111 => certificateUnobtainable
  | 112 => unrecognizedName
  | 113 => badCertificateStatusResponse
  | 114 => badCertificateHashValue
  | 115 => unknownPskIdentity
  | 116 => certificateRequired
  | 120 => noApplicationProtocol
  | other => unknown other

def asByte : AlertDescription → UInt8
  | closeNotify => 0
  | unexpectedMessage => 10
  | badRecordMac => 20
  | decryptionFailed => 21
  | recordOverflow => 22
  | decompressionFailure => 30
  | handshakeFailure => 40
  | noCertificate => 41
  | badCertificate => 42
  | unsupportedCertificate => 43
  | certificateRevoked => 44
  | certificateExpired => 45
  | certificateUnknown => 46
  | illegalParameter => 47
  | unknownCa => 48
  | accessDenied => 49
  | decodeError => 50
  | decryptError => 51
  | exportRestriction => 60
  | protocolVersion => 70
  | insufficientSecurity => 71
  | internalError => 80
  | inappropriateFallback => 86
  | userCanceled => 90
  | noRenegotiation => 100
  | missingExtension => 109
  | unsupportedExtension => 110
  | certificateUnobtainable => 111
  | unrecognizedName => 112
  | badCertificateStatusResponse => 113
  | badCertificateHashValue => 114
  | unknownPskIdentity => 115
  | certificateRequired => 116
  | noApplicationProtocol => 120
  | unknown byte => byte

end AlertDescription

structure TlsAlert where
  level : AlertLevel
  description : AlertDescription
  deriving DecidableEq

def TlsAlert.fromBytes (level description : UInt8) : TlsAlert :=
  ⟨AlertLevel.fromByte level, AlertDescription.fromByte description⟩

/-- The payload of an alert record. -/
def TlsAlert.toBytes (alert : TlsAlert) : Bytes :=
  [alert.level.asByte, alert.description.asByte]

/-! ## Errors -/

inductive TlsError where
  | io (message : String)
  | invalidProfile (message : String)
  | handshakeFailure (message : String)
  | alert (alert : TlsAlert)
  | localAlert (alert : TlsAlert) (message : String)
  | cryptoError (message : String)
  | certificateError (message : String)
  | unexpectedMessage (message : String)
  | notImplemented (message : String)
  /-- The call does not return: it panics, or waits for further random words. -/
  | noReturn (reason : String)
  deriving DecidableEq

abbrev Result (α : Type) := Except TlsError α

/-- `TlsError::local_alert`: a fatal alert raised by the local state machine. -/
def TlsError.fatalAlert (description : AlertDescription) (message : String) : TlsError :=
  .localAlert ⟨.fatal, description⟩ message

end LkRequest
