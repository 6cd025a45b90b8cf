import LkRequest.Library.Bytes

/-!
# Fingerprint profiles

The data that drives the ClientHello: a `TlsProfile` with its ordered suites, extensions, groups
and signature algorithms, and the configuration of GREASE, padding, ECH and resumption.
-/

namespace LkRequest.Profile

open Library

inductive TlsVersion where
  | tls10
  | tls11
  | tls12
  | tls13
  deriving DecidableEq

def TlsVersion.asU16 : TlsVersion → UInt16
  | tls10 => 0x0301
  | tls11 => 0x0302
  | tls12 => 0x0303
  | tls13 => 0x0304

inductive TlsClientHelloStyle where
  | generic
  | chromiumBoringssl
  | firefoxNss
  | safariCfnetwork
  | javaJsse
  deriving DecidableEq

/-- Where the payload of an extension comes from. -/
inductive ExtensionSource where
  | auto
  | rawBytes (data : String)
  | grease
  deriving DecidableEq

structure ExtensionSpec where
  extensionType : UInt16
  source : ExtensionSource := .auto
  deriving DecidableEq

structure GreaseConfig where
  cipherSuite : Bool := false
  extensions : Bool := false
  supportedGroups : Bool := false
  supportedVersions : Bool := false
  signatureAlgorithms : Bool := false
  keyShare : Bool := false
  deriving DecidableEq

inductive PaddingStrategy where
  | blockAlign (minLength blockSize : UInt16)
  | fixedTarget (targetLength : UInt16)
  | none
  deriving DecidableEq

structure DelegatedCredentialConfig where
  signatureAlgorithms : List UInt16
  deriving DecidableEq

structure EchGreaseConfig where
  kdfId : UInt16
  aeadId : UInt16
  encLength : UInt16 := 32
  payloadLengthMin : Option UInt16 := none
  payloadLengthMax : Option UInt16 := none
  deriving DecidableEq

inductive EchMode where
  | grease (config : EchGreaseConfig)
  | real (echConfigList : String)
  | disabled
  deriving DecidableEq

structure SessionResumptionConfig where
  tls13Psk : Bool := true
  tls12SessionTicket : Bool := true
  storeTickets : Bool := true
  deriving DecidableEq

def SessionResumptionConfig.anyEnabled (config : SessionResumptionConfig) : Bool :=
  config.tls13Psk || config.tls12SessionTicket

structure RandomizationConfig where
  shuffleExtensions : Bool := false
  deriving DecidableEq

structure TlsProfile where
  tlsClientHelloStyle : TlsClientHelloStyle := .generic
  tlsMinVersion : TlsVersion
  tlsMaxVersion : TlsVersion
  cipherSuites : List UInt16
  extensions : List ExtensionSpec
  supportedGroups : List UInt16
  signatureAlgorithms : List UInt16
  ecPointFormats : List UInt8 := [0]
  compressionMethods : List UInt8 := [0]
  grease : GreaseConfig := {}
  padding : PaddingStrategy := .none
  alpsProtocols : Option (List String) := none
  compressCertAlgorithms : Option (List UInt16) := none
  keyShareCurves : List UInt16
  recordSizeLimit : Option UInt16 := none
  delegatedCredentials : Option DelegatedCredentialConfig := none
  sessionIdLength : UInt8 := 32
  alpnProtocols : List String := []
  randomization : Option RandomizationConfig := none
  ech : Option EchMode := none
  echOuterExtensions : Option (List UInt16) := none
  sessionResumption : SessionResumptionConfig := {}
  deriving DecidableEq

/-! ## Extension types -/

namespace ExtType

def sni : UInt16 := 0x0000
def statusRequest : UInt16 := 0x0005
def supportedGroups : UInt16 := 0x000a
def ecPointFormats : UInt16 := 0x000b
def signatureAlgorithms : UInt16 := 0x000d
def alpn : UInt16 := 0x0010
def signedCertificateTimestamp : UInt16 := 0x0012
def padding : UInt16 := 0x0015
def extendedMasterSecret : UInt16 := 0x0017
def compressCertificate : UInt16 := 0x001b
def recordSizeLimit : UInt16 := 0x001c
def delegatedCredentials : UInt16 := 0x0022
def sessionTicket : UInt16 := 0x0023
def preSharedKey : UInt16 := 0x0029
def earlyData : UInt16 := 0x002a
def supportedVersions : UInt16 := 0x002b
def cookie : UInt16 := 0x002c
def pskKeyExchangeModes : UInt16 := 0x002d
def keyShare : UInt16 := 0x0033
def quicTransportParameters : UInt16 := 0x0039
def applicationSettings : UInt16 := 0x4469
def applicationSettingsNew : UInt16 := 0x44cd
def encryptedClientHello : UInt16 := 0xfe0d
def renegotiationInfo : UInt16 := 0xff01

end ExtType

/-- `RandomizationConfig::is_shuffleable`: only `pre_shared_key` keeps its place. -/
def RandomizationConfig.isShuffleable (extType : UInt16) : Bool :=
  extType ≠ ExtType.preSharedKey

end LkRequest.Profile
