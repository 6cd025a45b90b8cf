import LkRequest.Hello.Extensions

/-!
# Encrypted ClientHello configurations

The parser of an ECHConfigList, the choice of a configuration and suite, the padding of the
encoded inner hello, and the HPKE sender context, whose sequence number a second hello continues.
-/

namespace LkRequest.Hello

open Library Crypto

structure HpkeSymmetricCipherSuite where
  kdfId : UInt16
  aeadId : UInt16
  deriving DecidableEq

structure EchConfig where
  configId : UInt8
  kemId : UInt16
  publicKey : Bytes
  cipherSuites : List HpkeSymmetricCipherSuite
  maximumNameLength : UInt8
  publicName : String
  /-- The bytes of this configuration, which the HPKE `info` repeats. -/
  rawConfig : Bytes
  deriving DecidableEq

def kemX25519HkdfSha256 : UInt16 := 0x0020
def echConfigVersion : UInt16 := 0xfe0d

/-! ## Parsing -/

def echParseError (message : String) : TlsError :=
  .handshakeFailure ("ECHConfig parse error: " ++ message)

def parseHpkeSuites : Bytes → List HpkeSymmetricCipherSuite
  | k1 :: k0 :: a1 :: a0 :: rest =>
    ⟨UInt16.ofNat (readBe16 k1 k0), UInt16.ofNat (readBe16 a1 a0)⟩ :: parseHpkeSuites rest
  | _ => []

/-- Whether the extensions of a configuration hold a mandatory one, which is not understood. -/
def hasMandatoryExtension : Nat → Bytes → Result Bool
  | 0, _ => .ok false
  | fuel + 1, rest =>
    if rest = [] then .ok false
    else if rest.length < 4 then .error (echParseError "extension header truncated")
    else
      let extDataLen := u16At rest 2
      if rest.length < 4 + extDataLen then .error (echParseError "extension data truncated")
      else if UInt16.ofNat (u16At rest 0) &&& 0x8000 ≠ 0 then .ok true
      else hasMandatoryExtension fuel (rest.drop (4 + extDataLen))

section
variable (crypto : Primitives)

def fromUtf8Lossy (data : Bytes) : String := (fromUtf8? data).getD (crypto.utf8Lossy data)

/-- The contents of one configuration; `none` skips it. -/
def parseEchConfigContents (data rawConfig : Bytes) : Result (Option EchConfig) := do
  if data.length < 1 then .error (echParseError "config_id missing")
  if data.length < 3 then .error (echParseError "kem_id truncated")
  if data.length < 5 then .error (echParseError "public_key length truncated")
  let keyLen := u16At data 3
  if keyLen = 0 ∨ data.length < 5 + keyLen then .error (echParseError "public_key data truncated")
  let suitesPos := 5 + keyLen
  if data.length < suitesPos + 2 then .error (echParseError "cipher_suites length truncated")
  let suitesLen := u16At data suitesPos
  if suitesLen = 0 ∨ suitesLen % 4 ≠ 0 ∨ data.length < suitesPos + 2 + suitesLen then
    .error (echParseError "cipher_suites data invalid")
  let namePos := suitesPos + 2 + suitesLen
  if data.length ≤ namePos then .error (echParseError "maximum_name_length missing")
  if data.length ≤ namePos + 1 then .error (echParseError "public_name length missing")
  let nameLen := (byteAt data (namePos + 1)).toNat
  if nameLen = 0 ∨ data.length < namePos + 2 + nameLen then
    .error (echParseError "public_name data truncated")
  let extPos := namePos + 2 + nameLen
  if data.length < extPos + 2 then .error (echParseError "extensions length truncated")
  let extLen := u16At data extPos
  if data.length < extPos + 2 + extLen then .error (echParseError "extensions data truncated")
  let mandatory ← hasMandatoryExtension extLen (slice data (extPos + 2) (extPos + 2 + extLen))
  if mandatory then return none
  return some
    { configId := byteAt data 0
      kemId := UInt16.ofNat (u16At data 1)
      publicKey := slice data 5 suitesPos
      cipherSuites := parseHpkeSuites (slice data (suitesPos + 2) namePos)
      maximumNameLength := byteAt data namePos
      publicName := fromUtf8Lossy crypto (slice data (namePos + 2) extPos)
      rawConfig := rawConfig }

/-- The configurations of a list; those of another version or that do not parse are skipped. -/
def parseEchConfigs : Nat → Bytes → Result (List EchConfig)
  | 0, _ => .ok []
  | fuel + 1, rest =>
    if rest = [] then .ok []
    else if rest.length < 4 then .error (.handshakeFailure "ECHConfig truncated (header)")
    else
      let configEnd := 4 + u16At rest 2
      if rest.length < configEnd then
        .error (.handshakeFailure "ECHConfig length exceeds list boundary")
      else do
        let configs ← parseEchConfigs fuel (rest.drop configEnd)
        if UInt16.ofNat (u16At rest 0) ≠ echConfigVersion then return configs
        match parseEchConfigContents crypto (slice rest 4 configEnd) (rest.take configEnd) with
        | .ok (some config) => return config :: configs
        | _ => return configs

def parseEchConfigList (data : Bytes) : Result (List EchConfig) :=
  if data.length < 2 then .error (.handshakeFailure "ECHConfigList too short")
  else
    let listLen := u16At data 0
    if data.length < 2 + listLen then
      .error (.handshakeFailure (s!"ECHConfigList length mismatch: declared {listLen}" ++
        s!", available {data.length - 2}"))
    else parseEchConfigs crypto listLen (slice data 2 (2 + listLen))

end

/-! ## Choosing a configuration -/

def isSupportedAead (aeadId : UInt16) : Bool := aeadId == 0x0001 || aeadId == 0x0003

/-- The first X25519 configuration with a SHA-256 suite whose AEAD is accepted. -/
def findEchConfig (accepted : UInt16 → Bool) (configs : List EchConfig) :
    Option (EchConfig × HpkeSymmetricCipherSuite) :=
  configs.findSome? fun config =>
    if config.kemId ≠ kemX25519HkdfSha256 then none
    else (config.cipherSuites.find? fun suite => suite.kdfId == 0x0001 && accepted suite.aeadId).map
      fun suite => (config, suite)

def selectEchConfig (configs : List EchConfig) (preferredAead : Option UInt16) :
    Option (EchConfig × HpkeSymmetricCipherSuite) :=
  (preferredAead.bind fun preferred => findEchConfig (· == preferred) configs).or
    (findEchConfig isSupportedAead configs)

/-! ## The encoded inner hello -/

def computeEchPadding (encodedInnerLen : Nat) (serverName : String) (maximumNameLength : UInt8) :
    Nat :=
  let namePadding := maximumNameLength.toNat - (utf8 serverName).length
  namePadding + (32 - (encodedInnerLen + namePadding) % 32) % 32

def encodeClientHelloInner (innerChBody : Bytes) (paddingLen : Nat) : Bytes :=
  innerChBody ++ List.replicate paddingLen 0

/-! ## HPKE -/

def aeadTagLen : Nat := 16

/-- A sender context: its secret state and the number of messages it has sealed. -/
structure EchHpkeSenderCtx where
  aeadId : UInt16
  context : Bytes
  sequence : Nat
  deriving DecidableEq

section
variable (crypto : Primitives)

def EchHpkeSenderCtx.aeadSeal (sender : EchHpkeSenderCtx) (plaintext aad : Bytes) :
    Result (EchHpkeSenderCtx × Bytes) :=
  match crypto.hpkeSeal sender.aeadId sender.context sender.sequence aad plaintext with
  | .ok ciphertext => .ok ({ sender with sequence := sender.sequence + 1 }, ciphertext)
  | .error reason => .error (.cryptoError ("HPKE seal failed: " ++ reason))

/-- `SetupBaseS` for the configuration: the encapsulated key and the sender context. -/
def echHpkeSetup (config : EchConfig) (suite : HpkeSymmetricCipherSuite) :
    Result (Bytes × EchHpkeSenderCtx) :=
  if isSupportedAead suite.aeadId then
    match crypto.hpkeSetup suite.aeadId config.publicKey
        (utf8 "tls ech" ++ [0] ++ config.rawConfig) .echSetup with
    | .ok (enc, context) => .ok (enc, ⟨suite.aeadId, context, 0⟩)
    | .error reason => .error (.cryptoError reason)
  else .error (.cryptoError ("unsupported ECH AEAD: 0x" ++ hex04 suite.aeadId))

end

end LkRequest.Hello
