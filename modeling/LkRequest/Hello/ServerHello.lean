import LkRequest.Hello.Builder

/-!
# The ServerHello

The parser of ServerHello and HelloRetryRequest, the quick look at the negotiated version that
chooses the protocol engine, and the check of the downgrade sentinels.
-/

namespace LkRequest.Hello

open Library Crypto Profile

def hrrRandom : Bytes :=
  [0xcf, 0x21, 0xad, 0x74, 0xe5, 0x9a, 0x61, 0x11, 0xbe, 0x1d, 0x8c, 0x02, 0x1e, 0x65, 0xb8, 0x91,
    0xc2, 0xa2, 0x11, 0x16, 0x7a, 0xbb, 0x8c, 0x5e, 0x07, 0x9e, 0x09, 0xe2, 0xc8, 0xa8, 0x33, 0x9c]

structure ServerHelloExtensions where
  supportedVersion : Option UInt16 := none
  keyShare : Option (UInt16 × Bytes) := none
  selectedGroup : Option UInt16 := none
  cookie : Option Bytes := none
  selectedPskIdentity : Option UInt16 := none
  echConfirmation : Option Bytes := none

structure ServerHello where
  legacyVersion : UInt16
  random : Bytes
  sessionId : Bytes
  cipherSuite : UInt16
  compressionMethod : UInt8
  extensions : ServerHelloExtensions
  isHelloRetryRequest : Bool

namespace ServerHello

def negotiatedVersion (hello : ServerHello) : UInt16 :=
  hello.extensions.supportedVersion.getD hello.legacyVersion

def isTls13 (hello : ServerHello) : Bool := hello.negotiatedVersion == 0x0304

end ServerHello

/-! ## Extensions -/

/-- One extension of a HelloRetryRequest, where every malformed or unknown one is an alert. -/
def applyHrrExtension (extensions : ServerHelloExtensions) (extType : UInt16) (data : Bytes) :
    Result ServerHelloExtensions :=
  if extType = ExtType.supportedVersions then
    if data.length = 2 then
      .ok { extensions with supportedVersion := some (UInt16.ofNat (u16At data 0)) }
    else .error (.fatalAlert .decodeError "HRR supported_versions must be exactly 2 bytes")
  else if extType = ExtType.keyShare then
    if data.length = 2 then
      .ok { extensions with selectedGroup := some (UInt16.ofNat (u16At data 0)) }
    else .error (.fatalAlert .decodeError "HRR key_share must contain exactly one selected group")
  else if extType = ExtType.cookie then
    if data.length < 2 then .error (.fatalAlert .decodeError "HRR cookie extension is too short")
    else if 2 + u16At data 0 ≠ data.length then
      .error (.fatalAlert .decodeError "HRR cookie length does not match extension length")
    else .ok { extensions with cookie := some (data.drop 2) }
  else if extType = ExtType.preSharedKey then
    .error (.fatalAlert .unsupportedExtension
      "pre_shared_key is not permitted in HelloRetryRequest")
  else if extType = ExtType.encryptedClientHello then
    if data.length = 8 then .ok { extensions with echConfirmation := some data }
    else .error (.fatalAlert .decodeError "HRR ECH confirmation must be exactly 8 bytes")
  else .error (.fatalAlert .unsupportedExtension
    ("extension 0x" ++ hex04 extType ++ " is not permitted in HelloRetryRequest"))

/-- One extension of an ordinary ServerHello, where malformed and unknown ones are passed over. -/
def applyShExtension (extensions : ServerHelloExtensions) (extType : UInt16) (data : Bytes) :
    ServerHelloExtensions :=
  if extType = ExtType.supportedVersions then
    if data.length = 2 then
      { extensions with supportedVersion := some (UInt16.ofNat (u16At data 0)) }
    else extensions
  else if extType = ExtType.keyShare then
    match parseServerKeyShare data with
    | some share => { extensions with keyShare := some share }
    | none => extensions
  else if extType = ExtType.preSharedKey then
    if 2 ≤ data.length then
      { extensions with selectedPskIdentity := some (UInt16.ofNat (u16At data 0)) }
    else extensions
  else extensions

def applyExtension (retry : Bool) (seen : List UInt16) (extensions : ServerHelloExtensions)
    (extType : UInt16) (data : Bytes) : Result ServerHelloExtensions :=
  if retry then
    if extType ∈ seen then
      .error (.fatalAlert .illegalParameter
        ("duplicate HelloRetryRequest extension 0x" ++ hex04 extType))
    else applyHrrExtension extensions extType data
  else .ok (applyShExtension extensions extType data)

/-- The extensions of the block in turn; `seen` are the types read so far. -/
def parseShExtensions (retry : Bool) : Nat → List UInt16 → ServerHelloExtensions → Bytes →
    Result ServerHelloExtensions
  | 0, _, extensions, _ => .ok extensions
  | fuel + 1, seen, extensions, block =>
    if block.length < 4 then
      if retry ∧ block ≠ [] then
        .error (.fatalAlert .decodeError "truncated HelloRetryRequest extension header")
      else .ok extensions
    else
      let extType := UInt16.ofNat (u16At block 0)
      let extEnd := 4 + u16At block 2
      if block.length < extEnd then
        .error (.fatalAlert .decodeError "ServerHello extension exceeds extensions block")
      else do
        let extensions ← applyExtension retry seen extensions extType (slice block 4 extEnd)
        parseShExtensions retry fuel (extType :: seen) extensions (block.drop extEnd)

/-! ## The message -/

/-- The extensions block after the fixed fields. -/
def parseShBlock (retry : Bool) (data : Bytes) : Result ServerHelloExtensions :=
  if 2 ≤ data.length then
    let total := u16At data 0
    if data.length < 2 + total then
      .error (.fatalAlert .decodeError "ServerHello extensions exceed message length")
    else if retry ∧ 2 + total ≠ data.length then
      .error (.fatalAlert .decodeError "HelloRetryRequest has trailing bytes after extensions")
    else parseShExtensions retry (total + 1) [] {} (slice data 2 (2 + total))
  else if retry then
    .error (.fatalAlert .missingExtension "HelloRetryRequest missing extensions")
  else .ok {}

/-- `data` begins with the protocol version, after the handshake header. -/
def parseServerHello (data : Bytes) : Result ServerHello := do
  if data.length < 2 then .error (.unexpectedMessage "ServerHello too short for version")
  if data.length < 34 then .error (.unexpectedMessage "ServerHello too short for random")
  let random := slice data 2 34
  let retry := random == hrrRandom
  if data.length < 35 then
    .error (.unexpectedMessage "ServerHello too short for session ID length")
  let sidEnd := 35 + (byteAt data 34).toNat
  if data.length < sidEnd then .error (.unexpectedMessage "ServerHello too short for session ID")
  if data.length < sidEnd + 2 then
    .error (.unexpectedMessage "ServerHello too short for cipher suite")
  if data.length < sidEnd + 3 then
    .error (.unexpectedMessage "ServerHello too short for compression method")
  let extensions ← parseShBlock retry (data.drop (sidEnd + 3))
  return { legacyVersion := UInt16.ofNat (u16At data 0)
           random := random
           sessionId := slice data 35 sidEnd
           cipherSuite := UInt16.ofNat (u16At data sidEnd)
           compressionMethod := byteAt data (sidEnd + 2)
           extensions := extensions
           isHelloRetryRequest := retry }

/-! ## Version detection -/

/-- The first `supported_versions` value of the block that starts at `offset`. -/
def findVersion (body : Bytes) (extEnd : Nat) : Nat → Nat → Option UInt16
  | 0, _ => none
  | fuel + 1, offset =>
    if offset + 4 ≤ extEnd ∧ offset + 4 ≤ body.length then
      let extLen := u16At body (offset + 2)
      if body.length < offset + 4 + extLen then none
      else if u16At body offset = 0x002b ∧ 2 ≤ extLen then
        some (UInt16.ofNat (u16At body (offset + 4)))
      else findVersion body extEnd fuel (offset + 4 + extLen)
    else none

def detectVersionFromServerHello (payload : Bytes) : Result UInt16 :=
  if payload.length < 4 then .error (.handshakeFailure "ServerHello too short")
  else if byteAt payload 0 ≠ 0x02 then
    .error (.handshakeFailure
      ("expected ServerHello (type 0x02), got 0x" ++ hex02 (byteAt payload 0)))
  else
    let body := payload.drop 4
    if body.length < 38 then .error (.handshakeFailure "ServerHello body too short")
    else
      let legacyVersion := UInt16.ofNat (u16At body 0)
      let extStart := 35 + (byteAt body 34).toNat + 3
      if body.length < extStart + 2 then .ok legacyVersion
      else .ok ((findVersion body (extStart + 2 + u16At body extStart) body.length
        (extStart + 2)).getD legacyVersion)

def downgradeSentinelTls12 : Bytes := [0x44, 0x4f, 0x57, 0x4e, 0x47, 0x52, 0x44, 0x01]
def downgradeSentinelTls11 : Bytes := [0x44, 0x4f, 0x57, 0x4e, 0x47, 0x52, 0x44, 0x00]

def checkDowngradeSentinel (payload : Bytes) : Result Unit :=
  if payload.length < 38 then .ok ()
  else
    let last8 := slice payload 30 38
    if last8 = downgradeSentinelTls12 ∨ last8 = downgradeSentinelTls11 then
      .error (.handshakeFailure
        "ServerHello contains TLS 1.3 downgrade sentinel in random — possible downgrade attack")
    else .ok ()

end LkRequest.Hello
