import LkRequest.Crypto.KeySchedule
import LkRequest.Profile.Types

/-!
# Hello extensions

The encoders of the ClientHello extensions and the parsers of the server's answers. Length fields
are written as the source writes them, truncated to their width.
-/

namespace LkRequest.Hello

open Library Crypto Profile

def be16Of (word : UInt16) : Bytes := be16 word.toNat

def be16List (words : List UInt16) : Bytes := words.flatMap be16Of

/-- `Extension::encode`: type, length and payload. -/
def encodeExtension (extType : UInt16) (payload : Bytes) : Bytes :=
  be16Of extType ++ be16 payload.length ++ payload

/-! ## Lists with a length prefix -/

/-- A list of 16-bit code points after its two-byte length. -/
def codePoints16 (words : List UInt16) : Bytes := be16 (words.length * 2) ++ be16List words

/-- A list of 16-bit code points after its one-byte length. -/
def codePoints8 (words : List UInt16) : Bytes :=
  UInt8.ofNat (words.length * 2) :: be16List words

def lengthPrefixed8 (data : Bytes) : Bytes := UInt8.ofNat data.length :: data

/-- The protocol name list of ALPN and ALPS. -/
def protocolList (protocols : List String) : Bytes :=
  let entries := protocols.flatMap fun protocol => lengthPrefixed8 (utf8 protocol)
  be16 entries.length ++ entries

/-! ## ClientHello extensions -/

/-- The list length is a 16-bit sum, which wraps for the longest names. -/
def sniPayload (hostname : String) : Bytes :=
  let name := utf8 hostname
  be16 (3 + name.length % 65536) ++ [0x00] ++ be16 name.length ++ name

def encodeSni (hostname : String) : Bytes := encodeExtension ExtType.sni (sniPayload hostname)

def encodeSupportedGroups (groups : List UInt16) : Bytes :=
  encodeExtension ExtType.supportedGroups (codePoints16 groups)

def encodeSignatureAlgorithms (algorithms : List UInt16) : Bytes :=
  encodeExtension ExtType.signatureAlgorithms (codePoints16 algorithms)

def encodeDelegatedCredentials (algorithms : List UInt16) : Bytes :=
  encodeExtension ExtType.delegatedCredentials (codePoints16 algorithms)

def encodeSupportedVersions (versions : List UInt16) : Bytes :=
  encodeExtension ExtType.supportedVersions (codePoints8 versions)

def encodeCompressCertificate (algorithms : List UInt16) : Bytes :=
  encodeExtension ExtType.compressCertificate (codePoints8 algorithms)

def encodeEcPointFormats (formats : List UInt8) : Bytes :=
  encodeExtension ExtType.ecPointFormats (lengthPrefixed8 formats)

def encodePskKeyExchangeModes (modes : List UInt8) : Bytes :=
  encodeExtension ExtType.pskKeyExchangeModes (lengthPrefixed8 modes)

def encodeRenegotiationInfo (renegotiatedConnection : Bytes) : Bytes :=
  encodeExtension ExtType.renegotiationInfo (lengthPrefixed8 renegotiatedConnection)

def encodeAlpn (protocols : List String) : Bytes :=
  encodeExtension ExtType.alpn (protocolList protocols)

def encodeAlps (extType : UInt16) (protocols : List String) : Bytes :=
  encodeExtension extType (protocolList protocols)

def encodeStatusRequest : Bytes :=
  encodeExtension ExtType.statusRequest [0x01, 0x00, 0x00, 0x00, 0x00]

def encodeSessionTicket (data : Bytes) : Bytes := encodeExtension ExtType.sessionTicket data

def encodeRecordSizeLimit (limit : UInt16) : Bytes :=
  encodeExtension ExtType.recordSizeLimit (be16Of limit)

/-- The padding length is stored as 16 bits. -/
def encodePadding (paddingLen : Nat) : Bytes :=
  encodeExtension ExtType.padding (List.replicate (paddingLen % 65536) 0)

structure KeyShareEntry where
  group : UInt16
  keyData : Bytes

def KeyShareEntry.encode (entry : KeyShareEntry) : Bytes :=
  be16Of entry.group ++ be16 entry.keyData.length ++ entry.keyData

def encodeKeyShare (entries : List KeyShareEntry) : Bytes :=
  let shares := entries.flatMap KeyShareEntry.encode
  encodeExtension ExtType.keyShare (be16 shares.length ++ shares)

def encodeCookie (cookie : Bytes) : Bytes :=
  be16Of ExtType.cookie ++ be16 (2 + cookie.length) ++ be16 cookie.length ++ cookie

/-! ## GREASE -/

/-- The high nibble of the seed chooses one of the values 0x0a0a .. 0xfafa. -/
def seedToGrease (seed : UInt8) : UInt16 :=
  let byte := ((seed &&& 0xf0) ||| 0x0a).toUInt16
  byte ||| (byte <<< 8)

structure GreaseValues where
  seeds : Bytes
  deriving DecidableEq

inductive GreaseIndex where
  | cipher
  | group
  | extension1
  | extension2
  | version
  | ticketExtension
  | echConfigId
  deriving DecidableEq

def GreaseIndex.index : GreaseIndex → Nat
  | cipher => 0
  | group => 1
  | extension1 => 2
  | extension2 => 3
  | version => 4
  | ticketExtension => 5
  | echConfigId => 6

namespace GreaseValues

def rawSeed (values : GreaseValues) (index : GreaseIndex) : UInt8 :=
  byteAt values.seeds index.index

/-- The second extension value is moved away from the first. -/
def get (values : GreaseValues) (index : GreaseIndex) : UInt16 :=
  let value := seedToGrease (values.rawSeed index)
  if index = .extension2 ∧ value = seedToGrease (values.rawSeed .extension1) then
    value ^^^ 0x1010
  else value

end GreaseValues

def isGreaseValue (value : UInt16) : Bool :=
  let high := (value >>> 8).toUInt8
  let low := value.toUInt8
  high == low && (high &&& 0x0f) == 0x0a

def encodeGreaseExtension (value : UInt16) (payloadLen : Nat) : Bytes :=
  encodeExtension value (List.replicate payloadLen 0)

/-! ## Encrypted ClientHello -/

def echOuterExtensionsType : UInt16 := 0xfd00

def encodeEchInner : Bytes := encodeExtension ExtType.encryptedClientHello [0x01]

def encodeEchOuterExtensions (types : List UInt16) : Bytes :=
  encodeExtension echOuterExtensionsType (codePoints8 types)

/-- The payload of an outer ECH extension. -/
def echOuterPayload (kdfId aeadId : UInt16) (configId : UInt8) (enc payload : Bytes) : Bytes :=
  [0x00] ++ be16Of kdfId ++ be16Of aeadId ++ [configId] ++ be16 enc.length ++ enc ++
    be16 payload.length ++ payload

section
variable (crypto : Primitives)

/-- `rng.fill(..).expect("system RNG failed")`. -/
def fillRandom (draw : Draw) (length : Nat) : Result Bytes :=
  match crypto.random draw length with
  | some bytes => .ok bytes
  | none => .error (.noReturn "system RNG failed")

/-- `u32::from_le_bytes`. -/
def readLe32 (data : Bytes) : Nat :=
  (byteAt data 0).toNat + (byteAt data 1).toNat * 256 + (byteAt data 2).toNat * 65536 +
    (byteAt data 3).toNat * 16777216

/-- A random multiple of 32 in the configured range, plus the AEAD tag. The range is computed in
32-bit arithmetic; an empty one is a division by zero. -/
def computeGreasePayloadLength (config : EchGreaseConfig) (draw : Draw) : Result Nat := do
  let minUnits := (config.payloadLengthMin.getD 128).toNat / 32
  let maxUnits := (config.payloadLengthMax.getD 224).toNat / 32
  let range := (maxUnits + 4294967296 - minUnits + 1) % 4294967296
  let bytes ← fillRandom crypto draw 4
  if range = 0 then .error (.noReturn "attempt to calculate the remainder with a divisor of zero")
  else
    let randomUnit := (minUnits + readLe32 bytes % range) % 4294967296
    return ((randomUnit * 32) % 65536 + 16) % 65536

/-- A fake ECH extension; `position` tells apart the draws of one hello. -/
def encodeEchGrease (config : EchGreaseConfig) (configId : UInt8) (hello position : Nat) :
    Result Bytes := do
  let payloadLength ← computeGreasePayloadLength crypto config (.echGreaseLength hello position)
  let enc ← fillRandom crypto (.echGreaseEnc hello position) config.encLength.toNat
  let payload ← fillRandom crypto (.echGreasePayload hello position) payloadLength
  return encodeExtension ExtType.encryptedClientHello
    ([0x00] ++ be16Of config.kdfId ++ be16Of config.aeadId ++ [configId] ++
      be16Of config.encLength ++ enc ++ be16 payloadLength ++ payload)

/-! ## Pre-shared keys -/

structure PskIdentity where
  identity : Bytes
  obfuscatedTicketAge : UInt32

def PskIdentity.encode (psk : PskIdentity) : Bytes :=
  be16 psk.identity.length ++ psk.identity ++ be32 psk.obfuscatedTicketAge.toNat

/-- The extension of one offered identity, with a zero binder, and the offset of the binder. -/
def encodePskExtension (psk : PskIdentity) (binderLen : Nat) : Bytes × Nat :=
  let identities := psk.encode
  let binders := UInt8.ofNat binderLen :: List.replicate binderLen 0
  let data := be16 identities.length ++ identities ++ be16 (1 + binderLen) ++ binders
  (encodeExtension ExtType.preSharedKey data, 4 + 2 + identities.length + 2 + 1)

def bindersSize (numIdentities binderLen : Nat) : Nat := 2 + numIdentities * (1 + binderLen)

def pskExtensionLength (identityLen binderLen : Nat) : Nat :=
  2 + 2 + 2 + 2 + identityLen + 4 + 2 + 1 + binderLen

def computePskBinder (algorithm : HkdfAlgorithm) (resumptionPsk transcriptHash : Bytes) :
    Result Bytes := do
  let earlySecret := hkdfExtract crypto algorithm (List.replicate algorithm.hashLen 0) resumptionPsk
  let binderKey ← earlySecret.deriveSecret crypto "res binder" (emptyHash crypto algorithm)
  let finishedKey ← hkdfExpandLabel crypto algorithm binderKey "finished" [] algorithm.hashLen
  return crypto.hmac algorithm.hash finishedKey transcriptHash

def computeEarlySecret (algorithm : HkdfAlgorithm) (resumptionPsk : Bytes) : HkdfPrk :=
  hkdfExtract crypto algorithm (List.replicate algorithm.hashLen 0) resumptionPsk

end

/-! ## The server's answers -/

def parseServerKeyShare (data : Bytes) : Option (UInt16 × Bytes) :=
  if data.length < 4 then none
  else
    let keyLen := u16At data 2
    if data.length < 4 + keyLen then none
    else some (UInt16.ofNat (u16At data 0), slice data 4 (4 + keyLen))

/-! ## QUIC transport parameters -/

structure QuicTransportParam where
  id : Nat
  value : Bytes
  deriving DecidableEq

/-- A variable-length integer and the bytes after it. -/
def decodeVarint : Bytes → Result (Nat × Bytes)
  | [] => .error (.unexpectedMessage "truncated QUIC varint")
  | first :: rest =>
    let length := 2 ^ (first.toNat / 64) - 1
    if rest.length < length then .error (.unexpectedMessage "truncated QUIC varint")
    else
      let value := (rest.take length).foldl (fun value byte => value * 256 + byte.toNat)
        (first.toNat % 64)
      .ok (value, rest.drop length)

def decodeParams : Nat → Bytes → Result (List QuicTransportParam)
  | 0, _ => .ok []
  | fuel + 1, data =>
    if data = [] then .ok []
    else do
      let (id, rest) ← decodeVarint data
      let (valueLen, rest) ← decodeVarint rest
      if rest.length < valueLen then
        .error (.unexpectedMessage "QUIC transport parameter exceeds payload length")
      return ⟨id, rest.take valueLen⟩ :: (← decodeParams fuel (rest.drop valueLen))

def decodeTransportParams (data : Bytes) : Result (List QuicTransportParam) :=
  decodeParams data.length data

def encodeVarint (value : Nat) : Result Bytes :=
  if value < 64 then .ok [UInt8.ofNat value]
  else if value < 16384 then .ok (be16 (0x4000 + value))
  else if value < 1073741824 then .ok (be32 (0x80000000 + value))
  else if value < 4611686018427387904 then .ok (be64 (0xc000000000000000 + value))
  else .error (.noReturn "QUIC varint value out of range")

def encodeTransportParams : List QuicTransportParam → Result Bytes
  | [] => .ok []
  | param :: params => do
    let id ← encodeVarint param.id
    let valueLen ← encodeVarint param.value.length
    return id ++ valueLen ++ param.value ++ (← encodeTransportParams params)

end LkRequest.Hello
