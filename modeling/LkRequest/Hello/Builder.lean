import LkRequest.Hello.Ech

/-!
# The ClientHello builder

`ClientHelloBuilder` turns a profile and a host name into the bytes of a ClientHello: the fixed
fields, the ordered extensions with GREASE and padding, and the extension order shared by both
hellos of a connection. The encrypted form is in `LkRequest.Hello.EchBuilder`.
-/

namespace LkRequest.Hello

open Library Crypto Profile

structure PskOffer where
  identity : Bytes
  obfuscatedTicketAge : UInt32
  resumptionPsk : Bytes
  hkdfAlgorithm : HkdfAlgorithm
  transcriptPrefix : Bytes

structure ClientHelloBuilder where
  profile : TlsProfile
  hostname : String
  random : Option Bytes := none
  sessionId : Option Bytes := none
  cookie : Option Bytes := none
  sessionTicketData : Option Bytes := none
  echConfigList : Option Bytes := none
  quicTransportParameters : Option Bytes := none
  earlyData : Bool := false
  pskOffer : Option PskOffer := none
  greaseValues : Option GreaseValues := none
  extensionOrder : Option (List ExtensionSpec) := none
  echGreaseExtension : Option Bytes := none
  omitGreaseKeyShare : Bool := false
  /-- 0 for the first ClientHello and 1 for the second: names the random draws. -/
  hello : Nat := 0

/-- The state of a real ECH offer that a second ClientHello continues. -/
structure EchRetryState where
  config : EchConfig
  cipherSuite : HpkeSymmetricCipherSuite
  senderContext : EchHpkeSenderCtx
  innerRandom : Bytes
  deriving DecidableEq

structure ClientHelloOutput where
  message : Bytes
  keyShares : List EphemeralKeyPair
  innerHello : Option Bytes
  encodedInnerHello : Option Bytes
  echOffered : Bool
  echRetryState : Option EchRetryState
  echGreaseExtension : Option Bytes
  greaseValues : GreaseValues
  shuffledExtensions : List ExtensionSpec

namespace HandshakeType

def clientHello : UInt8 := 0x01
def serverHello : UInt8 := 0x02
def newSessionTicket : UInt8 := 0x04
def encryptedExtensions : UInt8 := 0x08
def certificate : UInt8 := 0x0b
def certificateRequest : UInt8 := 0x0d
def certificateVerify : UInt8 := 0x0f
def finished : UInt8 := 0x14
def certificateStatus : UInt8 := 0x16
def compressedCertificate : UInt8 := 0x19
def messageHash : UInt8 := 0xfe

end HandshakeType

/-- A handshake message: type, 24-bit length and body. -/
def handshakeMessage (messageType : UInt8) (body : Bytes) : Bytes :=
  messageType :: be24 body.length ++ body

/-! ## Hex payloads -/

/-- `char::is_whitespace`. -/
def isWhitespace (c : Char) : Bool :=
  let n := c.toNat
  (9 ≤ n && n ≤ 13) || n == 0x20 || n == 0x85 || n == 0xa0 || n == 0x1680 ||
    (0x2000 ≤ n && n ≤ 0x200a) || n == 0x2028 || n == 0x2029 || n == 0x202f || n == 0x205f ||
    n == 0x3000

def hexValue (byte : UInt8) : Option UInt8 :=
  if 0x30 ≤ byte ∧ byte ≤ 0x39 then some (byte - 0x30)
  else if 0x61 ≤ byte ∧ byte ≤ 0x66 then some (byte - 0x57)
  else if 0x41 ≤ byte ∧ byte ≤ 0x46 then some (byte - 0x37)
  else none

/-- `u8::from_str_radix` of a two-byte text; a leading plus sign is accepted. -/
def parseHexPair (high low : UInt8) : Option UInt8 :=
  if high = 0x2b then hexValue low
  else do return (← hexValue high) * 16 + (← hexValue low)

/-- The pairs from `position` on. A pair that ends inside a character is a slicing panic. -/
def decodeHexPairs (position : Nat) : Bytes → Result Bytes
  | high :: low :: rest =>
    if 0x80 ≤ byteAt rest 0 ∧ byteAt rest 0 ≤ 0xbf then .error (.noReturn "not a char boundary")
    else
      match parseHexPair high low with
      | none => .error (.invalidProfile s!"invalid hex at position {position}")
      | some byte => (decodeHexPairs (position + 2) rest).map (byte :: ·)
  | _ => .ok []

def decodeHex (hex : String) : Result Bytes :=
  let digits := utf8 (String.ofList (hex.toList.filter fun c => !isWhitespace c && c != ':'))
  if digits.length % 2 ≠ 0 then .error (.invalidProfile "hex string has odd length")
  else decodeHexPairs 0 digits

/-! ## The extension permutation -/

/-- `below`: the first word that is not rejected, reduced; `none` when the words run out. -/
def below (n : Nat) : List UInt64 → Option (Nat × List UInt64)
  | [] => none
  | word :: rest =>
    if (2 ^ 64 - n) % n ≤ word.toNat then some (word.toNat % n, rest) else below n rest

def swapAt {α : Type} (items : List α) (i j : Nat) : List α :=
  match items[i]?, items[j]? with
  | some a, some b => (items.set i b).set j a
  | _, _ => items

/-- Fisher-Yates from index `i` down to 1. -/
def fisherYates {α : Type} : Nat → List α → List UInt64 → Option (List α)
  | 0, items, _ => some items
  | i + 1, items, words => do
    let (j, rest) ← below (i + 2) words
    fisherYates i (swapAt items (i + 1) j) rest

def ExtensionSpec.isGrease (spec : ExtensionSpec) : Bool := spec.source == .grease

def ExtensionSpec.isPsk (spec : ExtensionSpec) : Bool :=
  !RandomizationConfig.isShuffleable spec.extensionType

/-- GREASE keeps its slot, `pre_shared_key` goes last, the shuffled entries fill the others. -/
def reassemble : List ExtensionSpec → List ExtensionSpec → List ExtensionSpec
  | [], _ => []
  | spec :: specs, shuffled =>
    if ExtensionSpec.isGrease spec then spec :: reassemble specs shuffled
    else if ExtensionSpec.isPsk spec then reassemble specs shuffled
    else
      match shuffled with
      | next :: rest => next :: reassemble specs rest
      | [] => reassemble specs []

def shuffleExtensions (extensions : List ExtensionSpec) (words : List UInt64) :
    Option (List ExtensionSpec) := do
  let shuffleable := extensions.filter fun spec =>
    !ExtensionSpec.isGrease spec && !ExtensionSpec.isPsk spec
  let shuffled ← fisherYates (shuffleable.length - 1) shuffleable words
  return reassemble extensions shuffled ++
    extensions.filter fun spec => !ExtensionSpec.isGrease spec && ExtensionSpec.isPsk spec

namespace ClientHelloBuilder

/-! ## Validation -/

def isChromium (builder : ClientHelloBuilder) : Bool :=
  builder.profile.tlsClientHelloStyle == .chromiumBoringssl

def rejectExplicitGreaseValues (field greaseFlag : String) (values : List UInt16) : Result Unit :=
  match values.find? isGreaseValue with
  | some value => .error (.invalidProfile (field ++ " contains explicit GREASE value 0x" ++
      hex04 value ++ "; remove it and use " ++ greaseFlag ++ "=true instead"))
  | none => .ok ()

/-- The checks on the extension list when GREASE extensions are on. -/
def validateGreaseExtensions (builder : ClientHelloBuilder) : Result Unit := do
  match builder.profile.extensions.find? fun spec =>
      isGreaseValue spec.extensionType && !ExtensionSpec.isGrease spec with
  | some spec => .error (.invalidProfile ("extensions contains fixed GREASE extension type 0x" ++
      hex04 spec.extensionType ++ "; use source.type=grease instead"))
  | none => pure ()
  if !builder.isChromium then
    let count := builder.profile.extensions.countP ExtensionSpec.isGrease
    if 2 < count then
      .error (.invalidProfile (s!"extensions contains {count} GREASE placeholders" ++
        "; at most two are supported"))

def validateNoDuplicateGreaseSources (builder : ClientHelloBuilder) : Result Unit := do
  let profile := builder.profile
  if profile.grease.cipherSuite then
    rejectExplicitGreaseValues "cipher_suites" "grease.cipher_suite" profile.cipherSuites
  if profile.grease.supportedGroups then
    rejectExplicitGreaseValues "supported_groups" "grease.supported_groups" profile.supportedGroups
  if profile.grease.signatureAlgorithms then
    rejectExplicitGreaseValues "signature_algorithms" "grease.signature_algorithms"
      profile.signatureAlgorithms
  match profile.keyShareCurves.find? isGreaseValue with
  | some value => .error (.invalidProfile
      ("key_share_curves contains explicit GREASE value 0x" ++ hex04 value ++
        "; use grease.key_share=true instead"))
  | none => pure ()
  if profile.grease.extensions then builder.validateGreaseExtensions

def validateProfile (builder : ClientHelloBuilder) : Result Unit := do
  let grease := builder.profile.grease
  if builder.isChromium && grease.keyShare && !grease.supportedGroups then
    .error (.invalidProfile ("chromium_boringssl requires grease.supported_groups when " ++
      "grease.key_share is enabled"))
  if builder.isChromium && grease.signatureAlgorithms then
    .error (.invalidProfile "chromium_boringssl does not support grease.signature_algorithms")
  builder.validateNoDuplicateGreaseSources

/-! ## Extensions -/

variable (crypto : Primitives)

def hostnameIsIp (builder : ClientHelloBuilder) : Bool := crypto.parsesIpAddr builder.hostname

/-- The SNI extension, which IP literals and empty names go without. -/
def hostnameSni (builder : ClientHelloBuilder) : Bytes :=
  if builder.hostnameIsIp crypto || builder.hostname == "" then [] else encodeSni builder.hostname

/-- An optional GREASE value before a list of code points. -/
def greaseFirst (enabled : Bool) (value : UInt16) (rest : List UInt16) : List UInt16 :=
  if enabled then value :: rest else rest

def offeredVersions (profile : TlsProfile) : List UInt16 :=
  let max := profile.tlsMaxVersion.asU16.toNat
  let min := profile.tlsMinVersion.asU16.toNat
  (List.range (max + 1 - min)).map fun step => UInt16.ofNat (max - step)

def keyShareEntries (builder : ClientHelloBuilder) (keyPairs : List EphemeralKeyPair)
    (grease : GreaseValues) : List KeyShareEntry :=
  let shares := keyPairs.map fun keyPair => ⟨keyPair.group.codePoint, keyPair.publicKey⟩
  if builder.profile.grease.keyShare && !builder.omitGreaseKeyShare then
    ⟨grease.get .group, [0x00]⟩ :: shares
  else shares

/-- The ECH extension of a hello that is not encrypted. -/
def encodeEchExtension (builder : ClientHelloBuilder) (grease : GreaseValues) (position : Nat) :
    Result Bytes :=
  match builder.echGreaseExtension with
  | some extension => .ok extension
  | none =>
    match builder.profile.ech with
    | some (.grease config) =>
      encodeEchGrease crypto config (grease.rawSeed .echConfigId) builder.hello position
    | _ => .ok []

/-- The bytes of an automatic extension at a position of the extension block. -/
def encodeAutoExtension (builder : ClientHelloBuilder) (extType : UInt16)
    (keyPairs : List EphemeralKeyPair) (grease : GreaseValues) (position : Nat) : Result Bytes :=
  let profile := builder.profile
  if extType = ExtType.sni then .ok (builder.hostnameSni crypto)
  else if extType = ExtType.extendedMasterSecret then .ok (encodeExtension extType [])
  else if extType = ExtType.renegotiationInfo then .ok (encodeRenegotiationInfo [])
  else if extType = ExtType.supportedGroups then
    .ok (encodeSupportedGroups
      (greaseFirst profile.grease.supportedGroups (grease.get .group) profile.supportedGroups))
  else if extType = ExtType.ecPointFormats then .ok (encodeEcPointFormats profile.ecPointFormats)
  else if extType = ExtType.sessionTicket then
    .ok (encodeSessionTicket (builder.sessionTicketData.getD []))
  else if extType = ExtType.alpn then
    .ok (if profile.alpnProtocols = [] then [] else encodeAlpn profile.alpnProtocols)
  else if extType = ExtType.statusRequest then .ok encodeStatusRequest
  else if extType = ExtType.signatureAlgorithms then
    .ok (encodeSignatureAlgorithms
      (greaseFirst profile.grease.signatureAlgorithms (grease.get .cipher)
        profile.signatureAlgorithms))
  else if extType = ExtType.signedCertificateTimestamp then .ok (encodeExtension extType [])
  else if extType = ExtType.keyShare then
    .ok (encodeKeyShare (builder.keyShareEntries keyPairs grease))
  else if extType = ExtType.pskKeyExchangeModes then .ok (encodePskKeyExchangeModes [0x01])
  else if extType = ExtType.supportedVersions then
    .ok (encodeSupportedVersions
      (greaseFirst profile.grease.supportedVersions (grease.get .version)
        (offeredVersions profile)))
  else if extType = ExtType.compressCertificate then
    .ok ((profile.compressCertAlgorithms.map encodeCompressCertificate).getD [])
  else if extType = ExtType.applicationSettings ∨ extType = ExtType.applicationSettingsNew then
    .ok ((profile.alpsProtocols.map (encodeAlps extType)).getD [])
  else if extType = ExtType.delegatedCredentials then
    .ok ((profile.delegatedCredentials.map fun config =>
      encodeDelegatedCredentials config.signatureAlgorithms).getD [])
  else if extType = ExtType.recordSizeLimit then
    .ok ((profile.recordSizeLimit.map encodeRecordSizeLimit).getD [])
  else if extType = ExtType.encryptedClientHello then
    builder.encodeEchExtension crypto grease position
  else if extType = ExtType.quicTransportParameters then
    match builder.quicTransportParameters with
    | some payload => .ok (encodeExtension extType payload)
    | none => .error (.invalidProfile
        "QUIC transport parameters extension requested without payload")
  else if extType = ExtType.earlyData then
    .ok (if builder.earlyData then encodeExtension extType [] else [])
  else if extType = ExtType.padding then .ok []
  -- encrypt_then_mac and every unknown type: an empty extension
  else .ok (encodeExtension extType [])

/-- The bytes of one entry of the list, and the number of GREASE extensions after it. -/
def encodeExtensionSpec (builder : ClientHelloBuilder) (spec : ExtensionSpec)
    (keyPairs : List EphemeralKeyPair) (grease : GreaseValues) (greaseExtIdx position : Nat) :
    Result (Bytes × Nat) := do
  match spec.source with
  | .auto =>
    return (← builder.encodeAutoExtension crypto spec.extensionType keyPairs grease position,
      greaseExtIdx)
  | .rawBytes data => return (encodeExtension spec.extensionType (← decodeHex data), greaseExtIdx)
  | .grease =>
    if builder.profile.grease.extensions && !builder.isChromium then
      let encoded :=
        if greaseExtIdx = 0 then encodeGreaseExtension (grease.get .extension1) 0
        else encodeGreaseExtension (grease.get .extension2) 1
      return (encoded, greaseExtIdx + 1)
    else return ([], greaseExtIdx)

/-- The extension block while it is written. -/
structure ExtensionBlock where
  buf : Bytes
  paddingPos : Option Nat
  greaseExtIdx : Nat
  pendingPsk : List ExtensionSpec

/-- One entry of the list: padding is placed later, and Chromium puts `pre_shared_key` last. -/
def stepExtension (builder : ClientHelloBuilder) (keyPairs : List EphemeralKeyPair)
    (grease : GreaseValues) (block : ExtensionBlock) (spec : ExtensionSpec) :
    Result ExtensionBlock := do
  if spec.extensionType = ExtType.padding then
    return if builder.isChromium then block
      else { block with paddingPos := some block.buf.length }
  else if builder.isChromium && spec.extensionType == ExtType.preSharedKey then
    return { block with pendingPsk := block.pendingPsk ++ [spec] }
  else
    let (encoded, greaseExtIdx) ← builder.encodeExtensionSpec crypto spec keyPairs grease
      block.greaseExtIdx block.buf.length
    return { block with buf := block.buf ++ encoded, greaseExtIdx := greaseExtIdx }

def encodeExtensionsWithoutPadding (builder : ClientHelloBuilder)
    (keyPairs : List EphemeralKeyPair) (grease : GreaseValues) (extensions : List ExtensionSpec) :
    Result (Bytes × Option Nat) := do
  let bookends := builder.isChromium && builder.profile.grease.extensions
  let first := if bookends then encodeGreaseExtension (grease.get .extension1) 0 else []
  let block ← extensions.foldlM (builder.stepExtension crypto keyPairs grease) ⟨first, none, 0, []⟩
  let cookie := (builder.cookie.map encodeCookie).getD []
  let last := if bookends then encodeGreaseExtension (grease.get .extension2) 1 else []
  let buf := block.buf ++ cookie ++ last
  let paddingPos := if builder.isChromium then some buf.length else block.paddingPos
  let pending ← block.pendingPsk.foldlM
    (fun (state : Bytes × Nat) spec => do
      let (encoded, greaseExtIdx) ← builder.encodeExtensionSpec crypto spec keyPairs grease
        state.2 state.1.length
      return (state.1 ++ encoded, greaseExtIdx))
    (buf, block.greaseExtIdx)
  return (pending.1, paddingPos)

/-- The number of zero bytes of the padding extension, if there is one. -/
def calculatePadding (builder : ClientHelloBuilder) (bodyLen : Nat) : Option Nat :=
  match builder.profile.padding with
  | .none => none
  | .blockAlign minLength blockSize =>
    if minLength.toNat < bodyLen ∧ bodyLen < blockSize.toNat then
      some (blockSize.toNat - bodyLen - 4)
    else none
  | .fixedTarget targetLength =>
    if bodyLen < targetLength.toNat then some (targetLength.toNat - bodyLen - 4) else none

/-! ## Key shares and order -/

def encodeCipherSuites (builder : ClientHelloBuilder) (greaseValue : UInt16) : Bytes :=
  be16List (greaseFirst builder.profile.grease.cipherSuite greaseValue builder.profile.cipherSuites)

/-- A key pair for each curve that is supported, in order. -/
def generateKeyPairs (builder : ClientHelloBuilder) : Nat → List UInt16 →
    Result (List EphemeralKeyPair)
  | _, [] => .ok []
  | position, curve :: curves =>
    match KxGroup.fromCodePoint curve with
    | none => generateKeyPairs builder (position + 1) curves
    | some group => do
      let keyPair ← generateKeyPair crypto group (.keyShare builder.hello position)
      return keyPair :: (← generateKeyPairs builder (position + 1) curves)

def computeExtensionOrder (builder : ClientHelloBuilder) : Result (List ExtensionSpec) :=
  let extensions :=
    if builder.isChromium then
      builder.profile.extensions.filter fun spec => !ExtensionSpec.isGrease spec
    else builder.profile.extensions
  if builder.profile.randomization.any RandomizationConfig.shuffleExtensions then
    match shuffleExtensions extensions (crypto.randomWords (.shuffle builder.hello)) with
    | some order => .ok order
    | none => .error (.noReturn "no further random words")
  else .ok extensions

/-! ## Assembly -/

/-- The fields of a ClientHello body up to the compression methods. -/
def helloFields (random sessionId cipherSuites compressionMethods : Bytes) : Bytes :=
  [0x03, 0x03] ++ random ++ lengthPrefixed8 sessionId ++ be16 cipherSuites.length ++
    cipherSuites ++ lengthPrefixed8 compressionMethods

def helloBody (random sessionId cipherSuites compressionMethods extensions : Bytes) : Bytes :=
  helloFields random sessionId cipherSuites compressionMethods ++ be16 extensions.length ++
    extensions

def fixedLen (sessionId cipherSuites compressionMethods : Bytes) : Nat :=
  2 + 32 + 1 + sessionId.length + 2 + cipherSuites.length + 1 + compressionMethods.length + 2

/-- The block with the padding extension at its place. -/
def insertPadding (extensions : Bytes) (paddingPos : Option Nat) : Option Nat → Bytes
  | none => extensions
  | some paddingLen =>
    let position := paddingPos.getD extensions.length
    extensions.take position ++ encodePadding paddingLen ++ extensions.drop position

def generateSessionId (length : UInt8) (draw : Draw) : Result Bytes :=
  if length = 0 then .ok [] else fillRandom crypto draw length.toNat

end ClientHelloBuilder

/-! ## Locating the ECH extension -/

structure EchExtensionOffsets where
  extensionOffset : Nat
  extensionLen : Nat
  payloadOffset : Nat

def malformedLocating : TlsError :=
  .handshakeFailure "malformed outer CH while locating ECH extension"

/-- The walk over the extensions of a body from `position` on. -/
def findEchFrom (body : Bytes) : Nat → Nat → Result EchExtensionOffsets
  | 0, _ => .error (.handshakeFailure "ECH extension not found in outer ClientHello")
  | fuel + 1, position =>
    if body.length < position + 4 then
      .error (.handshakeFailure "ECH extension not found in outer ClientHello")
    else
      let extLen := u16At body (position + 2)
      if UInt16.ofNat (u16At body position) = ExtType.encryptedClientHello then
        match slice? body (position + 4) (position + 4 + extLen) with
        | none => .error malformedLocating
        | some inner =>
          if inner.length < 10 then .error (.handshakeFailure "ECH extension too short")
          else .ok
            { extensionOffset := 4 + position
              extensionLen := 4 + extLen
              payloadOffset := 4 + (position + 4) + (8 + u16At inner 6) + 2 }
      else findEchFrom body fuel (position + 4 + extLen)

/-- Where the parts of a ClientHello body start. -/
structure HelloOffsets where
  afterSessionId : Nat
  afterCipherSuites : Nat
  afterCompression : Nat

/-- The checked walk over the fields before the extensions. -/
def helloOffsets (malformed : TlsError) (body : Bytes) : Result HelloOffsets :=
  match body[34]? with
  | none => .error malformed
  | some sidLen =>
    let afterSid := 35 + sidLen.toNat
    if body.length < afterSid + 2 then .error malformed
    else
      let afterSuites := afterSid + 2 + u16At body afterSid
      match body[afterSuites]? with
      | none => .error malformed
      | some methodsLen => .ok ⟨afterSid, afterSuites, afterSuites + 1 + methodsLen.toNat⟩

def findEchExtensionInMessage (message : Bytes) : Result EchExtensionOffsets :=
  if message.length < 4 then .error malformedLocating
  else do
    let body := message.drop 4
    let offsets ← helloOffsets malformedLocating body
    findEchFrom body body.length (offsets.afterCompression + 2)

def extractEchExtension (message : Bytes) : Result Bytes := do
  let offsets ← findEchExtensionInMessage message
  match slice? message offsets.extensionOffset (offsets.extensionOffset + offsets.extensionLen) with
  | some extension => return extension
  | none => .error (.handshakeFailure "malformed outer CH while extracting ECH extension")

/-! ## The build -/

namespace ClientHelloBuilder

variable (crypto : Primitives)

/-- `build_internal`: a hello without real ECH. -/
def buildInternal (builder : ClientHelloBuilder)
    (existingKeyPairs : Option (List EphemeralKeyPair)) (pskExtraLen : Nat) :
    Result ClientHelloOutput := do
  builder.validateProfile
  let grease ← match builder.greaseValues with
    | some values => pure values
    | none => GreaseValues.mk <$> fillRandom crypto (.greaseSeeds builder.hello) 7
  let random ← match builder.random with
    | some random => pure random
    | none => fillRandom crypto (.helloRandom builder.hello) 32
  let sessionId ← match builder.sessionId with
    | some sessionId => pure sessionId
    | none => generateSessionId crypto builder.profile.sessionIdLength (.sessionId builder.hello)
  let cipherSuites := builder.encodeCipherSuites (grease.get .cipher)
  let compressionMethods := builder.profile.compressionMethods
  let keyPairs ← match existingKeyPairs with
    | some _ => pure []
    | none => builder.generateKeyPairs crypto 0 builder.profile.keyShareCurves
  let extensionOrder ← match builder.extensionOrder with
    | some order => pure order
    | none => builder.computeExtensionOrder crypto
  let (unpadded, paddingPos) ← builder.encodeExtensionsWithoutPadding crypto
    (existingKeyPairs.getD keyPairs) grease extensionOrder
  let bodyLen := fixedLen sessionId cipherSuites compressionMethods + unpadded.length
  let extensions := insertPadding unpadded paddingPos
    (builder.calculatePadding (bodyLen + pskExtraLen))
  let message := handshakeMessage HandshakeType.clientHello
    (helloBody random sessionId cipherSuites compressionMethods extensions)
  let echGreaseExtension := match builder.profile.ech, builder.echConfigList with
    | some (.grease _), none => (extractEchExtension message).toOption
    | _, _ => none
  return { message, keyShares := keyPairs, innerHello := none, encodedInnerHello := none,
           echOffered := false, echRetryState := none, echGreaseExtension,
           greaseValues := grease, shuffledExtensions := extensionOrder }

end ClientHelloBuilder

end LkRequest.Hello
