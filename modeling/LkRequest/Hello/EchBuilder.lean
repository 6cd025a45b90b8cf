import LkRequest.Hello.Builder

/-!
# ClientHello with real ECH

The inner hello with its reference to outer extensions, its reconstruction as the server sees it,
the outer hello with the sealed inner one, and the binder of a pre-shared key in the inner hello.
-/

namespace LkRequest.Hello

open Library Crypto Profile

/-! ## Extensions of an outer hello -/

/-- The whole extensions of a block, with their types. -/
def splitExtensions : Nat → Bytes → List (UInt16 × Bytes)
  | 0, _ => []
  | fuel + 1, data =>
    if data.length < 4 then []
    else
      let extEnd := 4 + u16At data 2
      if data.length < extEnd then []
      else (UInt16.ofNat (u16At data 0), data.take extEnd) ::
        splitExtensions fuel (data.drop extEnd)

/-- `parse_outer_extensions`: what parses cleanly, bounded by the declared length. -/
def parseOuterExtensions (body : Bytes) : List (UInt16 × Bytes) :=
  if body.length < 35 then []
  else
    let afterSid := 34 + (1 + (byteAt body 34).toNat)
    if body.length < afterSid + 2 then []
    else
      let afterSuites := afterSid + (2 + u16At body afterSid)
      if body.length < afterSuites + 1 then []
      else
        let afterMethods := afterSuites + (1 + (byteAt body afterSuites).toNat)
        if body.length < afterMethods + 2 then []
        else
          let start := afterMethods + 2
          let stop := min (start + u16At body afterMethods) body.length
          splitExtensions body.length (slice body start stop)

def extractOuterExtensionTypes (outerMessage : Bytes) : List UInt16 :=
  if outerMessage.length < 4 then []
  else (parseOuterExtensions (outerMessage.drop 4)).map Prod.fst

/-! ## The reconstructed inner hello -/

/-- The types in the payload of an `ech_outer_extensions` extension. -/
def referencedTypes (data : Bytes) : List UInt16 :=
  match data with
  | [] => []
  | listLen :: types => pairs (types.take listLen.toNat)
where
  pairs : Bytes → List UInt16
    | high :: low :: rest => UInt16.ofNat (readBe16 high low) :: pairs rest
    | _ => []

/-- The outer extensions a reference list stands for; a type the outer hello lacks is skipped. -/
def lookupOuter (outerExts : List (UInt16 × Bytes)) (types : List UInt16) : Bytes :=
  types.flatMap fun extType =>
    ((outerExts.find? fun entry => entry.1 = extType).map Prod.snd).getD []

def expandEchOuterExtensions (innerExts outerBody : Bytes) : Bytes :=
  let outerExts := parseOuterExtensions outerBody
  (splitExtensions innerExts.length innerExts).flatMap fun entry =>
    if entry.1 = echOuterExtensionsType then
      lookupOuter outerExts (referencedTypes (entry.2.drop 4))
    else entry.2

def malformedInner : TlsError :=
  .handshakeFailure "malformed ClientHello while building ECH inner transcript"

def orMalformed {α : Type} (error : TlsError) : Option α → Result α
  | some value => .ok value
  | none => .error error

theorem orMalformed_eq_ok {α : Type} {error : TlsError} {option : Option α} {value : α} :
    orMalformed error option = .ok value ↔ option = some value := by
  cases option with
  | none | some _ => simp [orMalformed]

/-- The inner hello that enters the transcript: the outer session id, and the reference expanded. -/
def buildInnerHelloMessage (innerChBody outerMessage : Bytes) : Result Bytes := do
  if outerMessage.length < 4 then .error malformedInner
  let outerBody := outerMessage.drop 4
  let sidLen ← orMalformed malformedInner outerBody[34]?
  let sessionId ← orMalformed malformedInner (slice? outerBody 35 (35 + sidLen.toNat))
  let versionRandom ← orMalformed malformedInner (slice? innerChBody 0 34)
  let _ ← orMalformed malformedInner (slice? innerChBody 35 37)
  let suitesLen := u16At innerChBody 35
  let cipherSuites ← orMalformed malformedInner (slice? innerChBody 37 (37 + suitesLen))
  let methodsPos := 37 + suitesLen
  let methodsLen ← orMalformed malformedInner innerChBody[methodsPos]?
  let compression ← orMalformed malformedInner
    (slice? innerChBody (methodsPos + 1) (methodsPos + 1 + methodsLen.toNat))
  let extPos := methodsPos + 1 + methodsLen.toNat
  let _ ← orMalformed malformedInner (slice? innerChBody extPos (extPos + 2))
  let innerExts ← orMalformed malformedInner
    (slice? innerChBody (extPos + 2) (extPos + 2 + u16At innerChBody extPos))
  let expanded := expandEchOuterExtensions innerExts outerBody
  return handshakeMessage HandshakeType.clientHello
    (versionRandom ++ [sidLen] ++ sessionId ++ be16 suitesLen ++ cipherSuites ++ [methodsLen] ++
      compression ++ be16 expanded.length ++ expanded)

/-! ## The outer hello -/

/-- The extensions from `position` on, with the name and the ECH payload replaced. -/
def rebuildExtensions (publicName : String) (echPayload : Bytes) : Nat → Bytes → Bytes
  | 0, _ => []
  | fuel + 1, data =>
    if data.length < 4 then []
    else
      let extEnd := 4 + u16At data 2
      if data.length < extEnd then []
      else
        let extType := UInt16.ofNat (u16At data 0)
        let encoded :=
          if extType = ExtType.sni then encodeSni publicName
          else if extType = ExtType.encryptedClientHello then
            be16Of ExtType.encryptedClientHello ++ be16 echPayload.length ++ echPayload
          else data.take extEnd
        encoded ++ rebuildExtensions publicName echPayload fuel (data.drop extEnd)

def rebuildOuterMessage (original : Bytes) (publicName : String) (echPayload : Bytes) :
    Result Bytes :=
  if original.length < 4 then .error (.handshakeFailure "outer CH too short")
  else do
    let body := original.drop 4
    let malformed : TlsError := .handshakeFailure "malformed outer CH"
    let offsets ← helloOffsets malformed body
    if body.length < offsets.afterCompression + 2 then .error malformed
    let block := body.drop (offsets.afterCompression + 2)
    let extensions := rebuildExtensions publicName echPayload block.length block
    return handshakeMessage HandshakeType.clientHello
      (body.take offsets.afterCompression ++ be16 extensions.length ++ extensions)

/-- `data[offset..offset + count].copy_from_slice(bytes)`, which panics out of bounds. -/
def copyFromSlice (data : Bytes) (offset count : Nat) (bytes : Bytes) : Result Bytes :=
  if data.length < offset + count ∨ bytes.length ≠ count then
    .error (.noReturn "copy_from_slice out of range")
  else .ok (overwrite data offset bytes)

section
variable (crypto : Primitives)

/-- Seal the inner hello into the outer one, whose ECH payload is zero while it is the AAD. -/
def sealIntoOuter (newOuter : Bytes) (sender : EchHpkeSenderCtx) (encodedInner : Bytes) :
    Result (Bytes × EchHpkeSenderCtx) := do
  let offsets ← findEchExtensionInMessage newOuter
  let (sender, ciphertext) ← sender.aeadSeal crypto encodedInner (newOuter.drop 4)
  let message ← copyFromSlice newOuter offsets.payloadOffset (encodedInner.length + aeadTagLen)
    ciphertext
  return (message, sender)

def rebuildOuterWithEch (originalOuter : Bytes) (config : EchConfig)
    (suite : HpkeSymmetricCipherSuite) (encodedInner : Bytes) :
    Result (Bytes × EchHpkeSenderCtx) := do
  let (enc, sender) ← echHpkeSetup crypto config suite
  let zeroPayload := List.replicate (encodedInner.length + aeadTagLen) 0
  let newOuter ← rebuildOuterMessage originalOuter config.publicName
    (echOuterPayload suite.kdfId suite.aeadId config.configId enc zeroPayload)
  sealIntoOuter crypto newOuter sender encodedInner

/-- The second hello continues the sender context and leaves `enc` empty. -/
def rebuildOuterWithEchRetry (originalOuter : Bytes) (echRetry : EchRetryState)
    (encodedInner : Bytes) : Result (Bytes × EchRetryState) := do
  let suite := echRetry.cipherSuite
  let zeroPayload := List.replicate (encodedInner.length + aeadTagLen) 0
  let newOuter ← rebuildOuterMessage originalOuter echRetry.config.publicName
    (echOuterPayload suite.kdfId suite.aeadId echRetry.config.configId [] zeroPayload)
  let (message, sender) ← sealIntoOuter crypto newOuter echRetry.senderContext encodedInner
  return (message, { echRetry with senderContext := sender })

end

namespace ClientHelloBuilder

/-! ## The inner hello -/

/-- The inner extension block while it is written. -/
structure InnerBlock where
  buf : Bytes
  compressedTypes : List UInt16
  firstCompressedPos : Option Nat
  outerGreaseIdx : Nat

/-- Replace an extension by a reference to the outer hello. -/
def InnerBlock.compress (block : InnerBlock) (extType : UInt16) : InnerBlock :=
  { block with
    compressedTypes := block.compressedTypes ++ [extType]
    firstCompressedPos := block.firstCompressedPos.or (some block.buf.length) }

/-- Extensions of TLS 1.2 that the inner hello goes without. -/
def innerSkipExtensions : List UInt16 :=
  [ExtType.extendedMasterSecret, ExtType.sessionTicket, ExtType.ecPointFormats]

variable (crypto : Primitives)

/-- The inner form of an automatic extension. It has no key pairs of its own. -/
def encodeInnerAuto (builder : ClientHelloBuilder) (extType : UInt16) (grease : GreaseValues)
    (position : Nat) : Result Bytes :=
  if extType = ExtType.encryptedClientHello then .ok encodeEchInner
  else if extType = ExtType.sni then .ok (builder.hostnameSni crypto)
  else if extType = ExtType.supportedVersions then
    .ok (encodeSupportedVersions
      (greaseFirst builder.profile.grease.supportedVersions (grease.get .version) [0x0304]))
  else builder.encodeAutoExtension crypto extType [] grease position

def stepInnerExtension (builder : ClientHelloBuilder) (grease : GreaseValues)
    (outerTypes outerGreaseTypes : List UInt16) (block : InnerBlock) (spec : ExtensionSpec) :
    Result InnerBlock := do
  let extType := spec.extensionType
  if extType ∈ innerSkipExtensions then return block
  else if extType ∈ builder.profile.echOuterExtensions.getD [51] ∧
      extType ≠ ExtType.encryptedClientHello ∧ extType ∈ outerTypes then
    return block.compress extType
  else
    match spec.source with
    | .auto =>
      let encoded ← builder.encodeInnerAuto crypto extType grease block.buf.length
      return { block with buf := block.buf ++ encoded }
    | .grease =>
      let next := { block with outerGreaseIdx := block.outerGreaseIdx + 1 }
      match outerGreaseTypes[block.outerGreaseIdx]? with
      | some outerType => return next.compress outerType
      | none =>
        let encoded :=
          if block.outerGreaseIdx = 0 then encodeGreaseExtension (grease.get .extension1) 0
          else encodeGreaseExtension (grease.get .extension2) 1
        return { next with buf := block.buf ++ encoded }
    | .rawBytes data =>
      return { block with buf := block.buf ++ encodeExtension extType (← decodeHex data) }

/-- The reference to the outer extensions, at the place of the first one it replaces. -/
def InnerBlock.insertReference (block : InnerBlock) : Bytes :=
  if block.compressedTypes = [] then block.buf
  else
    let position := block.firstCompressedPos.getD block.buf.length
    block.buf.take position ++ encodeEchOuterExtensions block.compressedTypes ++
      block.buf.drop position

def encodeInnerExtensions (builder : ClientHelloBuilder) (grease : GreaseValues)
    (outerOutput : ClientHelloOutput) : Result Bytes := do
  let outerTypes := extractOuterExtensionTypes outerOutput.message
  let outerGreaseTypes := outerTypes.filter isGreaseValue
  let bookends := builder.isChromium && builder.profile.grease.extensions
  let empty : InnerBlock := ⟨[], [], none, 0⟩
  let start :=
    if bookends then
      { empty.compress (outerGreaseTypes[0]?.getD (grease.get .extension1)) with
        outerGreaseIdx := 1 }
    else empty
  let block ← outerOutput.shuffledExtensions.foldlM
    (builder.stepInnerExtension crypto grease outerTypes outerGreaseTypes) start
  let block :=
    if bookends then block.compress (outerGreaseTypes[1]?.getD (grease.get .extension2)) else block
  return block.insertReference

/-- The inner body has no session id. -/
def buildInnerChBody (builder : ClientHelloBuilder) (outerOutput : ClientHelloOutput)
    (retryRandom : Option Bytes) : Result Bytes := do
  let grease := outerOutput.greaseValues
  let random ← match retryRandom with
    | some random => pure random
    | none => fillRandom crypto (.innerRandom builder.hello) 32
  let extensions ← builder.encodeInnerExtensions crypto grease outerOutput
  return helloBody random [] (builder.encodeCipherSuites (grease.get .cipher))
    builder.profile.compressionMethods extensions

/-! ## The binder of the inner hello -/

def malformedInnerPsk : TlsError :=
  .handshakeFailure "malformed ClientHelloInner while appending PSK"

/-- Where the extensions length of an inner body is, if the extensions end the body. -/
def innerExtensionsLenPos (innerChBody : Bytes) : Result Nat := do
  let offsets ← helloOffsets malformedInnerPsk innerChBody
  let position := offsets.afterCompression
  if innerChBody.length < position + 2 then .error malformedInnerPsk
  if position + 2 + u16At innerChBody position ≠ innerChBody.length then .error malformedInnerPsk
  return position

def appendInnerPskAndFillBinder (builder : ClientHelloBuilder) (innerChBody outerMessage : Bytes) :
    Result Bytes :=
  match builder.pskOffer with
  | none => .ok innerChBody
  | some offer => do
    let position ← innerExtensionsLenPos innerChBody
    let binderLen := offer.hkdfAlgorithm.hashLen
    let (extension, binderOffset) :=
      encodePskExtension ⟨offer.identity, offer.obfuscatedTicketAge⟩ binderLen
    let newLen := u16At innerChBody position + extension.length
    if 65535 < newLen then .error malformedInnerPsk
    let withPsk := overwrite innerChBody position (be16 newLen) ++ extension
    let reconstructed ← buildInnerHelloMessage withPsk outerMessage
    if reconstructed.length < bindersSize 1 binderLen then .error malformedInnerPsk
    let truncated := reconstructed.take (reconstructed.length - bindersSize 1 binderLen)
    let transcriptHash :=
      crypto.digest offer.hkdfAlgorithm.hash (offer.transcriptPrefix ++ truncated)
    let binder ← computePskBinder crypto offer.hkdfAlgorithm offer.resumptionPsk transcriptHash
    copyFromSlice withPsk (innerChBody.length + binderOffset) binderLen binder

/-! ## Building both hellos -/

def preferredAead (profile : TlsProfile) : Option UInt16 :=
  match profile.ech with
  | some (.grease config) => some config.aeadId
  | _ => none

/-- Pad and encode the inner body for sealing. -/
def encodeInner (builder : ClientHelloBuilder) (config : EchConfig) (innerChBody : Bytes) : Bytes :=
  encodeClientHelloInner innerChBody
    (computeEchPadding innerChBody.length builder.hostname config.maximumNameLength)

def buildWithRealEch (builder : ClientHelloBuilder) (echConfigRaw : Bytes) (pskExtraLen : Nat) :
    Result ClientHelloOutput := do
  let configs ← parseEchConfigList crypto echConfigRaw
  if configs = [] then .error (.handshakeFailure "ECHConfigList contains no usable configs")
  let (config, suite) ← orMalformed
    (.handshakeFailure "no compatible ECHConfig found (need X25519 + SHA256 + supported AEAD)")
    (selectEchConfig configs (preferredAead builder.profile))
  let outer ← builder.buildInternal crypto none pskExtraLen
  let innerBody ← builder.buildInnerChBody crypto outer none
  let innerBody ← builder.appendInnerPskAndFillBinder crypto innerBody outer.message
  let encodedInner := builder.encodeInner config innerBody
  let (message, sender) ← rebuildOuterWithEch crypto outer.message config suite encodedInner
  let innerHello ← buildInnerHelloMessage innerBody outer.message
  return { outer with
    message := message
    innerHello := some innerHello
    encodedInnerHello := some encodedInner
    echOffered := true
    echRetryState := some ⟨config, suite, sender, slice innerBody 2 34⟩ }

def buildWithRealEchRetry (builder : ClientHelloBuilder) (keyPairs : List EphemeralKeyPair)
    (echRetry : EchRetryState) : Result (ClientHelloOutput × EchRetryState) := do
  let pskExtraLen := match builder.pskOffer with
    | some offer => pskExtensionLength offer.identity.length offer.hkdfAlgorithm.hashLen
    | none => 0
  let outer ← builder.buildInternal crypto (some keyPairs) pskExtraLen
  let innerBody ← builder.buildInnerChBody crypto outer (some echRetry.innerRandom)
  let innerBody ← builder.appendInnerPskAndFillBinder crypto innerBody outer.message
  let encodedInner := builder.encodeInner echRetry.config innerBody
  let (message, echRetry) ← rebuildOuterWithEchRetry crypto outer.message echRetry encodedInner
  let innerHello ← buildInnerHelloMessage innerBody outer.message
  return ({ outer with
    message := message
    innerHello := some innerHello
    encodedInnerHello := some encodedInner
    echOffered := true
    echGreaseExtension := none }, echRetry)

/-- `build_with_psk_hint`: the first hello. -/
def buildWithPskHint (builder : ClientHelloBuilder) (pskExtraLen : Nat) :
    Result ClientHelloOutput :=
  match builder.echConfigList with
  | some echConfigRaw => builder.buildWithRealEch crypto echConfigRaw pskExtraLen
  | none => builder.buildInternal crypto none pskExtraLen

/-- The second hello; a cookie-only retry keeps the GREASE key share. -/
def buildRetry (builder : ClientHelloBuilder) (omitGreaseKeyShare : Bool)
    (keyPairs : List EphemeralKeyPair) (echRetry : Option EchRetryState) :
    Result (ClientHelloOutput × Option EchRetryState) := do
  let builder := { builder with omitGreaseKeyShare := omitGreaseKeyShare }
  match echRetry with
  | some echRetry =>
    let (output, echRetry) ← builder.buildWithRealEchRetry crypto keyPairs echRetry
    return (output, some echRetry)
  | none => return (← builder.buildInternal crypto (some keyPairs) 0, none)

def buildRetryWithKeyPairs (builder : ClientHelloBuilder) :=
  builder.buildRetry crypto true

def buildCookieRetryWithKeyPairs (builder : ClientHelloBuilder) :=
  builder.buildRetry crypto false

end ClientHelloBuilder

end LkRequest.Hello
