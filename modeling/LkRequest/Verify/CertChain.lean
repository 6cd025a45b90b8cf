import LkRequest.Crypto.Primitives

/-!
# Certificate verification

The DER walk to a certificate's public key, the signature checks of both protocol versions, the
chain check against the trust anchors and the host name, and the verification policy around them.
-/

namespace LkRequest.Verify

open Library Crypto

/-! ## DER -/

structure DerHeader where
  tag : UInt8
  contentStart : Nat
  contentLen : Nat

def parseDerTl (data : Bytes) : Result DerHeader :=
  let truncated : TlsError := .certificateError "DER: truncated long length"
  if data.length < 1 then .error (.certificateError "DER: unexpected end of data")
  else if data.length < 2 then .error (.certificateError "DER: missing length byte")
  else
    let tag := byteAt data 0
    let lenByte := byteAt data 1
    if lenByte < 0x80 then .ok ⟨tag, 2, lenByte.toNat⟩
    else if lenByte = 0x81 then
      if data.length < 3 then .error truncated else .ok ⟨tag, 3, (byteAt data 2).toNat⟩
    else if lenByte = 0x82 then
      if data.length < 4 then .error truncated else .ok ⟨tag, 4, u16At data 2⟩
    else if lenByte = 0x83 then
      if data.length < 5 then .error truncated else .ok ⟨tag, 5, u24At data 2⟩
    else .error (.certificateError ("DER: unsupported length encoding: 0x" ++ hex02 lenByte))

/-- One element: its tag, its content and its total length. -/
def parseDerElement (data : Bytes) : Result (UInt8 × Bytes × Nat) := do
  let header ← parseDerTl data
  let total := header.contentStart + header.contentLen
  if data.length < total then .error (.certificateError "DER: element extends past end of data")
  return (header.tag, slice data header.contentStart total, total)

def skipDerElement (data : Bytes) : Result Bytes := do
  let (_, _, total) ← parseDerElement data
  return data.drop total

/-- Skip the named fields of a TBSCertificate. -/
def skipFields : List String → Bytes → Result Bytes
  | [], remaining => .ok remaining
  | field :: fields, remaining =>
    if remaining = [] then
      .error (.certificateError ("TBSCertificate: missing " ++ field ++ " field"))
    else do skipFields fields (← skipDerElement remaining)

/-- The SubjectPublicKeyInfo, the seventh field of the TBSCertificate. -/
def extractSpkiFromCert (certDer : Bytes) : Result Bytes := do
  let header ← parseDerTl certDer
  if header.tag ≠ 0x30 then .error (.certificateError "Certificate: expected SEQUENCE")
  let (tag, tbs, _) ← parseDerElement (certDer.drop header.contentStart)
  if tag ≠ 0x30 then .error (.certificateError "TBSCertificate: expected SEQUENCE")
  let remaining ← if tbs.head? = some 0xa0 then skipDerElement tbs else pure tbs
  let remaining ←
    skipFields ["serialNumber", "signature", "issuer", "validity", "subject"] remaining
  if remaining = [] then
    .error (.certificateError "TBSCertificate: missing subjectPublicKeyInfo")
  let (_, _, total) ← parseDerElement remaining
  return remaining.take total

/-- The content of the BIT STRING, after its count of unused bits. -/
def extractRsaPublicKeyFromSpki (spki : Bytes) : Result Bytes := do
  let header ← parseDerTl spki
  let remaining ← skipDerElement (spki.drop header.contentStart)
  let (tag, content, _) ← parseDerElement remaining
  if tag ≠ 0x03 then .error (.certificateError "SPKI: expected BIT STRING for public key")
  if content = [] then .error (.certificateError "SPKI: empty BIT STRING")
  return content.drop 1

def extractEcPointFromSpki (spki : Bytes) : Result Bytes := extractRsaPublicKeyFromSpki spki

/-! ## Signatures -/

section
variable (crypto : Primitives)

def verifyOr (error : TlsError) (valid : Bool) : Result Unit :=
  if valid then .ok () else .error error

/-- Check a signature under the key that an extraction finds in the SPKI. -/
def verifyWith (extract : Bytes → Result Bytes) (algorithm : SignatureAlgorithm) (error : TlsError)
    (spki message signature : Bytes) : Result Unit := do
  let publicKey ← extract spki
  verifyOr error (crypto.verifySignature algorithm publicKey message signature)

/-- What a TLS 1.3 server signs. -/
def certificateVerifyContent (transcriptHash : Bytes) : Bytes :=
  List.replicate 64 0x20 ++ utf8 "TLS 1.3, server CertificateVerify" ++ [0x00] ++ transcriptHash

def verifyCertificateVerify (signatureScheme : UInt16)
    (certDer transcriptHash signature : Bytes) : Result Unit := do
  let content := certificateVerifyContent transcriptHash
  let failed (name : String) : TlsError :=
    .certificateError (name ++ " signature verification failed")
  let spki ← extractSpkiFromCert certDer
  if signatureScheme = 0x0804 then
    verifyWith crypto extractRsaPublicKeyFromSpki .rsaPssSha256 (failed "RSA-PSS-SHA256") spki
      content signature
  else if signatureScheme = 0x0805 then
    verifyWith crypto extractRsaPublicKeyFromSpki .rsaPssSha384 (failed "RSA-PSS-SHA384") spki
      content signature
  else if signatureScheme = 0x0806 then
    verifyWith crypto extractRsaPublicKeyFromSpki .rsaPssSha512 (failed "RSA-PSS-SHA512") spki
      content signature
  else if signatureScheme = 0x0403 then
    verifyWith crypto extractEcPointFromSpki .ecdsaP256Sha256 (failed "ECDSA-P256-SHA256") spki
      content signature
  else if signatureScheme = 0x0503 then
    verifyWith crypto extractEcPointFromSpki .ecdsaP384Sha384 (failed "ECDSA-P384-SHA384") spki
      content signature
  else if signatureScheme = 0x0807 then
    verifyWith crypto extractEcPointFromSpki .ed25519 (failed "Ed25519") spki content signature
  else .error (.certificateError ("unsupported signature scheme: 0x" ++ hex04 signatureScheme))

def verifyServerKeyExchangeSignature (certDer : Bytes) (sigAlgorithm : UInt16)
    (signedData signature : Bytes) : Result Unit := do
  let failed (name : String) : TlsError :=
    .cryptoError ("ServerKeyExchange " ++ name ++ " signature verification failed")
  let spki ← extractSpkiFromCert certDer
  let rsa (algorithm : SignatureAlgorithm) : Result Unit :=
    verifyWith crypto extractRsaPublicKeyFromSpki algorithm (failed "RSA") spki signedData signature
  if sigAlgorithm = 0x0401 then rsa .rsaPkcs1Sha256
  else if sigAlgorithm = 0x0501 then rsa .rsaPkcs1Sha384
  else if sigAlgorithm = 0x0601 then rsa .rsaPkcs1Sha512
  else if sigAlgorithm = 0x0804 then rsa .rsaPssSha256
  else if sigAlgorithm = 0x0403 then
    verifyWith crypto extractEcPointFromSpki .ecdsaP256Sha256 (failed "ECDSA-P256") spki signedData
      signature
  else if sigAlgorithm = 0x0503 then
    verifyWith crypto extractEcPointFromSpki .ecdsaP384Sha384 (failed "ECDSA-P384") spki signedData
      signature
  else if sigAlgorithm = 0x0201 then
    .error (.cryptoError ("ServerKeyExchange uses legacy RSA-PKCS1-SHA1 (0x0201) which is not " ++
      "supported for verification"))
  else .error (.cryptoError
    ("unsupported ServerKeyExchange signature algorithm: 0x" ++ hex04 sigAlgorithm))

/-! ## Chains -/

def verifyCertificateChain (chain : List Bytes) (hostname : String) (anchors : List Bytes) :
    Result Unit :=
  match chain with
  | [] => .error (.certificateError "empty certificate chain")
  | endEntity :: intermediates =>
    match crypto.parseEndEntity endEntity with
    | .error reason =>
      .error (.certificateError ("failed to parse end-entity certificate: " ++ reason))
    | .ok () =>
      match crypto.verifyForUsage endEntity intermediates anchors crypto.unixTime with
      | .error reason =>
        .error (.certificateError ("certificate chain verification failed: " ++ reason))
      | .ok () =>
        if crypto.validServerName hostname then
          match crypto.verifySubjectName endEntity hostname with
          | .error reason =>
            .error (.certificateError ("hostname verification failed for '" ++ hostname ++ "': " ++
              reason))
          | .ok () => .ok ()
        else .error (.certificateError ("invalid hostname: " ++ hostname))

/-! ## Policies -/

inductive VerificationPolicy where
  | strict
  | insecure
  deriving DecidableEq

namespace VerificationPolicy

def isInsecure (policy : VerificationPolicy) : Bool := policy == .insecure

def verifyCertificateChain (policy : VerificationPolicy) (chain : List Bytes) (hostname : String)
    (anchors : List Bytes) : Result Unit :=
  match policy with
  | insecure => .ok ()
  | strict => Verify.verifyCertificateChain crypto chain hostname anchors

def verifyCertificateVerify (policy : VerificationPolicy) (signatureScheme : UInt16)
    (certDer transcriptHash signature : Bytes) : Result Unit :=
  match policy with
  | insecure => .ok ()
  | strict => Verify.verifyCertificateVerify crypto signatureScheme certDer transcriptHash signature

def verifyServerKeyExchangeSignature (policy : VerificationPolicy) (certDer : Bytes)
    (sigAlgorithm : UInt16) (signedData signature : Bytes) : Result Unit :=
  match policy with
  | insecure => .ok ()
  | strict =>
    Verify.verifyServerKeyExchangeSignature crypto certDer sigAlgorithm signedData signature

end VerificationPolicy

end

end LkRequest.Verify
