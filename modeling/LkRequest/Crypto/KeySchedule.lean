import LkRequest.Crypto.Tls12Cipher

/-!
# Key derivation and key exchange

HKDF with the TLS 1.3 labels, the TLS 1.2 PRF and its key block, and ephemeral key agreement for
the classical groups and the hybrid one.
-/

namespace LkRequest.Crypto

open Library

/-! ## HKDF -/

def buildHkdfLabel (label : String) (context : Bytes) (length : Nat) : Bytes :=
  let fullLabel := utf8 ("tls13 " ++ label)
  be16 length ++ [UInt8.ofNat fullLabel.length] ++ fullLabel ++
    [UInt8.ofNat context.length] ++ context

section
variable (crypto : Primitives)

def hkdfExpandLabel (algorithm : HkdfAlgorithm) (secret : Bytes) (label : String)
    (context : Bytes) (length : Nat) : Result Bytes :=
  match crypto.hkdfExpand algorithm.hash secret (buildHkdfLabel label context length) length with
  | some output => .ok output
  | none => .error (.cryptoError "HKDF-Expand-Label failed")

variable {crypto} in
theorem hkdfExpandLabel_eq_ok {algorithm : HkdfAlgorithm} {secret context output : Bytes}
    {label : String} {length : Nat} :
    hkdfExpandLabel crypto algorithm secret label context length = .ok output ↔
      crypto.hkdfExpand algorithm.hash secret (buildHkdfLabel label context length) length =
        some output := by
  rw [hkdfExpandLabel]
  split
  next found hfound =>
    rw [hfound]
    exact ⟨fun heq => by rw [Except.ok.inj heq], fun heq => by rw [Option.some.inj heq]⟩
  next hnone =>
    rw [hnone]
    exact ⟨nofun, nofun⟩

def emptyHash (algorithm : HkdfAlgorithm) : Bytes := crypto.digest algorithm.hash []

/-- A pseudo-random key of HKDF-Extract, with its algorithm. -/
structure HkdfPrk where
  prk : Bytes
  algorithm : HkdfAlgorithm
  deriving DecidableEq

def hkdfExtract (algorithm : HkdfAlgorithm) (salt keyMaterial : Bytes) : HkdfPrk :=
  ⟨crypto.hkdfExtract algorithm.hash salt keyMaterial, algorithm⟩

namespace HkdfPrk

def expandLabel (prk : HkdfPrk) (label : String) (context : Bytes) (length : Nat) : Result Bytes :=
  hkdfExpandLabel crypto prk.algorithm prk.prk label context length

def deriveSecret (prk : HkdfPrk) (label : String) (transcriptHash : Bytes) : Result Bytes :=
  prk.expandLabel crypto label transcriptHash prk.algorithm.hashLen

/-- The next stage of the key schedule: extract with the `derived` secret as the salt. -/
def deriveNext (prk : HkdfPrk) (keyMaterial : Bytes) : Result HkdfPrk := do
  let salt ← prk.expandLabel crypto "derived" (emptyHash crypto prk.algorithm)
    prk.algorithm.hashLen
  return hkdfExtract crypto prk.algorithm salt keyMaterial

end HkdfPrk

/-! ## The TLS 1.2 PRF -/

/-- The blocks of `P_hash` from `A(i)` on, until `remaining` bytes are there. -/
def pHashBlocks (algorithm : PrfAlgorithm) (secret seed : Bytes) : Nat → Nat → Bytes → Bytes
  | 0, _, _ => []
  | fuel + 1, remaining, a =>
    if remaining = 0 then []
    else
      let block := (crypto.hmac algorithm.hash secret (a ++ seed)).take remaining
      block ++ pHashBlocks algorithm secret seed fuel (remaining - block.length)
        (crypto.hmac algorithm.hash secret a)

/-- Every block has a byte, so that `outputLen` rounds are enough. -/
def pHash (algorithm : PrfAlgorithm) (secret seed : Bytes) (outputLen : Nat) : Bytes :=
  pHashBlocks crypto algorithm secret seed outputLen outputLen
    (crypto.hmac algorithm.hash secret seed)

def prf (algorithm : PrfAlgorithm) (secret : Bytes) (label : String) (seed : Bytes)
    (outputLen : Nat) : Bytes :=
  pHash crypto algorithm secret (utf8 label ++ seed) outputLen

def computeMasterSecret (algorithm : PrfAlgorithm)
    (preMasterSecret clientRandom serverRandom : Bytes) : Bytes :=
  prf crypto algorithm preMasterSecret "master secret" (clientRandom ++ serverRandom) 48

def computeExtendedMasterSecret (algorithm : PrfAlgorithm)
    (preMasterSecret sessionHash : Bytes) : Bytes :=
  prf crypto algorithm preMasterSecret "extended master secret" sessionHash 48

def computeVerifyData (algorithm : PrfAlgorithm) (masterSecret : Bytes) (finishedLabel : String)
    (handshakeHash : Bytes) : Bytes :=
  prf crypto algorithm masterSecret finishedLabel handshakeHash 12

structure KeyBlock where
  clientWriteMacKey : Bytes
  serverWriteMacKey : Bytes
  clientWriteKey : Bytes
  serverWriteKey : Bytes
  clientWriteIv : Bytes
  serverWriteIv : Bytes

def expandKeyBlock (algorithm : PrfAlgorithm) (masterSecret serverRandom clientRandom : Bytes)
    (macKeyLen encKeyLen ivLen : Nat) : KeyBlock :=
  let block := prf crypto algorithm masterSecret "key expansion" (serverRandom ++ clientRandom)
    (2 * macKeyLen + 2 * encKeyLen + 2 * ivLen)
  let keys := 2 * macKeyLen
  let ivs := keys + 2 * encKeyLen
  { clientWriteMacKey := slice block 0 macKeyLen
    serverWriteMacKey := slice block macKeyLen keys
    clientWriteKey := slice block keys (keys + encKeyLen)
    serverWriteKey := slice block (keys + encKeyLen) ivs
    clientWriteIv := slice block ivs (ivs + ivLen)
    serverWriteIv := slice block (ivs + ivLen) (ivs + 2 * ivLen) }

/-! ## Key exchange -/

inductive PrivateKeyInner where
  | classical (privateKey : Bytes)
  | hybrid (x25519 mlkemDk : Bytes)
  deriving DecidableEq

structure EphemeralKeyPair where
  group : KxGroup
  publicKey : Bytes
  privateKey : PrivateKeyInner
  deriving DecidableEq

def generateClassicalKeyPair (group : KxGroup) (draw : Draw) : Result EphemeralKeyPair :=
  match crypto.agreementGenerate group draw with
  | none => .error (.cryptoError ("failed to generate " ++ group.debug ++ " key pair"))
  | some privateKey =>
    match crypto.agreementPublicKey group privateKey with
    | none => .error (.cryptoError "failed to compute public key")
    | some publicKey => .ok ⟨group, publicKey, .classical privateKey⟩

/-- The ML-KEM key comes before the X25519 key in the share. -/
def generateHybridKeyPair (draw : Draw) : Result EphemeralKeyPair :=
  match crypto.agreementGenerate .x25519 draw with
  | none => .error (.cryptoError "failed to generate X25519 key")
  | some x25519 =>
    match crypto.agreementPublicKey .x25519 x25519 with
    | none => .error (.cryptoError "failed to compute X25519 public key")
    | some x25519Public =>
      match crypto.mlkemGenerate draw with
      | none => .error (.cryptoError "failed to generate ML-KEM-768 key")
      | some mlkemDk =>
        match crypto.mlkemPublicKey mlkemDk with
        | none => .error (.cryptoError "failed to serialize ML-KEM-768 encapsulation key")
        | some mlkemPublic =>
          .ok ⟨.x25519MlKem768, mlkemPublic ++ x25519Public, .hybrid x25519 mlkemDk⟩

def generateKeyPair (group : KxGroup) (draw : Draw) : Result EphemeralKeyPair :=
  match group with
  | .x25519MlKem768 => generateHybridKeyPair crypto draw
  | group => generateClassicalKeyPair crypto group draw

def mlkem768CtLen : Nat := 1088

def computeHybridSharedSecret (x25519 mlkemDk serverShare : Bytes) : Result Bytes :=
  if serverShare.length ≠ mlkem768CtLen + 32 then
    .error (.cryptoError (s!"X25519MLKEM768 server share wrong size: expected {mlkem768CtLen + 32}"
      ++ s!", got {serverShare.length}"))
  else
    match crypto.agree .x25519 x25519 (serverShare.drop mlkem768CtLen) with
    | none => .error (.cryptoError "X25519 key agreement failed in hybrid")
    | some x25519Secret =>
      match crypto.mlkemDecapsulate mlkemDk (serverShare.take mlkem768CtLen) with
      | .error reason => .error (.cryptoError ("ML-KEM-768 decapsulation failed: " ++ reason))
      | .ok mlkemSecret => .ok (mlkemSecret ++ x25519Secret)

def computeSharedSecret (ourKey : EphemeralKeyPair) (peerPublicKey : Bytes) : Result Bytes :=
  match ourKey.privateKey with
  | .classical privateKey =>
    match crypto.agree ourKey.group privateKey peerPublicKey with
    | some secret => .ok secret
    | none => .error (.cryptoError "ECDH key agreement failed")
  | .hybrid x25519 mlkemDk => computeHybridSharedSecret crypto x25519 mlkemDk peerPublicKey

end

end LkRequest.Crypto
