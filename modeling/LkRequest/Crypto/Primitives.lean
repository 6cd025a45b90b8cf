import LkRequest.Error

/-!
# Cryptographic primitives

The libraries under the TLS engine, as parameters of the model: hashes, key derivation, record
protection, key agreement, signatures, certificate path validation, decompression and HPKE.
Randomness is a parameter as well: `random draw length` is what the draw at that place returns.
What a result needs of them is named in `RecordProtection` and `HashLengths`.
-/

namespace LkRequest.Crypto

open Library

/-! ## Algorithm names -/

inductive HashAlgorithm where
  | sha1
  | sha256
  | sha384
  deriving DecidableEq

/-- The output length of a hash and of its HMAC. -/
def HashAlgorithm.hashLen : HashAlgorithm → Nat
  | sha1 => 20
  | sha256 => 32
  | sha384 => 48

inductive AeadAlgorithm where
  | aes128Gcm
  | aes256Gcm
  | chacha20Poly1305
  deriving DecidableEq

namespace AeadAlgorithm

def keyLen : AeadAlgorithm → Nat
  | aes128Gcm => 16
  | aes256Gcm => 32
  | chacha20Poly1305 => 32

def tagLen : AeadAlgorithm → Nat := fun _ => 16

end AeadAlgorithm

/-- A key accepted by `UnboundKey::new`, which refuses a key of another length. -/
structure AeadKey where
  algorithm : AeadAlgorithm
  bytes : Bytes
  length_eq : bytes.length = algorithm.keyLen
  deriving DecidableEq

def AeadKey.new? (algorithm : AeadAlgorithm) (bytes : Bytes) : Option AeadKey :=
  if hlength : bytes.length = algorithm.keyLen then some ⟨algorithm, bytes, hlength⟩ else none

inductive KxGroup where
  | x25519
  | secp256r1
  | secp384r1
  | x25519MlKem768
  deriving DecidableEq

namespace KxGroup

def codePoint : KxGroup → UInt16
  | x25519 => 0x001d
  | secp256r1 => 0x0017
  | secp384r1 => 0x0018
  | x25519MlKem768 => 0x11ec

def fromCodePoint : UInt16 → Option KxGroup
  | 0x001d => some x25519
  | 0x0017 => some secp256r1
  | 0x0018 => some secp384r1
  | 0x11ec => some x25519MlKem768
  | _ => none

/-- The `Debug` text of a group. -/
def debug : KxGroup → String
  | x25519 => "X25519"
  | secp256r1 => "Secp256r1"
  | secp384r1 => "Secp384r1"
  | x25519MlKem768 => "X25519MlKem768"

end KxGroup

inductive SignatureAlgorithm where
  | rsaPkcs1Sha256
  | rsaPkcs1Sha384
  | rsaPkcs1Sha512
  | rsaPssSha256
  | rsaPssSha384
  | rsaPssSha512
  | ecdsaP256Sha256
  | ecdsaP384Sha384
  | ed25519

/-! ## The parameters -/

/-- The places of a connection at which randomness is drawn. `hello` is 0 for the first
ClientHello and 1 for the second; `position` tells apart the draws of one hello. -/
inductive Draw where
  | cbcIv (record : Nat)
  | greaseSeeds (hello : Nat)
  | helloRandom (hello : Nat)
  | innerRandom (hello : Nat)
  | sessionId (hello : Nat)
  | shuffle (hello : Nat)
  | keyShare (hello position : Nat)
  | echGreaseLength (hello position : Nat)
  | echGreaseEnc (hello position : Nat)
  | echGreasePayload (hello position : Nat)
  | echSetup
  | retryKeyShare
  | tls12KeyExchange
  | preMasterSecret
  | rsaPadding
  deriving DecidableEq

structure Primitives where
  /-- The system time, in seconds, at which certificates are checked. -/
  unixTime : Nat
  /-- The age of the offered ticket, in milliseconds, when a hello is built. -/
  ticketAgeMs : (hello : Nat) → Nat
  digest : HashAlgorithm → (data : Bytes) → Bytes
  hmac : HashAlgorithm → (key data : Bytes) → Bytes
  hkdfExtract : HashAlgorithm → (salt keyMaterial : Bytes) → Bytes
  hkdfExpand : HashAlgorithm → (prk info : Bytes) → (length : Nat) → Option Bytes
  aeadSeal : AeadKey → (nonce aad plaintext : Bytes) → Option Bytes
  aeadOpen : AeadKey → (nonce aad ciphertext : Bytes) → Option Bytes
  cbcEncrypt : (key iv data : Bytes) → Option Bytes
  cbcDecrypt : (key iv data : Bytes) → Option Bytes
  /-- `SystemRandom::fill` at a place of the connection. -/
  random : Draw → (length : Nat) → Option Bytes
  /-- The `next_u64` outputs of a generator, as far as they are read. -/
  randomWords : Draw → List UInt64
  /-- The private key of an `EphemeralPrivateKey::generate`. -/
  agreementGenerate : KxGroup → Draw → Option Bytes
  agreementPublicKey : KxGroup → (privateKey : Bytes) → Option Bytes
  agree : KxGroup → (privateKey peerPublicKey : Bytes) → Option Bytes
  mlkemGenerate : Draw → Option Bytes
  mlkemPublicKey : (privateKey : Bytes) → Option Bytes
  mlkemDecapsulate : (privateKey ciphertext : Bytes) → Except String Bytes
  rsaEncrypt : (publicKey plaintext : Bytes) → Draw → Except String Bytes
  verifySignature : SignatureAlgorithm → (publicKey message signature : Bytes) → Bool
  /-- `EndEntityCert::try_from`; the error is its text. -/
  parseEndEntity : (certificate : Bytes) → Except String Unit
  /-- `EndEntityCert::verify_for_usage` against the built-in roots and the custom anchors. -/
  verifyForUsage : (certificate : Bytes) → (intermediates anchors : List Bytes) →
    (unixTime : Nat) → Except String Unit
  /-- `String::from_utf8_lossy` of bytes that are not UTF-8. -/
  utf8Lossy : (data : Bytes) → String
  /-- The host name parses as a `std::net::IpAddr`. -/
  parsesIpAddr : (hostname : String) → Bool
  /-- `ServerName::try_from` accepts the name. -/
  validServerName : (hostname : String) → Bool
  verifySubjectName : (certificate : Bytes) → (hostname : String) → Except String Unit
  zlibDecompress : (data : Bytes) → Except String Bytes
  brotliDecompress : (data : Bytes) → Except String Bytes
  /-- HPKE `SetupBaseS`: the encapsulated key and the sender context's secret. -/
  hpkeSetup : (aeadId : UInt16) → (publicKey info : Bytes) → Draw → Except String (Bytes × Bytes)
  /-- HPKE `Seal` of a sender context at its sequence number. -/
  hpkeSeal : (aeadId : UInt16) → (context : Bytes) → (sequence : Nat) →
    (aad plaintext : Bytes) → Except String Bytes

/-! ## What the results assume -/

/-- The documented lengths of hash and HMAC outputs. -/
structure HashLengths (primitives : Primitives) : Prop where
  digest_length : ∀ algorithm data, (primitives.digest algorithm data).length = algorithm.hashLen
  hmac_length : ∀ algorithm key data,
    (primitives.hmac algorithm key data).length = algorithm.hashLen

/-- A random draw has the length that was asked for. -/
structure DrawLengths (primitives : Primitives) : Prop where
  random_length : ∀ draw length bytes, primitives.random draw length = some bytes →
    bytes.length = length

/-- Record protection works: sealing a record-sized plaintext succeeds, adds the tag and opens
again, raw CBC inverts, and the system has random bytes. -/
structure RecordProtection (primitives : Primitives) : Prop extends HashLengths primitives where
  seal_succeeds : ∀ key nonce aad plaintext, nonce.length = 12 → plaintext.length ≤ 16385 →
    ∃ ciphertext, primitives.aeadSeal key nonce aad plaintext = some ciphertext
  seal_length : ∀ key nonce aad plaintext ciphertext,
    primitives.aeadSeal key nonce aad plaintext = some ciphertext →
      ciphertext.length = plaintext.length + 16
  open_seal : ∀ key nonce aad plaintext ciphertext,
    primitives.aeadSeal key nonce aad plaintext = some ciphertext →
      primitives.aeadOpen key nonce aad ciphertext = some plaintext
  cbc_succeeds : ∀ key iv data, key.length = 16 ∨ key.length = 32 → iv.length = 16 →
    data.length % 16 = 0 → ∃ ciphertext, primitives.cbcEncrypt key iv data = some ciphertext
  cbc_length : ∀ key iv data ciphertext,
    primitives.cbcEncrypt key iv data = some ciphertext → ciphertext.length = data.length
  cbcDecrypt_encrypt : ∀ key iv data ciphertext,
    primitives.cbcEncrypt key iv data = some ciphertext →
      primitives.cbcDecrypt key iv ciphertext = some data
  random_succeeds : ∀ draw length, ∃ bytes,
    primitives.random draw length = some bytes ∧ bytes.length = length

end LkRequest.Crypto
