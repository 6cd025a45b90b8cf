import LkRequest.Hello.Builder

/-!
# The running transcript

The digest context that both handshakes feed with their messages: its algorithm and the bytes fed
to it so far.
-/

namespace LkRequest.Handshake

open Library Crypto Hello

structure TranscriptHash where
  algorithm : HashAlgorithm
  data : Bytes
  deriving DecidableEq

/-- The synthetic message that stands for a first ClientHello with the given hash. -/
def messageHash (hash : Bytes) : Bytes :=
  [HandshakeType.messageHash, 0, 0, UInt8.ofNat hash.length] ++ hash

namespace TranscriptHash

def new (algorithm : HashAlgorithm) : TranscriptHash := ⟨algorithm, []⟩

def update (transcript : TranscriptHash) (data : Bytes) : TranscriptHash :=
  { transcript with data := transcript.data ++ data }

section
variable (crypto : Primitives)

def currentHash (transcript : TranscriptHash) : Bytes :=
  crypto.digest transcript.algorithm transcript.data

def replaceWithMessageHash (transcript : TranscriptHash) : TranscriptHash :=
  ⟨transcript.algorithm, messageHash (transcript.currentHash crypto)⟩

end

end TranscriptHash

end LkRequest.Handshake
