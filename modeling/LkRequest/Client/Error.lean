import LkRequest.Error
import LkRequest.Library.Text

/-!
# Errors of the client

`error.rs`: the error type of `lkrequest`, its classifiers, and the reader of error texts that
decides whether a connection was closed and whether a request may be replayed.
-/

namespace LkRequest.Client

open Library

inductive ConnectionPhase where
  | dnsResolution
  | tcpConnect
  | proxyTunnel
  | tlsHandshake
  | h2Negotiation
  | h2cUpgrade
  | quicHandshake
  | h3Negotiation
  | quicFallback
  | httpRequest
  deriving DecidableEq

inductive ConnectionClosedKind where
  | reset
  | eof
  | goaway
  | refusedStream
  | brokenPipe
  | notConnected
  | channelClosed
  | generic
  deriving DecidableEq

inductive QuicPhase where
  | handshake
  | established
  | migration
  deriving DecidableEq

inductive ProxyErrorKind where
  | tcpConnectFailed
  | authenticationRequired
  | authenticationFailed
  | tunnelRefused (statusCode : Nat)
  | socks5Error (code : UInt8)
  | protocolError
  | ioError
  deriving DecidableEq

/-- The `std::io::ErrorKind`s that the client tells apart. -/
inductive IoErrorKind where
  | connectionReset
  | connectionAborted
  | brokenPipe
  | unexpectedEof
  | notConnected
  | interrupted
  | other
  deriving DecidableEq

/-- `Error`. The boxed sources are left out. -/
inductive Error where
  | tls (error : TlsError)
  | http (message : Text)
  | body (message : Text)
  | h2 (message : Text)
  | connectionClosed (phase : ConnectionPhase) (kind : ConnectionClosedKind) (message : Text)
  | quic (message : Text)
  | quicTransport (phase : QuicPhase) (message : Text)
  | quicHandshake (message : Text)
  | h3 (message : Text)
  | http3Request (message : Text)
  | io (kind : IoErrorKind) (message : Text)
  | proxy (kind : ProxyErrorKind) (message : Text)
  | connection (phase : ConnectionPhase) (message : Text)
  | timeout (message : Text) (phase : Option ConnectionPhase)
  | tooManyRedirects (limit : Nat)
  | pool (message : Text)
  | invalidConfig (message : Text)
  | urlParse (message : Text)
  | resourceLimitExceeded (message : Text)
  | status (status : Nat) (url : Text)
  deriving DecidableEq

/-! ## Reading an error text -/

/-- The tests of `classify_connection_closed_message`, in order. -/
def closedMessageTests : List (Text × ConnectionClosedKind) :=
  [("refused stream".toList, .refusedStream),
    ("goaway".toList, .goaway),
    ("stream reset".toList, .reset),
    ("connection reset".toList, .reset),
    ("broken pipe".toList, .brokenPipe),
    ("pipe broken".toList, .brokenPipe),
    ("not connected".toList, .notConnected),
    ("connection shut down".toList, .notConnected),
    ("channel closed".toList, .channelClosed),
    ("operation was canceled".toList, .channelClosed),
    ("operation was cancelled".toList, .channelClosed),
    ("unexpected eof".toList, .eof),
    ("empty response".toList, .eof),
    ("connection closed".toList, .generic),
    ("closed connection".toList, .generic),
    ("stale connection".toList, .generic)]

/-- `classify_connection_closed_message`: the first test whose text occurs. -/
def classifyConnectionClosedMessage (message : Text) : Option ConnectionClosedKind :=
  (closedMessageTests.find? fun test => Text.contains (Text.lower message) test.1).map Prod.snd

namespace Error

/-- The constructors of the adapters that receive error texts. -/
def orConnectionClosed (phase : ConnectionPhase) (message : Text) (otherwise : Text → Error) :
    Error :=
  match classifyConnectionClosedMessage message with
  | some kind => connectionClosed phase kind message
  | none => otherwise message

def h2OrConnectionClosed (phase : ConnectionPhase) (message : Text) : Error :=
  orConnectionClosed phase message h2

def httpOrConnectionClosed (phase : ConnectionPhase) (message : Text) : Error :=
  orConnectionClosed phase message http

def http3OrConnectionClosed (phase : ConnectionPhase) (message : Text) : Error :=
  orConnectionClosed phase message http3Request

/-! ## Classifiers -/

def isSafeToReplay : Error → Bool
  | tls .. | proxy .. | quicHandshake .. => true
  | quicTransport phase _ => phase == .handshake
  | connection phase _ => phase != .httpRequest
  | connectionClosed _ kind _ => kind == .refusedStream
  | _ => false

def isQuicHandshakeFailure : Error → Bool
  | quicHandshake .. => true
  | quicTransport phase _ => phase == .handshake
  | tls .. => true
  | connection phase _ =>
    phase == .dnsResolution || phase == .tcpConnect || phase == .tlsHandshake ||
      phase == .proxyTunnel
  | _ => false

def ioClosedKind : IoErrorKind → Option ConnectionClosedKind
  | .connectionReset => some .reset
  | .connectionAborted | .unexpectedEof => some .eof
  | .brokenPipe => some .brokenPipe
  | .notConnected => some .notConnected
  | .interrupted | .other => none

def connectionClosedKind : Error → Option ConnectionClosedKind
  | connectionClosed _ kind _ => some kind
  | io kind _ => ioClosedKind kind
  | http message | h2 message | quic message | quicHandshake message | h3 message |
    http3Request message | quicTransport _ message => classifyConnectionClosedMessage message
  | _ => none

def isConnectionClosed : Error → Bool
  | connectionClosed .. => true
  | io kind _ =>
    kind == .connectionReset || kind == .connectionAborted || kind == .brokenPipe ||
      kind == .unexpectedEof || kind == .notConnected
  | http message | h2 message | quic message | quicHandshake message | h3 message |
    http3Request message | quicTransport _ message =>
    (classifyConnectionClosedMessage message).isSome
  | _ => false

/-- The two closed-connection classifiers agree. -/
theorem isConnectionClosed_eq (error : Error) :
    error.isConnectionClosed = error.connectionClosedKind.isSome := by
  cases error with
  | io kind message => cases kind <;> rfl
  | _ => rfl

end Error

end LkRequest.Client
