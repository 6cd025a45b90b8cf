import LkRequest.Client.QuicConnect

/-!
# Requests and responses

The senders of `transport.rs` and `streaming.rs`: how a request is built for each HTTP version, how
it is handed to a connection, and how its response is read, with the errors of each step.
-/

namespace LkRequest.Client

open Library

/-! ## Targets -/

/-- `ParsedTarget`. -/
structure ParsedTarget where
  scheme : Scheme
  host : Text
  port : Nat
  path : Text
  key : ConnectionKey
  url : Url

/-- The schemes that requests may have. -/
def requestScheme (url : Url) : Except Error Scheme :=
  if url.scheme = "https".toList then .ok .https
  else if url.scheme = "http".toList then .ok .http
  else .error (.urlParse ("unsupported scheme: ".toList ++ url.scheme))

/-- `parse_request_target`. -/
def parseRequestTarget (urls : UrlCrate) (text : Text) (proxy : Option ProxyConfig) :
    Except Error ParsedTarget :=
  match urls.parse text with
  | .error reason => .error (.urlParse (text ++ ": ".toList ++ reason))
  | .ok url =>
    match requestScheme url with
    | .error error => .error error
    | .ok scheme =>
      match url.host with
      | none => .error (.urlParse "missing host".toList)
      | some host =>
        let port := url.portOrKnownDefault.getD (if scheme = .https then 443 else 80)
        let path := match url.query with
          | some query => url.path ++ '?' :: query
          | none => url.path
        .ok ⟨scheme, host, port, path, ⟨scheme, host, port, .fromProxy proxy⟩, url⟩

def ParsedTarget.origin (target : ParsedTarget) : Origin :=
  ⟨target.scheme, target.host, target.port⟩

/-! ## Building requests -/

/-- One hop of a request: what the redirects left of the method, the headers and the body. -/
structure RequestHop where
  method : Text
  headers : HeaderMap
  body : Option Bytes
  target : ParsedTarget

section Build

variable (session : Session) (request : RequestBuilder) (hop : RequestHop)

/-- Merge the headers of a request whose first headers are given. -/
def mergedRequest (initial : HeaderMap) (isH1 : Bool) (order : List Text) (uri : Text)
    (body : Option Bytes) : Async HttpRequest := do
  let jar ← perform (.cookies hop.target.url)
  return {
    method := hop.method
    url := hop.target.url
    uri := uri
    headers := mergeHeadersCommon initial (request.mergeSettings session order) hop.headers
      hop.target.url isH1 jar
    body := body }

/-- Refuse a URI that the `http` crate does not take. -/
def checkUri (uri : Text) (error : Text → Error) : Async Unit :=
  match session.uriError uri with
  | some reason => throw (error reason)
  | none => return ()

def hopUri : Text :=
  buildH2Uri hop.target.scheme hop.target.host hop.target.port hop.target.path

/-- The `priority` header that `send_h2_request` adds. -/
def h2PriorityHeaders : HeaderMap :=
  if session.autoPriorityHeader && !hop.headers.containsKey "priority".toList then
    HeaderMap.insertText [] "priority".toList
      (session.h2Priority request.priority hop.headers session.defaultHeaders)
  else []

/-- The request of `send_h2_request`. -/
def buildH2Request : Async HttpRequest := do
  let uri := hopUri hop
  checkUri session uri fun reason => .http ("failed to build HTTP request: ".toList ++ reason)
  mergedRequest session request hop
    (autoInsertContentLength (h2PriorityHeaders session request hop) hop.body) false
    (request.effectiveHeaderOrder session) uri hop.body

/-- The request of `send_h2_streaming`. It has no `priority` header of its own. -/
def buildH2StreamingRequest : Async HttpRequest := do
  let uri := hopUri hop
  checkUri session uri fun reason => .http ("failed to build HTTP request: ".toList ++ reason)
  mergedRequest session request hop (autoInsertContentLength [] hop.body) false
    (request.effectiveHeaderOrder session) uri hop.body

/-- `build_h2_request_for_preface`. -/
def buildH2RequestForPreface : Async HttpRequest := do
  let uri := hopUri hop
  let framed := autoInsertContentLength [] hop.body
  let initial :=
    if session.autoPriorityHeader && !hop.headers.containsKey "priority".toList then
      framed.insertText "priority".toList (session.prefacePriority request.priority hop.headers)
    else framed
  let built ← mergedRequest session request hop initial false
    (request.effectiveHeaderOrder session) uri hop.body
  checkUri session uri fun reason => .http ("failed to build first H2 request: ".toList ++ reason)
  return built

/-- The `priority` header that the HTTP/3 senders add. -/
def h3PriorityHeaders : HeaderMap :=
  if !hop.headers.containsKey "priority".toList &&
      !session.defaultHeaders.containsKey "priority".toList then
    HeaderMap.insertText [] "priority".toList
      (session.h3Priority request.priority hop.headers session.defaultHeaders)
  else []

/-- `build_h3_request`, and the request of `send_h3_streaming`. -/
def buildH3Request : Async HttpRequest := do
  let uri := hopUri hop
  checkUri session uri fun reason =>
    .http3Request ("failed to build HTTP/3 request: ".toList ++ reason)
  mergedRequest session request hop
    (autoInsertContentLength (h3PriorityHeaders session request hop) hop.body) false
    (request.effectiveH3HeaderOrder session) uri hop.body

/-- The request of `send_h1_request` and `build_h1_request_obj`. The two measure different bodies
for the `Content-Length` header. -/
def buildH1Request (measured : Option Bytes) : Async HttpRequest := do
  checkUri session hop.target.path fun reason =>
    .http ("invalid request path '".toList ++ hop.target.path ++ "': ".toList ++ reason)
  mergedRequest session request hop (autoInsertContentLength [] measured) true
    (request.effectiveHeaderOrder session) hop.target.path (some (hop.body.getD []))

end Build

/-! ## Exchanges -/

/-- The errors of one sender. -/
structure SenderErrors where
  sendHead : Text → Error
  sendBody : Text → Error
  response : Text → Error
  body : Text → Error

/-- Hand a request to a connection and wait for the head of its response. -/
def exchange (errors : SenderErrors) (connection : Connection) (request : HttpRequest) :
    Async ResponseHead := do
  match ← perform (.sendRequest connection request) with
  | .error (.head reason) => throw (errors.sendHead reason)
  | .error (.body reason) => throw (errors.sendBody reason)
  | .ok () =>
    let answer ← perform (.awaitResponse connection)
    orError errors.response answer

/-- `store_cookies` and `store_alt_svc`. -/
def storeResponseState (session : Session) (proxy : Option ProxyConfig) (target : ParsedTarget)
    (headers : HeaderMap) : Async Unit := do
  orError id (session.checkResponseHeaders headers)
  let setCookies := (headers.getAll "set-cookie".toList).filterMap headerText
  runIf (!setCookies.isEmpty) (perform (.storeCookies target.url setCookies))
  let altSvc := (((headers.getAll "alt-svc".toList).filterMap headerText).map Text.trim).filter
    (!·.isEmpty)
  runIf (!altSvc.isEmpty)
    (perform (.storeAltSvc (.fromProxy proxy) target.origin (List.intercalate ", ".toList altSvc)))

/-- The body of a response. -/
def readBody (connection : Connection) (error : Text → Error) : Async Bytes := do
  match ← perform (.readBody connection) with
  | .complete data => return data
  | .failed reason => throw (error reason)
  | .refused error => throw error

/-- `RedirectRecord`. -/
structure RedirectRecord where
  url : Text
  status : Nat
  headers : HeaderMap
  redirectTo : Text
  deriving DecidableEq

/-- The fields of `Response` that the pipeline sets. -/
structure Response where
  status : Nat
  headers : HeaderMap
  body : Bytes
  version : HttpVersion
  url : Text
  history : List RedirectRecord
  deriving DecidableEq

/-- `make_response`. -/
def makeResponse (session : Session) (noDecompress : Bool) (head : ResponseHead) (body : Bytes)
    (version : HttpVersion) : Async Response := do
  let body ← orError id
    (if noDecompress then .ok body else session.decompress head.headers body)
  return ⟨head.status, head.headers, body, version, [], []⟩

def closedDuring (classify : ConnectionPhase → Text → Error) (prefixText : Text) :
    Text → Error := fun reason => classify .httpRequest (prefixText ++ reason)

def h2Errors : SenderErrors where
  sendHead := closedDuring .h2OrConnectionClosed "failed to send H2 request: ".toList
  sendBody := closedDuring .h2OrConnectionClosed "failed to send request body: ".toList
  response := closedDuring .h2OrConnectionClosed "failed to receive H2 response: ".toList
  body := closedDuring .h2OrConnectionClosed "error reading response body: ".toList

def h1Errors : SenderErrors where
  sendHead := closedDuring .httpOrConnectionClosed "HTTP/1.1 request failed: ".toList
  sendBody := closedDuring .httpOrConnectionClosed "HTTP/1.1 request failed: ".toList
  response := closedDuring .httpOrConnectionClosed "HTTP/1.1 request failed: ".toList
  body := closedDuring .httpOrConnectionClosed "error reading HTTP/1.1 response body: ".toList

def h3Errors : SenderErrors where
  sendHead := closedDuring .http3OrConnectionClosed []
  sendBody := closedDuring .http3OrConnectionClosed []
  response := closedDuring .http3OrConnectionClosed []
  body := closedDuring .http3OrConnectionClosed "error reading response body: ".toList

section Senders

variable (session : Session) (request : RequestBuilder) (hop : RequestHop)

/-- Read the response of which the head has arrived. -/
def receive (errors : SenderErrors) (connection : Connection) (head : ResponseHead) :
    Async Response := do
  storeResponseState session (request.effectiveProxy session) hop.target head.headers
  let body ← readBody connection errors.body
  makeResponse session request.noDecompress head body connection.version

/-- `send_h2_request`. -/
def sendH2Request (connection : Connection) : Async Response := do
  let built ← buildH2Request session request hop
  let head ← exchange h2Errors connection built
  receive session request hop h2Errors connection head

/-- `send_h3_request`. -/
def sendH3Request (connection : Connection) : Async Response := do
  let built ← buildH3Request session request hop
  let head ← exchange h3Errors connection built
  receive session request hop h3Errors connection head

/-- The server asked to close the connection. -/
def connectionClose (headers : HeaderMap) : Bool :=
  match (headers.get? "connection".toList).bind headerText with
  | some value => Text.equalsIgnoreCase value "close".toList
  | none => false

/-- `send_h1_request`: the `Content-Length` header measures the body of the builder, the body that
is sent is the one of the hop. -/
def sendH1Request (connection : Connection) : Async Response := do
  let built ← buildH1Request session request hop request.body
  let head ← exchange h1Errors connection built
  storeResponseState session (request.effectiveProxy session) hop.target head.headers
  let body ← readBody connection h1Errors.body
  runIf (!connectionClose head.headers) (perform (.insert hop.target.key connection))
  makeResponse session request.noDecompress head body connection.version

/-- The head of a streamed response, with its body left to the caller. -/
def receiveStreaming (head : ResponseHead) : Async ResponseHead := do
  storeResponseState session (request.effectiveProxy session) hop.target head.headers
  return head

/-- `send_h2_streaming`. -/
def sendH2Streaming (connection : Connection) : Async ResponseHead := do
  let built ← buildH2StreamingRequest session request hop
  let head ← exchange h2Errors connection built
  receiveStreaming session request hop head

/-- `send_h3_streaming`. -/
def sendH3Streaming (connection : Connection) : Async ResponseHead := do
  let built ← buildH3Request session request hop
  let head ← exchange h3Errors connection built
  receiveStreaming session request hop head

/-- `send_h1_streaming`. -/
def sendH1Streaming (connection : Connection) : Async ResponseHead := do
  let built ← buildH1Request session request hop hop.body
  let head ← exchange h1Errors connection built
  receiveStreaming session request hop head

end Senders

/-! ## HTTP handshakes -/

/-- `handshake_h1`. -/
def handshakeH1 (transport : Transport) : Async Connection := do
  let answer ← perform (.h1Handshake transport)
  orError (fun reason => .http ("HTTP/1.1 handshake failed: ".toList ++ reason)) answer
  return ⟨.http11, transport⟩

/-- The H2 handshake, the pooling of the connection, and the wait until it is ready. -/
def establishH2 (key : ConnectionKey) (transport : Transport) (first : Option HttpRequest) :
    Async Connection := do
  orError Error.http (← perform (.h2Handshake transport first))
  let connection : Connection := ⟨.h2, transport⟩
  perform (.insert key connection)
  orError (fun reason => .h2 ("H2 connection not ready: ".toList ++ reason))
    (← perform (.ready connection))
  return connection

/-- `establish_h2_and_pool`. -/
def establishH2AndPool (key : ConnectionKey) (transport : Transport) : Async Connection :=
  establishH2 key transport none

/-- `establish_h2_with_first_request`. -/
def establishH2WithFirstRequest (key : ConnectionKey) (transport : Transport)
    (first : HttpRequest) : Async Connection :=
  establishH2 key transport (some first)

end LkRequest.Client
