import LkRequest.Client.Transport

/-!
# Redirects and retries

`send_with_redirects` of `transport.rs` and the retry loop of `send_impl`. The loops are programs
over operations of their own, of which one is a whole request without redirects; a handler carries
them out with the rest of the client.
-/

namespace LkRequest.Client

open Library

/-! ## The operations of a chain -/

/-- What changes from hop to hop. -/
structure RedirectState where
  url : Text
  method : Text
  headers : HeaderMap
  body : Option Bytes
  /-- The cookies of the request are cleared on the way to another origin. -/
  request : RequestBuilder
  history : List RedirectRecord

/-- What the loops ask of the rest of the client. -/
inductive ChainOp where
  | upgrade (url : Text)
  | single (state : RedirectState)
  | learnSts (url : Text) (headers : HeaderMap)
  | log (line : LogLine)
  | shouldRetry (attempt : Nat) (error : Option Error) (status : Option Nat)

abbrev ChainAns : ChainOp → Type
  | .upgrade _ => Option Text
  | .single _ => Except Error Response
  | .learnSts .. => Unit
  | .log _ => Unit
  | .shouldRetry .. => Bool

/-- Fallible code of the loops. -/
abbrev ChainCode (α : Type) : Type := ExceptT Error (Prog ChainOp ChainAns) α

def chainAsk (op : ChainOp) : Prog ChainOp ChainAns (ChainAns op) := Prog.op op

def chainPerform (op : ChainOp) : ChainCode (ChainAns op) := ExceptT.lift (chainAsk op)

/-! ## Redirects -/

/-- `https_only` refuses a URL with another scheme. -/
def httpsOnlyRefuses (session : Session) (url : Text) : Bool :=
  session.httpsOnly &&
    match session.urls.parse url with
    | .ok parsed => parsed.scheme != "https".toList
    | .error _ => false

/-- The headers that describe a body. -/
def bodyHeaders : List Text :=
  ["content-type".toList, "content-length".toList, "content-encoding".toList,
    "content-language".toList, "content-location".toList]

def HeaderMap.removeAll (headers : HeaderMap) (names : List Text) : HeaderMap :=
  names.foldl HeaderMap.remove headers

/-- The redirect is followed with a `GET` request. -/
def becomesGet (status : Nat) : Bool := 301 ≤ status && status ≤ 303

/-- The headers of the next hop. -/
def nextHeaders (headers : HeaderMap) (status : Nat) (base target : Url) : HeaderMap :=
  let rewritten := if becomesGet status then headers.removeAll bodyHeaders else headers
  let stripped := if redirectIsCrossOrigin base target
    then rewritten.removeAll ["authorization".toList, "host".toList] else rewritten
  let downgraded := if base.scheme = "https".toList ∧ target.scheme = "http".toList
    then stripped.remove "referer".toList else stripped
  downgraded.remove "cookie".toList

/-- The next hop of a redirect with the status 301, 302, 303, 307 or 308. -/
def RedirectState.next (state : RedirectState) (status : Nat) (base target : Url)
    (location : Text) (history : List RedirectRecord) : RedirectState where
  url := location
  method := if becomesGet status then "GET".toList else state.method
  headers := nextHeaders state.headers status base target
  body := if becomesGet status then none else state.body
  request := if redirectIsCrossOrigin base target
    then { state.request with extraCookies := [], cookieOverrides := [] } else state.request
  history := history

/-- The statuses of redirects that are followed. -/
def isFollowedStatus (status : Nat) : Bool :=
  becomesGet status || status == 307 || status == 308

/-- What one pass of the redirect loop decides. -/
inductive Redirected where
  | done (response : Response)
  | follow (state : RedirectState)

/-- The status is one of a redirection, `300` to `399`. -/
def isRedirection (status : Nat) : Bool := 300 ≤ status && status < 400

/-- The URL that was requested, and its `Location` resolved against it. -/
def redirectTarget (session : Session) (state : RedirectState) (response : Response) :
    Except Error (Url × Url) :=
  match (response.headers.get? "location".toList).bind headerText with
  | none => .error (.http "redirect response missing Location header".toList)
  | some location =>
    match session.urls.parse state.url with
    | .error reason => .error (.urlParse (state.url ++ ": ".toList ++ reason))
    | .ok base =>
      match session.urls.join base location with
      | .error reason => .error (.urlParse ("invalid redirect URL '".toList ++ location ++
          "': ".toList ++ reason))
      | .ok target => .ok (base, target)

/-- The end of a pass, for a response to the URL of the state. -/
def redirectDecide (session : Session) (remaining : Nat) (state : RedirectState)
    (response : Response) : ChainCode Redirected := do
  let follows := session.redirectPolicy ≠ .none
  if !isRedirection response.status || !follows || remaining = 0 then
    if isRedirection response.status && follows && remaining = 0 then
      throw (.tooManyRedirects ((session.redirectPolicy.maxRedirects).getD 0))
    else return .done { response with url := state.url, history := state.history }
  else
    let urls ← orError id (redirectTarget session state response)
    let redirectTo := session.urls.render urls.2
    chainPerform (.log (.redirect response.status state.url redirectTo))
    let history := state.history ++ [⟨state.url, response.status, response.headers, redirectTo⟩]
    if isFollowedStatus response.status then
      return .follow (state.next response.status urls.1 urls.2 redirectTo history)
    else return .done { response with history := history }

/-- One pass of the loop of `send_with_redirects`, with the redirects that are left. -/
def redirectPass (session : Session) (remaining : Nat) (state : RedirectState) :
    ChainCode Redirected := do
  let upgraded ← chainPerform (.upgrade state.url)
  let current := { state with url := upgraded.getD state.url }
  failIf (httpsOnlyRefuses session current.url)
    (.http ("https_only: refusing non-HTTPS request to ".toList ++ current.url))
  let response ← orError id (← chainPerform (.single current))
  chainPerform (.learnSts current.url response.headers)
  redirectDecide session remaining current response

/-- The loop of `send_with_redirects`. -/
def redirectLoop (session : Session) : Nat → RedirectState → ChainCode Response
  | remaining, state => do
    match ← redirectPass session remaining state with
    | .done response => return response
    | .follow next =>
      match remaining with
      | remaining + 1 => redirectLoop session remaining next
      | 0 => throw (.tooManyRedirects 0)

/-- `send_with_redirects`. -/
def sendWithRedirects (session : Session) (request : RequestBuilder) : ChainCode Response := do
  let url ← orError id (requestUrl session request)
  redirectLoop session (session.redirectPolicy.maxRedirects.getD 0)
    ⟨url, request.method, request.headers, request.body, request, []⟩

/-! ## Retries -/

/-- The retry loop of `send_impl`, for a number of attempts: the policy is the user's and need not
stop. `none` stands for a loop that is not over. -/
def retryLoop (session : Session) (request : RequestBuilder) :
    Nat → Nat → Prog ChainOp ChainAns (Option (Except Error Response))
  | 0, _ => return none
  | attempts + 1, attempt => do
    let result ← (sendWithRedirects session request).run
    match result with
    | .ok response =>
      if isRetryableStatus response.status then
        if ← chainAsk (.shouldRetry (attempt + 1) none (some response.status)) then
          chainAsk (.log (.retryOnStatus (attempt + 1) response.status))
          retryLoop session request attempts (attempt + 1)
        else return some result
      else return some result
    | .error error =>
      if ← chainAsk (.shouldRetry (attempt + 1) (some error) none) then
        if retryIsReplaySafe request.method request.idempotency error then
          chainAsk (.log (.retryOnError (attempt + 1) error))
          retryLoop session request attempts (attempt + 1)
        else return some result
      else return some result

/-- The chain of `send_impl`, with the middlewares of the request run. -/
def sendChain (session : Session) (request : RequestBuilder) (attempts : Nat) :
    Prog ChainOp ChainAns (Option (Except Error Response)) :=
  if session.hasRetryPolicy then retryLoop session request attempts 0
  else do return some (← (sendWithRedirects session request).run)

/-! ## The handler -/

/-- `hsts_upgrade`. -/
def hstsUpgrade (urls : UrlCrate) (text : Text) : Task (Option Text) := do
  match urls.parse text with
  | .error _ => return none
  | .ok url =>
    if url.scheme ≠ "http".toList then return none
    else
      match url.host with
      | none => return none
      | some host =>
        if ← ask (.shouldUpgrade host) then return (urls.upgraded url).map urls.render
        else return none

/-- Hand the `Strict-Transport-Security` header of a response to the policy. -/
def learnSts (session : Session) (url : Text) (headers : HeaderMap) : Task Unit :=
  match (headers.get? "strict-transport-security".toList).bind headerText,
      (session.urls.parse url).toOption.bind Url.host with
  | some sts, some host => ask (.recordSts host sts)
  | _, _ => return ()

/-- How the client carries out the operations of a chain. -/
def chainHandler (session : Session) : (op : ChainOp) → Task (ChainAns op)
  | .upgrade url => hstsUpgrade session.urls url
  | .single state =>
    (sendSingleRequest session state.request state.url state.method state.headers state.body).run
  | .learnSts url headers => learnSts session url headers
  | .log line => ask (.log line)
  | .shouldRetry attempt error status => ask (.shouldRetry attempt error status)

/-- `send_impl`. -/
def send (session : Session) (request : RequestBuilder) (attempts : Nat) :
    Task (Option (Except Error Response)) :=
  (sendChain session request attempts).handle (chainHandler session)

end LkRequest.Client
