import LkRequest.Client.Proxy

/-!
# URLs, header maps and request framing

What `lkrequest` uses of the `url` and `http` crates, and the pure part of building a request:
request targets, URIs, the merge of default headers, request headers and cookies, and the
`Content-Length` header of `pipeline.rs`.
-/

namespace LkRequest.Client

open Library

/-! ## URLs -/

/-- A parsed `Url`. A port that is the default of the scheme is not stored. -/
structure Url where
  scheme : Text
  username : Text
  password : Option Text
  host : Option Text
  port : Option Nat
  path : Text
  query : Option Text
  fragment : Option Text
  deriving DecidableEq

namespace Url

def defaultPort (scheme : Text) : Option Nat :=
  if scheme = "http".toList ∨ scheme = "ws".toList then some 80
  else if scheme = "https".toList ∨ scheme = "wss".toList then some 443
  else if scheme = "ftp".toList then some 21
  else none

def portOrKnownDefault (url : Url) : Option Nat := url.port.orElse fun _ => defaultPort url.scheme

end Url

/-- The functions of the `url` crate, with `none` for the URLs that the setters refuse. -/
structure UrlCrate where
  parse : Text → Except Text Url
  render : Url → Text
  join : Url → Text → Except Text Url
  /-- `query_pairs_mut().append_pair(..)` for each pair. -/
  appendPairs : Url → List (Text × Text) → Url
  setScheme : Url → Text → Option Url
  setPort : Url → Option Nat → Option Url

/-- How `hsts_upgrade` changes a URL with the scheme `http`: port 80 becomes port 443. -/
def UrlCrate.upgraded (urls : UrlCrate) (url : Url) : Option Url := do
  let secure ← urls.setScheme url "https".toList
  if secure.port = some 80 then urls.setPort secure (some 443) else some secure

/-- What the setters do to a URL with a host, whose port is stored unless it is the default of the
scheme, and that a URL is parsed back from its text after it was upgraded. -/
structure UrlCrate.Lawful (urls : UrlCrate) : Prop where
  setScheme : ∀ url, url.host.isSome = true → url.scheme = "http".toList → ∃ port,
    urls.setScheme url "https".toList = some { url with scheme := "https".toList, port := port }
  setPort : ∀ url port, url.host.isSome = true →
    ∃ stored, urls.setPort url (some port) = some { url with port := stored }
  parseBack : ∀ text url secure, urls.parse text = .ok url → url.scheme = "http".toList →
    urls.upgraded url = some secure → urls.parse (urls.render secure) = .ok secure

/-- `redirect_is_cross_origin`. -/
def redirectIsCrossOrigin (source target : Url) : Bool :=
  source.scheme != target.scheme || source.host != target.host ||
    source.portOrKnownDefault != target.portOrKnownDefault

/-- `is_default_port`, as `build_h2_uri` and `build_host_value` test it. -/
def isDefaultPort (scheme : Scheme) (port : Nat) : Bool :=
  (scheme == .https && port == 443) || (scheme == .http && port == 80)

/-- `build_h2_uri`. -/
def buildH2Uri (scheme : Scheme) (host : Text) (port : Nat) (path : Text) : Text :=
  let schemeText := match scheme with
    | .https => "https".toList
    | .http => "http".toList
  if isDefaultPort scheme port then schemeText ++ "://".toList ++ host ++ path
  else schemeText ++ "://".toList ++ host ++ ':' :: Text.ofNat port ++ path

/-- `build_host_value`. -/
def buildHostValue (scheme : Scheme) (host : Text) (port : Nat) : Text :=
  if isDefaultPort scheme port then host else host ++ ':' :: Text.ofNat port

/-- `build_host_value_from_url`. -/
def buildHostValueFromUrl (url : Url) : Option Text :=
  url.host.map fun host =>
    let scheme := if url.scheme = "https".toList then .https else .http
    buildHostValue scheme host
      (url.portOrKnownDefault.getD (if scheme = .https then 443 else 80))

/-! ## Header maps -/

/-- A header map: lower-case names, each with its values. A value is a string of bytes. -/
abbrev HeaderMap : Type := List (Text × List Text)

/-- The bytes that `HeaderValue::from_str` and `to_str` admit. -/
def isVisibleAscii (c : Char) : Bool := (32 ≤ c.toNat && c.toNat < 127) || c == '\t'

/-- `HeaderValue::from_str(..).ok()` and `HeaderValue::to_str(..).ok()`. -/
def headerText (value : Text) : Option Text := if value.all isVisibleAscii then some value else none

/-- `Vec::swap_remove`: the last element takes the place of the one that is removed. -/
def swapRemove {α : Type} : List α → Nat → List α
  | [], _ => []
  | _ :: rest, 0 =>
    match rest.getLast? with
    | some last => last :: rest.dropLast
    | none => []
  | first :: rest, index + 1 => first :: swapRemove rest index

namespace HeaderMap

def containsKey (headers : HeaderMap) (name : Text) : Bool :=
  headers.any fun entry => entry.1 == name

def getAll (headers : HeaderMap) (name : Text) : List Text :=
  match headers.find? fun entry => entry.1 == name with
  | some entry => entry.2
  | none => []

/-- `get`: the first value. -/
def get? (headers : HeaderMap) (name : Text) : Option Text := (headers.getAll name).head?

/-- The iteration over the map: every value with its name. -/
def entries (headers : HeaderMap) : List (Text × Text) :=
  headers.flatMap fun entry => entry.2.map fun value => (entry.1, value)

def remove (headers : HeaderMap) (name : Text) : HeaderMap :=
  swapRemove headers (headers.findIdx fun entry => entry.1 == name)

/-- Change the values of a name, or add the name at the end. -/
def adjust (headers : HeaderMap) (name : Text) (change : List Text → List Text) : HeaderMap :=
  match headers with
  | [] => [(name, change [])]
  | entry :: rest =>
    if entry.1 = name then (name, change entry.2) :: rest else entry :: adjust rest name change

def append (headers : HeaderMap) (name value : Text) : HeaderMap :=
  headers.adjust name (· ++ [value])

def insert (headers : HeaderMap) (name value : Text) : HeaderMap :=
  headers.adjust name fun _ => [value]

/-- Insert the value if it is one that a header may have. -/
def insertText (headers : HeaderMap) (name value : Text) : HeaderMap :=
  match headerText value with
  | some value => headers.insert name value
  | none => headers

end HeaderMap

/-- `reorder_headers`: the headers of the template first, each with all its values. -/
def reorderHeaders (headers : HeaderMap) : List Text → HeaderMap
  | [] => headers
  | name :: order =>
    headers.filter (fun entry => entry.1 == name) ++
      reorderHeaders (headers.filter fun entry => entry.1 != name) order

/-! ## Cookies -/

/-- `parse_cookie_header_value`. -/
def parseCookieHeaderValue (raw : Text) : List (Text × Text) :=
  ((raw.splitOn ';').map Text.trim).filterMap fun part =>
    if part.isEmpty then none
    else
      match Text.splitOnce '=' part with
      | some (name, value) => some (Text.trim name, Text.trim value)
      | none => some (part, [])

/-- `drain_cookie_pairs_from_headers`: the pairs; the caller removes the headers. -/
def cookiePairs (headers : HeaderMap) : List (Text × Text) :=
  ((headers.getAll "cookie".toList).filterMap headerText).flatMap parseCookieHeaderValue

/-- Take the first pair of a name out of a list. -/
def takePair (name : Text) : List (Text × Text) → Option ((Text × Text) × List (Text × Text))
  | [] => none
  | pair :: rest =>
    if pair.1 = name then some (pair, rest)
    else (takePair name rest).map fun taken => (taken.1, pair :: taken.2)

/-- `reorder_cookies`. -/
def reorderCookies (cookies : List (Text × Text)) : List Text → List (Text × Text)
  | [] => cookies
  | name :: order =>
    match takePair name cookies with
    | some (pair, rest) => pair :: reorderCookies rest order
    | none => reorderCookies cookies order

def cookieText (pair : Text × Text) : Text := pair.1 ++ '=' :: pair.2

/-! ## The merge -/

/-- The request's own settings that `merge_headers_common` reads. -/
structure MergeSettings where
  defaultHeaders : HeaderMap
  extraCookies : List (Text × Text)
  cookieOverrides : List Text
  headerOrder : List Text
  cookieOrder : Option (List Text)

/-- The defaults that the request does not set itself, then the request's headers. -/
def mergeNames (headers defaults extra : HeaderMap) : HeaderMap :=
  let withDefaults := defaults.entries.foldl (fun headers entry =>
    if extra.containsKey entry.1 then headers
    else HeaderMap.insert headers entry.1 entry.2) headers
  extra.entries.foldl (fun headers entry => HeaderMap.insert headers entry.1 entry.2) withDefaults

/-- The pairs of the `Cookie` header: set by hand, from the jar, and of the request. -/
def mergedCookies (settings : MergeSettings) (manual jar : List (Text × Text)) :
    List (Text × Text) :=
  let fromJar := jar.filter fun pair =>
    !settings.cookieOverrides.contains pair.1 && !(manual.map Prod.fst).contains pair.1
  let merged := manual ++ (fromJar ++ settings.extraCookies)
  match settings.cookieOrder with
  | some order => reorderCookies merged order
  | none => merged

/-- Write the pairs: one header each for HTTP/2 with an explicit order, else one for all. -/
def writeCookies (headers : HeaderMap) (split : Bool) (pairs : List (Text × Text)) : HeaderMap :=
  if pairs.isEmpty then headers
  else if split then
    pairs.foldl (fun headers pair =>
      match headerText (cookieText pair) with
      | some value => headers.append "cookie".toList value
      | none => headers) headers
  else headers.insertText "cookie".toList (List.intercalate "; ".toList (pairs.map cookieText))

/-- HTTP/2 and HTTP/3 have no `Host` header. -/
def dropHost (isH1 : Bool) (headers : HeaderMap) : HeaderMap :=
  if isH1 then headers else headers.remove "host".toList

/-- HTTP/1.1 gets a `Host` header if it has none. -/
def addHost (isH1 : Bool) (url : Url) (headers : HeaderMap) : HeaderMap :=
  if isH1 && !headers.containsKey "host".toList then
    match buildHostValueFromUrl url with
    | some value => headers.insertText "host".toList value
    | none => headers
  else headers

/-- `merge_headers_common`. -/
def mergeHeadersCommon (headers : HeaderMap) (settings : MergeSettings) (extra : HeaderMap)
    (url : Url) (isH1 : Bool) (jar : List (Text × Text)) : HeaderMap :=
  let named := dropHost isH1 (mergeNames headers settings.defaultHeaders extra)
  let cookies := mergedCookies settings (cookiePairs named) jar
  let split := !isH1 && !settings.headerOrder.isEmpty
  let written := addHost isH1 url (writeCookies (named.remove "cookie".toList) split cookies)
  if settings.headerOrder.isEmpty then written else reorderHeaders written settings.headerOrder

/-- `auto_insert_content_length`. -/
def autoInsertContentLength (headers : HeaderMap) (body : Option Bytes) : HeaderMap :=
  match body with
  | some data =>
    if HeaderMap.containsKey headers "content-length".toList then headers
    else HeaderMap.insertText headers "content-length".toList (Text.ofNat data.length)
  | none => headers

end LkRequest.Client
