import LkRequest.Library.Text
import Mathlib.Data.Set.Basic

/-!
# The removal of a cookie

`Session::remove_cookie` stores an expired cookie of the name. The cookie store and the URL parser
are parameters. Of the store it is assumed that it follows RFC 6265: name, domain and path tell
which entry a new cookie replaces, and a cookie without a domain of its own is for the host that set
it.
-/

namespace LkRequest.Client

open Library

/-- A cookie in a jar. -/
structure Cookie where
  name : Text
  value : Text
  domain : Text
  path : Text
  hostOnly : Bool
  httpOnly : Bool
  deriving DecidableEq

/-- `RawCookie`: a cookie with the attributes that it was given. -/
structure RawCookie where
  name : Text
  value : Text
  maxAge : Option Int := none
  domain : Option Text := none
  path : Option Text := none
  httpOnly : Bool := false

/-- `cookie_store::CookieStore`. -/
structure CookieStore (Jar Url : Type) where
  cookies : Jar → Set Cookie
  insertRaw : Jar → RawCookie → Url → Jar
  /-- Whether a cookie is sent to the host of a URL, on one path or another. -/
  sends : Cookie → Url → Prop

/-- What a cookie store reads of a URL: its host, and whether it is one of HTTP. -/
structure UrlView (Url : Type) where
  host : Url → Text
  isHttp : Url → Bool

variable {Jar Url : Type}

namespace CookieStore

/-- The laws of RFC 6265 that decide about a removal. -/
structure Rfc6265 (store : CookieStore Jar Url) (view : UrlView Url) : Prop where
  /-- Section 5.3: a cookie that has expired evicts the entry of its name, domain and path, but
  through HTTP only if that entry is `HttpOnly`. -/
  expired : ∀ jar raw url seconds path, raw.maxAge = some seconds → seconds ≤ 0 →
    raw.domain = none → raw.path = some path → path.head? = some '/' →
    ∀ cookie, cookie ∈ store.cookies (store.insertRaw jar raw url) ↔
      cookie ∈ store.cookies jar ∧
        ¬(cookie.name = raw.name ∧ cookie.domain = view.host url ∧ cookie.path = path ∧
          (view.isHttp url = true ∨ cookie.httpOnly = false))
  /-- Sections 5.1.3 and 5.4: a host gets the cookies of its own domain. -/
  ownDomain : ∀ cookie url, cookie.domain = view.host url → store.sends cookie url

end CookieStore

/-- The expired cookie of `remove_cookie`. -/
def removal (name : Text) : RawCookie :=
  { name := name, value := [], maxAge := some 0, path := some "/".toList }

/-- `Session::remove_cookie`. A URL that does not parse is logged. -/
def removeCookie (store : CookieStore Jar Url) (parse : Text → Option Url) (jar : Jar)
    (url name : Text) : Jar :=
  match parse url with
  | none => jar
  | some parsed => store.insertRaw jar (removal name) parsed

/-- No cookie of the name is sent to the host any more, and all others are as before. -/
structure Removes (store : CookieStore Jar Url) (jar after : Jar) (url : Url) (name : Text) :
    Prop where
  gone : ∀ cookie ∈ store.cookies after, cookie.name = name → ¬store.sends cookie url
  others : ∀ cookie, cookie.name ≠ name ∨ ¬store.sends cookie url →
    (cookie ∈ store.cookies after ↔ cookie ∈ store.cookies jar)

/-- What the removal leaves. -/
theorem mem_removeCookie {store : CookieStore Jar Url} {view : UrlView Url}
    (hlaws : store.Rfc6265 view) {parse : Text → Option Url} {url : Text} {parsed : Url}
    (hparse : parse url = some parsed) (jar : Jar) (name : Text) (cookie : Cookie) :
    cookie ∈ store.cookies (removeCookie store parse jar url name) ↔
      cookie ∈ store.cookies jar ∧
        ¬(cookie.name = name ∧ cookie.domain = view.host parsed ∧ cookie.path = "/".toList ∧
          (view.isHttp parsed = true ∨ cookie.httpOnly = false)) := by
  rw [removeCookie, hparse]
  exact hlaws.expired jar (removal name) parsed 0 "/".toList rfl le_rfl rfl rfl rfl cookie

/-- A host, whether it is an IP address, and whether the URL is one of HTTP. -/
structure ListUrl where
  host : Text
  isIp : Bool
  isHttp : Bool

/-- The cookie that is stored for a raw one. -/
def RawCookie.stored (raw : RawCookie) (url : ListUrl) : Cookie where
  name := raw.name
  value := raw.value
  domain := raw.domain.getD url.host
  path := raw.path.getD "/".toList
  hostOnly := raw.domain.isNone
  httpOnly := raw.httpOnly

def listStore : CookieStore (List Cookie) ListUrl where
  cookies jar := { cookie | cookie ∈ jar }
  insertRaw jar raw url :=
    let new := raw.stored url
    let kept := jar.filter fun old =>
      ¬(old.name = new.name ∧ old.domain = new.domain ∧ old.path = new.path ∧
        (url.isHttp = true ∨ old.httpOnly = false))
    if raw.maxAge.any (· ≤ 0) then kept else kept ++ [new]
  sends cookie url := cookie.domain = url.host ∨
    cookie.hostOnly = false ∧ url.isIp = false ∧ ('.' :: cookie.domain) <:+ url.host

def listView : UrlView ListUrl := ⟨ListUrl.host, ListUrl.isHttp⟩

theorem listStore_rfc6265 : listStore.Rfc6265 listView where
  expired jar raw url seconds path hage hexpired hdomain hpath _ cookie := by
    have hend : raw.maxAge.any (· ≤ 0) = true := by simp [hage, hexpired]
    simp only [listStore, RawCookie.stored, hdomain, hpath, hend, if_true]
    exact List.mem_filter.trans (and_congr_right fun _ => decide_eq_true_iff)
  ownDomain _ _ hdomain := .inl hdomain

/-- The one URL of the examples. -/
def parseShop (url : Text) : Option ListUrl :=
  if url = "https://www.example.com".toList then
    some ⟨"www.example.com".toList, false, true⟩
  else none

def token (domain path : Text) (hostOnly : Bool) : Cookie :=
  ⟨"token".toList, "1".toList, domain, path, hostOnly, true⟩

end LkRequest.Client
