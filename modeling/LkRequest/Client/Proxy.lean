import LkRequest.Client.Hsts

/-!
# Proxies and routes

`proxy/config.rs` and the route keys of `protocol.rs`: a proxy with the hops before it, its
identity text, and the key under which connections through it are pooled.
-/

namespace LkRequest.Client

open Library

/-! ## Proxy configurations -/

inductive ProxyScheme where
  | http (host : Text) (port : Nat)
  | socks5 (host : Text) (port : Nat) (remoteDns : Bool)
  deriving DecidableEq

namespace ProxyScheme

def host : ProxyScheme → Text
  | http host _ | socks5 host _ _ => host

def port : ProxyScheme → Nat
  | http _ port | socks5 _ port _ => port

end ProxyScheme

structure ProxyAuth where
  username : Text
  password : Text
  deriving DecidableEq

/-- One proxy of a path. -/
structure Hop where
  scheme : ProxyScheme
  auth : Option ProxyAuth
  deriving DecidableEq

/-- `ProxyConfig`: the final hop and the proxies before it. -/
inductive ProxyConfig where
  | mk (final : Hop) (chain : List ProxyConfig)

namespace ProxyConfig

def final : ProxyConfig → Hop
  | mk final _ => final

def chain : ProxyConfig → List ProxyConfig
  | mk _ chain => chain

def scheme (proxy : ProxyConfig) : ProxyScheme := proxy.final.scheme

/-- The hops that a connection goes through, in order. The chain of a hop in the chain is
ignored. -/
def hops (proxy : ProxyConfig) : List Hop := proxy.chain.map final ++ [proxy.final]

/-- A proxy without hops before it. -/
def single (hop : Hop) : ProxyConfig := mk hop []

end ProxyConfig

/-! ## Identities -/

/-- The text of one hop: the user name, if there is one, and the address. -/
def Hop.base (hop : Hop) : Text :=
  match hop.auth with
  | some auth =>
    auth.username ++ '@' :: (hop.scheme.host ++ ':' :: Text.ofNat hop.scheme.port)
  | none => hop.scheme.host ++ ':' :: Text.ofNat hop.scheme.port

namespace ProxyConfig

mutual

/-- `identity`: the texts of the hops, joined with `>`. -/
def identity : ProxyConfig → Text
  | mk final chain => chainIdentity chain ++ final.base

def chainIdentity : List ProxyConfig → Text
  | [] => []
  | hop :: rest => identity hop ++ '>' :: chainIdentity rest

end

end ProxyConfig

/-! ## Routes -/

inductive ProxyRouteKind where
  | direct
  | httpConnect
  | socks5
  deriving DecidableEq

inductive DnsResolutionMode where
  | localDns
  | remoteDns
  deriving DecidableEq

structure RouteKey where
  proxyKind : ProxyRouteKind
  proxyIdentity : Option Text
  dnsMode : DnsResolutionMode
  deriving DecidableEq

namespace RouteKey

def direct : RouteKey := ⟨.direct, none, .localDns⟩

def fromProxy : Option ProxyConfig → RouteKey
  | none => direct
  | some proxy =>
    match proxy.scheme with
    | .http .. => ⟨.httpConnect, some proxy.identity, .remoteDns⟩
    | .socks5 _ _ remoteDns =>
      ⟨.socks5, some proxy.identity, if remoteDns then .remoteDns else .localDns⟩

end RouteKey

/-- `proxy_uses_remote_dns`. -/
def proxyUsesRemoteDns (proxy : Option ProxyConfig) : Bool :=
  (RouteKey.fromProxy proxy).dnsMode == .remoteDns

/-- `ConnectionKey`: what pooled connections are filed under. -/
structure ConnectionKey where
  scheme : Scheme
  host : Text
  port : Nat
  route : RouteKey
  deriving DecidableEq

end LkRequest.Client
