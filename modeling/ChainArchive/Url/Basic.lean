import ChainArchive.Bytes
import ChainArchive.Text.Quoted

namespace ChainArchive

/-! Addresses of nodes: their parts and their written form. -/

inductive UrlFault where
  | noScheme
  | emptyHost
  | badPort
  | badIpv4
  | badIpv6
  | badDomain
  | badDomainCharacter
  deriving DecidableEq, Repr

def UrlFault.message : UrlFault → String
  | .noScheme => "relative URL without a base"
  | .emptyHost => "empty host"
  | .badPort => "invalid port number"
  | .badIpv4 => "invalid IPv4 address"
  | .badIpv6 => "invalid IPv6 address"
  | .badDomain => "invalid international domain name"
  | .badDomainCharacter => "invalid domain character"

inductive Host where
  | domain (name : String)
  | ipv4 (address : Nat)
  /-- Eight pieces of sixteen bits. -/
  | ipv6 (pieces : List Nat)
  deriving DecidableEq, Repr

inductive UrlPath where
  | opaquePath (text : String)
  | segments (names : List String)
  deriving DecidableEq, Repr

structure Url where
  scheme : String
  username : String
  password : Option String
  host : Option Host
  port : Option Nat
  path : UrlPath
  query : Option String
  fragment : Option String
  deriving DecidableEq, Repr

namespace Host

def ipv4Text (address : Nat) : String :=
  String.intercalate "."
    ([16777216, 65536, 256, 1].map fun unit => toString (address / unit % 256))

def longestZeros (index : Nat) : List Nat → Nat × Nat → Nat × Nat
  | [], best => best
  | piece :: rest, best =>
      let run := ((piece :: rest).takeWhile (· = 0)).length
      longestZeros (index + 1) rest (if best.2 < run then (index, run) else best)

def piecesText (pieces : List Nat) : String :=
  String.intercalate ":" (pieces.map Text.hexText)

/-- Two colons stand for the longest run of at least two zeros. -/
def ipv6Text (pieces : List Nat) : String :=
  let run := longestZeros 0 pieces (0, 0)
  if run.2 < 2 then piecesText pieces
  else piecesText (pieces.take run.1) ++ "::" ++ piecesText (pieces.drop (run.1 + run.2))

def render : Host → String
  | .domain name => name
  | .ipv4 address => ipv4Text address
  | .ipv6 pieces => "[" ++ ipv6Text pieces ++ "]"

end Host

namespace Url

def defaultPort? (scheme : String) : Option Nat :=
  if scheme = "http" ∨ scheme = "ws" then some 80
  else if scheme = "https" ∨ scheme = "wss" then some 443
  else if scheme = "ftp" then some 21
  else none

def isSpecial (scheme : String) : Bool :=
  (defaultPort? scheme).isSome || scheme == "file"

def pathText : UrlPath → String
  | .opaquePath text => text
  | .segments names => String.join (names.map ("/" ++ ·))

def credentials (url : Url) : String :=
  let user := url.username ++ (url.password.map (":" ++ ·)).getD ""
  if user.isEmpty then "" else user ++ "@"

def authority (url : Url) : String :=
  match url.host with
  | some host =>
      "//" ++ url.credentials ++ host.render ++
        (url.port.map fun port => ":" ++ toString port).getD ""
  | none =>
      if url.scheme == "file" then "//"
      else if (pathText url.path).startsWith "//" then "/."
      else ""

def target (url : Url) : String :=
  pathText url.path ++ (url.query.map ("?" ++ ·)).getD ""

def render (url : Url) : String :=
  url.scheme ++ ":" ++ url.authority ++ url.target ++
    (url.fragment.map ("#" ++ ·)).getD ""

def hasHost (url : Url) : Bool :=
  match url.host with
  | none => false
  | some host => host != .domain ""

def withoutCredentials (url : Url) : Url :=
  { url with username := "", password := none }

def unsendableSet : String := "\"\x60\x7b\x7d"

def longestSent : Nat := 65534

def isSendable (url : Url) : Bool :=
  url.withoutCredentials.render.utf8ByteSize ≤ longestSent &&
    !((url.host.map Host.render).getD "").toList.any (unsendableSet.toList.contains ·)

end Url

end ChainArchive
