/-
Addresses of places on the web.

An address has a scheme, may have an authority (a host with a user and a port), a path that is
either a row of segments or one bare text, a query and a fragment.  `Url.text` writes it in its
one normal form.
-/
import AuditReminder.Url.Domain

namespace AuditReminder

/-- Why a text is not an address. -/
inductive UrlFault where
  | emptyHost
  | invalidDomain
  | invalidPort
  | invalidIpv4
  | invalidIpv6
  | forbiddenCharacter
  | noScheme
deriving DecidableEq

namespace UrlFault

def message : UrlFault → String
  | emptyHost => "empty host"
  | invalidDomain => "invalid international domain name"
  | invalidPort => "invalid port number"
  | invalidIpv4 => "invalid IPv4 address"
  | invalidIpv6 => "invalid IPv6 address"
  | forbiddenCharacter => "invalid domain character"
  | noScheme => "relative URL without a base"

end UrlFault

/-- Where an authority points to. -/
inductive Host where
  | domain (name : List Char)
  | ipv4 (address : Nat)
  | ipv6 (pieces : List Nat)
deriving DecidableEq

namespace Host

def text : Host → List Char
  | domain name => name
  | ipv4 address => Url.ipv4Text address
  | ipv6 pieces => '[' :: Url.ipv6Text pieces ++ [']']

end Host

/-- A user, a password, a host and a port; texts are encoded already. -/
structure Authority where
  user : List Char
  password : List Char
  host : Host
  port : Option Nat
deriving DecidableEq

namespace Authority

def text (a : Authority) : List Char :=
  let password := if a.password.isEmpty then [] else ':' :: a.password
  let user := a.user ++ password
  let user := if user.isEmpty then [] else user ++ ['@']
  let port := match a.port with
    | some n => ':' :: Decimal.digits n
    | none => []
  user ++ a.host.text ++ port

end Authority

/-- A row of segments, or one text that is not divided. -/
inductive UrlPath where
  | segments (parts : List (List Char))
  | bare (text : List Char)
deriving DecidableEq

/-- An address in its parts. -/
structure Url where
  scheme : List Char
  authority : Option Authority
  path : UrlPath
  query : Option (List Char)
  fragment : Option (List Char)
deriving DecidableEq

namespace Url

/-- A path as text: each segment after a slash. -/
def pathText : UrlPath → List Char
  | .segments parts => parts.flatMap fun part => '/' :: part
  | .bare text => text

/-- Two slashes and the authority.  Where there is none, a path that starts with two slashes gets
a point in front, so that it is not taken for one. -/
def authorityText : Option Authority → UrlPath → List Char
  | some authority, _ => '/' :: '/' :: authority.text
  | none, .segments ([] :: _ :: _) => ['/', '.']
  | none, _ => []

/-- An address in its normal form. -/
def chars (u : Url) : List Char :=
  u.scheme ++ ':' :: authorityText u.authority u.path ++ pathText u.path ++
    (match u.query with | some q => '?' :: q | none => []) ++
    (match u.fragment with | some f => '#' :: f | none => [])

def text (u : Url) : String := String.ofList u.chars

end Url

end AuditReminder
