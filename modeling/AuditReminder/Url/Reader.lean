/-
Reading addresses.

`Url.read` takes a text apart: the scheme up to the first colon, an authority after two slashes,
the path with its `.` and `..` segments resolved, a query and a fragment.  Seven schemes have
rules of their own: they always have a host (but for files), take backslashes for slashes, and
leave out their default port.
-/
import AuditReminder.Url.Basic

namespace AuditReminder.Url

/-- The kinds of schemes. -/
inductive SchemeKind where
  | file
  | special
  | other
deriving DecidableEq

/-- The port of a scheme that has one by default. -/
def defaultPort? (scheme : List Char) : Option Nat :=
  match String.ofList scheme with
  | "http" => some 80
  | "ws" => some 80
  | "https" => some 443
  | "wss" => some 443
  | "ftp" => some 21
  | _ => none

def kindOf (scheme : List Char) : SchemeKind :=
  if scheme = ['f', 'i', 'l', 'e'] then .file
  else if (defaultPort? scheme).isSome then .special
  else .other

/-- Whether a character divides the segments of a path. -/
def isSlash (kind : SchemeKind) (c : Char) : Bool := c == '/' || (c == '\\' && kind != .other)

/-- Whether a character ends an authority. -/
def endsAuthority (kind : SchemeKind) (c : Char) : Bool :=
  isSlash kind c || c == '?' || c == '#'

/-- Takes blanks and controls off both ends, and breaks and tabs out of the middle. -/
def clean (cs : List Char) : List Char :=
  let isEdge := fun (c : Char) => c.toNat ≤ 0x20
  let cs := ((cs.dropWhile isEdge).reverse.dropWhile isEdge).reverse
  cs.filter fun c => c != '\t' && c != '\n' && c != '\r'

/-- The scheme of a text in lower case, and what follows its colon. -/
def scheme? : List Char → Option (List Char × List Char)
  | [] => none
  | c :: cs =>
      let isSchemeChar := fun (c : Char) => c.isAlphanum || c == '+' || c == '-' || c == '.'
      let rest := cs.dropWhile isSchemeChar
      match c.isAlpha, rest with
      | true, ':' :: after => some ((c :: cs.takeWhile isSchemeChar).map Char.toLower, after)
      | _, _ => none

/-! ## Authorities -/

/-- The text before the last at sign, and the text after it. -/
def breakAtLastAt (cs : List Char) : Option (List Char × List Char) :=
  if cs.contains '@' then
    let after := (cs.reverse.takeWhile (· != '@')).reverse
    some (cs.take (cs.length - after.length - 1), after)
  else none

/-- The host of a text, as its scheme reads it. -/
def readHost (kind : SchemeKind) (cs : List Char) : Except UrlFault Host :=
  match cs with
  | '[' :: rest =>
      match rest.reverse with
      | ']' :: inner =>
          ((ipv6? inner.reverse).map fun p => .ok (.ipv6 p)).getD (.error .invalidIpv6)
      | _ => .error .invalidIpv6
  | _ =>
      if kind = .other then
        let isForbidden := fun (c : Char) => "\x00\t\n\r #/:<>?@[\\]^|".toList.contains c
        if cs.any isForbidden then .error .forbiddenCharacter
        else .ok (.domain (encode .bare cs))
      else
        match (decode? cs).bind domain? with
        | none => .error .invalidDomain
        | some [] => .error .emptyHost
        | some name =>
            if endsInNumber name then
              match ipv4? name with
              | some address => .ok (.ipv4 address)
              | none => .error .invalidIpv4
            else .ok (.domain name)

/-- Breaks a host from the port after it, at the first colon outside brackets. -/
def breakAtPort (inside : Bool) : List Char → List Char × Option (List Char)
  | [] => ([], none)
  | c :: cs =>
      if c = ':' ∧ !inside then ([], some cs)
      else
        let inside := if c = '[' then true else if c = ']' then false else inside
        let (host, port) := breakAtPort inside cs
        (c :: host, port)

/-- The port of digits, left out where it is the default; at most 65535. -/
def readPort (fallback : Option Nat) (cs : List Char) : Except UrlFault (Option Nat) :=
  if !cs.all Char.isDigit then .error .invalidPort
  else if cs.isEmpty then .ok none
  else
    let n := Decimal.value cs
    if 65535 < n then .error .invalidPort
    else if some n = fallback then .ok none
    else .ok (some n)

/-- A user and a password, parted at the first colon. -/
def userInfo (cs : List Char) : List Char × List Char :=
  (encode .userInfo (cs.takeWhile (· != ':')),
    encode .userInfo ((cs.dropWhile (· != ':')).drop 1))

/-- The authority that a text spells; `atEnd` tells that the address ends with it.  A user needs a
host. -/
def readAuthority (kind : SchemeKind) (scheme : List Char) (cs : List Char) (atEnd : Bool) :
    Except UrlFault Authority := do
  let (user, password, rest) := match breakAtLastAt cs with
    | some (before, after) =>
        let (user, password) := userInfo before
        (user, password, after)
    | none => ([], [], cs)
  let (hostText, portText) := breakAtPort false rest
  let hasUser := !(user.isEmpty && password.isEmpty)
  if hostText.isEmpty then
    if kind = .special ∨ portText.isSome ∨ hasUser ∨ (cs.contains '@' ∧ !atEnd) then
      .error .emptyHost
    else return ⟨user, password, .domain [], none⟩
  else
    let host ← readHost kind hostText
    let port ← match portText with
      | some text => readPort (defaultPort? scheme) text
      | none => .ok none
    return ⟨user, password, host, port⟩

/-! ## Paths -/

def isSingleDot (segment : List Char) : Bool :=
  let s := String.ofList (segment.map Char.toLower)
  s == "." || s == "%2e"

def isDoubleDot (segment : List Char) : Bool :=
  let s := String.ofList (segment.map Char.toLower)
  s == ".." || s == ".%2e" || s == "%2e." || s == "%2e%2e"

/-- A letter and a colon or a bar: the name of a drive. -/
def isDrive : List Char → Bool
  | [c, mark] => c.isAlpha && (mark == ':' || mark == '|')
  | _ => false

/-- A path without its last segment; the name of a drive stays. -/
def shorten (kind : SchemeKind) (done : List (List Char)) : List (List Char) :=
  match kind, done with
  | .file, [segment] => if isDrive segment then [segment] else []
  | _, done => done.dropLast

/-- Puts segments behind those done, `.` and `..` resolved; a text that ends on one of these ends
on a slash. -/
def resolve (kind : SchemeKind) (done : List (List Char)) :
    List (List Char) → List (List Char)
  | [] => done
  | segment :: rest =>
      let isLast := rest.isEmpty
      if isDoubleDot segment then
        let done := shorten kind done
        resolve kind (if isLast then done ++ [[]] else done) rest
      else if isSingleDot segment then
        resolve kind (if isLast then done ++ [[]] else done) rest
      else
        let segment := match kind, done.all List.isEmpty, segment with
          | .file, true, [c, '|'] => if c.isAlpha then [c, ':'] else segment
          | _, _, _ => segment
        resolve kind (done ++ [encode .path segment]) rest

/-- The segments between slashes. -/
def segmentsOf (kind : SchemeKind) (cs : List Char) : List (List Char) :=
  Text.split '/' (cs.map fun c => if isSlash kind c then '/' else c)

/-- The path of a text after an authority.  A scheme with hosts by rule has at least one
segment. -/
def pathOf (kind : SchemeKind) (cs : List Char) : List (List Char) :=
  match cs with
  | [] => if kind = .other then [] else [[]]
  | c :: rest => resolve kind [] (segmentsOf kind (if isSlash kind c then rest else cs))

/-- A path of a file without its empty segments in front. -/
def filePath (parts : List (List Char)) : List (List Char) :=
  match parts.dropWhile List.isEmpty with
  | [] => [[]]
  | parts => parts

/-! ## Whole addresses -/

/-- What follows the path: a query after a question mark and a fragment after a number sign. -/
def tail (kind : SchemeKind) (cs : List Char) : Option (List Char) × Option (List Char) :=
  let fragment := match cs.dropWhile (· != '#') with
    | _ :: f => some (encode .fragment f)
    | [] => none
  let query := match cs.takeWhile (· != '#') with
    | '?' :: q => some (encode (if kind = .other then .query else .specialQuery) q)
    | _ => none
  (query, fragment)

/-- The part of a text before its query and fragment, and the part from there on. -/
def breakAtTail (cs : List Char) : List Char × List Char :=
  (cs.takeWhile fun c => c != '?' && c != '#', cs.dropWhile fun c => c != '?' && c != '#')

/-- An address with an authority, from the text after its slashes. -/
def withAuthority (kind : SchemeKind) (scheme : List Char) (cs : List Char) :
    Except UrlFault Url := do
  let text := cs.takeWhile fun c => !endsAuthority kind c
  let after := cs.dropWhile fun c => !endsAuthority kind c
  let (path, rest) := breakAtTail after
  let authority ← readAuthority kind scheme text after.isEmpty
  let (query, fragment) := tail kind rest
  return ⟨scheme, some authority, .segments (pathOf kind path), query, fragment⟩

/-- The host of a file, which is left out where it is this machine. -/
def fileHost (cs : List Char) : Except UrlFault Host :=
  if cs.isEmpty ∨ isDrive cs then .ok (.domain [])
  else do
    let host ← readHost .file cs
    if host = .domain "localhost".toList then return .domain [] else return host

/-- The address of a file, from the text after its scheme. -/
def fileUrl (scheme : List Char) (cs : List Char) : Except UrlFault Url := do
  let finish := fun (host : Host) (path : List Char) =>
    let (path, rest) := breakAtTail path
    let (query, fragment) := tail .file rest
    let parts := filePath (pathOf .file path)
    Url.mk scheme (some ⟨[], [], host, none⟩) (.segments parts) query fragment
  match cs with
  | a :: b :: rest =>
      if isSlash .file a && isSlash .file b then
        let text := rest.takeWhile fun c => !endsAuthority .file c
        let after := if isDrive text then rest else rest.dropWhile fun c => !endsAuthority .file c
        let host ← fileHost text
        return finish host after
      else return finish (.domain []) cs
  | _ => return finish (.domain []) cs

/-- An address from its scheme and the text after the colon. -/
def withScheme (scheme : List Char) (cs : List Char) : Except UrlFault Url :=
  match kindOf scheme with
  | .file => fileUrl scheme cs
  | .special => withAuthority .special scheme (cs.dropWhile (isSlash .special))
  | .other =>
      match cs with
      | '/' :: '/' :: rest => withAuthority .other scheme rest
      | _ =>
          let (path, rest) := breakAtTail cs
          let (query, fragment) := tail .other rest
          let path := match path with
            | '/' :: rest => .segments (resolve .other [] (segmentsOf .other rest))
            | path => .bare (encode .bare path)
          .ok ⟨scheme, none, path, query, fragment⟩

/-- The address that a text spells. -/
def read (s : String) : Except UrlFault Url :=
  match scheme? (clean s.toList) with
  | some (scheme, rest) => withScheme scheme rest
  | none => .error .noScheme

end AuditReminder.Url
