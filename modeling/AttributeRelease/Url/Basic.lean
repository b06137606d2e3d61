import AttributeRelease.Url.Address
import AttributeRelease.Url.Domain

/-!
# URLs

Whether a text is an absolute URL. A scheme is needed; some schemes are special and need a host, a
file may have one, and other URLs may have one after two slashes.
-/

namespace AttributeRelease

namespace Url

/-- Why a text is no URL. -/
inductive Error
  | noScheme
  | emptyHost
  | invalidDomain
  | invalidDomainCharacter
  | invalidPort
  | invalidAddress4
  | invalidAddress6
deriving DecidableEq, Repr

def Error.message : Error → String
  | noScheme => "relative URL without a base"
  | emptyHost => "empty host"
  | invalidDomain => "invalid international domain name"
  | invalidDomainCharacter => "invalid domain character"
  | invalidPort => "invalid port number"
  | invalidAddress4 => "invalid IPv4 address"
  | invalidAddress6 => "invalid IPv6 address"

/-- Schemes with a host, among them those for which a backslash counts as a slash. -/
inductive Kind
  | special
  | file
  | other
deriving DecidableEq, Repr

def isLetter (c : Char) : Bool := ('a' ≤ c && c ≤ 'z') || ('A' ≤ c && c ≤ 'Z')

def isSchemeChar (c : Char) : Bool :=
  isLetter c || ('0' ≤ c && c ≤ '9') || c == '+' || c == '-' || c == '.'

/-- The scheme at the front in lower case, and what follows its colon. -/
def scheme? (cs : List Char) : Option (String × List Char) :=
  match cs with
  | [] => none
  | c :: _ =>
    let (name, rest) := cs.span isSchemeChar
    match rest with
    | ':' :: rest =>
      if isLetter c then some (Text.lowercaseAscii (String.ofList name), rest) else none
    | _ => none

def kindOf (scheme : String) : Kind :=
  if scheme = "file" then .file
  else if ["http", "https", "ws", "wss", "ftp"].contains scheme then .special
  else .other

/-- Whether a character ends the host part of a URL. -/
def endsAuthority (kind : Kind) (c : Char) : Bool :=
  c == '/' || c == '?' || c == '#' || (c == '\\' && kind != .other)

/-- An address between brackets. -/
def checkBracketed (host : List Char) : Except Error Unit :=
  if host.getLast? = some ']' && isAddress6 (host.drop 1).dropLast then .ok ()
  else .error .invalidAddress6

/-- A host of a special scheme or a file: an address or a domain name. -/
def checkHost (host : List Char) : Except Error Unit :=
  if host.head? = some '[' then checkBracketed host
  else
    match domain? host with
    | none => .error .invalidDomain
    | some [] => .error .emptyHost
    | some name =>
      if endsInNumber name && !isAddress4 name then .error .invalidAddress4 else .ok ()

/-- Characters that no host of another scheme has. -/
def isRefused (c : Char) : Bool := "\x00\t\n\r #/:<>?@[\\]^|".toList.contains c

/-- A host of another scheme. -/
def checkOpaqueHost (host : List Char) : Except Error Unit :=
  if host.head? = some '[' then checkBracketed host
  else if host.any isRefused then .error .invalidDomainCharacter
  else .ok ()

/-- A port has digits only and is below 65536; a backslash after it belongs to the path. -/
def checkPort (port : List Char) : Except Error Unit :=
  match inBase? 10 (port.takeWhile (· ≠ '\\')) with
  | none => .error .invalidPort
  | some n => if n < 65536 then .ok () else .error .invalidPort

/-- Splits host and port at the first colon outside brackets; there is no port without a colon. -/
def splitPort : Bool → List Char → List Char × Option (List Char)
  | _, [] => ([], none)
  | inside, c :: rest =>
    if c = ':' ∧ !inside then ([], some rest)
    else
      let inside := if c = '[' then true else if c = ']' then false else inside
      let (host, port) := splitPort inside rest
      (c :: host, port)

/-- What stands before the last at sign, if there is one, and what stands after it. -/
def splitUser (cs : List Char) : Option (List Char) × List Char :=
  if cs.contains '@' then
    (some ((cs.reverse.dropWhile (· ≠ '@')).drop 1).reverse,
      (cs.reverse.takeWhile (· ≠ '@')).reverse)
  else (none, cs)

/-- Host and port after the slashes, up to the path. -/
def checkAuthority (kind : Kind) (authority : List Char) (last : Bool) : Except Error Unit :=
  let (user, place) := splitUser authority
  let (host, port) := splitPort false place
  if user = some [] ∧ place = [] ∧ !last then .error .emptyHost
  else if host = [] then
    if kind = .special ∨ port.isSome ∨ (user.any fun u => u ≠ [] && u ≠ [':']) then
      .error .emptyHost
    else .ok ()
  else
    match if kind = .special then checkHost host else checkOpaqueHost host with
    | .error e => .error e
    | .ok () => checkPort (port.getD [])

/-- What follows the scheme of a file: after two slashes a host may stand. -/
def checkFile (cs : List Char) : Except Error Unit :=
  let isSlash (c : Char) : Bool := c == '/' || c == '\\'
  match cs with
  | a :: b :: rest =>
    let host := rest.takeWhile fun c => !endsAuthority .file c
    let isDrive : Bool := match host with
      | [d, m] => isLetter d && (m == ':' || m == '|')
      | _ => false
    if isSlash a && isSlash b && host ≠ [] && !isDrive then checkHost host else .ok ()
  | _ => .ok ()

/-- Control characters and spaces at either end do not count, nor do line breaks and tabs. -/
def tidy (cs : List Char) : List Char :=
  let drop (cs : List Char) : List Char := cs.dropWhile fun c => c.toNat ≤ 32
  (drop (drop cs).reverse).reverse.filter fun c => c ≠ '\t' ∧ c ≠ '\n' ∧ c ≠ '\r'

/-- Whether a text is an absolute URL. -/
def check (s : String) : Except Error Unit :=
  match scheme? (tidy s.toList) with
  | none => .error .noScheme
  | some (scheme, rest) =>
    let authorityOf (kind : Kind) (cs : List Char) : Except Error Unit :=
      let authority := cs.takeWhile fun c => !endsAuthority kind c
      checkAuthority kind authority (authority.length = cs.length)
    match kindOf scheme with
    | .file => checkFile rest
    | .special => authorityOf .special (rest.dropWhile fun c => c == '/' || c == '\\')
    | .other =>
      match rest with
      | '/' :: '/' :: rest => authorityOf .other rest
      | _ => .ok ()

end Url

end AttributeRelease
