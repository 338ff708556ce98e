import Clusterwright.Network.Address
import Clusterwright.Text.Utf8
import Clusterwright.Url.Domain

/-!
# Absolute addresses of resources

Whether a text is an absolute URL with a host. Blanks around it and line breaks and tabs inside it
do not count. The schemes of the web take any number of slashes, forwards or backwards, before a
host that may not be missing; a file has a host only after two slashes, and then not the local one;
any other scheme takes its host as it stands.
-/

namespace Clusterwright.Url

/-- How a scheme treats its host. -/
inductive SchemeKind where
  | web | file | other
  deriving DecidableEq, Repr

/-- The kind of a scheme. -/
def SchemeKind.of (scheme : List Char) : SchemeKind :=
  let name := String.ofList scheme
  if ["http", "https", "ws", "wss", "ftp"].contains name then .web
  else if name = "file" then .file
  else .other

/-- The characters that count: all but the blanks and control characters at the ends, and the tabs
and line breaks inside. -/
def significant (s : List Char) : List Char :=
  let isEdge (c : Char) := c.toNat ≤ 0x20
  let trimmed := ((s.dropWhile isEdge).reverse.dropWhile isEdge).reverse
  trimmed.filter fun c => c ≠ '\t' ∧ c ≠ '\n' ∧ c ≠ '\r'

/-- Whether a character may stand in a scheme after its first letter. -/
def isSchemeChar (c : Char) : Bool := c.isAlphanum || c = '+' || c = '-' || c = '.'

/-- The scheme in small letters and what follows its colon. -/
def scheme? (s : List Char) : Option (List Char × List Char) :=
  match s with
  | [] => none
  | c :: _ =>
    if c.isAlpha then
      match s.span isSchemeChar with
      | (scheme, ':' :: rest) => some (scheme.map Char.toLower, rest)
      | _ => none
    else none

/-! ## Hosts -/

/-- A number in a host: hexadecimal, octal or decimal by its first characters. -/
def hostNumber? (part : List Char) : Option Nat :=
  let read (base : Nat) (digits : List Char) : Option Nat :=
    if digits.isEmpty then some 0 else Text.numeral? base digits
  match part with
  | [] => none
  | '0' :: 'x' :: rest | '0' :: 'X' :: rest => read 16 rest
  | '0' :: c :: rest => read 8 (c :: rest)
  | _ => Text.numeral? 10 part

/-- Whether a host ends in a number, and so has to be an address. -/
def endsInNumber (host : List Char) : Bool :=
  let parts := (Domain.labels host).reverse
  let last := match parts with
    | [] :: rest => rest.head?
    | part :: _ => some part
    | [] => none
  match last with
  | none => false
  | some part =>
    (!part.isEmpty && part.all Text.isDigit) || (hostNumber? part).isSome

/-- Whether a host is an address of the fourth version: up to four numbers, of which the last fills
the bytes that are left. -/
def isNumericAddress (host : List Char) : Bool :=
  let parts := Domain.labels host
  let parts := if parts.getLast? = some [] then parts.dropLast else parts
  match parts.mapM hostNumber? with
  | none => false
  | some numbers =>
    match numbers.reverse with
    | [] => false
    | last :: rest =>
      rest.length ≤ 3 && rest.all (· ≤ 255) && last < Nat.pow 256 (4 - rest.length)

/-- The bytes of a host, with percent signs and two digits read as one byte. -/
def percentDecoded : List Char → Bytes
  | '%' :: a :: b :: rest =>
    match Text.digit? 16 a, Text.digit? 16 b with
    | some high, some low => UInt8.ofNat (high * 16 + low) :: percentDecoded rest
    | _, _ => Utf8.encode "%" ++ percentDecoded (a :: b :: rest)
  | c :: rest => Utf8.encode (String.singleton c) ++ percentDecoded rest
  | [] => []

/-- Whether a text in brackets is an address of the sixth version. -/
def isBracketedAddress (host : List Char) : Bool :=
  host.getLast? = some ']' &&
    match Address.readV6 ((host.drop 1).dropLast) with
    | some (_, []) => true
    | _ => false

/-- The host of a scheme of the web or of files, as far as it is a name. -/
def webHost? (host : List Char) : Option (List Char) :=
  if host.head? = some '[' then (if isBracketedAddress host then some host else none)
  else do
    let name ← Domain.normalize? (Utf8.decodeLossy (percentDecoded host)).toList
    if name.isEmpty then none
    else if endsInNumber name then (if isNumericAddress name then some name else none)
    else some name

/-- The characters that no host holds, whatever the scheme. -/
def isForbiddenInHost (c : Char) : Bool :=
  c = '\x00' || c = ' ' || "#/:<>?@[\\]^|".toList.contains c

/-- Whether a text is the host of some other scheme. -/
def isOpaqueHost (host : List Char) : Bool :=
  if host.head? = some '[' then isBracketedAddress host
  else !host.isEmpty && !host.any isForbiddenInHost

/-! ## What follows two slashes -/

/-- Whether a character ends the part of a URL that names a host. -/
def endsAuthority (isWeb : Bool) (c : Char) : Bool :=
  c = '/' || c = '?' || c = '#' || (isWeb && c = '\\')

/-- The host and what follows it: everything up to a colon outside brackets. -/
def splitHost : Bool → List Char → List Char × List Char
  | _, [] => ([], [])
  | inside, c :: rest =>
    if c = ':' ∧ !inside then ([], c :: rest)
    else
      let inside := if c = '[' then true else if c = ']' then false else inside
      let (host, after) := splitHost inside rest
      (c :: host, after)

/-- What follows the last at sign. -/
def afterLastAt (s : List Char) : List Char := (s.reverse.takeWhile (· ≠ '@')).reverse

/-- Whether a text is a port: nothing, or a colon with digits of a value below 65536. -/
def isPort : List Char → Bool
  | [] => true
  | _ :: digits =>
    let port := digits.takeWhile (· ≠ '\\')
    port.isEmpty || ((Text.numeral? 10 port).any (· < 65536))

/-- Whether a text begins with a host. -/
def hasHost (isWeb : Bool) (s : List Char) : Bool :=
  let authority := s.takeWhile fun c => !endsAuthority isWeb c
  let (host, port) := splitHost false (afterLastAt authority)
  (if isWeb then !host.isEmpty && (webHost? host).isSome else isOpaqueHost host) && isPort port

/-- Whether a text is a letter with a colon or a bar. -/
def isDriveLetter : List Char → Bool
  | [c, d] => c.isAlpha && (d = ':' || d = '|')
  | _ => false

/-- Whether the part of a file URL after two slashes names a host that stays. A drive letter in its
place, or at the start of the path, leaves no host. -/
def hasFileHost (s : List Char) : Bool :=
  let isSlash (c : Char) := c = '/' || c = '\\'
  let (host, path) := s.span fun c => !endsAuthority true c
  let path := if path.head?.any isSlash then path.tail else path
  let first := path.takeWhile fun c => !endsAuthority true c
  if host.isEmpty ∨ isDriveLetter host then false
  else
    match webHost? host with
    | none => false
    | some name => name ≠ "localhost".toList && !isDriveLetter first

/-- Whether a text is an absolute URL with a host. -/
def isAbsoluteWithHost (text : String) : Bool :=
  match scheme? (significant text.toList) with
  | none => false
  | some (scheme, rest) =>
    let isSlash (c : Char) := c = '/' || c = '\\'
    match SchemeKind.of scheme with
    | .web => hasHost true (rest.dropWhile isSlash)
    | .file =>
      match rest with
      | a :: b :: rest => isSlash a && isSlash b && hasFileHost rest
      | _ => false
    | .other =>
      match rest with
      | '/' :: '/' :: rest => hasHost false rest
      | _ => false

end Clusterwright.Url
