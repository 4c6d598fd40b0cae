import ResourceModel.Url.FilePath
import ResourceModel.Url.Host

set_option autoImplicit false

/-! # Resolving references

A reference is resolved against an address whose path ends in a slash. Of the resulting address
only the last segment of the path and the fragment are kept; a reference that does not lead to a
well-formed address leads nowhere. -/

namespace ResourceModel.Url

/-- How the addresses of a scheme are written. -/
inductive Scheme where
  | web
  | file
  | other
  deriving DecidableEq, Repr

/-- What a reference leads to: the last segment of a path, empty where there is none, and the
    fragment. -/
structure Target where
  segment : List Char
  fragment : List Char
  deriving DecidableEq, Repr

/-- The scheme of the base address. -/
def baseScheme : String := "http"

/-- How the addresses of a named scheme are written. -/
def schemeOf (name : String) : Scheme :=
  if ["http", "https", "ws", "wss", "ftp"].contains name then .web
  else if name = "file" then .file
  else .other

/-- Whether a character separates the segments of a path. -/
def isSeparator (scheme : Scheme) (c : Char) : Bool :=
  c = '/' || (c = '\\' && scheme ≠ .other)

/-- Whether a character ends a path. -/
def endsPath (c : Char) : Bool :=
  c = '?' || c = '#'

/-- A reference without controls and spaces at its ends. -/
def trimmed (raw : List Char) : List Char :=
  let isEdge (c : Char) : Bool := c.toNat ≤ 0x20
  ((raw.dropWhile isEdge).reverse.dropWhile isEdge).reverse

/-- A text without tabs and line ends. -/
def clean (text : List Char) : List Char :=
  text.filter fun c => !isIgnored c

/-- The scheme that a text begins with, in lower case, and what follows its colon. -/
def scheme? : List Char → Option (String × List Char)
  | [] => none
  | c :: rest =>
    let isSchemeChar (c : Char) : Bool := c.isAlphanum || c = '+' || c = '-' || c = '.'
    if c.isAlpha then
      match rest.dropWhile isSchemeChar with
      | ':' :: after =>
        some (String.ofList ((c :: rest.takeWhile isSchemeChar).map Char.toLower), after)
      | _ => none
    else none

/-- The encoded fragment of a reference. -/
def fragment (text : List Char) : List Char :=
  match Text.cut? '#' text with
  | some (_, fragment) => encode isFragmentPlain fragment
  | none => []

/-- Whether a segment stands for the directory itself or the one above. -/
def isDotSegment (segment : List Char) : Bool :=
  isSpelling hereSegments segment || isSpelling upSegments segment

/-- The last part of a path, behind every separator. -/
def lastPart (scheme : Scheme) (path : List Char) : List Char :=
  (path.reverse.takeWhile fun c => !isSeparator scheme c).reverse

/-- The encoded last segment of the path that a text begins with. -/
def lastSegment (scheme : Scheme) (text : List Char) : List Char :=
  let segment := encode isPathPlain
    (lastPart scheme (text.takeWhile fun c => !endsPath c))
  if isDotSegment segment then [] else segment

/-! ## Addresses with a host -/

/-- Whether a character ends the part of an address between its slashes and its path. -/
def endsAuthority (scheme : Scheme) (c : Char) : Bool :=
  c = '/' || endsPath c || (c = '\\' && scheme ≠ .other)

/-- The user name and password before a host, empty if there are none, and the text after them;
    none if the authority ends with an empty user name. -/
def userAndRest? (scheme : Scheme) (text : List Char) : Option (List Char × List Char) :=
  let authority := text.takeWhile fun c => !endsAuthority scheme c
  if authority.contains '@' then
    -- the last at sign divides, so a password may hold others
    let host := (authority.reverse.takeWhile (· ≠ '@')).reverse
    let user := authority.take (authority.length - host.length - 1)
    let rest := host ++ text.drop authority.length
    match rest with
    | c :: _ => if user.isEmpty && endsAuthority scheme c then none else some (user, rest)
    | [] => some (user, rest)
  else some ([], text)

/-- The host that a text begins with, and the rest. A colon inside brackets belongs to the host. -/
def hostAndRest (scheme : Scheme) (inBrackets : Bool) : List Char → List Char × List Char
  | [] => ([], [])
  | c :: rest =>
    if (c = ':' && !inBrackets) || endsAuthority scheme c then ([], c :: rest)
    else
      let inside := if c = '[' then true else if c = ']' then false else inBrackets
      let (host, rest) := hostAndRest scheme inside rest
      (c :: host, rest)

/-- What follows the port that a text begins with; none if the port is malformed. -/
def afterPort? (text : List Char) : Option (List Char) :=
  match text with
  | ':' :: text =>
    let digits := text.takeWhile Char.isDigit
    let rest := text.drop digits.length
    let ends := match rest with
      | c :: _ => c = '/' || c = '\\' || endsPath c
      | [] => true
    if ends && numberOfBase 10 digits ≤ 65535 then some rest else none
  | text => some text

/-- What follows the user, host and port that a text begins with; none if one is malformed. -/
def afterAuthority? (scheme : Scheme) (text : List Char) : Option (List Char) := do
  let (user, text) ← userAndRest? scheme text
  let (host, rest) := hostAndRest scheme false text
  let needsHost := (!user.isEmpty && user ≠ [':']) || rest.head? == some ':'
  let valid :=
    if scheme = .other then isOpaqueHost host && !(host.isEmpty && needsHost)
    else isHost host
  if valid then afterPort? rest else none

/-- The target of an address after its slashes. -/
def hostTarget? (scheme : Scheme) (whole text : List Char) : Option Target := do
  let rest ← afterAuthority? scheme text
  return ⟨lastSegment scheme rest, fragment whole⟩

/-! ## Files -/

/-- What follows a separator that a text begins with. -/
def afterSeparator? : List Char → Option (List Char)
  | [] => none
  | c :: rest =>
    if isIgnored c then afterSeparator? rest
    else if isSeparator .file c then some rest
    else none

/-- The host of a file and what follows it. -/
def fileHost (text : List Char) : List Char × List Char :=
  let host := text.takeWhile fun c => !endsAuthority .file c
  (clean host, text.drop host.length)

/-- The host of files that lie where the address is read. -/
def localHost : List Char := "localhost".toList

/-- The encoded last segment of the path of a file address after two slashes. A drive letter in the
    stead of a host belongs to the path, and behind no host it has no meaning. -/
def hostedFileSegment? (text : List Char) : Option (List Char) :=
  let (host, rest) := fileHost text
  if isDrive host then some (lastFileSegment ['/'] text)
  else if host.isEmpty then some (lastFileSegment ['/'] rest)
  else if isHost host then
    if hostName? host = some localHost then some (lastFileSegment ['/'] rest)
    else some (lastFileSegment ['/'] ((afterSeparator? rest).getD rest))
  else none

/-- The target of a file address after its scheme. -/
def fileTarget? (whole text : List Char) : Option Target :=
  let segment? := match afterSeparator? text with
    | none => some (lastFileSegment ['/'] text)
    | some rest =>
      match afterSeparator? rest with
      | none => some (lastFileSegment [] text)
      | some rest => hostedFileSegment? rest
  segment?.map fun segment => ⟨segment, fragment whole⟩

/-! ## References -/

/-- The target of a reference that names no scheme, or that of the base and less than two
    slashes. -/
def relativeTarget? (whole text : List Char) : Option Target :=
  let slashes := text.takeWhile fun c => c = '/' || c = '\\'
  if slashes.length ≥ 2 then
    match text with
    | '/' :: '/' :: rest => hostTarget? .web whole rest
    | text => hostTarget? .web whole (text.drop slashes.length)
  else some ⟨lastSegment .web text, fragment whole⟩

/-- What follows the colon of the scheme that a text begins with. -/
def afterScheme (text : List Char) : List Char :=
  (text.dropWhile (· ≠ ':')).drop 1

/-- The target of a reference. -/
def resolve? (raw : List Char) : Option Target :=
  let text := clean (trimmed raw)
  match scheme? text with
  | none => relativeTarget? text text
  | some (name, rest) =>
    match schemeOf name with
    | .file => fileTarget? text (afterScheme (trimmed raw))
    | .web =>
      let slashes := rest.takeWhile fun c => c = '/' || c = '\\'
      -- an address of the scheme of the base may leave out the host
      if slashes.length < 2 ∧ name = baseScheme then relativeTarget? text rest
      else hostTarget? .web text (rest.drop slashes.length)
    | .other =>
      match rest with
      | '/' :: '/' :: rest => hostTarget? .other text rest
      | '/' :: path => some ⟨lastSegment .other path, fragment text⟩
      | _ => some ⟨[], fragment text⟩

end ResourceModel.Url
