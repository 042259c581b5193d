import CertCatalog.Url.Basic

/-!
# Reading URLs

Absolute URLs from text.  Blanks at the ends and tabs and line breaks anywhere are passed over, and
special schemes take backslashes for slashes.
-/

namespace CertCatalog.Url

open CertCatalog.Text CertCatalog.Bytes

inductive Error where
  | relativeWithoutBase
  | emptyHost
  | invalidDomain
  | invalidDomainCharacter
  | invalidIpv4
  | invalidIpv6
  | invalidPort
  deriving DecidableEq, Repr

def Error.message : Error → String
  | .relativeWithoutBase => "relative URL without a base"
  | .emptyHost => "empty host"
  | .invalidDomain => "invalid international domain name"
  | .invalidDomainCharacter => "invalid domain character"
  | .invalidIpv4 => "invalid IPv4 address"
  | .invalidIpv6 => "invalid IPv6 address"
  | .invalidPort => "invalid port number"

/-! ## Preparation -/

def isControlOrSpace (c : Char) : Bool :=
  c.toNat ≤ 0x20

def prepared (text : List Char) : List Char :=
  let text := text.dropWhile isControlOrSpace
  let text := (text.reverse.dropWhile isControlOrSpace).reverse
  text.filter fun c => c != '\t' && c != '\n' && c != '\r'

def readScheme (text : List Char) : Option (String × List Char) :=
  let name := text.takeWhile fun c => c.isAlphanum || c == '+' || c == '-' || c == '.'
  match name, text.drop name.length with
  | first :: _, ':' :: rest =>
      if first.isAlpha then some (String.ofList (name.map Char.toLower), rest) else none
  | _, _ => none

def endsAuthority (special : Bool) (c : Char) : Bool :=
  c == '/' || c == '?' || c == '#' || (special && c == '\\')

/-! ## Hosts -/

def readBracketed (text : List Char) : Except Error Host :=
  if text.getLast? != some ']' then .error .invalidIpv6
  else
    match ipv6? (text.dropLast.drop 1) with
    | some groups => .ok (.ipv6 groups)
    | none => .error .invalidIpv6

def readHost (text : List Char) : Except Error Host :=
  if text.head? == some '[' then readBracketed text
  else
    match domainToAscii? (percentDecode text) with
    | none => .error .invalidDomain
    | some [] => .error .emptyHost
    | some domain =>
        if endsInNumber domain then
          match ipv4? domain with
          | some address => .ok (.ipv4 address)
          | none => .error .invalidIpv4
        else .ok (.domain (String.ofList domain))

def isForbiddenInHost (c : Char) : Bool :=
  c == '\x00' || "\t\n\r #/:<>?@[\\]^|".toList.contains c

def readOpaqueHost (text : List Char) : Except Error Host :=
  if text.isEmpty then .ok .empty
  else if text.head? == some '[' then readBracketed text
  else if text.any isForbiddenInHost then .error .invalidDomainCharacter
  else .ok (.domain (String.ofList (percentEncode controlSet text)))

def hostLength (inBrackets : Bool) : List Char → Nat
  | [] => 0
  | c :: rest =>
      if c == ':' && !inBrackets then 0
      else if c == '[' then hostLength true rest + 1
      else if c == ']' then hostLength false rest + 1
      else hostLength inBrackets rest + 1

/--
A port below 65536, absent when it is left out or the default one, with what follows it.  A
backslash ends the port of any URL.
-/
def readPort (scheme : String) (text : List Char) : Except Error (Option Nat × List Char) :=
  let digits := text.takeWhile (· != '\\')
  let rest := text.drop digits.length
  if !digits.all isDigit then .error .invalidPort
  else if digits.isEmpty then .ok (none, rest)
  else
    let port := digitsValue digits
    if port ≥ 65536 then .error .invalidPort
    else if defaultPort? scheme == some port then .ok (none, rest)
    else .ok (some port, rest)

def readHostAndPort (scheme : String) (text : List Char) :
    Except Error (Host × Option Nat × List Char) :=
  let length := hostLength false text
  let hostText := text.take length
  let special := isSpecialScheme scheme
  if special && hostText.isEmpty then .error .emptyHost
  else do
    let host ← if special then readHost hostText else readOpaqueHost hostText
    match text.drop length with
    | ':' :: rest =>
        if host == .empty then .error .emptyHost
        else
          let (port, rest) ← readPort scheme rest
          pure (host, port, rest)
    | rest => pure (host, none, rest)

/-! ## Authorities -/

def splitLastAt (text : List Char) : Option (List Char × List Char) :=
  (splitFirst? (· == '@') text.reverse).map fun (after, before) => (before.reverse, after.reverse)

def readCredentials (text : List Char) : List Char × List Char × List Char :=
  match splitLastAt text with
  | none => ([], [], text)
  | some (credentials, rest) =>
      match splitFirst? (· == ':') credentials with
      | some (username, password) => (username, password, rest)
      | none => (credentials, [], rest)

/--
An authority and what is left of its text.  `followed` tells whether the URL goes on after the
authority: then an at sign may not stand on its own.
-/
def readAuthority (scheme : String) (followed : Bool) (text : List Char) :
    Except Error (Authority × List Char) := do
  let (username, password, rest) := readCredentials text
  if text == ['@'] && followed then throw .emptyHost
  let (host, port, rest) ← readHostAndPort scheme rest
  if host == .empty && !(username.isEmpty && password.isEmpty) then throw .emptyHost
  let encoded (part : List Char) := String.ofList (percentEncode userinfoSet part)
  pure
    ({ username := encoded username, password := encoded password, host := host, port := port },
      rest)

/-! ## Paths -/

def isDoubleDot (segment : String) : Bool :=
  ["..", ".%2e", "%2e.", "%2e%2e"].contains (lowerAscii segment)

def isSingleDot (segment : String) : Bool :=
  [".", "%2e"].contains (lowerAscii segment)

def walkPath (done : List String) : List String → List String
  | [] => done
  | [last] =>
      if isDoubleDot last then done.dropLast ++ [""]
      else if isSingleDot last then done ++ [""]
      else done ++ [last]
  | segment :: rest =>
      if isDoubleDot segment then walkPath done.dropLast rest
      else if isSingleDot segment then walkPath done rest
      else walkPath (done ++ [segment]) rest

def isSlash (special : Bool) (c : Char) : Bool :=
  c == '/' || (special && c == '\\')

def readSegments (special : Bool) (text : List Char) : List String :=
  walkPath [] ((splitBy (isSlash special) text).map fun segment =>
    String.ofList (percentEncode pathSet segment))

/-- The path after an authority.  Only special URLs always have one. -/
def readPath (special : Bool) (text : List Char) : Path :=
  match text with
  | [] => .segments (if special then [""] else [])
  | c :: rest =>
      .segments (readSegments special (if isSlash special c then rest else text))

def splitEnds (text : List Char) : List Char × Option (List Char) × Option (List Char) :=
  let (front, fragment) :=
    match splitFirst? (· == '#') text with
    | some (front, fragment) => (front, some fragment)
    | none => (text, none)
  match splitFirst? (· == '?') front with
  | some (front, query) => (front, some query, fragment)
  | none => (front, none, fragment)

/-! ## URLs -/

def dropEmptySegments (segments : List String) : List String :=
  match segments.dropWhile (·.isEmpty) with
  | [] => [""]
  | rest => rest

/-- A file URL: after two slashes a host may stand, and the local host counts as none. -/
def readFile (text : List Char) : Except Error (Authority × Path) := do
  let authority (host : Host) : Authority :=
    { username := "", password := "", host := host, port := none }
  let path (text : List Char) : Path :=
    match readPath true text with
    | .segments list => .segments (dropEmptySegments list)
    | other => other
  match text with
  | a :: b :: rest =>
      if isSlash true a && isSlash true b then
        let hostText := rest.takeWhile (!endsAuthority true ·)
        let after := rest.drop hostText.length
        if hostText.isEmpty then pure (authority .empty, path after)
        else
          let host ← readHost hostText
          let host := if host == .domain "localhost" then .empty else host
          pure (authority host, path after)
      else pure (authority .empty, path text)
  | _ => pure (authority .empty, path text)

/--
Authority and path of a URL after the colon of its scheme; `followed` tells whether a query or a
fragment comes next.
-/
def readHierarchy (scheme : String) (followed : Bool) (text : List Char) :
    Except Error (Option Authority × Path) := do
  let special := isSpecialScheme scheme
  if scheme == "file" then
    let (authority, path) ← readFile text
    pure (some authority, path)
  else
    let afterSlashes :=
      if special then some (text.dropWhile (isSlash true)) else dropStart? ['/', '/'] text
    match afterSlashes with
    | some rest =>
        let authorityText := rest.takeWhile (!endsAuthority special ·)
        let after := rest.drop authorityText.length
        let (authority, left) ← readAuthority scheme (followed || !after.isEmpty) authorityText
        pure (some authority, readPath special (left ++ after))
    | none =>
        match text with
        | '/' :: rest => pure (none, .segments (readSegments false rest))
        | _ => pure (none, .opaqueText (String.ofList (percentEncode controlSet text)))

def parse (text : String) : Except Error Url :=
  match readScheme (prepared text.toList) with
  | none => .error .relativeWithoutBase
  | some (scheme, rest) => do
      let (front, query, fragment) := splitEnds rest
      let (authority, path) ← readHierarchy scheme (query.isSome || fragment.isSome) front
      let inQuery := if isSpecialScheme scheme then specialQuerySet else querySet
      pure
        { scheme := scheme
          authority := authority
          path := path
          query := query.map fun q => String.ofList (percentEncode inQuery q)
          fragment := fragment.map fun f => String.ofList (percentEncode fragmentSet f) }

end CertCatalog.Url
