import CertCatalog.Url.Address
import CertCatalog.Url.Domain
import CertCatalog.Url.Percent

/-!
# URLs

The parts of a URL and its text.  All parts hold their encoded text.
-/

namespace CertCatalog

inductive Url.Host where
  | empty
  | domain (name : String)
  | ipv4 (address : Nat)
  | ipv6 (groups : List Nat)
  deriving DecidableEq, Repr

/-- What stands between the two slashes after the scheme and the path. -/
structure Url.Authority where
  username : String
  password : String
  host : Url.Host
  port : Option Nat
  deriving DecidableEq, Repr

inductive Url.Path where
  | segments (list : List String)
  /-- A text without structure, for URLs that no other URL can be relative to. -/
  | opaqueText (text : String)
  deriving DecidableEq, Repr

structure Url where
  scheme : String
  authority : Option Url.Authority
  path : Url.Path
  query : Option String
  fragment : Option String
  deriving DecidableEq, Repr

namespace Url

/-! ## Schemes -/

def isSpecialScheme (scheme : String) : Bool :=
  ["http", "https", "ws", "wss", "ftp", "file"].contains scheme

def isSpecial (u : Url) : Bool :=
  isSpecialScheme u.scheme

def defaultPort? : String → Option Nat
  | "http" | "ws" => some 80
  | "https" | "wss" => some 443
  | "ftp" => some 21
  | _ => none

/-! ## Text -/

def Host.text : Host → String
  | .empty => ""
  | .domain name => name
  | .ipv4 address => ipv4Text address
  | .ipv6 groups => "[" ++ IpAddress.compressed groups ++ "]"

def Authority.credentialsText (a : Authority) : String :=
  if a.username.isEmpty && a.password.isEmpty then ""
  else if a.password.isEmpty then a.username ++ "@"
  else a.username ++ ":" ++ a.password ++ "@"

def Authority.text (a : Authority) : String :=
  a.credentialsText ++ a.host.text ++
    (match a.port with
    | some port => ":" ++ toString port
    | none => "")

def Path.text : Path → String
  | .segments list => String.join (list.map ("/" ++ ·))
  | .opaqueText text => text

/--
The text before the path.  A path that starts with two slashes and has no authority before it is
kept apart from the scheme by a dot segment.
-/
def startText (u : Url) : String :=
  match u.authority with
  | some a => u.scheme ++ "://" ++ a.text
  | none =>
      match u.path with
      | .segments ("" :: _ :: _) => u.scheme ++ ":/."
      | _ => u.scheme ++ ":"

def text (u : Url) : String :=
  u.startText ++ u.path.text ++
    (match u.query with
    | some query => "?" ++ query
    | none => "") ++
    (match u.fragment with
    | some fragment => "#" ++ fragment
    | none => "")

/-! ## Questions -/

def isOpaque (u : Url) : Bool :=
  match u.path with
  | .opaqueText _ => true
  | .segments _ => false

def hasHost (u : Url) : Bool :=
  match u.authority with
  | some a => a.host != .empty
  | none => false

def withoutCredentials (u : Url) : Url :=
  { u with authority := u.authority.map fun a => { a with username := "", password := "" } }

def withoutFragment (u : Url) : Url :=
  { u with fragment := none }

/-! ## Paths -/

def isRoot (segments : List String) : Bool :=
  segments.isEmpty || segments == [""]

def appendSegment (segments : List String) (segment : String) : List String :=
  if isRoot segments then [segment] else segments ++ [segment]

def parentOf (segments : List String) : List String :=
  (if isRoot segments then [] else segments.dropLast) ++ [""]

/--
Adds a segment after encoding it.  Tabs and line breaks are dropped; a segment that is one or two
dots after that acts as a step in the tree of paths.
-/
def pushSegment (special : Bool) (segments : List String) (segment : String) : List String :=
  let kept := segment.toList.filter fun c => c != '\t' && c != '\n' && c != '\r'
  let encoded :=
    String.ofList (percentEncode (if special then specialSegmentSet else segmentSet) kept)
  if encoded == ".." then parentOf segments
  else if encoded == "." then appendSegment segments ""
  else appendSegment segments encoded

def popIfEmpty (segments : List String) : List String :=
  if segments.length > 1 && segments.getLast? == some "" then segments.dropLast else segments

def extend (u : Url) (added : List String) : Url :=
  match u.path with
  | .segments list =>
      let pushed := (added.filter fun s => s != "." && s != "..").foldl (pushSegment u.isSpecial)
        (popIfEmpty list)
      { u with path := .segments pushed }
  | .opaqueText _ => u

/-! ## Queries -/

def addQuery (u : Url) (pairs : List (String × String)) : Url :=
  let added := String.intercalate "&" (pairs.map fun (name, value) => name ++ "=" ++ value)
  let old := u.query.getD ""
  let query := if old.isEmpty then added else old ++ "&" ++ added
  { u with query := if query.isEmpty then none else some query }

end Url
end CertCatalog
