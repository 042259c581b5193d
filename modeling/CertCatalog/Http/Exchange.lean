import CertCatalog.Bytes.Utf8
import CertCatalog.Json.Value
import CertCatalog.Secret
import CertCatalog.Url.Basic

/-!
# Requests and replies

What a client sends to a vault server and what can come back.
-/

namespace CertCatalog.Http

inductive Method where
  | get
  | post
  deriving DecidableEq, Repr

def Method.name : Method → String
  | .get => "GET"
  | .post => "POST"

structure Request where
  method : Method
  url : Url
  token : Option Secret
  body : Option String
  deriving DecidableEq

/-- A reply whose body was cut short has none. -/
structure Reply where
  status : Nat
  body : Option Bytes
  /-- The URL that the reply leads to, seen from the one that it answers. -/
  location : Option Url := none
  deriving DecidableEq, Repr

namespace Request

def isLegalToken (token : Secret) : Bool :=
  token.exposed.toList.all fun c => (0x20 ≤ c.toNat && c.toNat != 0x7F) || c == '\t'

def isHostChar (c : Char) : Bool :=
  c.isAlphanum || "-._~!$&'()*+,;=:[]%".toList.contains c

/-- The most bytes that the URL of a request may have. -/
def longestUrl : Nat := 65534

def isShort (url : Url) : Bool :=
  (Bytes.utf8 url.text).length ≤ longestUrl

def isUsable (url : Url) : Bool :=
  isShort url && url.authority.any fun a => a.host.text.toList.all isHostChar

def isWeb (url : Url) : Bool :=
  url.scheme == "http" || url.scheme == "https"

/--
The URL that is sent to.  Its credentials go into a header of their own, unless the username is
no text.
-/
def target (url : Url) : Url :=
  match url.authority with
  | some authority =>
      if (Bytes.text? (Url.percentDecode authority.username.toList)).isNone then url
      else if authority.username.isEmpty &&
          (Bytes.text? (Url.percentDecode authority.password.toList)).isNone then url
      else url.withoutCredentials
  | none => url

/--
The request that a reply asks for instead.  Where the resource has moved it becomes a reading without
a body, and where the request is to be repeated it stays as it is; the token goes along either way.
-/
def redirected? (request : Request) (reply : Reply) : Option Request :=
  match reply.location with
  | none => none
  | some url =>
      if !isUsable url then none
      else if [301, 302, 303].contains reply.status then
        some { request with method := .get, url := url, body := none }
      else if [307, 308].contains reply.status then some { request with url := url }
      else none

end Request

/-! ## Failures -/

inductive Failure where
  | unusableUrl (url : Url)
  | illegalToken
  | noReply (url : Url)
  | tooManyRedirects (url : Url)
  deriving DecidableEq

def Failure.message : Failure → String
  | .unusableUrl url => "builder error for url (" ++ url.text ++ ")"
  | .illegalToken => "builder error"
  | .noReply url => "error sending request for url (" ++ url.text ++ ")"
  | .tooManyRedirects url => "error following redirect for url (" ++ url.text ++ ")"

def unreadableBody : String := "error decoding response body"

end CertCatalog.Http
