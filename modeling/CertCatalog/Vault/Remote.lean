import CertCatalog.Config.Trust
import CertCatalog.Http.Network
import CertCatalog.Http.TrustBundle
import CertCatalog.Json.Decoder
import CertCatalog.Json.Printer
import CertCatalog.Text.Quoted
import CertCatalog.Url.Reader
import CertCatalog.Vault.Server

/-!
# Servers over HTTP

The operations of a vault server as requests below its address.  Every part of a path is encoded on
its own.
-/

namespace CertCatalog

open CertCatalog.Text

structure Remote where
  base : Url
  token : Secret
  /-- Milliseconds until a request is given up. -/
  timeout : Nat
  deriving DecidableEq

namespace Remote

/-! ## Setting up -/

def invalidAddress (address reason : String) : CatalogError :=
  .config ("invalid vault address '" ++ address ++ "': " ++ reason)

def ofAddress (address : String) (token : Secret) (trust : TrustOptions) (timeout : Nat) :
    Outcome Remote :=
  match Url.parse (trim address) with
  | .error e => .error (invalidAddress address e.message)
  | .ok base =>
      if base.isOpaque then .error (invalidAddress address "not a hierarchical URL")
      else do
        match trust.bundle with
        | some bundle => Http.TrustBundle.check bundle
        | none => pure ()
        pure { base := base, token := token, timeout := timeout }

def ofEntry (entry : VaultEntry) (files : Files) (timeout : Nat) : Outcome Remote := do
  let trust ← TrustOptions.ofEntry entry files
  ofAddress entry.address entry.token trust timeout

def debugText (r : Remote) : String :=
  describe "HttpPkiConnection" [("base", quoted r.base.text), ("token", r.token.debugText)]

/-! ## Places -/

def isStep (segment : String) : Bool :=
  !segment.isEmpty && segment != "." && segment != ".."

def endpoint (r : Remote) (segments : List String) : Outcome Url :=
  if segments.all isStep then .ok (r.base.extend ("v1" :: segments))
  else .error (.invalidCertificateId (joinWith "/" segments))

def trimSlashes (text : List Char) : List Char :=
  ((text.dropWhile (· == '/')).reverse.dropWhile (· == '/')).reverse

def belowMount (mount : String) (segments : List String) : List String :=
  splitOn (String.ofList (trimSlashes mount.toList)) '/' ++ segments

/-! ## Replies -/

def listedErrors (body : Option Bytes) : List String :=
  let errors? : Option (List String) := do
    let json ← body.bind Json.ofBytes?
    match ← json.record? ["errors"] with
    | [errors] => Json.orElse? [] (Json.list? Json.text?) errors
    | _ => none
  errors?.getD []

def failureDetail (reply : Http.Reply) : String :=
  match listedErrors reply.body with
  | [] => Http.statusText reply.status
  | errors => Http.statusText reply.status ++ ": " ++ joinWith "; " errors

def failureOf (reply : Http.Reply) (path : String) : CatalogError :=
  if reply.status == Http.unauthorized || reply.status == Http.forbidden then
    .authentication (failureDetail reply ++ " (" ++ path ++ ")")
  else .backend ("vault returned " ++ failureDetail reply ++ " for " ++ path)

def checkStatus (reply : Http.Reply) (path : String) : Outcome Unit :=
  if Http.isSuccess reply.status then .ok () else .error (failureOf reply path)

def readBody {α : Type} (read : Json → Option α) (reply : Http.Reply) (path : String) :
    Outcome α := do
  checkStatus reply path
  match (reply.body.bind Json.ofBytes?).bind read with
  | some value => pure value
  | none => throw (.backend ("malformed vault response for " ++ path ++ ": " ++ Http.unreadableBody))

def data? {α : Type} (read : Json → Option α) (json : Json) : Option α := do
  match ← json.record? ["data"] with
  | [data] => Json.required? read data
  | _ => none

def keys? (json : Json) : Option (List String) := do
  match ← json.record? ["keys"] with
  | [keys] => Json.orElse? [] (Json.list? Json.text?) keys
  | _ => none

def certificate? (json : Json) : Option String := do
  match ← json.record? ["certificate"] with
  | [certificate] => Json.orElse? "" Json.text? certificate
  | _ => none

def health? (json : Json) : Option Health := do
  match ← json.record? ["initialized", "sealed"] with
  | [initialized, sealed] =>
      pure
        { initialized := ← Json.required? Json.bool? initialized
          sealed := ← Json.required? Json.bool? sealed }
  | _ => none

/-! ## Requests -/

/-- Sends a request; its failure names the URL without the query. -/
def send (r : Remote) (request : Http.Request) (query : List (String × String)) :
    Action Http.Network Http.Reply :=
  fun net =>
    match net.send request query r.timeout with
    | (.ok reply, net) => (.ok reply, net)
    | (.error e, net) =>
        (.error (.connection ("request to " ++ request.url.text ++ " failed: " ++ e.message)), net)

def get (r : Remote) (segments : List String) (query : List (String × String)) :
    Action Http.Network (Http.Reply × String) := do
  let url ← .answer (r.endpoint segments)
  let reply ← r.send { method := .get, url := url, token := some r.token, body := none } query
  pure (reply, url.path.text)

/-- The keys of a list; a list that does not exist is empty. -/
def listKeys (r : Remote) (segments : List String) : Action Http.Network (List String) := do
  let (reply, path) ← r.get segments [("list", "true")]
  if reply.status == Http.notFound then pure []
  else .answer (readBody (data? keys?) reply path)

def readRecord (r : Remote) (mount serial : String) : Action Http.Network (Option String) := do
  let (reply, path) ← r.get (belowMount mount ["cert", serial]) []
  if reply.status == Http.notFound then pure none
  else
    let certificate ← .answer (readBody (data? certificate?) reply path)
    pure (if isAllBlank certificate then none else some certificate)

def revocationBody (serial : String) : String :=
  (Json.ofFields [("serial_number", .str serial)]).compact

def revoke (r : Remote) (mount serial token : String) : Action Http.Network Unit := do
  let url ← .answer (r.endpoint (belowMount mount ["revoke"]))
  let reply ← r.send
    { method := .post, url := url, token := some ⟨token⟩, body := some (revocationBody serial) } []
  .answer (checkStatus reply url.path.text)

/-- Asks that every state of health is answered with a success. -/
def healthQuery : List (String × String) :=
  [("standbyok", "true"), ("perfstandbyok", "true"), ("sealedcode", "200"), ("uninitcode", "200")]

def health (r : Remote) : Action Http.Network Health := do
  let url ← .answer (r.endpoint ["sys", "health"])
  let reply ← r.send { method := .get, url := url, token := none, body := none } healthQuery
  .answer (readBody health? reply url.path.text)

def checkToken (r : Remote) : Action Http.Network Unit := do
  let (reply, path) ← r.get ["auth", "token", "lookup-self"] []
  .answer (checkStatus reply path)

def readCrl (r : Remote) (mount : String) : Action Http.Network String := do
  let (reply, path) ← r.get (belowMount mount ["crl", "pem"]) []
  .answer (checkStatus reply path)
  match reply.body with
  | some body => pure (Bytes.lossyText body)
  | none =>
      .answer (.error (.backend ("failed to read CRL for " ++ mount ++ ": " ++ Http.unreadableBody)))

def rotateCrl (r : Remote) (mount : String) : Action Http.Network Unit := do
  let (reply, path) ← r.get (belowMount mount ["crl", "rotate"]) []
  .answer (checkStatus reply path)

def server (r : Remote) : Server Http.Network where
  listSerials mount := r.listKeys (belowMount mount ["certs"])
  listRevoked mount := r.listKeys (belowMount mount ["certs", "revoked"])
  readRecord := r.readRecord
  revoke := r.revoke
  health := r.health
  checkToken := r.checkToken
  readCrl := r.readCrl
  rotateCrl := r.rotateCrl

end Remote
end CertCatalog
