import CertCatalog.Bytes.Utf8
import CertCatalog.Http.Exchange
import CertCatalog.Http.Status
import CertCatalog.Json.Printer
import CertCatalog.Text.Blank

/-!
# Networks

A network with a script: routes that tell how requests are answered.  Only plain requests reach a
server; a secured one never connects, and nothing connects in a network that is out of reach.
-/

namespace CertCatalog.Http

structure Route where
  method : String
  /-- The URL with its query and without credentials and fragment. -/
  url : String
  status : Nat
  body : Bytes
  once : Bool
  /-- How long the server waits before it answers, in milliseconds. -/
  delay : Nat
  closes : Bool
  /-- The body ends before its announced length. -/
  truncated : Bool
  location : Option Url := none
  deriving DecidableEq, Repr

structure Received where
  method : String
  url : String
  token : Option String
  body : String
  deriving DecidableEq, Repr

def Route.answers (route : Route) (r : Received) : Bool :=
  route.method == r.method && route.url == r.url

def Route.reply (route : Route) : Reply :=
  { status := route.status
    body := if route.truncated then none else some route.body
    location := route.location }

structure Network where
  isReachable : Bool
  routes : List Route
  received : List Received
  /-- How long callers have waited, one millisecond for each attempt and all delays, at least. -/
  waited : Nat
  deriving DecidableEq, Repr

namespace Network

def ofRoutes (isReachable : Bool) (routes : List Route) : Network :=
  { isReachable := isReachable, routes := routes, received := [], waited := 0 }

def receive (request : Request) : Received :=
  { method := request.method.name
    url := (Request.target request.url).withoutFragment.text
    token := request.token.map fun token => Text.trim token.exposed
    body := request.body.getD "" }

def noRoute : Reply :=
  { status := notFound, body := some (Bytes.utf8 (Json.ofFields [("errors", .array [])]).compact) }

def used (routes : List Route) (route : Route) : List Route :=
  if route.once then routes.erase route else routes

/-- Delivers a request; a server that is too slow for the timeout counts as silent. -/
def deliver (net : Network) (request : Received) (timeout : Nat) : Option Reply × Network :=
  let net := { net with received := net.received ++ [request] }
  match net.routes.find? (·.answers request) with
  | none => (some noRoute, { net with waited := net.waited + 1 })
  | some route =>
      let net :=
        { net with
          routes := used net.routes route
          waited := net.waited + 1 + min route.delay timeout }
      if route.closes || timeout < route.delay then (none, net) else (some route.reply, net)

def transmit (net : Network) (request : Request) (timeout : Nat) : Option Reply × Network :=
  if request.url.scheme == "https" || !net.isReachable then
    (none, { net with waited := net.waited + 1 })
  else net.deliver (receive request) timeout

def mostRedirects : Nat := 10

/--
Sends a request and those that the replies ask for instead, until a reply leads nowhere.  All of them
share the time.
-/
def follow (net : Network) (request : Request) (timeout redirects : Nat) :
    Except Failure Reply × Network :=
  match net.transmit request timeout with
  | (none, after) => (.error (.noReply request.url), after)
  | (some reply, after) =>
      match request.redirected? reply with
      | none => (.ok reply, after)
      | some next =>
          match redirects with
          | 0 => (.error (.tooManyRedirects request.url), after)
          | left + 1 =>
              if Request.isWeb next.url then
                after.follow next (timeout - (after.waited - net.waited)) left
              else (.error (.unusableUrl next.url), after)

/--
Builds a request and sends it.  The URL of a request needs a host, which is looked at before the
query is added; token, scheme, length and host are looked at after that.
-/
def send (net : Network) (request : Request) (query : List (String × String)) (timeout : Nat) :
    Except Failure Reply × Network :=
  let target := Request.target request.url
  let full := if query.isEmpty then target else target.addQuery query
  if !request.url.hasHost then (.error (.unusableUrl request.url), net)
  else if !request.token.all Request.isLegalToken then (.error .illegalToken, net)
  else if !Request.isWeb full || !Request.isUsable full then (.error (.unusableUrl full), net)
  else net.follow { request with url := full } timeout mostRedirects

end Network
end CertCatalog.Http
