import CertCatalog.CommandLine.Arguments
import CertCatalog.CommandLine.VariableFile
import CertCatalog.Json.Printer
import CertCatalog.Registry

/-!
# Running commands

What the program prints for its arguments, variables and files.
-/

namespace CertCatalog.CommandLine

open CertCatalog.Text

structure Output where
  exitCode : Nat
  stdout : String
  stderr : String
  deriving DecidableEq, Repr

namespace Output

def printed (text : String) : Output :=
  { exitCode := 0, stdout := text, stderr := "" }

def failed (message : String) : Output :=
  { exitCode := 1, stdout := "", stderr := "Error: " ++ message ++ "\n" }

def failedBecause (message cause : String) : Output :=
  failed (message ++ "\n\nCaused by:\n    " ++ joinWith "\n    " (splitOn cause '\n'))

def withWarning (output : Output) (warning : String) : Output :=
  { output with stderr := warning ++ output.stderr }

def ofOutcome {α : Type} (print : α → String) : Outcome α → Output
  | .ok value => printed (print value)
  | .error e => failed e.message

end Output

/-! ## Tables -/

def line (text : String) : String := text ++ "\n"

def jsonLine (json : Json) : String := line json.indented

def certificateHeader : String :=
  alignLeft 48 "ID" ++ " " ++ alignLeft 32 "COMMON NAME" ++ " " ++ alignLeft 18 "EXPIRES" ++ " " ++
    alignRight 6 "DAYS" ++ " REVOKED"

def certificateTable (now : Instant) (certificates : List Certificate) : String :=
  String.join ((certificateHeader :: certificates.map (·.row now)).map line)

def statusJson (displayName : String) (listing : VaultListing) : Json :=
  .ofFields
    [("vault_id", .str listing.vaultId), ("display_name", .str displayName),
     ("certificates", .nat listing.certificates.length), ("duration_ms", .nat listing.elapsed),
     ("error", match listing.error with
      | some e => .str e.message
      | none => .null)]

def statusRow (vault name certificates millis error : String) : String :=
  alignLeft 20 vault ++ " " ++ alignLeft 24 name ++ " " ++ alignRight 8 certificates ++ " " ++
    alignRight 10 millis ++ "  " ++ error

def statusHeader : String := statusRow "VAULT" "NAME" "CERTS" "MS" "ERROR"

def listingRow (displayName : String) (listing : VaultListing) : String :=
  statusRow listing.vaultId displayName (toString listing.certificates.length)
    (toString listing.elapsed) ((listing.error.map CatalogError.message).getD "-")

def connectionLine : Outcome Unit → String
  | .ok () => "Connection: ok"
  | .error e => "Connection: " ++ e.message

/-! ## Commands -/

/-- The state of all vaults; problems of vaults are part of the answer. -/
def status (registry : Registry) (deadlineSeconds : Nat) (json : Bool) (fleet : Fleet) :
    Output × Fleet :=
  match registry.catalog with
  | none => (.printed (line "No vault configured"), fleet)
  | some catalog =>
      let (connection, fleet) := catalog.check fleet
      let (listings, fleet) := catalog.listByVault (deadlineSeconds * 1000) fleet
      let nameOf (listing : VaultListing) : String :=
        (registry.displayName? listing.vaultId).getD listing.vaultId
      let text :=
        if json then jsonLine (.array (listings.map fun l => statusJson (nameOf l) l))
        else
          String.join ((connectionLine connection :: statusHeader ::
            listings.map fun l => listingRow (nameOf l) l).map line)
      (.printed text, fleet)

def crl (registry : Registry) (vault mount : String) (rotate : Bool) (fleet : Fleet) :
    Output × Fleet :=
  match registry.vault? vault with
  | none => (.failed ("vault '" ++ vault ++ "' is not configured or failed to start"), fleet)
  | some name =>
      if rotate then
        let (outcome, fleet) := Fleet.rotateCrl name mount fleet
        (.ofOutcome (fun _ => line ("Rotated CRL for " ++ vault ++ "|" ++ mount)) outcome, fleet)
      else
        let (outcome, fleet) := Fleet.readCrl name mount fleet
        (.ofOutcome id outcome, fleet)

def carryOut (registry : Registry) (now : Instant) (invocation : Invocation) (fleet : Fleet) :
    Output × Fleet :=
  let source := registry.source
  match invocation.command with
  | .status deadlineSeconds => status registry deadlineSeconds invocation.json fleet
  | .list refresh =>
      let (outcome, fleet) := source.list (if refresh then source.invalidate fleet else fleet)
      let print (certificates : List Certificate) : String :=
        if invocation.json then jsonLine (.array (certificates.map Certificate.toJson))
        else certificateTable now certificates
      (.ofOutcome print outcome, fleet)
  | .show id =>
      let (outcome, fleet) := source.details id fleet
      (.ofOutcome (fun details => jsonLine details.toJson) outcome, fleet)
  | .pem id =>
      let (outcome, fleet) := source.pem id fleet
      let print (record : PemRecord) : String :=
        if invocation.json then jsonLine record.toJson else record.pem
      (.ofOutcome print outcome, fleet)
  | .revoke id token =>
      let (outcome, fleet) := source.revoke id token fleet
      (.ofOutcome (fun _ => line ("Revoked " ++ id)) outcome, fleet)
  | .crl vault mount rotate => crl registry vault mount rotate fleet

/-! ## The program -/

def name : String := "pkiview"

def version : String := "0.3.0"

def usage : String := "Usage: " ++ name ++ " [OPTIONS] <COMMAND>"

def stopOutput : Stop → Output
  | .help => .printed (line usage)
  | .version => .printed (line (name ++ " " ++ version))
  | .usage => { exitCode := 2, stdout := "", stderr := line usage }

def withVariableFile (env : Variables) (files : Files) : Variables × String :=
  match files.find ".env" with
  | .ok (.file contents) =>
      match VariableFile.load env contents with
      | (env, none) => (env, "")
      | (env, some e) =>
          if (e.message.splitOn "not found").length > 1 then (env, "")
          else (env, line ("Warning: Error loading .env file: " ++ e.message))
  | _ => (env, "")

def start (order : FaultOrder) (env : Variables) (files : Files) (network : Http.Network)
    (now : Instant) (invocation : Invocation) : Output × Http.Network :=
  match Configuration.load order env files with
  | .error e => (.failedBecause "Failed to load configuration" e.message, network)
  | .ok config =>
      let logging :=
        if invocation.verbose then { config.logging with level := "debug" } else config.logging
      match logging.check (env "RUST_LOG") with
      | .error e => (.failed e.message, network)
      | .ok () =>
          let (registry, clients) := Registry.ofConfiguration config files
          let (output, fleet) :=
            carryOut registry now invocation (Fleet.start clients network true)
          (output, fleet.network)

def run (order : FaultOrder) (arguments : List String) (env : Variables) (files : Files)
    (network : Http.Network) (now : Instant) : Output × Http.Network :=
  let (env, warning) := withVariableFile env files
  let (output, network) :=
    match parse (env "VAULT_WRITE_TOKEN") .nothing arguments with
    | .error stop => (stopOutput stop, network)
    | .ok invocation => start order env files network now invocation
  (output.withWarning warning, network)

end CertCatalog.CommandLine
