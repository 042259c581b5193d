import CertCatalog.CommandLine.Run

/-!
# The program

Collects the variables and files that a run looks at, and prints what the run gives.  No network
is attached, so every vault server is out of reach.
-/

namespace CertCatalog.CommandLine

open CertCatalog.Text CertCatalog.Unicode

def variableNames : List String :=
  ["APP_ENV", "PKIVIEW_CACHE_CLEANUP_SECS", "PKIVIEW_CACHE_TTL_SECS", "PKIVIEW_ENV",
   "PKIVIEW_LOG_FORMAT", "PKIVIEW_LOG_LEVEL", "PKIVIEW_REQUEST_TIMEOUT_SECS",
   "PKIVIEW_SETTINGS_PATH", "RUST_LOG", "VAULT_ADDR", "VAULT_ADDRS", "VAULT_CACERT",
   "VAULT_CACERT_BYTES", "VAULT_PKI_MOUNT", "VAULT_PKI_MOUNTS", "VAULT_READ_TOKEN",
   "VAULT_SKIP_VERIFY", "VAULT_TLS_CA_CERT", "VAULT_TLS_CA_CERT_BASE64", "VAULT_TLS_INSECURE",
   "VAULT_WRITE_TOKEN"]

/-- The words of a variable file, which may be names that its values refer to. -/
def wordsOf (contents : Bytes) : List String :=
  let text := (Bytes.lossyText contents).toList
  let isSeparator (c : Char) : Bool := !isAlphanumeric c
  let isWideSeparator (c : Char) : Bool := isSeparator c && c != '_' && c != '.'
  (splitBy isSeparator text ++ splitBy isWideSeparator text).map String.ofList

/-- The node on disk that a path leads to; what is there and cannot be read is no file. -/
def readNode? (path : String) : IO (Option (String × FileNode)) := do
  try
    let contents ← IO.FS.readBinFile path
    pure (some (path, .file contents.toList))
  catch
    | .noFileOrDirectory .. => pure none
    | _ => pure (some (path, .directory))

def readNodes (paths : List String) : IO (List (String × FileNode)) :=
  (paths.filter (!·.isEmpty)).filterMapM readNode?

def readVariables (names : List String) : IO Variables := do
  let entries ← (names.filter (!·.isEmpty)).filterMapM fun name => do
    pure ((← IO.getEnv name).map fun value => (name, value))
  pure (Variables.ofList entries)

def mentioned (nodes : List (String × FileNode)) : List String :=
  nodes.flatMap fun (_, node) =>
    match node with
    | .file contents => wordsOf contents
    | .directory => []

def settingsCandidates (env : Variables) : List String :=
  (env.value? "PKIVIEW_SETTINGS_PATH").toList ++
    Configuration.settingsPaths (Configuration.deploymentName? env)

def bundlePaths (env : Variables) (files : Files) : List String :=
  match Configuration.load .addressFirst env files with
  | .ok config => config.vaults.filterMap (·.caPath)
  | .error _ => []

end CertCatalog.CommandLine

open CertCatalog CertCatalog.CommandLine

def main (arguments : List String) : IO UInt32 := do
  let variableNodes ← readNodes [".env"]
  let env ← readVariables (variableNames ++ mentioned variableNodes)
  let (complete, _) := withVariableFile env (Files.ofList variableNodes)
  let nodes := variableNodes ++ (← readNodes (settingsCandidates complete))
  let bundles ← readNodes (bundlePaths complete (Files.ofList nodes))
  let files := Files.ofList (nodes ++ bundles)
  let (output, _) :=
    run .addressFirst arguments env files (Http.Network.ofRoutes false []) Instant.epoch
  (← IO.getStdout).putStr output.stdout
  (← IO.getStderr).putStr output.stderr
  pure (UInt32.ofNat output.exitCode)
