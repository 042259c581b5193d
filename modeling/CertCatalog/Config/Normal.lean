import CertCatalog.CertificateId
import CertCatalog.Config.VaultEntry
import CertCatalog.Text.Blank
import CertCatalog.Text.Split
import CertCatalog.Url.Reader

/-!
# Normal entries

Entries are trimmed and completed before they are used, and entries that cannot be used are refused.
-/

namespace CertCatalog

open CertCatalog.Text

def defaultMount : String := "pki"

/-! ## Derived ids -/

def withoutStart (start : String) (text : String) : String :=
  match dropStart? start.toList text.toList with
  | some rest => String.ofList rest
  | none => text

def withoutScheme (address : String) : String :=
  if "https://".toList.isPrefixOf address.toList then withoutStart "https://" address
  else withoutStart "http://" address

def withoutLastSlash (text : String) : String :=
  match text.toList.reverse with
  | '/' :: rest => String.ofList rest.reverse
  | _ => text

def dashed (c : Char) : Char :=
  if c == '/' || c == ':' || c == '.' then '-' else c

def trimDashes (text : List Char) : List Char :=
  ((text.dropWhile (· == '-')).reverse.dropWhile (· == '-')).reverse

def idOfAddress (address : String) : String :=
  let server := withoutLastSlash (withoutScheme (trim address))
  String.ofList (trimDashes (server.toList.map dashed))

/-! ## Faults -/

inductive EntryFault where
  | emptyAddress
  | separatorInId (id : String)
  | emptyToken
  | invalid (badAddress emptyId : Bool)
  deriving DecidableEq, Repr

/-- Which part comes first where two do not pass.  They are kept in a hash table, so it may differ
from one run to the next, and everything that shows them takes the order as a parameter. -/
inductive FaultOrder where
  | addressFirst
  | idFirst
  deriving DecidableEq, Repr

def FaultOrder.arrange (order : FaultOrder) (address id : List String) : List String :=
  match order with
  | .addressFirst => address ++ id
  | .idFirst => id ++ address

def EntryFault.message (order : FaultOrder) : EntryFault → String
  | .emptyAddress => "vault address is empty"
  | .separatorInId id =>
      "vault id '" ++ id ++ "' must not contain '" ++ String.singleton CertificateId.separator ++ "'"
  | .emptyToken => "vault token is empty"
  | .invalid badAddress emptyId =>
      "Validation failed: " ++ joinWith "; " (order.arrange
        (if badAddress then ["address: invalid vault address"] else [])
        (if emptyId then ["id: vault id is empty"] else []))

namespace VaultEntry

/-! ## One entry -/

def normalId (e : VaultEntry) : String :=
  let id := trim e.id
  if id.isEmpty then idOfAddress (trim e.address) else id

/-- The listed mounts that are not blank, else the single mount, else the default one. -/
def normalMounts (e : VaultEntry) : List String :=
  match e.mounts.filterMap nonBlank? with
  | [] => [(nonBlank? e.mount).getD defaultMount]
  | mounts => mounts

def completed (e : VaultEntry) : VaultEntry :=
  let id := e.normalId
  let mounts := e.normalMounts
  { id := id
    address := trim e.address
    token := e.token.trimmed
    mount := (nonBlank? e.mount).getD (mounts.headD defaultMount)
    mounts := mounts
    displayName := (nonBlank? e.displayName).getD id
    skipVerification := e.skipVerification
    caBase64 := e.caBase64.bind nonBlank?
    caPath := e.caPath.bind nonBlank?
    enabled := some true }

def isAddress (address : String) : Bool :=
  match Url.parse address with
  | .ok _ => true
  | .error _ => false

def normalize (e : VaultEntry) : Except EntryFault VaultEntry :=
  let normal := e.completed
  if normal.address.isEmpty then .error .emptyAddress
  else if normal.id.toList.contains CertificateId.separator then .error (.separatorInId normal.id)
  else if normal.token.isBlank then .error .emptyToken
  else if isAddress normal.address && !normal.id.isEmpty then .ok normal
  else .error (.invalid (!isAddress normal.address) normal.id.isEmpty)

/-! ## Lists of entries -/

variable (order : FaultOrder)

def normalizeAt (place : Nat) (e : VaultEntry) : Outcome VaultEntry :=
  match e.normalize with
  | .ok normal => .ok normal
  | .error fault =>
      .error (.config ("vault " ++ toString place ++ ": " ++
        (CatalogError.config (fault.message order)).message))

/-- Normalizes the enabled entries from `place` on, whose ids may be neither `seen` nor repeated. -/
def normalizeFrom (place : Nat) (seen : List String) : List VaultEntry → Outcome (List VaultEntry)
  | [] => .ok []
  | e :: rest =>
      if !e.isEnabled then normalizeFrom (place + 1) seen rest
      else do
        let normal ← e.normalizeAt order place
        if seen.contains normal.id then
          throw (.config ("duplicate vault id: " ++ normal.id))
        else
          let others ← normalizeFrom (place + 1) (normal.id :: seen) rest
          pure (normal :: others)

def normalizeAll (entries : List VaultEntry) : Outcome (List VaultEntry) :=
  normalizeFrom order 0 [] entries

end VaultEntry
end CertCatalog
