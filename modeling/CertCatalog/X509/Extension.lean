import CertCatalog.Bytes.Utf8
import CertCatalog.X509.Name

/-!
# Extensions

The list of extensions, and the two that are looked into: alternative names and extended key usage.
-/

namespace CertCatalog.X509

open CertCatalog.Bytes CertCatalog.Der

structure Extension where
  id : ObjectId
  value : Bytes
  deriving DecidableEq, Repr

/-! ## The list -/

def criticalFlag : Reader Unit := fun bytes =>
  match openElement bytes with
  | some (e, rest) =>
      if e.tag == 1 && e.header.length == some 1 then some ((), rest) else some ((), bytes)
  | none => some ((), bytes)

def extension : Reader Extension :=
  sequence do
    let id ← objectId
    criticalFlag
    let value ← octetString
    pure { id := id, value := value }

def extensionSequence : Reader (List Extension) := do
  let e ← element
  if e.tag == sequenceTag && e.constructed then
    match all extension e.contents with
    | some extensions => pure extensions
    | none => failure
  else failure

/-- The extensions that end a certificate: nothing at all, or one element that fills the rest. -/
def extensions : Reader (List Extension) := do
  if ← atEnd then pure []
  else
    let header ← header
    if header.tag != 3 || header.length.isNone then failure
    else
      let found ← extensionSequence
      if ← atEnd then pure found else failure

def valueOf? (list : List Extension) (id : ObjectId) : Option Bytes :=
  match list.filter (·.id == id) with
  | [only] => some only.value
  | _ => none

/-! ## Alternative names -/

inductive GeneralName where
  | email (address : String)
  | dns (host : String)
  | ip (address : Bytes)
  | other (kind : Nat)
  deriving DecidableEq, Repr

def alternativeNamesId : ObjectId := ObjectId.ofArcs [2, 5, 29, 17]

/-- The name in an element.  Kinds that are not reported are still checked. -/
def generalName? (e : Element) : Option GeneralName :=
  if e.header.tagClass != .contextSpecific then none
  else
    match e.tag with
    | 0 => (objectId e.contents).map fun _ => .other 0
    | 1 => (text? e.contents).map .email
    | 2 => (text? e.contents).map .dns
    | 4 =>
        match name e.contents with
        | some (_, []) => some (.other 4)
        | _ => none
    | 6 => (text? e.contents).map fun _ => .other 6
    | 7 => some (.ip e.contents)
    | kind => if kind ≤ 8 then some (.other kind) else none

def generalName : Reader GeneralName := do
  match generalName? (← element) with
  | some name => pure name
  | none => failure

def generalNames? (value : Bytes) : Option (List GeneralName) :=
  match element value with
  | some (e, _) =>
      if e.tag == sequenceTag && e.constructed then all generalName e.contents else none
  | none => none

/-- The alternative names, none when the extension is absent, doubled or malformed. -/
def alternativeNames (list : List Extension) : List GeneralName :=
  ((valueOf? list alternativeNamesId).bind generalNames?).getD []

/-! ## Extended key usage -/

def extendedUsageId : ObjectId := ObjectId.ofArcs [2, 5, 29, 37]

def usages? (value : Bytes) : Option (List ObjectId) :=
  match element value with
  | some (e, _) =>
      if e.tag == sequenceTag then all objectId e.contents else none
  | none => none

def reportedUsages : List (ObjectId × String) :=
  [(ObjectId.ofArcs [1, 3, 6, 1, 5, 5, 7, 3, 1], "Server Auth"),
   (ObjectId.ofArcs [1, 3, 6, 1, 5, 5, 7, 3, 2], "Client Auth"),
   (ObjectId.ofArcs [1, 3, 6, 1, 5, 5, 7, 3, 3], "Code Signing"),
   (ObjectId.ofArcs [1, 3, 6, 1, 5, 5, 7, 3, 4], "Email Protection")]

def usageNames (list : List Extension) : List String :=
  let present := ((valueOf? list extendedUsageId).bind usages?).getD []
  (reportedUsages.filter fun (id, _) => present.contains id).map (·.2)

end CertCatalog.X509
