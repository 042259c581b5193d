import CertCatalog.Proofs.Http.Network
import CertCatalog.Proofs.Text.Split
import CertCatalog.Proofs.Url.Text
import CertCatalog.Proofs.Vault.Memory
import CertCatalog.Proofs.Vault.RequestPaths

/-!
# Servers that show a state

The routes of a server over HTTP that shows what a server in memory holds.  A place is asked for at
one URL, and no other place is asked for there.
-/

namespace CertCatalog

open CertCatalog.Text CertCatalog.Bytes CertCatalog.Url

/-! ## Places -/

inductive Reading where
  | serials (mount : String)
  | revoked (mount : String)
  | record (mount serial : String)
  deriving DecidableEq

namespace Reading

def steps : Reading → List String
  | .serials mount => splitOn mount '/' ++ ["certs"]
  | .revoked mount => splitOn mount '/' ++ ["certs", "revoked"]
  | .record mount serial => splitOn mount '/' ++ ["cert", serial]

/-- Lists are asked for with a query of their own. -/
def query : Reading → List (String × String)
  | .record _ _ => []
  | _ => [("list", "true")]

def IsPlain (reading : Reading) : Prop :=
  ∀ step ∈ reading.steps, Remote.isStep step = true ∧ isUnbroken step = true

instance (reading : Reading) : Decidable reading.IsPlain :=
  inferInstanceAs (Decidable (∀ step ∈ reading.steps, _ ∧ _))

end Reading

/-- A mount whose parts between slashes can all stand in a path as they are. -/
def IsPlainMount (mount : String) : Prop :=
  ∀ step ∈ splitOn mount '/', Remote.isStep step = true ∧ isUnbroken step = true

instance (mount : String) : Decidable (IsPlainMount mount) :=
  inferInstanceAs (Decidable (∀ step ∈ splitOn mount '/', _ ∧ _))

namespace Reading

theorem isPlain_serials_iff {mount : String} :
    (Reading.serials mount).IsPlain ↔ IsPlainMount mount := by
  have hown : Remote.isStep "certs" = true ∧ isUnbroken "certs" = true := by decide
  simp only [IsPlain, steps, List.forall_mem_append, List.forall_mem_singleton]
  exact and_iff_left hown

theorem isPlain_revoked_iff {mount : String} :
    (Reading.revoked mount).IsPlain ↔ IsPlainMount mount := by
  have hown : ∀ step ∈ ["certs", "revoked"],
      Remote.isStep step = true ∧ isUnbroken step = true := by decide
  simp only [IsPlain, steps, List.forall_mem_append]
  exact and_iff_left hown

theorem isPlain_record_iff {mount serial : String} :
    (Reading.record mount serial).IsPlain ↔
      IsPlainMount mount ∧ Remote.isStep serial = true ∧ isUnbroken serial = true := by
  have hown : Remote.isStep "cert" = true ∧ isUnbroken "cert" = true := by decide
  simp only [IsPlain, steps, List.forall_mem_append, List.forall_mem_cons]
  simp [IsPlainMount, hown]

end Reading

def Url.baseSteps (base : Url) : List String :=
  match base.path with
  | .segments list => stepsOf list
  | .opaqueText _ => []

def Url.encodedStep (step : String) : String :=
  String.ofList (percentEncode specialSegmentSet step.toList)

/-- The place below the version of the interface with each step encoded on its own. -/
def Url.placeBelow (base : Url) (steps : List String) : Url :=
  { base with path := .segments (base.baseSteps ++ "v1" :: steps.map encodedStep) }

def Reading.url (base : Url) (reading : Reading) : String :=
  (Http.fullUrl (base.placeBelow reading.steps) reading.query).withoutFragment.text

/-- The place can be asked for: the URL of the request is not too long. -/
def Reading.Fits (base : Url) (reading : Reading) : Prop :=
  Http.Request.isShort (Http.fullUrl (base.placeBelow reading.steps) reading.query) = true

instance (base : Url) (reading : Reading) : Decidable (reading.Fits base) :=
  inferInstanceAs (Decidable (_ = true))

/-! ## What is shown -/

def dataOf (field : String) (value : Json) : Json :=
  .ofFields [("data", .ofFields [(field, value)])]

namespace MemoryBackend

/-- What is shown at a place; a record that is not there is not shown. -/
def shown? (b : MemoryBackend) : Reading → Option Json
  | .serials mount => some (dataOf "keys" (.strings (b.serialsOf mount)))
  | .revoked mount => some (dataOf "keys" (.strings (b.revokedOf mount)))
  | .record mount serial =>
      (b.pem? mount serial).map fun pem => dataOf "certificate" (.str pem)

/-- Whether there is anything at a place; an empty list may be shown or not. -/
def Holds (b : MemoryBackend) : Reading → Prop
  | .serials mount => b.serialsOf mount ≠ []
  | .revoked mount => b.revokedOf mount ≠ []
  | .record mount serial => (b.pem? mount serial).isSome = true

end MemoryBackend

def Reading.route (base : Url) (reading : Reading) (json : Json) : Http.Route :=
  { method := "GET", url := reading.url base, status := 200, body := utf8 json.compact
    once := false, delay := 0, closes := false, truncated := false }

/--
The network leads to a server that shows a state below a base: it shows all that is there, and it
answers nothing else.
-/
structure Http.Network.Shows (net : Http.Network) (base : Url) (b : MemoryBackend) : Prop where
  isReachable : net.isReachable = true
  sound : ∀ route ∈ net.routes, ∃ reading json, reading.IsPlain ∧
    b.shown? reading = some json ∧ route = reading.route base json
  complete : ∀ reading json, reading.IsPlain → b.Holds reading → b.shown? reading = some json →
    reading.route base json ∈ net.routes

/-! ## One place to a URL -/

namespace Url

theorem percentDecode_encodedStep (step : String) :
    percentDecode (encodedStep step).toList = utf8 step := by
  rw [encodedStep, String.toList_ofList,
    percentDecode_percentEncode isReversible_specialSegmentSet, utf8]

theorem encodedStep_injective : Function.Injective encodedStep := by
  intro first second heq
  apply utf8_injective
  rw [← percentDecode_encodedStep, heq, percentDecode_encodedStep]

theorem isSegment_encodedStep (step : String) : IsSegment (encodedStep step).toList := by
  rw [encodedStep, String.toList_ofList]
  constructor
  · exact not_mem_percentEncode isReversible_specialSegmentSet.outside
      ⟨⟨0x2F, by decide, by decide⟩, by decide, by decide⟩ _
  · exact not_mem_percentEncode isReversible_specialSegmentSet.outside
      ⟨⟨0x3F, by decide, by decide⟩, by decide, by decide⟩ _

end Url

namespace Reading

def fullQuery (base : Url) : Reading → Option String
  | .record _ _ => base.query
  | _ => (base.addQuery [("list", "true")]).query

theorem query_eq_of_fullQuery_eq {base : Url} {first second : Reading}
    (hquery : first.fullQuery base = second.fullQuery base) : first.query = second.query := by
  have hne := query_addQuery_ne base "list" "true"
  cases first <;> cases second <;>
    first | rfl | exact absurd hquery hne | exact absurd hquery.symm hne

theorem eq_of_steps_eq {first second : Reading} (hsteps : first.steps = second.steps)
    (hquery : first.query = second.query) : first = second := by
  have hmounts := splitOn_injective '/'
  cases first with
  | serials mount =>
      cases second with
      | serials other =>
          have hmount := List.append_cancel_right hsteps
          rw [hmounts hmount]
      | revoked other =>
          have hlast := congrArg List.getLast? hsteps
          simp [steps] at hlast
      | record other serial => cases hquery
  | revoked mount =>
      cases second with
      | serials other =>
          have hlast := congrArg List.getLast? hsteps
          simp [steps] at hlast
      | revoked other =>
          have hmount := List.append_cancel_right hsteps
          rw [hmounts hmount]
      | record other serial => cases hquery
  | record mount serial =>
      cases second with
      | serials other => cases hquery
      | revoked other => cases hquery
      | record other found =>
          simp only [steps] at hsteps
          obtain ⟨hmount, htail⟩ := List.append_inj' hsteps rfl
          obtain rfl : serial = found := by simpa using htail
          rw [hmounts hmount]

theorem toList_url {base : Url} {a : Url.Authority} (hauthority : base.authority = some a)
    (reading : Reading) :
    (reading.url base).toList =
      ((base.scheme ++ "://" ++ (Http.sentAuthority a).text).toList ++
        pathChars (base.baseSteps ++ ["v1"])) ++
      (pathChars (reading.steps.map encodedStep) ++ queryChars (reading.fullQuery base)) := by
  have hfull : Http.fullUrl (base.placeBelow reading.steps) reading.query =
      { base.placeBelow reading.steps with
        authority := some (Http.sentAuthority a), query := reading.fullQuery base } := by
    have hplace : (base.placeBelow reading.steps).authority = some a := hauthority
    rw [Http.fullUrl, Http.target_eq, hplace]
    cases reading <;> rfl
  have hpath : base.baseSteps ++ "v1" :: reading.steps.map encodedStep =
      base.baseSteps ++ ["v1"] ++ reading.steps.map encodedStep := by simp
  rw [url, hfull, toList_text rfl rfl rfl, hpath, pathChars_append, List.append_assoc,
    List.append_assoc]
  rfl

theorem url_injective {base : Url} {a : Url.Authority} (hauthority : base.authority = some a) :
    Function.Injective (Reading.url base) := by
  intro first second heq
  have hchars := congrArg String.toList heq
  rw [toList_url hauthority, toList_url hauthority, List.append_cancel_left_eq] at hchars
  have hsegments : ∀ reading : Reading, ∀ segment ∈ reading.steps.map encodedStep,
      IsSegment segment.toList := by
    intro reading segment hmem
    obtain ⟨step, -, rfl⟩ := List.mem_map.mp hmem
    exact isSegment_encodedStep step
  obtain ⟨hsteps, hquery⟩ := pathChars_append_inj (hsegments first) (hsegments second)
    (endsPath_queryChars _) (endsPath_queryChars _) hchars
  exact eq_of_steps_eq ((List.map_inj_right fun _ _ h => encodedStep_injective h).mp hsteps)
    (query_eq_of_fullQuery_eq (queryChars_injective hquery))

end Reading

/-! ## A server for every state -/

namespace MemoryBackend

def readings (b : MemoryBackend) : List Reading :=
  (b.records.flatMap fun record =>
    [.serials record.mount, .record record.mount record.serial]) ++
  b.revoked.map fun place => .revoked place.1

def routes (base : Url) (b : MemoryBackend) : List Http.Route :=
  (b.readings.filter fun reading => reading.IsPlain).filterMap fun reading =>
    (b.shown? reading).map (reading.route base)

theorem mem_readings_of_holds {b : MemoryBackend} {reading : Reading} (hholds : b.Holds reading) :
    reading ∈ b.readings := by
  cases reading with
  | serials mount =>
      obtain ⟨serial, hserial⟩ := List.exists_mem_of_ne_nil _ hholds
      obtain ⟨record, hrecord, rfl, -⟩ := exists_record_of_mem_serialsOf hserial
      exact List.mem_append_left _ (List.mem_flatMap.mpr ⟨record, hrecord, by simp⟩)
  | revoked mount =>
      obtain ⟨serial, hserial⟩ := List.exists_mem_of_ne_nil _ hholds
      obtain ⟨place, hplace, -⟩ := List.mem_map.mp hserial
      obtain ⟨hplace, hmount⟩ := List.mem_filter.mp hplace
      refine List.mem_append_right _ (List.mem_map.mpr ⟨place, hplace, ?_⟩)
      rw [eq_of_beq hmount]
  | record mount serial =>
      obtain ⟨pem, hpem⟩ := Option.isSome_iff_exists.mp hholds
      obtain ⟨record, hfind, -⟩ := Option.map_eq_some_iff.mp hpem
      have hplace : record.place = (mount, serial) := by simpa using List.find?_some hfind
      obtain ⟨rfl, rfl⟩ := Prod.mk.inj hplace
      exact List.mem_append_left _
        (List.mem_flatMap.mpr ⟨record, List.mem_of_find?_eq_some hfind, by simp⟩)

theorem shows_routes (base : Url) (b : MemoryBackend) :
    (Http.Network.ofRoutes true (b.routes base)).Shows base b where
  isReachable := rfl
  sound route hroute := by
    obtain ⟨reading, hreading, hshown⟩ := List.mem_filterMap.mp hroute
    obtain ⟨json, hjson, rfl⟩ := Option.map_eq_some_iff.mp hshown
    exact ⟨reading, json, of_decide_eq_true (List.mem_filter.mp hreading).2, hjson, rfl⟩
  complete reading json hplain hholds hjson := by
    refine List.mem_filterMap.mpr ⟨reading, List.mem_filter.mpr
      ⟨mem_readings_of_holds hholds, decide_eq_true hplain⟩, ?_⟩
    rw [hjson, Option.map_some]

end MemoryBackend
end CertCatalog
