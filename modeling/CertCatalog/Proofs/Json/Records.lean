import CertCatalog.Json.Decoder
import CertCatalog.Proofs.Text.Decimal
import Mathlib.Data.List.Forall2

/-!
# Records in JSON

What the readers of typed values accept: texts, lists of texts, and the fields of a record, which
may stand among other fields and in any order.
-/

namespace CertCatalog.Json

open CertCatalog.Text

/-! ## Values -/

theorem mapM_eq_some_iff {α β : Type} {read : α → Option β} {items : List α} {values : List β} :
    items.mapM read = some values ↔
      List.Forall₂ (fun item value => read item = some value) items values := by
  induction items generalizing values with
  | nil => simp [eq_comm]
  | cons item rest ih =>
      rw [List.mapM_cons, List.forall₂_cons_left_iff]
      simp only [bind, pure, Option.bind_eq_some_iff, Option.some.injEq]
      constructor
      · rintro ⟨value, hvalue, others, hothers, rfl⟩
        exact ⟨value, others, hvalue, ih.mp hothers, rfl⟩
      · rintro ⟨value, others, hvalue, hothers, rfl⟩
        exact ⟨value, hvalue, others, ih.mpr hothers, rfl⟩

theorem text?_eq_some_iff {json : Json} {text : String} :
    text? json = some text ↔ json = str text := by
  cases json <;> simp [text?, str]

theorem bool?_eq_some_iff {json : Json} {value : Bool} :
    bool? json = some value ↔ json = .bool value := by
  cases json <;> simp [bool?]

@[simp] theorem text?_str (text : String) : text? (str text) = some text := rfl

theorem list?_text?_eq_some_iff {json : Json} {texts : List String} :
    list? text? json = some texts ↔ json = strings texts := by
  cases json with
  | array items =>
      rw [list?, mapM_eq_some_iff, strings, Json.array.injEq]
      simp only [text?_eq_some_iff]
      rw [← List.forall₂_map_right_iff (f := str), List.forall₂_eq_eq_eq]
  | _ => simp [list?, strings]

theorem list?_text?_strings (texts : List String) : list? text? (strings texts) = some texts :=
  list?_text?_eq_some_iff.mpr rfl

theorem nat?_nat {bound n : Nat} (hn : n < bound) : nat? bound (nat n) = some n := by
  rw [nat, nat?, naturalBelow?, toString_eq_ofList_showNat, String.toList_ofList, natural?_showNat]
  exact if_pos hn

theorem nullable?_str (text : String) : nullable? text? (str text) = some (some text) := rfl

theorem nullable?_bool (value : Bool) : nullable? bool? (.bool value) = some (some value) := rfl

/-! ## Values that can be kept -/

theorem isReadable_str (text : String) : (str text).isReadable = true := rfl

theorem isReadable_bool (value : Bool) : (Json.bool value).isReadable = true := rfl

theorem isReadable_strings (texts : List String) : (strings texts).isReadable = true := by
  rw [strings, isReadable]
  induction texts with
  | nil => rfl
  | cons text rest ih => simp [isReadable.itemsReadable, isReadable_str, ih]

theorem depth_str (text : String) : (str text).depth = 0 := rfl

theorem depth_bool (value : Bool) : (Json.bool value).depth = 0 := rfl

theorem depth_strings (texts : List String) : (strings texts).depth = 1 := by
  rw [strings, depth]
  induction texts with
  | nil => rfl
  | cons text rest ih => simpa [depth.depthItems, depth_str] using ih

/-! ## Fields -/

def IsOther (name : String) (field : Option String × Json) : Prop :=
  ∃ other, field.1 = some other ∧ other ≠ name

/--
The value of a field of a record, or none if the record lacks the field: all other names are texts,
and the name is not repeated.  An array stands for a record with this one field.
-/
inductive HasField (name : String) : Json → Option Json → Prop
  | present {before after : List (Option String × Json)} (value : Json)
      (hothers : ∀ field ∈ before ++ after, IsOther name field) :
      HasField name (.object (before ++ (some name, value) :: after)) (some value)
  | absent {fields : List (Option String × Json)} (hothers : ∀ field ∈ fields, IsOther name field) :
      HasField name (.object fields) none
  | item (value : Json) : HasField name (.array [value]) (some value)
  | noItem : HasField name (.array []) none

theorem uniqueField?_eq_none_iff {fields : List (Option String × Json)} {name : String} :
    uniqueField? fields name = some none ↔ ∀ field ∈ fields, field.1 ≠ some name := by
  unfold uniqueField?
  cases hfilter : fields.filter (·.1 == some name) with
  | nil =>
      simp only [true_iff]
      intro field hfield hname
      have hmem : field ∈ fields.filter (·.1 == some name) :=
        List.mem_filter.mpr ⟨hfield, by simp [hname]⟩
      rw [hfilter] at hmem
      cases hmem
  | cons field others =>
      have hmem : field ∈ fields.filter (·.1 == some name) := hfilter ▸ List.mem_cons_self
      obtain ⟨hfield, hname⟩ := List.mem_filter.mp hmem
      refine iff_of_false ?_ fun hnone => hnone field hfield (beq_iff_eq.mp hname)
      cases others <;> simp

theorem uniqueField?_append_cons {before after : List (Option String × Json)} {name : String}
    (hothers : ∀ field ∈ before ++ after, field.1 ≠ some name) (value : Json) :
    uniqueField? (before ++ (some name, value) :: after) name = some (some value) := by
  simp only [List.mem_append] at hothers
  have hbefore : before.filter (·.1 == some name) = [] := by
    simpa [List.filter_eq_nil_iff] using fun field hfield => hothers field (.inl hfield)
  have hafter : after.filter (·.1 == some name) = [] := by
    simpa [List.filter_eq_nil_iff] using fun field hfield => hothers field (.inr hfield)
  simp [uniqueField?, List.filter_append, hbefore, hafter]

theorem exists_of_uniqueField? {fields : List (Option String × Json)} {name : String}
    {value : Json} (hunique : uniqueField? fields name = some (some value)) :
    ∃ before after, fields = before ++ (some name, value) :: after ∧
      ∀ field ∈ before ++ after, field.1 ≠ some name := by
  unfold uniqueField? at hunique
  split at hunique
  · cases hunique
  · next other found hone =>
      cases hunique
      obtain ⟨before, after, rfl, hbefore, hname, hafter⟩ := List.filter_eq_cons_iff.mp hone
      rw [List.filter_eq_nil_iff] at hafter
      obtain rfl : other = some name := by simpa using hname
      refine ⟨before, after, rfl, fun field hfield => ?_⟩
      rcases List.mem_append.mp hfield with h | h
      · simpa using hbefore field h
      · simpa using hafter field h
  · cases hunique

theorem namedFields?_eq_some_iff {fields : List (Option String × Json)} {names : List String}
    {values : List (Option Json)} :
    namedFields? fields names = some values ↔
      (∀ field ∈ fields, field.1.isSome = true) ∧
        List.Forall₂ (fun name value => uniqueField? fields name = some value) names values := by
  unfold namedFields?
  split
  · next hall =>
      rw [mapM_eq_some_iff]
      exact (and_iff_right (List.all_eq_true.mp hall)).symm
  · next hnot =>
      refine iff_of_false (by simp) fun h => hnot ?_
      rw [List.all_eq_true]
      exact h.1

theorem isOther_iff {name : String} {field : Option String × Json} :
    IsOther name field ↔ field.1.isSome = true ∧ field.1 ≠ some name := by
  constructor
  · rintro ⟨other, hother, hne⟩
    rw [hother]
    exact ⟨rfl, fun h => hne (Option.some.inj h)⟩
  · rintro ⟨htext, hne⟩
    obtain ⟨other, hother⟩ := Option.isSome_iff_exists.mp htext
    exact ⟨other, hother, fun h => hne (hother.trans (congrArg some h))⟩

theorem hasField_object_iff {fields : List (Option String × Json)} {name : String}
    {value : Option Json} :
    HasField name (.object fields) value ↔
      (∀ field ∈ fields, field.1.isSome = true) ∧ uniqueField? fields name = some value := by
  constructor
  · intro h
    cases h with
    | @present before after value hothers =>
        simp only [isOther_iff] at hothers
        refine ⟨?_, uniqueField?_append_cons (fun field hfield => (hothers field hfield).2) value⟩
        rw [List.forall_mem_append, List.forall_mem_cons]
        rw [List.forall_mem_append] at hothers
        exact ⟨fun field hfield => (hothers.1 field hfield).1, rfl,
          fun field hfield => (hothers.2 field hfield).1⟩
    | absent hothers =>
        simp only [isOther_iff] at hothers
        exact ⟨fun field hfield => (hothers field hfield).1,
          uniqueField?_eq_none_iff.mpr fun field hfield => (hothers field hfield).2⟩
  · rintro ⟨htexts, hunique⟩
    cases value with
    | none =>
        have hnames := uniqueField?_eq_none_iff.mp hunique
        exact .absent fun field hfield => isOther_iff.mpr ⟨htexts field hfield, hnames field hfield⟩
    | some value =>
        obtain ⟨before, after, rfl, hnames⟩ := exists_of_uniqueField? hunique
        rw [List.forall_mem_append, List.forall_mem_cons] at htexts
        have hothers := List.forall_mem_append.mpr ⟨htexts.1, htexts.2.2⟩
        exact .present value fun field hfield =>
          isOther_iff.mpr ⟨hothers field hfield, hnames field hfield⟩

theorem record?_object_eq_some_iff {fields : List (Option String × Json)} {names : List String}
    {values : List (Option Json)} :
    (Json.object fields).record? names = some values ↔
      (∀ field ∈ fields, field.1.isSome = true) ∧
        List.Forall₂ (fun name value => HasField name (.object fields) value) names values := by
  simp only [record?, namedFields?_eq_some_iff, hasField_object_iff]
  constructor
  · rintro ⟨htexts, hvalues⟩
    exact ⟨htexts, hvalues.imp fun _ _ hunique => ⟨htexts, hunique⟩⟩
  · rintro ⟨htexts, hvalues⟩
    exact ⟨htexts, hvalues.imp fun _ _ hfield => hfield.2⟩

theorem record?_singleton_eq_some_iff {json : Json} {name : String}
    {values : List (Option Json)} :
    json.record? [name] = some values ↔ ∃ value, values = [value] ∧ json.HasField name value := by
  cases json with
  | object fields =>
      simp only [record?_object_eq_some_iff, List.forall₂_cons_left_iff, List.forall₂_nil_left_iff]
      constructor
      · rintro ⟨-, value, rest, hfield, rfl, rfl⟩
        exact ⟨value, rfl, hfield⟩
      · rintro ⟨value, rfl, hfield⟩
        exact ⟨(hasField_object_iff.mp hfield).1, value, [], hfield, rfl, rfl⟩
  | array items =>
      rcases items with _ | ⟨item, _ | ⟨next, rest⟩⟩
      · constructor
        · intro h
          cases h
          exact ⟨none, rfl, .noItem⟩
        · rintro ⟨value, rfl, hvalue⟩
          cases hvalue
          rfl
      · constructor
        · intro h
          cases h
          exact ⟨some item, rfl, .item item⟩
        · rintro ⟨value, rfl, hvalue⟩
          cases hvalue
          rfl
      · refine iff_of_false (by simp [record?]) ?_
        rintro ⟨value, -, hvalue⟩
        cases hvalue
  | _ =>
      refine iff_of_false (by simp [record?]) ?_
      rintro ⟨value, -, hvalue⟩
      cases hvalue

/-! ## Fields in any order -/

def named (fields : List (String × Json)) : List (Option String × Json) :=
  fields.map fun (name, value) => (some name, value)

variable {known : List (String × Json)} {fields added : List (Option String × Json)}

theorem filter_named_of_notMem {name : String} (hname : name ∉ known.map Prod.fst) :
    (named known).filter (·.1 == some name) = [] := by
  rw [List.filter_eq_nil_iff]
  intro field hfield
  obtain ⟨⟨other, value⟩, hmem, rfl⟩ := List.mem_map.mp hfield
  have hne : other ≠ name := fun heq => hname (List.mem_map.mpr ⟨_, hmem, heq⟩)
  simpa using hne

theorem filter_named (hnodup : (known.map Prod.fst).Nodup) (name : String) :
    (named known).filter (·.1 == some name) =
      ((known.lookup name).map fun value => (some name, value)).toList := by
  induction known with
  | nil => rfl
  | cons field rest ih =>
      obtain ⟨other, value⟩ := field
      rw [List.map_cons, List.nodup_cons] at hnodup
      by_cases hname : other = name
      · subst hname
        have hrest := filter_named_of_notMem hnodup.1
        simp only [named] at hrest
        simp [named, hrest]
      · have hrest := ih hnodup.2
        simp only [named] at hrest
        have hother : (name == other) = false := beq_false_of_ne (Ne.symm hname)
        simp [named, hrest, List.lookup_cons, hname, hother]

theorem uniqueField?_of_perm (hnodup : (known.map Prod.fst).Nodup)
    (hperm : fields.Perm (named known ++ added)) {name : String}
    (hname : ∀ field ∈ added, field.1 ≠ some name) :
    uniqueField? fields name = some (known.lookup name) := by
  have hadded : added.filter (·.1 == some name) = [] := by
    simpa [List.filter_eq_nil_iff] using hname
  have hfilter := hperm.filter (·.1 == some name)
  rw [List.filter_append, filter_named hnodup, hadded, List.append_nil] at hfilter
  unfold uniqueField?
  cases hvalue : known.lookup name with
  | none =>
      rw [hvalue] at hfilter
      rw [List.perm_nil.mp hfilter]
  | some value =>
      rw [hvalue] at hfilter
      rw [List.perm_singleton.mp hfilter]

theorem all_isSome_named (known : List (String × Json)) :
    (named known).all (·.1.isSome) = true := by
  simp [named]

/--
The named fields of an object do not depend on their order and on further fields, as long as the
names of these are texts.
-/
theorem namedFields?_of_perm (hnodup : (known.map Prod.fst).Nodup)
    (hperm : fields.Perm (named known ++ added)) {names : List String}
    (hnames : ∀ field ∈ added, ∀ name ∈ names, field.1 ≠ some name) :
    namedFields? fields names =
      if added.all (·.1.isSome) then some (names.map (List.lookup · known)) else none := by
  have htexts : fields.all (·.1.isSome) = added.all (·.1.isSome) := by
    rw [hperm.all_eq, List.all_append, all_isSome_named, Bool.true_and]
  have hvalues : names.mapM (uniqueField? fields) = some (names.map (List.lookup · known)) := by
    rw [mapM_eq_some_iff, List.forall₂_map_right_iff, List.forall₂_same]
    intro name hname
    exact uniqueField?_of_perm hnodup hperm fun field hfield => hnames field hfield name hname
  rw [namedFields?, htexts, hvalues]

end CertCatalog.Json
