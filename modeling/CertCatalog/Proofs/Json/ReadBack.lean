import CertCatalog.Json.Printer
import CertCatalog.Proofs.Bytes.Utf8
import CertCatalog.Proofs.Json.Numbers

/-!
# Written JSON and back

What the printer writes in the compact form is read as the value that was written, provided that
all strings are texts and all numbers are spelled as numbers.
-/

namespace CertCatalog.Json

open CertCatalog.Bytes CertCatalog.Text

/-! ## Strings -/

theorem hexValue?_hexDigit {value : Nat} (hvalue : value < 16) :
    hexValue? (hexDigit value) = some value := by
  have hall : ∀ digit < 16, hexValue? (hexDigit digit) = some digit := by decide
  exact hall value hvalue

def unitBefore (unit : Nat) (rest : List Char) : Option (List Nat × List Char) :=
  (stringUnits rest).map fun (units, rest) => (unit :: units, rest)

theorem stringUnits_letter {letter c : Char} (hletter : letter ≠ 'u')
    (hc : simpleEscape? letter = some c) (rest : List Char) :
    stringUnits ('\\' :: letter :: rest) = unitBefore c.toNat rest := by
  rw [stringUnits.eq_def]
  split
  · simp_all
  · simp_all
  · simp_all
  · next h =>
      cases h
      simp only [hc, unitBefore]
      cases stringUnits rest <;> rfl
  · next h => cases h; simp_all

theorem stringUnits_code {a b c d : Char} {unit : Nat} (hunit : hex4? a b c d = some unit)
    (rest : List Char) :
    stringUnits ('\\' :: 'u' :: a :: b :: c :: d :: rest) = unitBefore unit rest := by
  simp only [stringUnits, hunit, unitBefore]
  cases stringUnits rest <;> rfl

theorem stringUnits_plain {c : Char} (hquote : c ≠ '"') (hbackslash : c ≠ '\\')
    (hcontrol : ¬c.toNat < 0x20) (rest : List Char) :
    stringUnits (c :: rest) = unitBefore c.toNat rest := by
  rw [stringUnits.eq_def]
  split
  · simp_all
  · simp_all
  · simp_all
  · simp_all
  · next h =>
      cases h
      simp only [hcontrol, if_false, unitBefore]
      cases stringUnits rest <;> rfl

/-- The step lemma: the form of one character is read as the unit of this character. -/
theorem stringUnits_escapeChar (c : Char) (rest : List Char) :
    stringUnits (escapeChar c ++ rest) = unitBefore c.toNat rest := by
  unfold escapeChar
  split
  case h_8 hquote hbackslash _ _ _ _ _ =>
    split
    · next hcontrol =>
        have hhigh := hexValue?_hexDigit (show c.toNat / 16 < 16 by omega)
        have hlow := hexValue?_hexDigit (show c.toNat % 16 < 16 by omega)
        have hzero : hexValue? '0' = some 0 := by decide
        have hunit : hex4? '0' '0' (hexDigit (c.toNat / 16)) (hexDigit (c.toNat % 16)) =
            some c.toNat := by
          simp only [hex4?, hzero, hhigh, hlow, bind, Option.bind, pure, Option.some.injEq]
          omega
        exact stringUnits_code hunit rest
    · next hcontrol => exact stringUnits_plain hquote hbackslash hcontrol rest
  all_goals exact stringUnits_letter (by decide) rfl rest

/-- The run lemma: a quoted text is read as the units of its characters. -/
theorem stringUnits_quoted (text rest : List Char) :
    stringUnits (text.flatMap escapeChar ++ '"' :: rest) = some (text.map Char.toNat, rest) := by
  induction text with
  | nil => rfl
  | cons c text ih =>
      rw [List.flatMap_cons, List.append_assoc, stringUnits_escapeChar, unitBefore, ih]
      rfl

theorem surrogate_of_toNat (c : Char) :
    isHighSurrogate c.toNat = false ∧ isLowSurrogate c.toNat = false := by
  have hvalid : c.toNat < 0xD800 ∨ 0xDFFF < c.toNat ∧ c.toNat < 0x110000 := c.valid
  simp only [isHighSurrogate, isLowSurrogate, Bool.and_eq_false_iff, decide_eq_false_iff_not]
  omega

theorem joinUnits_toNat (text : List Char) : joinUnits (text.map Char.toNat) = some text := by
  induction text with
  | nil => rfl
  | cons c text ih =>
      obtain ⟨hhigh, hlow⟩ := surrogate_of_toNat c
      cases text with
      | nil => simp [joinUnits, hhigh, hlow, Char.ofNat_toNat]
      | cons d text =>
          rw [List.map_cons, List.map_cons, joinUnits, hhigh, hlow, ← List.map_cons, ih]
          simp [Char.ofNat_toNat]

theorem stringBody_quoted (text : String) (rest : List Char) :
    stringBody (text.toList.flatMap escapeChar ++ '"' :: rest) = some (some text, rest) := by
  simp [stringBody, stringUnits_quoted, joinUnits_toNat]

theorem quoted_append (text : String) (rest : List Char) :
    quoted (some text) ++ rest = '"' :: (text.toList.flatMap escapeChar ++ '"' :: rest) := by
  simp [quoted, quotedChars]

/-! ## Values -/

/-- Whether all strings and names are texts and all numbers are number literals. -/
def isWritable : Json → Bool
  | .number literal => numberLiteral literal.toList == some (literal, [])
  | .string text => text.isSome
  | .array items => itemsWritable items
  | .object fields => fieldsWritable fields
  | _ => true
where
  itemsWritable : List Json → Bool
  | [] => true
  | item :: items => isWritable item && itemsWritable items
  fieldsWritable : List (Option String × Json) → Bool
  | [] => true
  | (name, value) :: fields => name.isSome && isWritable value && fieldsWritable fields

theorem isWritable_str (text : String) : (str text).isWritable = true := rfl

theorem isWritable_bool (value : Bool) : (Json.bool value).isWritable = true := rfl

theorem isWritable_strings (texts : List String) : (strings texts).isWritable = true := by
  rw [strings, isWritable]
  induction texts with
  | nil => rfl
  | cons text rest ih => simp [isWritable.itemsWritable, str, isWritable, ih]

theorem isWritable_nat (n : Nat) : (nat n).isWritable = true := by
  rw [nat, isWritable, toString_eq_ofList_showNat, String.toList_ofList, numberLiteral_showNat]
  exact beq_self_eq_true _

theorem isWritable_ofFields {fields : List (String × Json)}
    (hfields : ∀ field ∈ fields, field.2.isWritable = true) :
    (ofFields fields).isWritable = true := by
  rw [ofFields, isWritable]
  induction fields with
  | nil => rfl
  | cons field rest ih =>
      obtain ⟨hfield, hrest⟩ := List.forall_mem_cons.mp hfields
      simp [isWritable.fieldsWritable, hfield, ih hrest]

/-- The first character of a written value is neither a blank nor a closing bracket. -/
theorem exists_first_compactChars {value : Json} (hvalue : value.isWritable = true) :
    ∃ c rest, compactChars value = c :: rest ∧ isJsonBlank c = false ∧ c ≠ ']' := by
  cases value with
  | null => exact ⟨_, _, rfl, by decide, by decide⟩
  | bool b => cases b <;> exact ⟨_, _, rfl, by decide, by decide⟩
  | number literal =>
      obtain ⟨c, rest, htext, hc⟩ := exists_first_of_numberLiteral (beq_iff_eq.mp hvalue)
      refine ⟨c, rest, htext, ?_, ?_⟩
      · cases hblank : isJsonBlank c with
        | false => rfl
        | true =>
            simp only [isJsonBlank, Bool.or_eq_true, beq_iff_eq] at hblank
            rcases hblank with ((rfl | rfl) | rfl) | rfl <;> exact absurd hc (by decide)
      · rintro rfl
        exact absurd hc (by decide)
  | string text => exact ⟨_, _, rfl, by decide, by decide⟩
  | array items => cases items <;> exact ⟨_, _, rfl, by decide, by decide⟩
  | object fields => cases fields <;> exact ⟨_, _, rfl, by decide, by decide⟩

theorem skipBlanks_cons {c : Char} (hc : isJsonBlank c = false) (rest : List Char) :
    skipBlanks (c :: rest) = c :: rest := by
  rw [skipBlanks, List.dropWhile_cons_of_neg (by simp [hc])]

theorem skipBlanks_compactChars {value : Json} (hvalue : value.isWritable = true)
    (rest : List Char) : skipBlanks (compactChars value ++ rest) = compactChars value ++ rest := by
  obtain ⟨c, after, htext, hc, -⟩ := exists_first_compactChars hvalue
  rw [htext, List.cons_append, skipBlanks_cons hc]

open compactChars isWritable

/-- Written values are read as themselves with this fuel, as long as they are no longer than it. -/
structure ReadsBack (fuel : Nat) : Prop where
  value : ∀ value rest, value.isWritable = true → EndsNumber rest →
    (compactChars value).length ≤ fuel →
    readValue fuel (compactChars value ++ rest) = some (value, rest)
  items : ∀ item items rest, item.isWritable = true → itemsWritable items = true →
    (compactChars item).length + (compactItems items).length ≤ fuel →
    readItems fuel (compactChars item ++ (compactItems items ++ rest)) = some (item :: items, rest)
  fields : ∀ name value fields rest, value.isWritable = true → fieldsWritable fields = true →
    (compactChars value).length + (compactFields fields).length ≤ fuel →
    readFields fuel (quoted (some name) ++ ':' :: (compactChars value ++
      (compactFields fields ++ rest))) = some ((some name, value) :: fields, rest)

namespace ReadsBack

variable {fuel : Nat}

theorem readValue_number {literal : String}
    (hliteral : numberLiteral literal.toList = some (literal, [])) {rest : List Char}
    (hrest : EndsNumber rest) :
    readValue (fuel + 1) (literal.toList ++ rest) = some (.number literal, rest) := by
  obtain ⟨c, after, htext, hc⟩ := exists_first_of_numberLiteral hliteral
  have hread := numberLiteral_append hrest hliteral
  rw [htext, List.cons_append] at hread ⊢
  rw [readValue, hread]
  · rfl
  all_goals
    rintro next ⟨⟩
    exact absurd hc (by decide)

theorem value_succ (h : ReadsBack fuel) (value : Json) (rest : List Char)
    (hvalue : value.isWritable = true) (hrest : EndsNumber rest)
    (hfuel : (compactChars value).length ≤ fuel + 1) :
    readValue (fuel + 1) (compactChars value ++ rest) = some (value, rest) := by
  cases value with
  | null => rfl
  | bool b => cases b <;> rfl
  | number literal => exact readValue_number (beq_iff_eq.mp hvalue) hrest
  | string text =>
      cases text with
      | none => cases hvalue
      | some text =>
          rw [compactChars, quoted_append, readValue, stringBody_quoted]
          rfl
  | array items =>
      cases items with
      | nil => rfl
      | cons item items =>
          obtain ⟨hitem, hitems⟩ : item.isWritable = true ∧ itemsWritable items = true := by
            simpa [isWritable, itemsWritable] using hvalue
          have hread := h.items item items rest hitem hitems (by
            simp only [compactChars, List.length_append, List.length_cons] at hfuel
            omega)
          obtain ⟨c, after, htext, hc, hbracket⟩ := exists_first_compactChars hitem
          simp only [compactChars, List.cons_append, List.append_assoc, readValue]
          rw [htext, List.cons_append] at hread ⊢
          rw [skipBlanks_cons hc]
          split
          · next heq => exact absurd (List.cons.inj heq).1 hbracket
          · rw [hread]
            rfl
  | object fields =>
      rcases fields with _ | ⟨⟨name, field⟩, fields⟩
      · rfl
      · cases name with
        | none => cases hvalue
        | some name =>
            obtain ⟨hfield, hfields⟩ : field.isWritable = true ∧ fieldsWritable fields = true := by
              simpa [isWritable, fieldsWritable] using hvalue
            have hread := h.fields name field fields rest hfield hfields (by
              simp only [compactChars, List.length_append, List.length_cons] at hfuel
              omega)
            simp only [compactChars, List.cons_append, List.append_assoc]
            rw [quoted_append] at hread ⊢
            rw [readValue, skipBlanks_cons (by decide)]
            split
            · next heq => exact absurd (List.cons.inj heq).1 (by decide)
            · rw [hread]
              rfl

theorem items_succ (h : ReadsBack fuel) (item : Json) (items : List Json) (rest : List Char)
    (hitem : item.isWritable = true) (hitems : itemsWritable items = true)
    (hfuel : (compactChars item).length + (compactItems items).length ≤ fuel + 1) :
    readItems (fuel + 1) (compactChars item ++ (compactItems items ++ rest)) =
      some (item :: items, rest) := by
  cases items with
  | nil =>
      have hfirst := h.value item (']' :: rest) hitem
        (endsNumber_cons rest (by decide) (by decide) (by decide) (by decide)) (by
        simp only [compactItems, List.length_singleton] at hfuel
        omega)
      simp only [compactItems, List.singleton_append, readItems, hfirst]
      rfl
  | cons next items =>
      obtain ⟨hnext, hothers⟩ : next.isWritable = true ∧ itemsWritable items = true := by
        simpa [itemsWritable] using hitems
      simp only [compactItems, List.cons_append, List.append_assoc, List.length_cons,
        List.length_append] at hfuel ⊢
      have hfirst := h.value item
        (',' :: (compactChars next ++ (compactItems items ++ rest))) hitem
        (endsNumber_cons _ (by decide) (by decide) (by decide) (by decide)) (by omega)
      have hread := h.items next items rest hnext hothers (by omega)
      rw [← skipBlanks_compactChars hnext] at hread
      simp only [readItems, hfirst, bind, Option.bind,
        skipBlanks_cons (show isJsonBlank ',' = false by decide), hread]
      rfl

theorem fields_succ (h : ReadsBack fuel) (name : String) (value : Json)
    (fields : List (Option String × Json)) (rest : List Char) (hvalue : value.isWritable = true)
    (hfields : fieldsWritable fields = true)
    (hfuel : (compactChars value).length + (compactFields fields).length ≤ fuel + 1) :
    readFields (fuel + 1) (quoted (some name) ++ ':' :: (compactChars value ++
      (compactFields fields ++ rest))) = some ((some name, value) :: fields, rest) := by
  rw [quoted_append, readFields, stringBody_quoted]
  simp only [bind, Option.bind, skipBlanks_cons (show isJsonBlank ':' = false by decide),
    skipBlanks_compactChars hvalue]
  rcases fields with _ | ⟨⟨next, field⟩, fields⟩
  · have hfirst := h.value value ('}' :: rest) hvalue
      (endsNumber_cons rest (by decide) (by decide) (by decide) (by decide)) (by
      simp only [compactFields, List.length_singleton] at hfuel
      omega)
    simp only [compactFields, List.singleton_append, hfirst]
    rfl
  · cases next with
    | none => cases hfields
    | some next =>
        obtain ⟨hfield, hothers⟩ : field.isWritable = true ∧ fieldsWritable fields = true := by
          simpa [fieldsWritable] using hfields
        simp only [compactFields, List.cons_append, List.append_assoc, List.length_cons,
          List.length_append] at hfuel ⊢
        have hfirst := h.value value (',' :: (quoted (some next) ++ ':' :: (compactChars field ++
          (compactFields fields ++ rest)))) hvalue
          (endsNumber_cons _ (by decide) (by decide) (by decide) (by decide)) (by omega)
        have hread := h.fields next field fields rest hfield hothers (by omega)
        rw [quoted_append] at hread hfirst ⊢
        simp only [hfirst, skipBlanks_cons (show isJsonBlank ',' = false by decide),
          skipBlanks_cons (show isJsonBlank '"' = false by decide), hread]
        rfl

end ReadsBack

/-- No written value is empty, so without fuel there is nothing to read. -/
theorem ReadsBack.zero : ReadsBack 0 where
  value value rest hvalue _ hfuel := by
    obtain ⟨c, after, htext, -⟩ := exists_first_compactChars hvalue
    simp [htext] at hfuel
  items item items rest hitem _ hfuel := by
    obtain ⟨c, after, htext, -⟩ := exists_first_compactChars hitem
    simp [htext] at hfuel
  fields name value fields rest hvalue _ hfuel := by
    obtain ⟨c, after, htext, -⟩ := exists_first_compactChars hvalue
    simp [htext] at hfuel

theorem readsBack (fuel : Nat) : ReadsBack fuel := by
  induction fuel with
  | zero => exact .zero
  | succ fuel ih => exact ⟨ih.value_succ, ih.items_succ, ih.fields_succ⟩

theorem parse?_compact {value : Json} (hvalue : value.isWritable = true) :
    parse? value.compact = some value := by
  have hread := (readsBack (2 * (compactChars value).length + 2)).value value [] hvalue
    endsNumber_nil (by omega)
  have hblanks := skipBlanks_compactChars hvalue []
  rw [List.append_nil] at hread hblanks
  rw [parse?, compact, String.toList_ofList, hblanks, hread]
  rfl

/-! ## Bytes -/

theorem spelled_map_some : ∀ text : List Char, spelled (text.map some) = text
  | [] => rfl
  | [_] => rfl
  | c :: d :: rest => by
      have hrest := spelled_map_some rest
      have hnext := spelled_map_some (d :: rest)
      rw [List.map_cons] at hnext
      rw [List.map_cons, List.map_cons, spelled, hrest, hnext, Option.getD_some, ite_self]

theorem ofBytes?_of_text? {bytes : Bytes} {text : String} (htext : Bytes.text? bytes = some text) :
    ofBytes? bytes = parse? text := by
  rw [ofBytes?, readUtf8_of_text? htext, spelled_map_some, String.ofList_toList]

theorem ofBytes?_compact {value : Json} (hvalue : value.isWritable = true) :
    ofBytes? (utf8 value.compact) = some value := by
  rw [ofBytes?_of_text? (Bytes.text?_utf8 _), parse?_compact hvalue]

end CertCatalog.Json
