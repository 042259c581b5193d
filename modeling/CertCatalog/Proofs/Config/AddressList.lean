import CertCatalog.Proofs.Config.Sources
import CertCatalog.Proofs.Text.Split
import Mathlib.Data.List.Forall2
import Mathlib.Logic.Function.Basic

/-!
# The address list

Items that are written into the list are read back from it in their order.  A piece without an entry
takes part in the numbering of the vaults behind it and in nothing else.
-/

namespace CertCatalog

open CertCatalog.Text

def Variables.withAddresses (env : Variables) (pieces : List String) : Variables :=
  Function.update env "VAULT_ADDRS" (some (joinWith "," pieces))

namespace AddressList

/-! ## Items of pieces -/

/-- An item with an address and a token, maybe the common one. -/
def Item.isComplete (defaults : Defaults) (item : Item) : Bool :=
  !item.address.isEmpty && !(item.token.getD defaults.token).isEmpty

def Item.entry (defaults : Defaults) (place : Nat) (item : Item) : VaultEntry where
  id := item.id.getD ("vault-" ++ toString place)
  address := item.address
  token := ⟨item.token.getD defaults.token⟩
  mount := item.mount.getD "pki"
  mounts := [item.mount.getD "pki"]
  displayName := ""
  skipVerification := defaults.trust.skipVerification
  caBase64 := defaults.trust.caBase64
  caPath := defaults.trust.caPath
  enabled := none

def Item.entryAt (defaults : Defaults) (placed : Item × Nat) : VaultEntry :=
  placed.1.entry defaults placed.2

/-- The item of a piece, unless the piece is passed over. -/
def itemOf? (defaults : Defaults) (piece : String) : Option Item :=
  (nonBlank? piece).bind fun text => (Item.ofText? text).filter (Item.isComplete defaults)

/-- The items of the pieces from `place` on, each with the place of its piece. -/
def placedItems (defaults : Defaults) (place : Nat) (pieces : List String) : List (Item × Nat) :=
  (pieces.zipIdx place).filterMap fun (piece, place) => (itemOf? defaults piece).map (·, place)

theorem complete?_eq (defaults : Defaults) (place : Nat) (item : Item) :
    item.complete? defaults place =
      if item.isComplete defaults then some (item.entry defaults place) else none := by
  unfold Item.complete? Item.isComplete
  dsimp only
  cases item.address.isEmpty <;> cases (item.token.getD defaults.token).isEmpty <;> rfl

theorem ofPiece?_eq (defaults : Defaults) (place : Nat) (piece : String) :
    ofPiece? defaults place piece = (itemOf? defaults piece).map (Item.entry defaults place) := by
  unfold ofPiece? itemOf?
  cases nonBlank? piece with
  | none => rfl
  | some text =>
      cases hitem : Item.ofText? text with
      | none => simp [hitem]
      | some item =>
          simp only [Option.bind_some, hitem, complete?_eq, Option.filter_some]
          split <;> rfl

theorem placedItems_cons (defaults : Defaults) (place : Nat) (piece : String)
    (rest : List String) : placedItems defaults place (piece :: rest) =
      ((itemOf? defaults piece).map (·, place)).toList ++ placedItems defaults (place + 1) rest := by
  rw [placedItems, List.zipIdx_cons, List.filterMap_cons, placedItems]
  dsimp only
  cases itemOf? defaults piece <;> rfl

theorem placedItems_append (defaults : Defaults) (place : Nat) (front back : List String) :
    placedItems defaults place (front ++ back) =
      placedItems defaults place front ++ placedItems defaults (place + front.length) back := by
  rw [placedItems, List.zipIdx_append, List.filterMap_append, placedItems, placedItems]

theorem placedItems_succ (defaults : Defaults) (place : Nat) (pieces : List String) :
    placedItems defaults (place + 1) pieces =
      (placedItems defaults place pieces).map (Prod.map id (· + 1)) := by
  induction pieces generalizing place with
  | nil => rfl
  | cons piece rest ih =>
      rw [placedItems_cons, placedItems_cons, ih, List.map_append]
      cases itemOf? defaults piece <;> rfl

theorem entriesFrom_eq (defaults : Defaults) (place : Nat) (pieces : List String) :
    entriesFrom defaults place pieces =
      (placedItems defaults place pieces).map (Item.entryAt defaults) := by
  induction pieces generalizing place with
  | nil => rfl
  | cons piece rest ih =>
      rw [entriesFrom, ih, placedItems_cons, ofPiece?_eq, List.map_append]
      cases itemOf? defaults piece <;> rfl

/-! ## Blanks around pieces -/

theorem itemOf?_trim (defaults : Defaults) (piece : String) :
    itemOf? defaults (trim piece) = itemOf? defaults piece := by
  rw [itemOf?, itemOf?, nonBlank?, nonBlank?, trim_trim]

theorem placedItems_map_trim (defaults : Defaults) (place : Nat) (pieces : List String) :
    placedItems defaults place (pieces.map trim) = placedItems defaults place pieces := by
  induction pieces generalizing place with
  | nil => rfl
  | cons piece rest ih => rw [List.map_cons, placedItems_cons, placedItems_cons, itemOf?_trim, ih]

/-- Blanks around the whole list are blanks around its first and its last piece. -/
theorem map_trim_splitOn_trim {separator : Char} (hseparator : isBlank separator = false)
    (text : String) :
    (splitOn (trim text) separator).map trim = (splitOn text separator).map trim := by
  obtain ⟨front, back, hfront, hback, htext⟩ := exists_blanks_around text.toList
  have hplain : ∀ c, isBlank c = true → (c == separator) = false := by
    intro c hc
    refine beq_eq_false_iff_ne.mpr ?_
    rintro rfl
    exact Bool.false_ne_true (hseparator.symm.trans hc)
  obtain ⟨parts, last, hparts, hlonger⟩ := exists_splitBy_append_right (· == separator)
    (fun c hc => hplain c (hback c hc)) (trimChars text.toList)
  have hchars : (splitBy (· == separator) (trimChars text.toList)).map trimChars =
      (splitBy (· == separator) text.toList).map trimChars := by
    nth_rewrite 2 [htext]
    rw [List.append_assoc, splitBy_append_left _ fun c hc => hplain c (hfront c hc), hlonger, hparts]
    cases parts with
    | nil => simp [trimChars_blanks_append hfront, trimChars_append_blanks hback]
    | cons first rest =>
        simp [trimChars_blanks_append hfront, trimChars_append_blanks hback]
  have htrim : ∀ list : List (List Char),
      (list.map String.ofList).map trim = (list.map trimChars).map String.ofList := by
    intro list
    simp [trim]
  rw [splitOn, splitOn, htrim, htrim, trim, String.toList_ofList, hchars]

theorem entries_trim (defaults : Defaults) (text : String) :
    entries defaults (trim text) = entries defaults text := by
  rw [entries, entries, entriesFrom_eq, entriesFrom_eq, ← placedItems_map_trim,
    map_trim_splitOn_trim (by decide), placedItems_map_trim]

theorem entries_empty (defaults : Defaults) : entries defaults "" = [] := by
  rfl

theorem ofVariables_eq {env : Variables} {text : String} (htext : env "VAULT_ADDRS" = some text) :
    ofVariables env = entries (.ofVariables env) text := by
  rw [ofVariables, Variables.value?, htext, Option.bind_some, nonBlank?_eq_ite]
  by_cases hblank : isAllBlank text = true
  · rw [if_pos hblank, ← entries_trim, trim_of_isAllBlank hblank, entries_empty]
  · rw [if_neg hblank]
    exact entries_trim _ text

theorem defaults_withAddresses (env : Variables) (pieces : List String) :
    Defaults.ofVariables (env.withAddresses pieces) = .ofVariables env := by
  have hsame : ∀ name, name ≠ "VAULT_ADDRS" →
      (env.withAddresses pieces).value? name = env.value? name := by
    intro name hname
    rw [Variables.value?, Variables.withAddresses, Function.update_of_ne hname, ← Variables.value?]
  simp [Defaults.ofVariables, TrustSettings.ofVariables, Variables.firstValue?,
    Variables.isSwitchedOn, List.findSome?_cons, hsame]

theorem ofVariables_withAddresses (env : Variables) {pieces : List String}
    (hplain : ∀ piece ∈ pieces, ',' ∉ piece.toList) :
    ofVariables (env.withAddresses pieces) =
      (placedItems (.ofVariables env) 1 pieces).map (Item.entryAt (.ofVariables env)) := by
  have htext : env.withAddresses pieces "VAULT_ADDRS" = some (joinWith "," pieces) :=
    Function.update_self ..
  rw [ofVariables_eq htext, defaults_withAddresses]
  cases pieces with
  | nil => exact entries_empty _
  | cons piece rest =>
      have hcut : splitOn (joinWith "," (piece :: rest)) ',' = piece :: rest :=
        splitOn_joinWith (List.cons_ne_nil piece rest) hplain
      rw [entries, hcut, entriesFrom_eq]

/-! ## Written items -/

def itemText (id : Option String) (parts : List String) : String :=
  id.elim "" (· ++ "@") ++ joinWith "#" parts

/-- The id and the parts are those that their text is cut into, and nothing is trimmed from it. -/
structure IsCutInto (id : Option String) (parts : List String) : Prop where
  id_ne_empty : id ≠ some ""
  id_plain : ∀ given, id = some given → '@' ∉ given.toList
  id_omitted : id = none → '@' ∉ (joinWith "#" parts).toList ∨
    (joinWith "#" parts).toList.head? = some '@'
  parts_ne_nil : parts ≠ []
  parts_plain : ∀ part ∈ parts, '#' ∉ part.toList
  trimmed : trim (itemText id parts) = itemText id parts

def IsWrittenAs (text piece : String) : Prop :=
  ∃ front back, isAllBlank front = true ∧ isAllBlank back = true ∧ piece = front ++ text ++ back

theorem trim_of_isWrittenAs {text piece : String} (hwritten : IsWrittenAs text piece) :
    trim piece = trim text := by
  obtain ⟨front, back, hfront, hback, rfl⟩ := hwritten
  rw [trim, String.toList_append, String.toList_append,
    trimChars_append_blanks (List.all_eq_true.mp hback),
    trimChars_blanks_append (List.all_eq_true.mp hfront), ← trim]

theorem isWrittenAs_trim (piece : String) : IsWrittenAs (trim piece) piece := by
  obtain ⟨front, back, hfront, hback, hpiece⟩ := exists_blanks_around piece.toList
  refine ⟨String.ofList front, String.ofList back, ?_, ?_, ?_⟩
  · rwa [isAllBlank, String.toList_ofList, List.all_eq_true]
  · rwa [isAllBlank, String.toList_ofList, List.all_eq_true]
  · apply String.toList_injective
    simpa [trim] using hpiece

theorem splitId_itemText {id : Option String} {parts : List String} (hcut : IsCutInto id parts) :
    splitId (itemText id parts) = (id, joinWith "#" parts) := by
  generalize hrest : joinWith "#" parts = rest
  cases id with
  | some given =>
      have hne : given ≠ "" := fun hempty => hcut.id_ne_empty (congrArg some hempty)
      have hsplit : cut? (given ++ "@" ++ rest) '@' = some (given, rest) :=
        cut?_append_separator (hcut.id_plain given rfl) rest
      rw [itemText, hrest, splitId, Option.elim_some, hsplit]
      simp [hne]
  | none =>
      have htext : itemText none parts = rest := by
        rw [itemText, hrest, Option.elim_none, String.empty_append]
      rw [htext, splitId]
      rcases hrest ▸ hcut.id_omitted rfl with hplain | hhead
      · rw [cut?_of_not_mem hplain]
      · -- An at sign in front leaves no id before it.
        obtain ⟨tail, htail⟩ := List.head?_eq_some_iff.mp hhead
        have hsplit : cut? ("" ++ "@" ++ String.ofList tail) '@' = some ("", String.ofList tail) :=
          cut?_append_separator (by simp) _
        have hfront : "" ++ "@" ++ String.ofList tail = rest := by
          apply String.toList_injective
          simp [htail]
        rw [← hfront, hsplit]
        rfl

def Item.ofParts? (id : Option String) : List String → Option Item
  | [address] => some ⟨id, address, none, none⟩
  | [address, token] => some ⟨id, address, some token, none⟩
  | [address, token, mount] => some ⟨id, address, some token, some mount⟩
  | _ => none

theorem ofText?_itemText {id : Option String} {parts : List String} (hcut : IsCutInto id parts) :
    Item.ofText? (itemText id parts) = Item.ofParts? id parts := by
  have hparts : splitOn (joinWith "#" parts) '#' = parts :=
    splitOn_joinWith hcut.parts_ne_nil hcut.parts_plain
  rw [Item.ofText?, splitId_itemText hcut]
  dsimp only
  rw [hparts]
  rfl

theorem exists_itemText {text : String} (htrimmed : trim text = text) :
    ∃ id parts, IsCutInto id parts ∧ itemText id parts = text := by
  have hparts : ∀ rest, joinWith "#" (splitOn rest '#') = rest := joinWith_splitOn '#'
  have hne : ∀ rest, splitOn rest '#' ≠ [] := fun rest => by
    simpa [splitOn] using splitBy_ne_nil _ rest.toList
  have hplain : ∀ rest, ∀ part ∈ splitOn rest '#', '#' ∉ part.toList :=
    fun rest part hpart => separator_notMem_of_mem_splitOn hpart
  -- Without an id, the parts are those of the whole text.
  have hunnamed (homitted : '@' ∉ text.toList ∨ text.toList.head? = some '@') :
      ∃ id parts, IsCutInto id parts ∧ itemText id parts = text := by
    have htext : itemText none (splitOn text '#') = text := by
      rw [itemText, hparts, Option.elim_none, String.empty_append]
    have hnone : ∀ given : String, none ≠ some given := fun given => (Option.some_ne_none given).symm
    refine ⟨none, splitOn text '#', ⟨hnone "", fun given hgiven => absurd hgiven (hnone given),
      fun _ => ?_, hne text, hplain text, ?_⟩, htext⟩
    · rw [hparts]
      exact homitted
    · rw [htext]
      exact htrimmed
  by_cases hmem : '@' ∈ text.toList
  · obtain ⟨given, rest, hgiven, hsplit⟩ := exists_cut_of_mem hmem
    by_cases hempty : given = ""
    · refine hunnamed (.inr ?_)
      rw [hsplit, hempty]
      simp
    · have htext : itemText (some given) (splitOn rest '#') = text := by
        rw [itemText, hparts, Option.elim_some, hsplit]
        rfl
      refine ⟨some given, splitOn rest '#', ⟨by simpa using hempty, fun found hfound => ?_,
        fun hnone => absurd hnone (Option.some_ne_none given), hne rest, hplain rest, ?_⟩, htext⟩
      · rw [← Option.some.inj hfound]
        exact hgiven
      · rw [htext]
        exact htrimmed
  · exact hunnamed (.inl hmem)

theorem itemOf?_of_isWrittenAs {id : Option String} {parts : List String} {piece : String}
    (hcut : IsCutInto id parts) (hwritten : IsWrittenAs (itemText id parts) piece)
    (hne : itemText id parts ≠ "") (defaults : Defaults) :
    itemOf? defaults piece = (Item.ofParts? id parts).filter (Item.isComplete defaults) := by
  rw [← itemOf?_trim, trim_of_isWrittenAs hwritten, hcut.trimmed, itemOf?,
    nonBlank?_of_isTrimmed ⟨hcut.trimmed, hne⟩, Option.bind_some, ofText?_itemText hcut]

/-! ## Pieces that are passed over -/

/-- An empty address, an empty token, no token where there is no common one, or too many parts. -/
def IsFaulty (defaults : Defaults) (parts : List String) : Prop :=
  parts[0]? = some "" ∨ parts[1]? = some "" ∨ (parts[1]? = none ∧ defaults.token = "") ∨
    3 < parts.length

/-- A blank piece, or one whose parts do not make an item. -/
inductive IsPassedOver (defaults : Defaults) (piece : String) : Prop
  | blank (hblank : isAllBlank piece = true)
  | faulty (id : Option String) (parts : List String) (hcut : IsCutInto id parts)
      (hwritten : IsWrittenAs (itemText id parts) piece) (hfaulty : IsFaulty defaults parts)

theorem filter_ofParts?_eq_none_iff {parts : List String} (hne : parts ≠ []) (id : Option String)
    (defaults : Defaults) :
    (Item.ofParts? id parts).filter (Item.isComplete defaults) = none ↔
      IsFaulty defaults parts := by
  match parts, hne with
  | [address], _ => simp [Item.ofParts?, Item.isComplete, IsFaulty, or_iff_not_imp_left]
  | [address, token], _ => simp [Item.ofParts?, Item.isComplete, IsFaulty, or_iff_not_imp_left]
  | [address, token, mount], _ =>
      simp [Item.ofParts?, Item.isComplete, IsFaulty, or_iff_not_imp_left]
  | _ :: _ :: _ :: _ :: _, _ => simp [Item.ofParts?, IsFaulty]

theorem itemOf?_eq_none_iff {defaults : Defaults} {piece : String} :
    itemOf? defaults piece = none ↔ IsPassedOver defaults piece := by
  by_cases hblank : isAllBlank piece = true
  · rw [itemOf?, nonBlank?_eq_none_iff.mpr hblank]
    exact ⟨fun _ => .blank hblank, fun _ => rfl⟩
  · have hread {id : Option String} {parts : List String} (hcut : IsCutInto id parts)
        (hwritten : IsWrittenAs (itemText id parts) piece) :
        itemOf? defaults piece = none ↔ IsFaulty defaults parts := by
      have hne : itemText id parts ≠ "" := by
        rwa [← hcut.trimmed, ← trim_of_isWrittenAs hwritten, ne_eq, trim_eq_empty_iff]
      rw [itemOf?_of_isWrittenAs hcut hwritten hne, filter_ofParts?_eq_none_iff hcut.parts_ne_nil]
    constructor
    · intro hnone
      obtain ⟨id, parts, hcut, htext⟩ := exists_itemText (trim_trim piece)
      have hwritten : IsWrittenAs (itemText id parts) piece := htext ▸ isWrittenAs_trim piece
      exact .faulty id parts hcut hwritten ((hread hcut hwritten).mp hnone)
    · rintro (h | ⟨id, parts, hcut, hwritten, hfaulty⟩)
      · exact absurd h hblank
      · exact (hread hcut hwritten).mpr hfaulty

/-! ## Items read back -/

def Item.parts (item : Item) : List String :=
  item.address :: (item.token.toList ++ item.mount.toList)

def Item.text (item : Item) : String :=
  itemText item.id item.parts

structure Item.IsWellFormed (defaults : Defaults) (item : Item) : Prop where
  id_ne_empty : item.id ≠ some ""
  id_plain : ∀ id, item.id = some id → '@' ∉ id.toList ∧ ',' ∉ id.toList
  id_omitted : item.id = none → '@' ∉ item.text.toList
  address_ne_empty : item.address ≠ ""
  token_ne_empty : item.token.getD defaults.token ≠ ""
  mount_needs_token : item.token = none → item.mount = none
  parts_plain : ∀ part ∈ item.parts, '#' ∉ part.toList ∧ ',' ∉ part.toList
  trimmed : trim item.text = item.text

theorem ofParts?_parts {item : Item} (hmount : item.token = none → item.mount = none) :
    Item.ofParts? item.id item.parts = some item := by
  obtain ⟨id, address, token, mount⟩ := item
  cases token with
  | none =>
      obtain rfl : mount = none := hmount rfl
      rfl
  | some token => cases mount <;> rfl

theorem Item.IsWellFormed.isCutInto {defaults : Defaults} {item : Item}
    (hitem : item.IsWellFormed defaults) : IsCutInto item.id item.parts where
  id_ne_empty := hitem.id_ne_empty
  id_plain id hid := (hitem.id_plain id hid).1
  id_omitted hid := by
    have homitted := hitem.id_omitted hid
    rw [Item.text, itemText, hid, Option.elim_none, String.empty_append] at homitted
    exact .inl homitted
  parts_ne_nil := List.cons_ne_nil _ _
  parts_plain part hpart := (hitem.parts_plain part hpart).1
  trimmed := hitem.trimmed

theorem Item.IsWellFormed.splitOn_parts {defaults : Defaults} {item : Item}
    (hitem : item.IsWellFormed defaults) : splitOn (joinWith "#" item.parts) '#' = item.parts :=
  splitOn_joinWith hitem.isCutInto.parts_ne_nil hitem.isCutInto.parts_plain

theorem itemOf?_of_isWellFormed {defaults : Defaults} {item : Item} {piece : String}
    (hitem : item.IsWellFormed defaults) (hwritten : IsWrittenAs item.text piece) :
    itemOf? defaults piece = some item := by
  have hne : item.text ≠ "" := by
    intro hempty
    obtain ⟨-, hjoined⟩ := String.append_eq_empty_iff.mp hempty
    have hparts := hitem.splitOn_parts
    rw [hjoined] at hparts
    exact hitem.address_ne_empty (List.cons.inj hparts).1.symm
  have hcomplete : item.isComplete defaults = true := by
    simp [Item.isComplete, hitem.address_ne_empty, hitem.token_ne_empty]
  rw [itemOf?_of_isWrittenAs hitem.isCutInto hwritten hne, ofParts?_parts hitem.mount_needs_token,
    Option.filter_some, if_pos hcomplete]

theorem placedItems_of_isWellFormed {defaults : Defaults} {items : List Item}
    {pieces : List String}
    (hwritten : List.Forall₂ (fun item piece => IsWrittenAs item.text piece) items pieces)
    (hitems : ∀ item ∈ items, item.IsWellFormed defaults) (place : Nat) :
    placedItems defaults place pieces = items.zipIdx place := by
  induction hwritten generalizing place with
  | nil => rfl
  | cons hpiece _ ih =>
      obtain ⟨hitem, hrest⟩ := List.forall_mem_cons.mp hitems
      rw [placedItems_cons, itemOf?_of_isWellFormed hitem hpiece, ih hrest, List.zipIdx_cons]
      rfl

theorem comma_notMem_of_isWrittenAs {defaults : Defaults} {item : Item} {piece : String}
    (hitem : item.IsWellFormed defaults) (hwritten : IsWrittenAs item.text piece) :
    ',' ∉ piece.toList := by
  have hblank : ∀ text : String, isAllBlank text = true → ',' ∉ text.toList := by
    intro text htext hmem
    exact absurd (List.all_eq_true.mp htext ',' hmem) (by decide)
  have hplain : ∀ part ∈ item.parts, part.toList.all (fun c => c != ',') = true := by
    intro part hpart
    rw [List.all_eq_true]
    rintro c hc
    exact bne_iff_ne.mpr fun hcomma => (hitem.parts_plain part hpart).2 (hcomma ▸ hc)
  have hjoined : ',' ∉ (joinWith "#" item.parts).toList := by
    rw [← hitem.splitOn_parts, forall_mem_splitOn_iff (by decide)] at hplain
    exact fun hmem => absurd (List.all_eq_true.mp hplain ',' hmem) (by decide)
  have hgiven : ',' ∉ (item.id.elim "" (· ++ "@")).toList := by
    cases hid : item.id with
    | none => simp
    | some given => simpa using (hitem.id_plain given hid).2
  obtain ⟨front, back, hfront, hback, rfl⟩ := hwritten
  simp [Item.text, itemText, hblank front hfront, hblank back hback, hjoined, hgiven]

theorem comma_notMem_of_forall₂ {defaults : Defaults} {items : List Item} {pieces : List String}
    (hwritten : List.Forall₂ (fun item piece => IsWrittenAs item.text piece) items pieces)
    (hitems : ∀ item ∈ items, item.IsWellFormed defaults) :
    ∀ piece ∈ pieces, ',' ∉ piece.toList := by
  induction hwritten with
  | nil => exact nofun
  | cons hpiece _ ih =>
      obtain ⟨hitem, hrest⟩ := List.forall_mem_cons.mp hitems
      exact List.forall_mem_cons.mpr ⟨comma_notMem_of_isWrittenAs hitem hpiece, ih hrest⟩

/--
Well-formed items are read back from the list, whatever blanks stand around them: in their order,
completed with the number of their place, the common token and the usual mount.  A piece is passed
over exactly if it is blank, has an empty address or token, or has more than three parts; put in
anywhere, such a piece takes part in the numbering of the items behind it and in nothing else.
-/
theorem written_items_are_read_back (env : Variables) :
    (∀ items pieces, List.Forall₂ (fun item piece => IsWrittenAs item.text piece) items pieces →
      (∀ item ∈ items, item.IsWellFormed (.ofVariables env)) →
      ofVariables (env.withAddresses pieces) =
        (items.zipIdx 1).map (Item.entryAt (.ofVariables env))) ∧
    (∀ piece, itemOf? (.ofVariables env) piece = none ↔ IsPassedOver (.ofVariables env) piece) ∧
    ∀ front piece back, (∀ part ∈ front ++ piece :: back, ',' ∉ part.toList) →
      IsPassedOver (.ofVariables env) piece →
      ofVariables (env.withAddresses (front ++ back)) =
        (placedItems (.ofVariables env) 1 front ++
          placedItems (.ofVariables env) (1 + front.length) back).map
            (Item.entryAt (.ofVariables env)) ∧
      ofVariables (env.withAddresses (front ++ piece :: back)) =
        (placedItems (.ofVariables env) 1 front ++
          (placedItems (.ofVariables env) (1 + front.length) back).map (Prod.map id (· + 1))).map
            (Item.entryAt (.ofVariables env)) := by
  refine ⟨fun items pieces hwritten hitems => ?_, fun piece => itemOf?_eq_none_iff,
    fun front piece back hplain hpassed => ⟨?_, ?_⟩⟩
  · rw [ofVariables_withAddresses env (comma_notMem_of_forall₂ hwritten hitems),
      placedItems_of_isWellFormed hwritten hitems]
  · have hrest : ∀ part ∈ front ++ back, ',' ∉ part.toList := fun part hpart =>
      hplain part (List.Sublist.subset (by simp) hpart)
    rw [ofVariables_withAddresses env hrest, placedItems_append]
  · have hnone := itemOf?_eq_none_iff.mpr hpassed
    rw [ofVariables_withAddresses env hplain, placedItems_append, placedItems_cons, hnone,
      placedItems_succ _ (1 + front.length)]
    rfl

def sampleItems : List Item :=
  [⟨some "prod", "https://a:8200", some "r@1", some "pki_int"⟩, ⟨none, "https://c:8200", none, none⟩]

def samplePieces : List String :=
  ["prod@https://a:8200#r@1#pki_int ", " https://c:8200"]

def sampleTokens : Variables :=
  .ofList [("VAULT_READ_TOKEN", " shared "), ("VAULT_SKIP_VERIFY", "yes")]

theorem written_items_of_sample :
    (ofVariables (sampleTokens.withAddresses samplePieces)).map
        (fun e => (e.id, e.token.exposed, e.mounts)) =
      [("prod", "r@1", ["pki_int"]), ("vault-2", "shared", ["pki"])] ∧
    (ofVariables (sampleTokens.withAddresses (["x@#r"] ++ samplePieces))).map (·.id) =
      ["prod", "vault-3"] := by
  obtain ⟨hread, -, hinsert⟩ := written_items_are_read_back sampleTokens
  constructor
  · have hwritten : List.Forall₂ (fun item piece => IsWrittenAs item.text piece) sampleItems
        samplePieces :=
      .cons ⟨"", " ", by decide, by decide, by decide⟩
        (.cons ⟨" ", "", by decide, by decide, by decide⟩ .nil)
    have hitems : ∀ item ∈ sampleItems, item.IsWellFormed (.ofVariables sampleTokens) := by
      refine List.forall_mem_cons.mpr ⟨?_, List.forall_mem_singleton.mpr ?_⟩
      · exact ⟨by decide, fun id hid => by cases hid; decide, nofun, by decide, by decide +kernel,
          nofun, by decide, by decide⟩
      · exact ⟨by decide, nofun, fun _ => by decide, by decide, by decide +kernel, fun _ => rfl,
          by decide, by decide⟩
    rw [hread _ _ hwritten hitems]
    decide +kernel
  · have hpassed : IsPassedOver (.ofVariables sampleTokens) "x@#r" :=
      .faulty (some "x") ["", "r"]
        ⟨by decide, fun given hgiven => by cases hgiven; decide, nofun, by decide, by decide,
          by decide⟩
        ⟨"", "", by decide, by decide, by decide⟩ (.inl rfl)
    have hlist := (hinsert [] "x@#r" samplePieces (by decide) hpassed).2
    rw [List.nil_append] at hlist
    rw [List.singleton_append, hlist]
    decide +kernel

end AddressList
end CertCatalog
