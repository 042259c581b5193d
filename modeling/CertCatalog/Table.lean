/-!
# Tables

Finite maps with text keys.  Each key has one entry, and no operation depends on the order of the
entries.
-/

namespace CertCatalog

structure Table (α : Type) where
  entries : List (String × α)
  keys_nodup : (entries.map Prod.fst).Nodup
  deriving DecidableEq, Repr

namespace Table

variable {α : Type}

def empty : Table α :=
  { entries := [], keys_nodup := .nil }

instance : Inhabited (Table α) := ⟨empty⟩

def keys (t : Table α) : List String :=
  t.entries.map Prod.fst

def size (t : Table α) : Nat :=
  t.entries.length

def get? (t : Table α) (key : String) : Option α :=
  (t.entries.find? (·.1 == key)).map (·.2)

def contains (t : Table α) (key : String) : Bool :=
  t.keys.contains key

def filter (t : Table α) (keep : String × α → Bool) : Table α :=
  { entries := t.entries.filter keep
    keys_nodup := t.keys_nodup.sublist (List.filter_sublist.map Prod.fst) }

def erase (t : Table α) (key : String) : Table α :=
  t.filter (·.1 != key)

def insert (t : Table α) (key : String) (value : α) : Table α :=
  { entries := (key, value) :: (t.erase key).entries
    keys_nodup := by
      rw [List.map_cons, List.nodup_cons]
      refine ⟨?_, (t.erase key).keys_nodup⟩
      simp only [List.mem_map, not_exists, not_and]
      intro pair hmem heq
      have hkeep := (List.mem_filter.mp hmem).2
      simp [heq] at hkeep }

/-- A table from entries, of which the last one of each key counts. -/
def ofList (entries : List (String × α)) : Table α :=
  entries.foldl (fun t (key, value) => t.insert key value) empty

/-! ## Small facts -/

@[simp] theorem get?_empty (key : String) : (empty : Table α).get? key = none := rfl

theorem get?_insert_self (t : Table α) (key : String) (value : α) :
    (t.insert key value).get? key = some value := by
  simp [get?, insert]

theorem get?_erase_self (t : Table α) (key : String) : (t.erase key).get? key = none := by
  simp [get?, erase, filter]

theorem get?_erase_of_ne (t : Table α) {key other : String} (h : other ≠ key) :
    (t.erase key).get? other = t.get? other := by
  simp only [get?, erase, filter, List.find?_filter]
  congr 2
  funext entry
  by_cases hother : entry.1 = other <;> simp [hother, h]

theorem get?_insert_of_ne (t : Table α) {key other : String} (value : α) (h : other ≠ key) :
    (t.insert key value).get? other = t.get? other := by
  rw [← get?_erase_of_ne t h]
  simp [get?, insert, Ne.symm h]

end Table
end CertCatalog
