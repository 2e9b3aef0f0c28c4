/-!
# Tables

Records under keys, seen through what a look-up finds. Two tables are equal when every look-up finds
the same.
-/

namespace ApprovalDesk

set_option autoImplicit false

/-- Records of a kind under keys. -/
structure Table (α : Type) where
  find? : String → Option α

namespace Table

variable {α : Type}

/-- No records. -/
def empty : Table α := ⟨fun _ => none⟩

/-- The table with a record under a key, in place of any that was there. -/
def insert (t : Table α) (key : String) (record : α) : Table α :=
  ⟨fun k => if k = key then some record else t.find? k⟩

/-- There is a record under the key. -/
def contains (t : Table α) (key : String) : Bool := (t.find? key).isSome

/-- Changes the record under a key, if there is one. -/
def modify (t : Table α) (key : String) (f : α → α) : Table α :=
  match t.find? key with
  | some record => t.insert key (f record)
  | none => t

@[simp] theorem find?_empty (k : String) : (empty : Table α).find? k = none := rfl

@[simp] theorem find?_insert_self (t : Table α) (key : String) (record : α) :
    (t.insert key record).find? key = some record := by
  simp [insert]

theorem find?_insert_of_ne (t : Table α) {key k : String} (record : α) (h : k ≠ key) :
    (t.insert key record).find? k = t.find? k := by
  simp [insert, h]

theorem find?_insert (t : Table α) (key k : String) (record : α) :
    (t.insert key record).find? k = if k = key then some record else t.find? k := rfl

theorem find?_modify (t : Table α) (key k : String) (f : α → α) :
    (t.modify key f).find? k = if k = key then (t.find? key).map f else t.find? k := by
  unfold modify
  cases h : t.find? key with
  | none =>
    by_cases hk : k = key
    · simp [hk, h]
    · simp [hk]
  | some record => simp [find?_insert]

@[ext] theorem ext {s t : Table α} (h : ∀ k, s.find? k = t.find? k) : s = t := by
  cases s
  cases t
  simp only [Table.mk.injEq]
  exact funext h

end Table

end ApprovalDesk
