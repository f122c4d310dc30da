import ModelWiring.Proofs.Action
import ModelWiring.Value.Table

/-!
The tables that values are and stand for. A map of either kind is a table and
stands for its own entries; whatever a value stands for has every key once.
-/

namespace ModelWiring.Value

def isTable (v : Value) : Bool :=
  v.entries?.isSome

/-- What a table holds under a key; nothing for anything else. -/
def held (name : String) (v : Value) : Value :=
  (v.entries?.bind (Keyed.get? name)).getD .null

theorem lookUp_eq (v : Value) (name : String) :
    v.lookUp name =
      if v.isTable then .ok (v.held name) else .error (.noMember v.typeName "get") := by
  unfold lookUp mapEntries isTable held
  cases v.entries? <;> rfl

/-- Every item is asked, up to the first one that is no table. -/
theorem mapM_lookUp (name : String) (items : List Value) :
    (items.mapM fun item => item.lookUp name) =
      match items.find? (!·.isTable) with
      | none => .ok (items.map (held name))
      | some stray => .error (.noMember stray.typeName "get") := by
  induction items with
  | nil => rfl
  | cons item rest ih =>
      rw [List.mapM_cons, lookUp_eq, List.find?_cons]
      cases item.isTable with
      | false => rfl
      | true =>
          simp only [if_true, ok_bind, ih, Bool.not_true]
          cases rest.find? (!·.isTable) <;> rfl

section

variable {v : Value} {entries : Table} (h : v.entries? = some entries)

include h

theorem elements_of_entries? : v.elements = .ok (entries.map fun (key, _) => ofKey key) := by
  cases v <;> cases h <;> rfl

theorem isTruthy_of_entries? : v.isTruthy = !entries.isEmpty := by
  cases v <;> cases h <;> rfl

variable (hdistinct : (Keyed.keys entries).Nodup)

include hdistinct

theorem toTable_of_entries? : v.toTable = .ok entries := by
  rw [toTable, putInto, h]
  exact congrArg Except.ok (Keyed.putAll_eq_append hdistinct)

theorem toTableOrEmpty_of_entries? : v.toTableOrEmpty = .ok entries := by
  rw [toTableOrEmpty, isTruthy_of_entries? h, toTable_of_entries? h hdistinct]
  cases entries <;> rfl

end

theorem nodup_keys_putPairs {pairs : List Value} {index : Nat} {table result : Table}
    (hdistinct : (Keyed.keys table).Nodup) (h : putPairs table index pairs = .ok result) :
    (Keyed.keys result).Nodup := by
  induction pairs generalizing table index with
  | nil =>
      cases h
      exact hdistinct
  | cons pair rest ih =>
      unfold putPairs at h
      split at h
      · cases h
      · next key value _ =>
          obtain ⟨name, -, h⟩ := bind_ok h
          exact ih (Keyed.nodup_keys_put name value hdistinct) h
      · cases h

theorem nodup_keys_toTable {v : Value} {table : Table} (h : v.toTable = .ok table) :
    (Keyed.keys table).Nodup := by
  unfold toTable putInto at h
  split at h
  · cases h
    exact Keyed.nodup_keys_putAll List.nodup_nil
  · obtain ⟨items, -, h⟩ := bind_ok h
    have hempty : (Keyed.keys ([] : Table)).Nodup := List.nodup_nil
    exact nodup_keys_putPairs hempty h

theorem nodup_keys_toTableOrEmpty {v : Value} {table : Table} (h : v.toTableOrEmpty = .ok table) :
    (Keyed.keys table).Nodup := by
  unfold toTableOrEmpty at h
  split at h
  · exact nodup_keys_toTable h
  · cases h
    exact List.nodup_nil

end ModelWiring.Value
