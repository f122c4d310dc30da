import ModelWiring.Value.Equality
import ModelWiring.Value.Table

/-!
What a value holds: an item under a key, how many items, whether an item is
among them. Each question is refused by the values that it makes no sense for.
-/

namespace ModelWiring.Value

/-- Whether the first text occurs inside the second. -/
def occursIn (s : List Char) : List Char → Bool
  | [] => s.isEmpty
  | c :: rest => s.isPrefixOf (c :: rest) || occursIn s rest

/-- What a value holds under a key. -/
def item (v : Value) (key : String) : Except Fault Value :=
  match v.entries?, v with
  | some entries, _ => match Keyed.get? key entries with
      | some v => .ok v
      | none => .error (.missingKey key)
  | none, list _ | none, tuple _ | none, text _ | none, choice _ =>
      .error (.placesOnly v.typeName)
  | none, _ => .error (.noItems v.typeName)

/-- How many items a value holds. -/
def size (v : Value) : Except Fault Nat :=
  match v.elements? with
  | some items => .ok items.length
  | none => .error (.noLength v.typeName)

/-- Whether a value holds a text: as a key, as an item, or inside itself. -/
def has (v : Value) (key : String) : Except Fault Bool :=
  match v.entries?, v.text?, v.elements? with
  | some entries, _, _ => .ok (Keyed.get? key entries).isSome
  | none, some s, _ => .ok (occursIn key.toList s.toList)
  | none, none, some items => .ok (items.any (alike (text key) ·))
  | none, none, none => .error (.noMembership v.typeName)

/-- Why what stands under a key cannot be set or deleted from outside. -/
def changeFault (v : Value) (deleting : Bool) : Fault :=
  match v with
  | list _ => .placesOnly "list"
  | v => .fixedItems v.typeName deleting

end ModelWiring.Value
