import ModelWiring.Value.HashKey

/-!
Walking through a value, and the table that a value stands for: a map is one,
and so is a sequence of pairs.
-/

namespace ModelWiring.Value

def ofKey : Key → Value
  | .plain s => text s
  | .word c => choice c

/-- The elements of a value one after the other: the items of a list, the
characters of a text, the keys of a map. -/
def elements? : Value → Option (List Value)
  | list items | tuple items => some items
  | map entries | frozen entries => some (entries.map fun (key, _) => ofKey key)
  | v => v.text?.map fun s => s.toList.map fun c => text (String.singleton c)

def elements (v : Value) : Except Fault (List Value) :=
  match v.elements? with
  | some items => .ok items
  | none => .error (.notIterable v.typeName)

def mapEntries (v : Value) : Except Fault Table :=
  match v.entries? with
  | some entries => .ok entries
  | none => .error (.noMember v.typeName "get")

/-- What a map holds under a key, nothing if there is no such key. -/
def lookUp (v : Value) (key : String) : Except Fault Value :=
  return (Keyed.get? key (← v.mapEntries)).getD .null

/-- The key that a value can be in a table. What cannot be hashed is refused
before what is no text. -/
def asKey : Value → Except Fault Key
  | text s => .ok (.plain s)
  | choice c => .ok (.word c)
  | v => do
      let _ ← v.hashKey
      throw (.keyNotText v.typeName)

/-- Writes a sequence of pairs into a table; `index` counts the pairs before
it. -/
def putPairs (table : Table) (index : Nat) : List Value → Except Fault Table
  | [] => .ok table
  | pair :: rest => match pair.elements? with
      | none => .error (.notPair index)
      | some [key, value] => do
          putPairs (Keyed.put (← asKey key) value table) (index + 1) rest
      | some items => .error (.pairLength index items.length)

/-- Writes what a value stands for over a table. -/
def putInto (v : Value) (table : Table) : Except Fault Table :=
  match v.entries? with
  | some entries => .ok (Keyed.putAll table entries)
  | none => do putPairs table 0 (← v.elements)

def toTable (v : Value) : Except Fault Table :=
  v.putInto []

/-- The table that a value stands for, where nothing stands for an empty one. -/
def toTableOrEmpty (v : Value) : Except Fault Table :=
  if v.isTruthy then v.toTable else .ok []

end ModelWiring.Value
