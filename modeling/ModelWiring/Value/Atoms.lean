import ModelWiring.Value.Basic

/-!
The innermost parts of a value: replacing all of them, or those that only
lists, tuples and maps stand around, and the references among the latter.
-/

namespace ModelWiring.Value

mutual

/-- The value with each part that has no parts of its own replaced. -/
def mapAtoms (f : Value → Value) : Value → Value
  | bias token weight => bias (token.mapAtoms f) (weight.mapAtoms f)
  | list items => list (mapAtomsItems f items)
  | tuple items => tuple (mapAtomsItems f items)
  | map entries => map (mapAtomsEntries f entries)
  | frozen entries => frozen (mapAtomsEntries f entries)
  | record kind fields => record kind (mapAtomsItems f fields)
  | v => f v

def mapAtomsItems (f : Value → Value) : List Value → List Value
  | [] => []
  | v :: rest => v.mapAtoms f :: mapAtomsItems f rest

def mapAtomsEntries (f : Value → Value) : Table → Table
  | [] => []
  | (key, v) :: rest => (key, v.mapAtoms f) :: mapAtomsEntries f rest

end

mutual

/-- The value with each part replaced that is no list, tuple or map and stands
in nothing else. -/
def mapParts (f : Value → Value) : Value → Value
  | list items => list (mapPartsItems f items)
  | tuple items => tuple (mapPartsItems f items)
  | map entries => map (mapPartsEntries f entries)
  | frozen entries => frozen (mapPartsEntries f entries)
  | v => f v

def mapPartsItems (f : Value → Value) : List Value → List Value
  | [] => []
  | v :: rest => v.mapParts f :: mapPartsItems f rest

def mapPartsEntries (f : Value → Value) : Table → Table
  | [] => []
  | (key, v) :: rest => (key, v.mapParts f) :: mapPartsEntries f rest

end

mutual

/-- The references in a value that only lists, tuples and maps stand around. -/
def refs : Value → List Handle
  | list items | tuple items => refsItems items
  | map entries | frozen entries => refsEntries entries
  | ref handle => [handle]
  | _ => []

def refsItems : List Value → List Handle
  | [] => []
  | v :: rest => v.refs ++ refsItems rest

def refsEntries : Table → List Handle
  | [] => []
  | (_, v) :: rest => v.refs ++ refsEntries rest

end

end ModelWiring.Value
