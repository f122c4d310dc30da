import ModelWiring.Value.Quantity

/-!
Equality of values by what they say: numbers by their quantity, words by the
text they stand for, maps whatever their order and whether frozen or not.
Lists, tuples and records equal only their like. Inside a container a value
that is no number equals itself; on its own it equals nothing.
-/

namespace ModelWiring.Value

/-- The objects whose identity alone decides: numbers that are none, and
references. -/
def sameObject : Value → Value → Bool
  | float (.nan tag), float (.nan tag') => tag = tag'
  | ref h, ref h' => h = h'
  | _, _ => false

def alikeAtoms (a b : Value) : Bool :=
  match a.quantity?, b.quantity?, a.text?, b.text? with
  | some x, some y, _, _ => x = y
  | _, _, some s, some t => s = t
  | _, _, _, _ => (a.isNull && b.isNull) || sameObject a b

mutual

/-- Equal, or one and the same object. -/
def alike : Value → Value → Bool
  | bias token weight, b => match b with
      | bias token' weight' => alike token token' && alike weight weight'
      | _ => false
  | list items, b => match b with
      | list items' => alikeItems items items'
      | _ => false
  | tuple items, b => match b with
      | tuple items' => alikeItems items items'
      | _ => false
  | map entries, b => match b.entries? with
      | some entries' => entries.length = entries'.length && alikeEntries entries entries'
      | none => false
  | frozen entries, b => match b.entries? with
      | some entries' => entries.length = entries'.length && alikeEntries entries entries'
      | none => false
  | record kind fields, b => match b with
      | record kind' fields' => kind = kind' && alikeItems fields fields'
      | _ => false
  | a, b => alikeAtoms a b

def alikeItems : List Value → List Value → Bool
  | [], items => items.isEmpty
  | v :: rest, items => match items with
      | w :: rest' => alike v w && alikeItems rest rest'
      | [] => false

/-- Whether each entry of the first has its like in the second. -/
def alikeEntries : Table → Table → Bool
  | [], _ => true
  | (key, v) :: rest, entries => (match Keyed.get? key.text entries with
      | some w => alike v w
      | none => false) && alikeEntries rest entries

end

def isNotANumber : Value → Bool
  | float (.nan _) => true
  | _ => false

/-- Equality of two values that stand on their own. -/
def equal (a b : Value) : Bool :=
  !a.isNotANumber && alike a b

end ModelWiring.Value
