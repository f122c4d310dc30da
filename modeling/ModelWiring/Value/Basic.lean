import ModelWiring.Double.Basic
import ModelWiring.Options.Schema
import ModelWiring.Value.Key

/-!
The values that options, settings and requests are made of. Lists and maps may
still be changed by their owner; tuples and frozen maps may not. Objects that
a session owns appear in values by reference.
-/

namespace ModelWiring

inductive HandleKind where
  | list
  | map
  | builder (kind : OptionsKind)
deriving DecidableEq, Repr

/-- The place of an object that a session owns. -/
structure Handle where
  kind : HandleKind
  index : Nat
deriving DecidableEq, Repr

inductive Value where
  | null
  | bool (b : Bool)
  | int (n : Int)
  | float (x : Double)
  | text (s : String)
  | choice (c : Choice)
  | bias (token weight : Value)
  | list (items : List Value)
  | tuple (items : List Value)
  | map (entries : List (Key × Value))
  | frozen (entries : List (Key × Value))
  | record (kind : OptionsKind) (fields : List Value)
  | ref (handle : Handle)
deriving Repr, Inhabited

/-- The entries of a map. -/
abbrev Table := KeyedBy Key Value

namespace Value

/-- The name of the type of a value, as messages give it. -/
def typeName : Value → String
  | null => "NoneType"
  | bool _ => "bool"
  | int _ => "int"
  | float _ => "float"
  | text _ => "str"
  | choice c => c.vocabulary
  | bias .. => "LogitBias"
  | list _ => "list"
  | tuple _ => "tuple"
  | map _ => "dict"
  | frozen _ => "FrozenMap"
  | record kind _ => kind.name
  | ref ⟨.list, _⟩ => "list"
  | ref ⟨.map, _⟩ => "dict"
  | ref ⟨.builder kind, _⟩ => kind.builderName

/-- The text that a value is: a word of a vocabulary is the text it stands
for. -/
def text? : Value → Option String
  | text s => some s
  | choice c => some c.text
  | _ => none

/-- The entries of a map of either kind. -/
def entries? : Value → Option Table
  | map entries => some entries
  | frozen entries => some entries
  | _ => none

def isNull : Value → Bool
  | null => true
  | _ => false

/-- Whether a value counts as given: nothing, zero and the empty ones do not. -/
def isTruthy : Value → Bool
  | null => false
  | bool b => b
  | int n => n ≠ 0
  | float (.finite _ significand _) => significand ≠ 0
  | float _ => true
  | text s => s ≠ ""
  | list items | tuple items => !items.isEmpty
  | map entries | frozen entries => !entries.isEmpty
  | choice _ | bias .. | record .. | ref _ => true

end Value

end ModelWiring
