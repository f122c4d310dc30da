import ModelWiring.Fault
import ModelWiring.Value.Basic

/-!
Options records and what they answer. A record holds one value per declared
field of its kind; a field that is not set holds nothing.
-/

namespace ModelWiring

/-- An options record: the values of its kind's fields in declared order. -/
structure Record where
  kind : OptionsKind
  values : List Value
deriving Repr

def Value.record? : Value → Option Record
  | .record kind values => some { kind, values }
  | _ => none

namespace Record

def toValue (r : Record) : Value :=
  .record r.kind r.values

def entries (r : Record) : Keyed Value :=
  r.kind.fieldNames.zip r.values

/-- The value of a field, nothing for a name that is no field. -/
def get (r : Record) (name : String) : Value :=
  (Keyed.get? name r.entries).getD .null

/-- The answer to a portable question, nothing where it does not apply. -/
def portable (r : Record) (accessor : String) : Value :=
  r.get (r.kind.target accessor)

/-- What a record answers under any name: a field, a portable question, or the
table of questions that other fields answer. -/
def member (r : Record) (name : String) : Except Fault Value :=
  if name ∈ r.kind.fieldNames then .ok (r.get name)
  else if name ∈ portableAccessors then .ok (r.portable name)
  else if name = "portable_aliases" then
    .ok (.map (r.kind.aliases.map fun (accessor, field) => (.plain accessor, .text field)))
  else .error (.noMember r.kind.name name)

end Record

end ModelWiring
