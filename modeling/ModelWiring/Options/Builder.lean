import ModelWiring.Notice
import ModelWiring.Options.Record
import ModelWiring.Value.Frozen
import ModelWiring.Value.Table

/-!
Builders of options records. A builder collects values under field names and
takes a frozen snapshot of them whenever it builds; it may be started from
another record or from a flat block of settings.
-/

namespace ModelWiring

/-- The values collected so far, in the order in which they first came. -/
structure Builder where
  kind : OptionsKind
  values : Keyed Value
deriving Repr

namespace Builder

/-- The builder of a kind; the common kind has none. -/
def start (kind : OptionsKind) : Except Fault Builder :=
  if kind = .common then .error .abstractOptions else .ok { kind, values := [] }

def set (b : Builder) (name : String) (value : Value) : Builder :=
  { b with values := Keyed.put name value b.values }

/-- Sets every entry of a table. -/
def setAll (b : Builder) (entries : Keyed Value) : Builder :=
  { b with values := Keyed.putAll b.values entries }

/-- Puts one key into a copy of the further parameters. -/
def addProperty (b : Builder) (key value : Value) : Except Fault Builder := do
  let table ← ((Keyed.get? "additional" b.values).getD .null).toTableOrEmpty
  return b.set "additional" (.map (Keyed.put (← key.asKey) value table))

/-- The record of the values collected so far. A value under a name that is no
field of the kind is refused. -/
def build (b : Builder) : Except Fault Record :=
  match (Keyed.keys b.values).find? (· ∉ b.kind.fieldNames) with
  | some name => .error (.unexpectedArgument (b.kind.name ++ ".__init__") name)
  | none => .ok {
      kind := b.kind
      values := b.kind.fieldNames.map fun name =>
        ((Keyed.get? name b.values).getD .null).freeze }

/-- The fields of a value that has declared fields: a record or a bias. -/
def declaredFields? : Value → Option (Keyed Value)
  | .record kind values => some (Record.entries { kind, values })
  | .bias token weight => some [("token", token), ("bias", weight)]
  | _ => none

/-- A builder that starts with every field of another record. -/
def ofOptions (kind : OptionsKind) (v : Value) : Except Fault Builder := do
  let b ← start kind
  match declaredFields? v with
  | some entries => return b.setAll entries
  | none => throw .notRecord

/-- Takes a key that no field answers to: as a further parameter where the
kind has them, else with a warning. -/
def takeUnknown (b : Builder) (key : Key) (value : Value) : Reporting Builder :=
  if b.kind = .watsonxChat then liftM (b.addProperty (.ofKey key) value)
  else do
    report (.unknownOption key b.kind)
    return b

def takeSetting (b : Builder) (key : Key) (value : Value) : Reporting Builder :=
  match b.kind.resolve? key.text with
  | some name => return b.set name value
  | none => b.takeUnknown key value

/-- A builder filled from the entries of a flat block, one after the other. -/
def ofEntries (kind : OptionsKind) (entries : Table) : Reporting Builder := do
  let b ← liftM (start kind)
  entries.foldlM (fun b (key, value) => b.takeSetting key value) b

def ofBlock (kind : OptionsKind) (v : Value) : Reporting Builder :=
  match v.entries? with
  | some entries => ofEntries kind entries
  | none => do
      let _ ← liftM (start kind)
      throw (.noMember v.typeName "items")

/-- Checks that a method got as many arguments as it has names. -/
def checkArguments (method : String) (names : List String) (given : Nat) : Except Fault Unit :=
  if given < names.length then .error (.missingArguments method (names.drop given))
  else if names.length < given then .error (.extraArguments method (names.length + 1) (given + 1))
  else .ok ()

/-- Calls a method by its name: a setter, or one of the two ways to give
further parameters. -/
def call (b : Builder) (method : String) (args : List Value) : Except Fault Builder := do
  let fullName := b.kind.builderName ++ "." ++ method
  if method ∈ b.kind.setters then
    checkArguments fullName [method] args.length
    return b.set method (args.headD .null)
  else if b.kind = .watsonxChat ∧ method = "additional_properties" then
    checkArguments fullName ["properties"] args.length
    return b.set "additional" (args.headD .null)
  else if b.kind = .watsonxChat ∧ method = "additional_property" then
    checkArguments fullName ["key", "value"] args.length
    b.addProperty (args.headD .null) ((args.drop 1).headD .null)
  else throw (.noMember b.kind.builderName method)

end Builder

namespace Record

/-- A record with the values of a table, not frozen; what the table does not
name is not set. -/
def ofEntries (kind : OptionsKind) (entries : Keyed Value) : Except Fault Record :=
  match (Keyed.keys entries).find? (· ∉ kind.fieldNames) with
  | some name => .error (.unexpectedArgument (kind.name ++ ".__init__") name)
  | none => .ok {
      kind
      values := kind.fieldNames.map fun name => (Keyed.get? name entries).getD .null }

end Record

end ModelWiring
