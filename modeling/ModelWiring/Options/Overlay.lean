import ModelWiring.Options.Builder

/-!
Laying one record over another. The result is of the lower record's kind;
fields that the upper record sets win. A record of another kind contributes
only its answers to the portable questions.
-/

namespace ModelWiring.Record

/-- For each field that may be overlaid, the question that the upper record is
asked and the field that its answer goes to. -/
def overlayPairs (lower upper : OptionsKind) : List (String × String) :=
  if upper = lower then lower.fieldNames.map fun name => (name, name)
  else portableAccessors.filterMap fun accessor =>
    let field := lower.target accessor
    if field ∈ lower.fieldNames then some (accessor, field) else none

def answer (r : Record) (question : String) : Value :=
  if question ∈ r.kind.fieldNames then r.get question else r.portable question

/-- Sets what the upper record has to say. -/
def layOver (b : Builder) (upper : Record) : Builder :=
  (overlayPairs b.kind upper.kind).foldl (fun b (question, field) =>
    let value := upper.answer question
    if value.isNull then b else b.set field value) b

/-- A builder that starts from a record and is set to what an upper one says. -/
def overlayBuilder (lower : Record) (upper : Option Record) : Except Fault Builder := do
  let b ← Builder.ofOptions lower.kind lower.toValue
  match upper with
  | none => return b
  | some upper => return layOver b upper

def overlay (lower : Record) (upper : Option Record) : Except Fault Record := do
  (← lower.overlayBuilder upper).build

end ModelWiring.Record
