import ModelWiring.Client.Asking

/-!
Asking a model. The options of a call are laid over the model's defaults into
a record of their own; the answer must have the shape that the capability
promises.
-/

namespace ModelWiring.Model

def resolveOptions (m : Model) (options : Option Record) : Except Fault Record :=
  match m.defaults with
  | some defaults => defaults.overlay options
  | none => .error (.noTypeMember "NoneType" "from_options")

def call (m : Model) (prompt : Value) (options : Option Record) : Action Value := do
  if m.modelClass ≠ .chat then throw (.noMember m.modelClass.name "call")
  let resolved ← liftM (m.resolveOptions options)
  let parameters ← liftM resolved.wire
  let model := (Keyed.get? "model" parameters).getD .null
  if !model.isTruthy then throw .modelRequired
  let response ← Client.ask m.api .chat
    (.map [("input", prompt), ("model_id", model),
      ("parameters", .map (Keyed.erase "model" parameters))])
  match ← liftM (response.lookUp "results") with
  | .list (first :: _) =>
      return (Keyed.get? "generated_text" (← liftM first.mapEntries)).getD (.text "")
  | _ => throw (.malformedAnswer .chat)

def embed (m : Model) (texts : Value) (options : Option Record) : Action Value := do
  if m.modelClass ≠ .embedding then throw (.noMember m.modelClass.name "embed")
  if !texts.isTruthy then return .list []
  let resolved ← liftM (m.resolveOptions options)
  let inputs ← liftM texts.elements
  let response ← Client.ask m.api .embedding
    (.map [("inputs", .list inputs), ("model_id", resolved.answer "model")])
  match ← liftM (response.lookUp "results") with
  | .list items => return .list (← liftM (items.mapM fun item => item.lookUp "embedding"))
  | _ => throw (.malformedAnswer .embedding)

end ModelWiring.Model
