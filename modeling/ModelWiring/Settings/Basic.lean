import ModelWiring.Connection.Basic
import ModelWiring.Text.Blank
import ModelWiring.Text.LowerCase

/-!
The settings that components are assembled from: one connection, and for each
capability a selector and a block of options. They may be given as one nested
value, of which each part may be missing.
-/

namespace ModelWiring

/-- The settings of one capability: the provider that is asked for, in lower
case and without blanks around, if any; and the configured options. -/
structure CapabilitySettings where
  selector : Option String := none
  options : Table := []
deriving Repr

structure Settings where
  connection : Connection := {}
  chat : CapabilitySettings := {}
  embedding : CapabilitySettings := {}
deriving Repr

namespace Settings

def capability (s : Settings) : Capability → CapabilitySettings
  | .chat => s.chat
  | .embedding => s.embedding

end Settings

/-- The selector that a text gives; blanks alone give none. -/
def selectorOfText (s : String) : Option String :=
  let trimmed := Text.strip s
  if trimmed = "" then none else some (Text.lower trimmed)

def selectorOfValue (v : Value) : Except Fault (Option String) :=
  match v, v.text? with
  | .null, _ => .ok none
  | _, some s => .ok (selectorOfText s)
  | _, none => .error (.noMember v.typeName "strip")

/-- A value that counts as given, else an empty map. -/
def Value.orEmpty (v : Value) : Value :=
  if v.isTruthy then v else .map []

/-- Reads the block of one capability. -/
def CapabilitySettings.ofValue (v : Value) : Except Fault CapabilitySettings := do
  let block := v.orEmpty
  let selector ← block.lookUp "selector"
  let options ← (← block.lookUp "options").toTableOrEmpty
  return { selector := ← selectorOfValue selector, options }

def Settings.ofValue (v : Value) : Reporting Settings := do
  let connection ← Connection.ofValue (← liftM (v.lookUp "connection")).orEmpty
  let chat ← liftM (CapabilitySettings.ofValue (← liftM (v.lookUp "chat")))
  let embedding ← liftM (CapabilitySettings.ofValue (← liftM (v.lookUp "embedding")))
  return { connection, chat, embedding }

end ModelWiring
