import ModelWiring.Workspace.Basic

/-!
Terms are how values are written down: literally, by the name of a variable,
or as the calls that build a record.
-/

namespace ModelWiring

inductive Term where
  | null
  | bool (b : Bool)
  | int (n : Int)
  | float (x : Double)
  | text (s : String)
  | choice (c : Choice)
  | bias (token weight : Term)
  | list (items : List Term)
  | tuple (items : List Term)
  | map (entries : List (String × Term))
  | frozen (entries : List (String × Term))
  | record (kind : OptionsKind) (calls : List (String × List Term))
  | bound (name : String)
deriving Repr, Inhabited

/-- A computation that may fail and tells values apart that are no numbers. -/
abbrev Evaluation (α : Type) := StateT Nat (Except Fault) α

namespace Term

mutual

/-- The value of a term. Each term for no number gives a value of its own. -/
def evaluate (w : Workspace) : Term → Evaluation Value
  | null => return .null
  | bool b => return .bool b
  | int n => return .int n
  | float (.nan _) => do
      let tag ← get
      set (tag + 1)
      return .float (.nan tag)
  | float x => return .float x
  | text s => return .text s
  | choice c => return .choice c
  | bias token weight => do
      let token ← token.evaluate w
      let weight ← weight.evaluate w
      return .bias token weight
  | list items => return .list (← evaluateItems w items)
  | tuple items => return .tuple (← evaluateItems w items)
  | map entries => return .map (Keyed.ofList (← evaluateEntries w entries))
  | frozen entries => return .frozen (Keyed.ofList (← evaluateEntries w entries))
  | record kind calls => do
      let b ← liftM (Builder.start kind)
      let b ← evaluateCalls w b calls
      return (← liftM (w.buildNow b)).toValue
  | bound name => liftM (w.lookUp name)

def evaluateItems (w : Workspace) : List Term → Evaluation (List Value)
  | [] => return []
  | t :: rest => do
      let v ← t.evaluate w
      let more ← evaluateItems w rest
      return v :: more

def evaluateEntries (w : Workspace) : List (String × Term) → Evaluation Table
  | [] => return []
  | (key, t) :: rest => do
      let v ← t.evaluate w
      let more ← evaluateEntries w rest
      return (.plain key, v) :: more

/-- Calls the methods of a builder that nobody else refers to. -/
def evaluateCalls (w : Workspace) (b : Builder) : List (String × List Term) → Evaluation Builder
  | [] => return b
  | (method, args) :: rest => do
      let args ← evaluateItems w args
      let b ← liftM (w.callNow b method args)
      evaluateCalls w b rest

end

end Term

namespace Workspace

/-- Evaluates in a workspace, which keeps what was told apart. -/
def run {α : Type} (w : Workspace) (e : Evaluation α) : Except Fault (α × Workspace) := do
  let (a, tags) ← e.run w.tags
  return (a, { w with tags })

end Workspace

end ModelWiring
