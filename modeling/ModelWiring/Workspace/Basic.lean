import ModelWiring.Options.Builder
import ModelWiring.Value.Atoms

/-!
A workspace binds names to values. Lists, maps and builders that are bound to
a name are objects: whoever refers to one sees what becomes of it.
-/

namespace ModelWiring

/-- An object of a workspace. Its parts may refer to other objects. -/
inductive Cell where
  | list (items : List Value)
  | map (entries : Table)
  | builder (b : Builder)
deriving Repr

structure Workspace where
  bindings : Keyed Value := []
  cells : List Cell := []
  /-- How many values that are no number were told apart so far. -/
  tags : Nat := 0
  /-- The members of builders that were set to nothing, each with the place of
  its builder. -/
  blanked : List (Nat × String) := []
deriving Repr

namespace Workspace

def lookUp (w : Workspace) (name : String) : Except Fault Value :=
  match Keyed.get? name w.bindings with
  | some v => .ok v
  | none => .error (.unboundVariable name)

/-- The list or map at a place. -/
def content? (w : Workspace) (index : Nat) : Option Value :=
  match w.cells[index]? with
  | some (.list items) => some (.list items)
  | some (.map entries) => some (.map entries)
  | _ => none

/-- The value with an object at its top replaced by what that holds now. -/
def opened (w : Workspace) : Value → Value
  | .ref handle => (w.content? handle.index).getD (.ref handle)
  | v => v

/-- The value with lists and maps that it refers to replaced by what they hold
now, through at most `depth` references one inside the other. -/
def viewTo (w : Workspace) : Nat → Value → Value
  | 0, v => v
  | depth + 1, v => v.mapAtoms fun atom => match atom with
      | .ref handle => match w.content? handle.index with
          | some content => w.viewTo depth content
          | none => .ref handle
      | atom => atom

/-- What a value reads as now. If it does not hold itself, no chain of references
in it is longer than there are objects. -/
def view (w : Workspace) (v : Value) : Value :=
  w.viewTo (w.cells.length + 1) v

/-- The value with lists and maps that it refers to replaced by what they hold
now, through at most `depth` references one inside the other. -/
def unfoldTo (w : Workspace) : Nat → Value → Value
  | 0, v => v
  | depth + 1, v => v.mapParts fun part => match part with
      | .ref handle => match w.content? handle.index with
          | some content => w.unfoldTo depth content
          | none => .ref handle
      | part => part

/-- The value as freezing sees it: what lists, tuples and maps hold is taken as
it is now, while records and biases keep the references they hold. -/
def unfold (w : Workspace) (v : Value) : Value :=
  w.unfoldTo (w.cells.length + 1) v

/-- Whether every chain of references that starts in a value is shorter than
that. -/
def endsWithin (w : Workspace) : Nat → Value → Bool
  | 0, _ => false
  | depth + 1, v => v.refs.all fun handle => match w.content? handle.index with
      | some content => w.endsWithin depth content
      | none => true

/-- Whether freezing a value comes to an end. It does not if the value holds
itself. -/
def ends (w : Workspace) (v : Value) : Bool :=
  w.endsWithin (w.cells.length + 1) v

def builder? (w : Workspace) : Value → Option Builder
  | .ref handle => match w.cells[handle.index]? with
      | some (.builder b) => some b
      | _ => none
  | _ => none

/-- The builder with its values as freezing sees them. -/
def unfoldBuilder (w : Workspace) (b : Builder) : Builder :=
  { b with values := b.values.map fun (name, v) => (name, w.unfold v) }

/-- The record of what the values of a builder are now. All of them are frozen
before any name is looked at. -/
def buildNow (w : Workspace) (b : Builder) : Except Fault Record :=
  if b.values.all fun (_, v) => w.ends v then (w.unfoldBuilder b).build
  else .error (.nestedTooDeep .value)

/-- A record of the same kind that is built of the values of another one. -/
def copyNow (w : Workspace) (r : Record) : Except Fault Record := do
  w.buildNow (← Builder.ofOptions r.kind r.toValue)

def bind (w : Workspace) (name : String) (v : Value) : Workspace :=
  { w with bindings := Keyed.put name v w.bindings }

/-- Adds an object and gives a reference to it. -/
def addCell (w : Workspace) (kind : HandleKind) (cell : Cell) : Value × Workspace :=
  (.ref { kind, index := w.cells.length }, { w with cells := w.cells ++ [cell] })

def setCell (w : Workspace) (handle : Handle) (cell : Cell) : Workspace :=
  { w with cells := w.cells.set handle.index cell }

/-- Makes an object of a list or map at the top of a value. -/
def store (w : Workspace) (v : Value) : Value × Workspace :=
  match v with
  | .list items => w.addCell .list (.list items)
  | .map entries => w.addCell .map (.map entries)
  | v => (v, w)

/-- The further parameters of a builder opened, so that they can be copied: a
map, or a sequence of which each pair is opened too. -/
def openAdditional (w : Workspace) (b : Builder) : Builder :=
  match Keyed.get? "additional" b.values with
  | none => b
  | some v =>
      let v := match w.opened v with
        | .list items => .list (items.map w.opened)
        | .tuple items => .tuple (items.map w.opened)
        | v => v
      b.set "additional" v

/-- Calls a method of a builder, of which single further parameters are put into
a copy of those that it has. -/
def callNow (w : Workspace) (b : Builder) (method : String) (args : List Value) :
    Except Fault Builder :=
  (if method = "additional_property" then w.openAdditional b else b).call method args

end Workspace

end ModelWiring
