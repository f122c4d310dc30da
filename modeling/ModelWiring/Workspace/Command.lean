import ModelWiring.Options.Overlay
import ModelWiring.Options.Wire
import ModelWiring.Value.Attributes
import ModelWiring.Value.Equality
import ModelWiring.Value.Parts
import ModelWiring.Workspace.Term

/-!
The commands of a session on options: binding and changing values, building
and combining records, and looking at either. A command that fails changes
nothing.
-/

namespace ModelWiring

/-- Ways to make a second object that reads the same. -/
inductive Duplication where
  /-- Writing it out and reading it back. -/
  | archive
  /-- Copying it part by part; numbers are shared. -/
  | deepCopy
deriving DecidableEq, Repr

/-- What a value is asked or told about what it holds. -/
inductive MapQuery where
  | get (key : String)
  | getOr (key standard : String)
  | size
  | keys
  | has (key : String)
  | equal (other : Term)
  | inspect
  | hash
  | put (key : String)
  | delete (key : String)
deriving Repr

inductive Command where
  | bind (target : String) (value : Term)
  | push (source : String) (key : Option String) (value : Term)
  | display (source : String)
  | builder (target : String) (kind : OptionsKind)
  | call (source method : String) (args : List Term)
  | build (source target : String)
  | construct (target : String) (kind : OptionsKind) (fields : List (String × Term))
  | ofOptions (target : String) (kind : OptionsKind) (options : Term)
  | ofBlock (target : String) (kind : OptionsKind) (block : Term)
  | copy (source target : String)
  | wire (source : String)
  | get (source name : String)
  | accessors (source : String)
  | inspect (source : String)
  | assign (source name : String)
  | delete (source name : String)
  | merge (source : String) (upper : Term) (target : String)
  | equal (source : String) (other : Term)
  | sameHash (source : String) (other : Term)
  | hashable (source : String)
  | duplicate (source : String) (how : Duplication)
  | query (source : String) (field : Option String) (question : MapQuery)
deriving Repr

/-- What a command answers. A builder is answered by a reference to it. -/
inductive Answer where
  | value (v : Value)
  | count (n : Nat)
  /-- A merged record, with whether both inputs read as before and whether it
  is an object of its own. -/
  | merged (v : Value) (unchanged fresh : Bool)
  /-- A duplicate, with whether it equals the first object and hashes like it. -/
  | duplicated (v : Value) (equal sameHash : Bool)
deriving Repr

namespace Value

/-- What a value other than a record says about itself. -/
def property? (v : Value) (name : String) : Option Value :=
  match v, name with
  | choice c, "name" | choice c, "_name_" => some (text c.name)
  | choice c, "value" | choice c, "_value_" => some (text c.text)
  | frozen entries, "_data" => some (map entries)
  | int n, "real" | int n, "numerator" => some (int n)
  | bool b, "real" | bool b, "numerator" => some (int (if b then 1 else 0))
  | int _, "imag" | bool _, "imag" => some (int 0)
  | int _, "denominator" | bool _, "denominator" => some (int 1)
  | float x, "real" => some (float x)
  | float _, "imag" => some (float (.zero false))
  | v, name => (Builder.declaredFields? v).bind (Keyed.get? name)

/-- The value of an attribute: of a record, any that it answers to; of another
value, what it says about itself. -/
def member (v : Value) (name : String) : Except Fault Value :=
  match v.record?, v.property? name with
  | some r, _ => r.member name
  | none, some value => .ok value
  | none, none => .error (.noMember v.typeName name)

def asRecord (v : Value) (method : String) : Except Fault Record :=
  match v.record? with
  | some r => .ok r
  | none => .error (.noMember v.typeName method)

/-- The value as a duplicate reads: what is told apart by identity alone is
another object in it. -/
def duplicate (offset : Nat) (how : Duplication) (v : Value) : Value :=
  v.mapAtoms fun atom => match atom with
    | .float (.nan tag) => match how with
        | .archive => .float (.nan (tag + offset))
        | .deepCopy => .float (.nan tag)
    | .ref handle => .ref { handle with index := handle.index + offset }
    | atom => atom

def hashesLike (a b : Value) : Except Fault Bool := do
  return (← a.hashKey).same (← b.hashKey)

end Value

/-- Asks a value, or tells one that cannot be changed. -/
def MapQuery.ask (v : Value) (other : Value) (q : MapQuery) : Except Fault Answer := do
  match q with
  | equal _ => return .value (.bool (v.equal other))
  | inspect => return .value (.text v.inspect)
  | hash =>
      let _ ← v.hashKey
      return .value (.bool true)
  | put _ => throw (v.changeFault false)
  | delete _ => throw (v.changeFault true)
  | get key => return .value (← v.item key)
  | getOr key standard => return .value ((Keyed.get? key (← v.mapEntries)).getD (.text standard))
  | size => return .count (← v.size)
  | keys => return .value (.list (← v.elements))
  | has key => return .value (.bool (← v.has key))

namespace Workspace

/-- A computation on a workspace that may fail and reports. -/
abbrev Step (α : Type) := StateT Workspace (ExceptT Fault (StateM (List Notice))) α

def evaluate (t : Term) : Step Value := do
  let w ← get
  let (v, w) ← liftM (w.run (t.evaluate w))
  set w
  return v

def source (name : String) : Step Value := do
  liftM ((← get).lookUp name)

/-- What a term reads as now. -/
def evaluateView (t : Term) : Step Value := do
  let v ← evaluate t
  return (← get).view v

/-- What a variable reads as now. -/
def sourceView (name : String) : Step Value := do
  let v ← source name
  return (← get).view v

/-- Binds a value, as an object of its own if it can change, and answers it. -/
def bindValue (target : String) (v : Value) : Step Answer := do
  let (v, w) := (← get).store v
  set (w.bind target v)
  return .value ((← get).view v)

def bindBuilder (target : String) (b : Builder) : Step Answer := do
  let (v, w) := (← get).addCell (.builder b.kind) (.builder b)
  set (w.bind target v)
  return .value v

def bindRecord (target : String) (r : Record) : Step Answer :=
  bindValue target r.toValue

/-- Sets a key of a map, or appends to a list, in place. The key counts for a
map alone. -/
def pushInto (name : String) (key : Option String) (item : Value) : Step Answer := do
  let v ← source name
  let w ← get
  match v, w.opened v, key with
  | .ref handle, .map entries, some key =>
      set (w.setCell handle (.map (Keyed.put (.plain key) item entries)))
  | .ref _, .map _, none => throw (.missingKey "key")
  | .ref handle, .list items, _ => set (w.setCell handle (.list (items ++ [item])))
  | _, _, _ => throw (.noMember v.typeName "append")
  return .value ((← get).view v)

def takeSetting (b : Builder) (key : Key) (v : Value) : Step Builder := do
  let w ← get
  let b := if (b.kind.resolve? key.text).isNone then w.openAdditional b else b
  liftM (b.takeSetting key v)

/-- A builder filled from a block, whose values stay the objects they are. -/
def fillBuilder (kind : OptionsKind) (block : Value) : Step Builder := do
  match ((← get).opened block).entries? with
  | some entries => do
      let b ← liftM (Builder.start kind)
      entries.foldlM (fun b (key, v) => takeSetting b key v) b
  | none => liftM (Builder.ofBlock kind block)

/-- Whether a member of a builder was set to nothing. -/
def isBlanked (w : Workspace) (handle : Handle) (name : String) : Bool :=
  w.blanked.contains (handle.index, name)

def callBuilder (name method : String) (args : List Value) : Step Answer := do
  let v ← source name
  let w ← get
  match v, w.builder? v with
  | .ref handle, some b =>
      if w.isBlanked handle method then throw (.notCallable "NoneType")
      let b ← liftM (w.callNow b method args)
      set (w.setCell handle (.builder b))
      return .value v
  | _, _ => throw (.noMember v.typeName method)

/-- Lays the upper value over a record. Only a record has anything to say. -/
def mergeValues (w : Workspace) (lower upper : Value) : Except Fault Record :=
  match lower.record? with
  | some r => do w.buildNow (← r.overlayBuilder upper.record?)
  | none => .error (.noTypeMember lower.typeName "from_options")

/-- Sets an attribute to nothing, or deletes it. A builder takes any attribute
and gives back those that it took. -/
def changeAttribute (name : String) (deleting : Bool) (member : String) : Step Answer := do
  let v ← source name
  let w ← get
  match v, w.builder? v with
  | .ref handle, some b =>
      let entry := (handle.index, member)
      if !deleting then set { w with blanked := w.blanked ++ [entry] }
      else if w.blanked.contains entry then
        set { w with blanked := w.blanked.filter (· ≠ entry) }
      else throw (.noMember b.kind.builderName member)
  | _, _ => liftM (v.changeAttribute deleting member)
  return .value .null

/-- The value of an attribute as it is held, where references stay
references. -/
def memberOf (v : Value) (name : String) : Step Value := do
  let w ← get
  match v with
  | .ref handle =>
      if w.isBlanked handle name then return .null
      else liftM (v.member name)
  | v => liftM (v.member name)

/-- Sets a key of a map to nothing, or deletes it; nothing else can be told
so. -/
def tellMap (v : Value) (key : String) (deleting : Bool) : Step Answer := do
  let w ← get
  match v, w.opened v with
  | .ref handle, .map entries =>
      if !deleting then set (w.setCell handle (.map (Keyed.put (.plain key) .null entries)))
      else if (Keyed.get? key entries).isSome then
        set (w.setCell handle (.map (Keyed.erase key entries)))
      else throw (.missingKey key)
      return .value .null
  | _, _ => throw ((w.view v).changeFault deleting)

def execute : Command → Step Answer
  | .bind target value => do bindValue target (← evaluate value)
  | .push name key value => do
      let _ ← source name
      pushInto name key (← evaluate value)
  | .display name => return .value (← sourceView name)
  | .builder target kind => do bindBuilder target (← liftM (Builder.start kind))
  | .call name method args => do
      let _ ← source name
      callBuilder name method (← args.mapM evaluate)
  | .build name target => do
      let v ← source name
      match (← get).builder? v with
      | some b => bindRecord target (← liftM ((← get).buildNow b))
      | none => throw (.noMember v.typeName "build")
  | .construct target kind fields => do
      let entries ← fields.mapM fun (name, t) => return (name, ← evaluate t)
      bindRecord target (← liftM (Record.ofEntries kind (Keyed.ofList entries)))
  | .ofOptions target kind options => do
      bindBuilder target (← liftM (Builder.ofOptions kind (← evaluate options)))
  | .ofBlock target kind block => do bindBuilder target (← fillBuilder kind (← evaluate block))
  | .copy name target => do
      let r ← liftM ((← source name).asRecord "copy")
      bindRecord target (← liftM ((← get).copyNow r))
  | .wire name => do
      let r ← liftM ((← sourceView name).asRecord "to_dict")
      return .value (.map (← liftM r.wire))
  | .get name member => do
      let v ← memberOf (← source name) member
      return .value ((← get).view v)
  | .accessors name => do
      let v ← sourceView name
      let answers ← portableAccessors.mapM fun accessor => do
        return .list [.text accessor, ← liftM (v.member accessor)]
      return .value (.list answers)
  | .inspect name => return .value (.text (← sourceView name).inspect)
  | .assign name member => changeAttribute name false member
  | .delete name member => changeAttribute name true member
  | .merge name upper target => do
      let lower ← source name
      let upper ← evaluate upper
      let before ← get
      let merged ← liftM (mergeValues before lower upper)
      let _ ← bindRecord target merged
      let after ← get
      let unchanged := after.view lower |>.inspect |> (· = (before.view lower).inspect)
      let unchangedUpper := (after.view upper).inspect = (before.view upper).inspect
      return .merged (after.view merged.toValue) (unchanged && unchangedUpper) true
  | .equal name other => do
      let v ← sourceView name
      return .value (.bool (v.equal (← evaluateView other)))
  | .sameHash name other => do
      let v ← sourceView name
      return .value (.bool (← liftM (v.hashesLike (← evaluateView other))))
  | .hashable name => do
      let _ ← liftM (← sourceView name).hashKey
      return .value (.bool true)
  | .duplicate name how => do
      let v ← sourceView name
      let w ← get
      let twin := v.duplicate (w.tags + w.cells.length) how
      return .duplicated v (v.equal twin) (← liftM (v.hashesLike twin))
  | .query name field question => do
      let v ← source name
      let v ← match field with
        | some field => memberOf v field
        | none => pure v
      match question with
      | .put key => tellMap v key false
      | .delete key => tellMap v key true
      | .equal other => do liftM (question.ask ((← get).view v) (← evaluateView other))
      | question => do liftM (question.ask ((← get).view v) .null)

/-- Runs one command. A failed one leaves the workspace as it was; what was
reported stays reported. -/
def step (w : Workspace) (c : Command) : (Except Fault Answer × Workspace) × List Notice :=
  match ((execute c).run w).run.run [] with
  | (.ok (answer, w'), notices) => ((.ok answer, w'), notices)
  | (.error cause, notices) => ((.error cause, w), notices)

end Workspace

end ModelWiring
