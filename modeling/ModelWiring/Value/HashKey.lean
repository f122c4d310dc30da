import ModelWiring.Fault
import ModelWiring.Value.Quantity

/-!
What a value is hashed by. Two values hash alike when their keys are equal:
the key keeps of a value only what equality looks at, so a record is keyed
like the tuple of its fields and a frozen map by its entries in the order of
their names. Lists and maps, which may change, have no key. The statements say
that every key is the same as itself.
-/

namespace ModelWiring

inductive HashKey where
  | absent
  | number (hash : Int)
  | text (s : String)
  /-- A number that is none, hashed by its identity. -/
  | unique (tag : Nat)
  /-- An object of a session, hashed by its identity. -/
  | object (handle : Handle)
  | sequence (keys : List HashKey)
  | entries (keys : List (String × HashKey))
deriving Repr

namespace HashKey

mutual

/-- Whether two keys are equal. -/
def same : HashKey → HashKey → Bool
  | absent, b => match b with
      | absent => true
      | _ => false
  | number n, b => match b with
      | number n' => n = n'
      | _ => false
  | text s, b => match b with
      | text s' => s = s'
      | _ => false
  | unique tag, b => match b with
      | unique tag' => tag = tag'
      | _ => false
  | object handle, b => match b with
      | object handle' => handle = handle'
      | _ => false
  | sequence keys, b => match b with
      | sequence keys' => sameKeys keys keys'
      | _ => false
  | entries keys, b => match b with
      | entries keys' => sameEntries keys keys'
      | _ => false

def sameKeys : List HashKey → List HashKey → Bool
  | [], keys => keys.isEmpty
  | k :: rest, keys => match keys with
      | k' :: rest' => same k k' && sameKeys rest rest'
      | [] => false

def sameEntries : List (String × HashKey) → List (String × HashKey) → Bool
  | [], keys => keys.isEmpty
  | (name, k) :: rest, keys => match keys with
      | (name', k') :: rest' => name = name' && same k k' && sameEntries rest rest'
      | [] => false

end

mutual

theorem same_self : (k : HashKey) → k.same k = true
  | absent => by simp [same]
  | number _ => by simp [same]
  | text _ => by simp [same]
  | unique _ => by simp [same]
  | object _ => by simp [same]
  | sequence keys => by simp [same, sameKeys_self keys]
  | entries keys => by simp [same, sameEntries_self keys]

theorem sameKeys_self : (keys : List HashKey) → sameKeys keys keys = true
  | [] => by simp [sameKeys]
  | k :: rest => by simp [sameKeys, same_self k, sameKeys_self rest]

theorem sameEntries_self :
    (keys : List (String × HashKey)) → sameEntries keys keys = true
  | [] => by simp [sameEntries]
  | (_, k) :: rest => by simp [sameEntries, same_self k, sameEntries_self rest]

end

/-- A text is keyed by itself; the empty one shares the key of zero. -/
def ofText (s : String) : HashKey :=
  if s = "" then .number 0 else .text s

/-- Puts an entry before the first entry with a greater name. -/
def insertEntry (key : String) (value : HashKey) :
    List (String × HashKey) → List (String × HashKey)
  | [] => [(key, value)]
  | (k, v) :: rest =>
      if key ≤ k then (key, value) :: (k, v) :: rest
      else (k, v) :: insertEntry key value rest

end HashKey

namespace Value

mutual

/-- The key of a value, or the first part of it that cannot be hashed. -/
def hashKey : Value → Except Fault HashKey
  | null => .ok .absent
  | float (.nan tag) => .ok (.unique tag)
  | text s => .ok (.ofText s)
  | choice c => .ok (.ofText c.text)
  | bias token weight => do
      let token ← token.hashKey
      let weight ← weight.hashKey
      return .sequence [token, weight]
  | tuple items => return .sequence (← hashKeys items)
  | frozen entries => return .entries (← hashEntries entries)
  | record _ fields => return .sequence (← hashKeys fields)
  | list _ => .error (.unhashable "list")
  | map _ => .error (.unhashable "dict")
  | ref handle => match handle.kind with
      | .list => .error (.unhashable "list")
      | .map => .error (.unhashable "dict")
      | .builder _ => .ok (.object handle)
  | v => .ok (match v.quantity? with
      | some q => .number q.hash
      | none => .absent)

def hashKeys : List Value → Except Fault (List HashKey)
  | [] => .ok []
  | v :: rest => do
      let key ← v.hashKey
      let keys ← hashKeys rest
      return key :: keys

def hashEntries : Table → Except Fault (List (String × HashKey))
  | [] => .ok []
  | (name, v) :: rest => do
      let key ← v.hashKey
      let keys ← hashEntries rest
      return HashKey.insertEntry name.text key keys

end

end Value

end ModelWiring
