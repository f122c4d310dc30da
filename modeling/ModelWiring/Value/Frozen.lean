import ModelWiring.Value.Basic

/-!
The two forms of a nested value. Freezing makes tuples of lists and frozen maps
of maps, so that nobody can change the result; thawing gives the plain form in
which a value is sent.
-/

namespace ModelWiring.Value

mutual

/-- The value with every list and map in it made unchangeable. Records and
biases are so already. -/
def freeze : Value → Value
  | map entries => frozen (freezeEntries entries)
  | frozen entries => frozen (freezeEntries entries)
  | list items => tuple (freezeItems items)
  | tuple items => tuple (freezeItems items)
  | v => v

def freezeItems : List Value → List Value
  | [] => []
  | v :: rest => v.freeze :: freezeItems rest

def freezeEntries : Table → Table
  | [] => []
  | (key, v) :: rest => (key, v.freeze) :: freezeEntries rest

end

mutual

/-- The value as it is sent: words as texts, tuples as lists, frozen maps,
biases and records as maps. Lists go as they are. -/
def thaw : Value → Value
  | choice c => text c.text
  | map entries => map (thawEntries entries)
  | frozen entries => map (thawEntries entries)
  | tuple items => list (thawItems items)
  | bias token weight => map [("token", token.thaw), ("bias", weight.thaw)]
  | record kind fields => map ((kind.fieldNames.map Key.plain).zip (thawItems fields))
  | v => v

def thawItems : List Value → List Value
  | [] => []
  | v :: rest => v.thaw :: thawItems rest

def thawEntries : Table → Table
  | [] => []
  | (key, v) :: rest => (key, v.thaw) :: thawEntries rest

end

theorem freezeItems_eq_map (items : List Value) :
    freezeItems items = items.map freeze := by
  induction items with
  | nil => rfl
  | cons v rest ih => simp [freezeItems, ih]

theorem freezeEntries_eq_map (entries : Table) :
    freezeEntries entries = entries.map fun (key, v) => (key, v.freeze) := by
  induction entries with
  | nil => rfl
  | cons entry rest ih => simp [freezeEntries, ih]

theorem thawItems_eq_map (items : List Value) :
    thawItems items = items.map thaw := by
  induction items with
  | nil => rfl
  | cons v rest ih => simp [thawItems, ih]

theorem thawEntries_eq_map (entries : Table) :
    thawEntries entries = entries.map fun (key, v) => (key, v.thaw) := by
  induction entries with
  | nil => rfl
  | cons entry rest ih => simp [thawEntries, ih]

end ModelWiring.Value
