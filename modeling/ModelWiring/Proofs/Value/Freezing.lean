import ModelWiring.Value.Frozen

/-!
Laws of freezing. What is frozen already stays as it is, and only nothing
freezes to nothing; so a value may be frozen at every step it passes, and
whether it is set shows before and after.
-/

namespace ModelWiring.Value

mutual

@[simp]
theorem freeze_freeze : ∀ v : Value, v.freeze.freeze = v.freeze
  | null | bool _ | int _ | float _ | text _ | choice _ | bias _ _ | record _ _ | ref _ => rfl
  | list items | tuple items => by simp only [freeze, freezeItems_freezeItems items]
  | map entries | frozen entries => by simp only [freeze, freezeEntries_freezeEntries entries]

theorem freezeItems_freezeItems :
    ∀ items : List Value, freezeItems (freezeItems items) = freezeItems items
  | [] => rfl
  | v :: rest => by simp only [freezeItems, freeze_freeze v, freezeItems_freezeItems rest]

theorem freezeEntries_freezeEntries :
    ∀ entries : Table, freezeEntries (freezeEntries entries) = freezeEntries entries
  | [] => rfl
  | (key, v) :: rest => by
      simp only [freezeEntries, freeze_freeze v, freezeEntries_freezeEntries rest]

end

@[simp]
theorem isNull_freeze (v : Value) : v.freeze.isNull = v.isNull := by
  cases v <;> rfl

@[simp]
theorem isNull_thaw (v : Value) : v.thaw.isNull = v.isNull := by
  cases v <;> rfl

theorem isNull_iff {v : Value} : v.isNull = true ↔ v = null := by
  cases v <;> simp [isNull]

end ModelWiring.Value
