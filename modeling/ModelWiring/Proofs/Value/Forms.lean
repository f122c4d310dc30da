import ModelWiring.Proofs.Value.Freezing
import ModelWiring.Value.Frozen

/-!
The two forms of nested data: lists and maps, which may be changed, and tuples
and frozen maps. Where nothing but simple values stands in them, freezing turns
the one form into the other and thawing turns it back.
-/

namespace ModelWiring

/-- The key is a text and no word. -/
def Key.IsPlain (key : Key) : Prop :=
  ∃ s, key = .plain s

namespace Value

/-- A truth value, a whole number or a double. -/
def isNumber : Value → Bool
  | bool _ | int _ | float _ => true
  | _ => false

/-- Nothing, a number or a text, which is the same in either form. -/
def isSimple : Value → Bool
  | null | text _ => true
  | v => v.isNumber

/-- Simple values and what is nested out of them, to any depth, by one way to put
items in a sequence and one way to put entries in a map. -/
inductive MadeOf (sequence : List Value → Value) (mapping : Table → Value)
    (keyed : Key → Prop) : Value → Prop
  | simple {v : Value} (h : v.isSimple) : MadeOf sequence mapping keyed v
  | sequence {items : List Value} (hitems : ∀ v ∈ items, MadeOf sequence mapping keyed v) :
      MadeOf sequence mapping keyed (sequence items)
  | mapping {entries : Table} (hdistinct : (Keyed.keys entries).Nodup)
      (hkeys : ∀ entry ∈ entries, keyed entry.1)
      (hvalues : ∀ entry ∈ entries, MadeOf sequence mapping keyed entry.2) :
      MadeOf sequence mapping keyed (mapping entries)

section

variable {sequence : List Value → Value} {mapping : Table → Value} {keyed : Key → Prop}
  {v : Value}

/-- What leaves simple values as they are, and goes into sequences and maps item
by item, leaves all that is made of them as it is. -/
theorem MadeOf.eq_self {f : Value → Value} (hsimple : ∀ v, v.isSimple → f v = v)
    (hsequence : ∀ items, f (sequence items) = sequence (items.map f))
    (hmapping : ∀ entries, f (mapping entries) =
      mapping (entries.map fun (key, v) => (key, f v)))
    (h : v.MadeOf sequence mapping keyed) : f v = v := by
  induction h with
  | simple h => exact hsimple _ h
  | @sequence items _ ih =>
      have hsame : items.map f = items := (List.map_congr_left ih).trans (List.map_id items)
      rw [hsequence, hsame]
  | @mapping entries _ _ _ ih =>
      have hentry : ∀ entry ∈ entries, (entry.1, f entry.2) = entry :=
        fun entry hentry => Prod.ext rfl (ih entry hentry)
      have hsame : (entries.map fun (key, v) => (key, f v)) = entries :=
        (List.map_congr_left hentry).trans (List.map_id entries)
      rw [hmapping, hsame]

/-- What leaves simple values as they are, and takes sequences and maps of one form
item by item into another, takes all that is made of the one into the other. -/
theorem MadeOf.into {f : Value → Value} {sequence' : List Value → Value}
    {mapping' : Table → Value} (hsimple : ∀ v, v.isSimple → f v = v)
    (hsequence : ∀ items, f (sequence items) = sequence' (items.map f))
    (hmapping : ∀ entries, f (mapping entries) =
      mapping' (entries.map fun (key, v) => (key, f v)))
    (h : v.MadeOf sequence mapping keyed) : (f v).MadeOf sequence' mapping' keyed := by
  induction h with
  | simple h =>
      rw [hsimple _ h]
      exact .simple h
  | sequence _ ih =>
      rw [hsequence]
      exact .sequence (List.forall_mem_map.mpr ih)
  | mapping hdistinct hkeys _ ih =>
      rw [hmapping]
      refine .mapping ?_ (List.forall_mem_map.mpr hkeys) (List.forall_mem_map.mpr ih)
      rwa [Keyed.keys_map_values]

theorem freeze_of_isSimple {v : Value} (h : v.isSimple) : v.freeze = v := by
  cases v with
  | null | bool | int | float | text => rfl
  | _ => cases h

theorem thaw_of_isSimple {v : Value} (h : v.isSimple) : v.thaw = v := by
  cases v with
  | null | bool | int | float | text => rfl
  | _ => cases h

theorem freeze_list (items : List Value) : (list items).freeze = tuple (items.map freeze) := by
  rw [freeze, freezeItems_eq_map]

theorem freeze_map (entries : Table) :
    (map entries).freeze = frozen (entries.map fun (key, v) => (key, v.freeze)) := by
  rw [freeze, freezeEntries_eq_map]

theorem thaw_tuple (items : List Value) : (tuple items).thaw = list (items.map thaw) := by
  rw [thaw, thawItems_eq_map]

theorem thaw_frozen (entries : Table) :
    (frozen entries).thaw = map (entries.map fun (key, v) => (key, v.thaw)) := by
  rw [thaw, thawEntries_eq_map]

theorem MadeOf.freeze (h : v.MadeOf list map keyed) : v.freeze.MadeOf tuple frozen keyed :=
  h.into (fun _ => freeze_of_isSimple) freeze_list freeze_map

theorem MadeOf.thaw (h : v.MadeOf tuple frozen keyed) : v.thaw.MadeOf list map keyed :=
  h.into (fun _ => thaw_of_isSimple) thaw_tuple thaw_frozen

theorem MadeOf.thaw_freeze (h : v.MadeOf list map keyed) : v.freeze.thaw = v := by
  refine h.eq_self (f := fun v => v.freeze.thaw) ?_ ?_ ?_
  · intro v hsimple
    rw [freeze_of_isSimple hsimple, thaw_of_isSimple hsimple]
  · intro items
    rw [freeze_list, thaw_tuple, List.map_map]
    rfl
  · intro entries
    rw [freeze_map, thaw_frozen, List.map_map]
    rfl

theorem MadeOf.freeze_thaw (h : v.MadeOf tuple frozen keyed) : v.thaw.freeze = v := by
  refine h.eq_self (f := fun v => v.thaw.freeze) ?_ ?_ ?_
  · intro v hsimple
    rw [thaw_of_isSimple hsimple, freeze_of_isSimple hsimple]
  · intro items
    rw [thaw_tuple, freeze_list, List.map_map]
    rfl
  · intro entries
    rw [thaw_frozen, freeze_map, List.map_map]
    rfl

end

/-- Freezing a second time changes nothing, and only nothing freezes to nothing.
Lists and maps are frozen to tuples and frozen maps, and thawing takes that back;
tuples and frozen maps are thawed to lists and maps, and freezing takes that back. -/
theorem freeze_thaw_inverse (v : Value) :
    v.freeze.freeze = v.freeze ∧ (v.freeze = null ↔ v = null) ∧
      (∀ keyed, v.MadeOf list map keyed →
        v.freeze.MadeOf tuple frozen keyed ∧ v.freeze.thaw = v) ∧
      (∀ keyed, v.MadeOf tuple frozen keyed →
        v.thaw.MadeOf list map keyed ∧ v.thaw.freeze = v) := by
  refine ⟨v.freeze_freeze, ?_, fun _ h => ⟨h.freeze, h.thaw_freeze⟩,
    fun _ h => ⟨h.thaw, h.freeze_thaw⟩⟩
  rw [← isNull_iff, isNull_freeze, isNull_iff]

/-- A map of an empty map and of a sequence that holds two others. -/
private def shifts (sequence : List Value → Value) (mapping : Table → Value) : Value :=
  mapping [("rest", mapping []),
    ("shifts", sequence [sequence [.int 7, .float (.zero true)], sequence []])]

private theorem madeOf_shifts (sequence : List Value → Value) (mapping : Table → Value) :
    (shifts sequence mapping).MadeOf sequence mapping Key.IsPlain := by
  have hdistinct : ["rest", "shifts"].Nodup := by decide
  have hpair : (sequence [.int 7, .float (.zero true)]).MadeOf sequence mapping Key.IsPlain :=
    .sequence (List.forall_mem_cons.mpr ⟨.simple rfl, List.forall_mem_singleton.mpr (.simple rfl)⟩)
  refine .mapping hdistinct (by simp [Key.IsPlain]) (List.forall_mem_cons.mpr
    ⟨.mapping List.nodup_nil (List.forall_mem_nil _) (List.forall_mem_nil _),
      List.forall_mem_singleton.mpr (.sequence (List.forall_mem_cons.mpr ⟨hpair, ?_⟩))⟩)
  exact List.forall_mem_singleton.mpr (.sequence (List.forall_mem_nil _))

theorem freeze_thaw_inverse_shifts :
    (shifts list map).MadeOf list map Key.IsPlain ∧
      (shifts tuple frozen).MadeOf tuple frozen Key.IsPlain ∧
      (shifts list map).freeze = shifts tuple frozen ∧
      (shifts list map).freeze.thaw = shifts list map ∧
      (shifts tuple frozen).thaw.freeze = shifts tuple frozen := by
  have hopen := madeOf_shifts list map
  have hfrozen := madeOf_shifts tuple frozen
  exact ⟨hopen, hfrozen, rfl, ((freeze_thaw_inverse (shifts list map)).2.2.1 _ hopen).2,
    ((freeze_thaw_inverse (shifts tuple frozen)).2.2.2 _ hfrozen).2⟩

end Value

end ModelWiring
