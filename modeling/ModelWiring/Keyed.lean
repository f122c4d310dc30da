/-!
Tables that keep the order in which their keys first came. A table is a list
of pairs; keys with the same text are one key, and writing under a key that is
there keeps its place and the key that stands there.
-/

namespace ModelWiring

/-- What tables may be keyed by: anything that has a text. -/
class Keying (κ : Type) where
  text : κ → String

instance : Keying String where
  text s := s

@[simp]
theorem keying_string (s : String) : Keying.text s = s := rfl

/-- Entries in order, no key twice. -/
abbrev KeyedBy (κ α : Type) := List (κ × α)

/-- A table that is keyed by texts alone. -/
abbrev Keyed (α : Type) := KeyedBy String α

namespace Keyed

variable {κ α : Type} [Keying κ]

/-- What stands under the key with a text. -/
def get? (key : String) : KeyedBy κ α → Option α
  | [] => none
  | (k, v) :: rest => if Keying.text k = key then some v else get? key rest

/-- Writes under a key: in its place if the key is there, else at the end. -/
def put (key : κ) (value : α) : KeyedBy κ α → KeyedBy κ α
  | [] => [(key, value)]
  | (k, v) :: rest =>
      if Keying.text k = Keying.text key then (k, value) :: rest
      else (k, v) :: put key value rest

/-- Writes the second table over the first, entry by entry. -/
def putAll (entries : KeyedBy κ α) (more : KeyedBy κ α) : KeyedBy κ α :=
  more.foldl (fun table (key, value) => put key value table) entries

def ofList (entries : List (κ × α)) : KeyedBy κ α :=
  putAll [] entries

def erase (key : String) (entries : KeyedBy κ α) : KeyedBy κ α :=
  entries.filter (Keying.text ·.1 ≠ key)

def keys (entries : KeyedBy κ α) : List String :=
  entries.map (Keying.text ·.1)

theorem get?_put (key : κ) (k : String) (value : α) (entries : KeyedBy κ α) :
    get? k (put key value entries) =
      if Keying.text key = k then some value else get? k entries := by
  induction entries with
  | nil => rfl
  | cons entry rest ih =>
      obtain ⟨k', v'⟩ := entry
      by_cases h' : Keying.text k' = Keying.text key
      · by_cases h : Keying.text k' = k
        · simp [put, get?, h', ← h]
        · have h'' : Keying.text key ≠ k := h' ▸ h
          simp [put, get?, h', h'']
      · by_cases h : Keying.text k' = k
        · subst h
          simp [put, get?, h', Ne.symm h']
        · simp [put, get?, h', h, ih]

theorem keys_put (key : κ) (value : α) (entries : KeyedBy κ α) :
    keys (put key value entries) =
      if Keying.text key ∈ keys entries then keys entries
      else keys entries ++ [Keying.text key] := by
  induction entries with
  | nil => simp [put, keys]
  | cons entry rest ih =>
      obtain ⟨k', v'⟩ := entry
      by_cases h' : Keying.text k' = Keying.text key
      · simp [put, keys, h']
      · simp only [keys] at ih
        simp only [put, h', if_false, keys, List.map_cons, List.mem_cons,
          Ne.symm h', false_or, ih]
        split <;> simp [*]

theorem mem_keys_put (key : κ) (value : α) (entries : KeyedBy κ α) (k : String) :
    k ∈ keys (put key value entries) ↔ k = Keying.text key ∨ k ∈ keys entries := by
  rw [keys_put]
  split
  · next hmem =>
      refine ⟨Or.inr, ?_⟩
      rintro (rfl | hk)
      · exact hmem
      · exact hk
  · rw [List.mem_append, List.mem_singleton, or_comm]

theorem put_ne_nil (key : κ) (value : α) (entries : KeyedBy κ α) : put key value entries ≠ [] := by
  cases entries with
  | nil => simp [put]
  | cons entry rest =>
      rw [put]
      split <;> simp

theorem mem_keys_putAll (entries more : KeyedBy κ α) (k : String) :
    k ∈ keys (putAll entries more) ↔ k ∈ keys entries ∨ k ∈ keys more := by
  induction more generalizing entries with
  | nil => simp [putAll, keys]
  | cons entry rest ih =>
      have hrest := ih (put entry.1 entry.2 entries)
      rw [mem_keys_put, or_assoc, or_left_comm] at hrest
      rw [show keys (entry :: rest) = Keying.text entry.1 :: keys rest from rfl, List.mem_cons]
      exact hrest

theorem get?_eq_none {k : String} {entries : KeyedBy κ α} (h : k ∉ keys entries) :
    get? k entries = none := by
  induction entries with
  | nil => rfl
  | cons entry rest ih =>
      simp only [keys, List.map_cons, List.mem_cons, not_or] at h
      rw [get?, if_neg (Ne.symm h.1)]
      exact ih h.2

theorem erase_of_get?_eq_none {k : String} {entries : KeyedBy κ α} (h : get? k entries = none) :
    erase k entries = entries := by
  induction entries with
  | nil => rfl
  | cons entry rest ih =>
      rw [get?] at h
      split at h
      · cases h
      · next hother =>
          rw [erase, List.filter_cons_of_pos (by simpa using hother)]
          exact congrArg _ (ih h)

/-- What stands under a key is in the first entry for it. -/
theorem exists_split_of_get? {k : String} {value : α} {entries : KeyedBy κ α}
    (h : get? k entries = some value) :
    ∃ before key after, entries = before ++ (key, value) :: after ∧ Keying.text key = k ∧
      k ∉ keys before := by
  induction entries with
  | nil => cases h
  | cons entry rest ih =>
      obtain ⟨first, other⟩ := entry
      rw [get?] at h
      split at h
      · next hfirst =>
          cases h
          exact ⟨[], first, rest, rfl, hfirst, List.not_mem_nil⟩
      · next hother =>
          obtain ⟨before, key, after, rfl, hkey, hbefore⟩ := ih h
          refine ⟨(first, other) :: before, key, after, rfl, hkey, ?_⟩
          rw [keys, List.map_cons, List.mem_cons, not_or]
          exact ⟨Ne.symm hother, hbefore⟩

theorem mem_of_get? {k : String} {value : α} {entries : KeyedBy κ α}
    (h : get? k entries = some value) : ∃ key, (key, value) ∈ entries ∧ Keying.text key = k := by
  obtain ⟨before, key, after, rfl, hkey, -⟩ := exists_split_of_get? h
  exact ⟨key, List.mem_append_right _ List.mem_cons_self, hkey⟩

/-- An entry after a write was written, or was there before. -/
theorem mem_put {key : κ} {value : α} {entries : KeyedBy κ α} {entry : κ × α}
    (h : entry ∈ put key value entries) :
    (Keying.text entry.1 = Keying.text key ∧ entry.2 = value) ∨ entry ∈ entries := by
  induction entries with
  | nil =>
      rw [put, List.mem_singleton] at h
      subst h
      exact .inl ⟨rfl, rfl⟩
  | cons first rest ih =>
      rw [put] at h
      split at h
      · next hsame =>
          rcases List.mem_cons.mp h with rfl | h
          · exact .inl ⟨hsame, rfl⟩
          · exact .inr (List.mem_cons_of_mem _ h)
      · rcases List.mem_cons.mp h with rfl | h
        · exact .inr List.mem_cons_self
        · exact (ih h).imp_right (List.mem_cons_of_mem _)

theorem mem_putAll {entries more : KeyedBy κ α} {entry : κ × α} (h : entry ∈ putAll entries more) :
    (∃ source ∈ more, Keying.text entry.1 = Keying.text source.1 ∧ entry.2 = source.2) ∨
      entry ∈ entries := by
  induction more generalizing entries with
  | nil => exact .inr h
  | cons first rest ih =>
      rcases ih h with ⟨source, hsource, hsame⟩ | hput
      · exact .inl ⟨source, List.mem_cons_of_mem _ hsource, hsame⟩
      · rcases mem_put hput with hsame | hold
        · exact .inl ⟨first, List.mem_cons_self, hsame⟩
        · exact .inr hold

theorem forall_put {P : α → Prop} {key : κ} {value : α} {entries : KeyedBy κ α} (hvalue : P value)
    (h : ∀ entry ∈ entries, P entry.2) : ∀ entry ∈ put key value entries, P entry.2 := by
  intro entry hentry
  rcases mem_put hentry with ⟨-, hsame⟩ | hold
  · rw [hsame]
    exact hvalue
  · exact h entry hold

theorem forall_putAll {P : α → Prop} {entries more : KeyedBy κ α}
    (h : ∀ entry ∈ entries, P entry.2) (hmore : ∀ entry ∈ more, P entry.2) :
    ∀ entry ∈ putAll entries more, P entry.2 := by
  intro entry hentry
  rcases mem_putAll hentry with ⟨source, hsource, -, hsame⟩ | hold
  · rw [hsame]
    exact hmore source hsource
  · exact h entry hold

theorem forall_key_put {P : κ → Prop} {key : κ} {value : α} {entries : KeyedBy κ α} (hkey : P key)
    (h : ∀ entry ∈ entries, P entry.1) : ∀ entry ∈ put key value entries, P entry.1 := by
  induction entries with
  | nil =>
      intro entry hentry
      rw [List.mem_singleton.mp hentry]
      exact hkey
  | cons first rest ih =>
      obtain ⟨hfirst, hrest⟩ := List.forall_mem_cons.mp h
      rw [put]
      split
      · exact List.forall_mem_cons.mpr ⟨hfirst, hrest⟩
      · exact List.forall_mem_cons.mpr ⟨hfirst, ih hrest⟩

theorem forall_key_putAll {P : κ → Prop} {entries more : KeyedBy κ α}
    (h : ∀ entry ∈ entries, P entry.1) (hmore : ∀ entry ∈ more, P entry.1) :
    ∀ entry ∈ putAll entries more, P entry.1 := by
  induction more generalizing entries with
  | nil => exact h
  | cons entry rest ih =>
      obtain ⟨hentry, hrest⟩ := List.forall_mem_cons.mp hmore
      exact ih (forall_key_put hentry h) hrest

theorem nodup_keys_put (key : κ) (value : α) {entries : KeyedBy κ α} (h : (keys entries).Nodup) :
    (keys (put key value entries)).Nodup := by
  rw [keys_put]
  split
  · exact h
  · next hnew =>
      rw [List.nodup_append]
      refine ⟨h, by simp, ?_⟩
      rintro k hk other hother rfl
      exact hnew (List.mem_singleton.mp hother ▸ hk)

theorem nodup_keys_putAll {entries more : KeyedBy κ α} (h : (keys entries).Nodup) :
    (keys (putAll entries more)).Nodup := by
  induction more generalizing entries with
  | nil => exact h
  | cons entry rest ih => exact ih (nodup_keys_put entry.1 entry.2 h)

theorem get?_of_mem {key : κ} {value : α} {entries : KeyedBy κ α}
    (hdistinct : (keys entries).Nodup) (h : (key, value) ∈ entries) :
    get? (Keying.text key) entries = some value := by
  induction entries with
  | nil => cases h
  | cons entry rest ih =>
      rw [keys, List.map_cons, List.nodup_cons] at hdistinct
      rcases List.mem_cons.mp h with rfl | hrest
      · rw [get?, if_pos rfl]
      · have hother : Keying.text entry.1 ≠ Keying.text key := by
          intro hsame
          exact hdistinct.1 (hsame ▸ List.mem_map_of_mem hrest)
        rw [get?, if_neg hother]
        exact ih hdistinct.2 hrest

/-- The order of a table does not count for what stands in it. -/
theorem get?_perm {entries entries' : KeyedBy κ α} (hperm : entries.Perm entries')
    (hdistinct : (keys entries).Nodup) (k : String) : get? k entries' = get? k entries := by
  have hdistinct' : (keys entries').Nodup := (hperm.map _).nodup_iff.mp hdistinct
  cases hfound : get? k entries with
  | some value =>
      obtain ⟨key, hmem, rfl⟩ := mem_of_get? hfound
      exact get?_of_mem hdistinct' (hperm.subset hmem)
  | none =>
      cases hother : get? k entries' with
      | none => rfl
      | some value =>
          obtain ⟨key, hmem, rfl⟩ := mem_of_get? hother
          rw [get?_of_mem hdistinct (hperm.symm.subset hmem)] at hfound
          cases hfound

theorem keys_append (entries more : KeyedBy κ α) :
    keys (entries ++ more) = keys entries ++ keys more :=
  List.map_append

theorem get?_append (k : String) (entries more : KeyedBy κ α) :
    get? k (entries ++ more) = (get? k entries).or (get? k more) := by
  induction entries with
  | nil => rfl
  | cons entry rest ih =>
      rw [List.cons_append, get?, get?]
      split
      · rfl
      · exact ih

/-- Of several entries that are written over a table for one key, the last one
counts. -/
theorem get?_putAll_reverse (entries more : KeyedBy κ α) (k : String) :
    get? k (putAll entries more) = (get? k more.reverse).or (get? k entries) := by
  induction more generalizing entries with
  | nil => rfl
  | cons entry rest ih =>
      have hrest : get? k (putAll entries (entry :: rest)) =
          (get? k rest.reverse).or (get? k (put entry.1 entry.2 entries)) :=
        ih (put entry.1 entry.2 entries)
      rw [hrest, List.reverse_cons, get?_append, Option.or_assoc, get?_put, get?, get?]
      split <;> rfl

/-- What is written over a table is found where it has an entry, and the table
elsewhere. -/
theorem get?_putAll (entries : KeyedBy κ α) {more : KeyedBy κ α} (hdistinct : (keys more).Nodup)
    (k : String) : get? k (putAll entries more) = (get? k more).or (get? k entries) := by
  rw [get?_putAll_reverse, get?_perm (List.reverse_perm more).symm hdistinct]

/-- Where a key stands in a table. -/
theorem split_of_mem_keys {k : String} {entries : KeyedBy κ α} (h : k ∈ keys entries) :
    ∃ before key value after, entries = before ++ (key, value) :: after ∧ Keying.text key = k := by
  obtain ⟨⟨key, value⟩, hmem, hkey⟩ := List.mem_map.mp h
  obtain ⟨before, after, hsplit⟩ := List.append_of_mem hmem
  exact ⟨before, key, value, after, hsplit, hkey⟩

section

variable {before after : KeyedBy κ α} {key : κ} {k : String} (hkey : Keying.text key = k)

include hkey

/-- In a table without repetition, a key stands neither before its entry nor
behind it. -/
theorem nodup_keys_split {value : α} (h : (keys (before ++ (key, value) :: after)).Nodup) :
    k ∉ keys before ∧ k ∉ keys after ∧ (keys after).Nodup := by
  have hkeys : keys ((key, value) :: after) = k :: keys after := by rw [← hkey]; rfl
  rw [keys_append, hkeys] at h
  obtain ⟨-, hafter, hapart⟩ := List.nodup_append.mp h
  exact ⟨fun hmem => hapart _ hmem _ List.mem_cons_self rfl, List.nodup_cons.mp hafter⟩

theorem get?_split (h : k ∉ keys before) (value : α) :
    get? k (before ++ (key, value) :: after) = some value := by
  rw [get?_append, get?_eq_none h, get?, if_pos hkey, Option.none_or]

end

/-- From the other end, what stands under a key is in the last entry for it. -/
theorem get?_reverse_eq_some_iff {k : String} {value : α} {entries : KeyedBy κ α} :
    get? k entries.reverse = some value ↔
      ∃ before key after, entries = before ++ (key, value) :: after ∧ Keying.text key = k ∧
        k ∉ keys after := by
  have hkeys (table : KeyedBy κ α) : k ∈ keys table.reverse ↔ k ∈ keys table := by
    rw [keys, List.map_reverse, List.mem_reverse]
    rfl
  constructor
  · intro h
    obtain ⟨later, key, earlier, hsplit, hkey, hlater⟩ := exists_split_of_get? h
    refine ⟨earlier.reverse, key, later.reverse, ?_, hkey, (not_congr (hkeys later)).mpr hlater⟩
    rw [← List.reverse_reverse entries, hsplit]
    simp
  · rintro ⟨before, key, after, rfl, hkey, hafter⟩
    rw [List.reverse_append, List.reverse_cons, List.append_assoc]
    exact get?_split hkey ((not_congr (hkeys after)).mpr hafter) value

theorem put_of_not_mem {key : κ} {entries : KeyedBy κ α} (h : Keying.text key ∉ keys entries)
    (value : α) : put key value entries = entries ++ [(key, value)] := by
  induction entries with
  | nil => rfl
  | cons entry rest ih =>
      rw [keys, List.map_cons, List.mem_cons, not_or] at h
      rw [put, if_neg (Ne.symm h.1), ih h.2, List.cons_append]

@[simp]
theorem erase_append (k : String) (entries more : KeyedBy κ α) :
    erase k (entries ++ more) = erase k entries ++ erase k more :=
  List.filter_append _ _

/-- Writing over a table that has none of the keys puts the entries at its end. -/
theorem putAll_eq_append {entries more : KeyedBy κ α} (h : (keys (entries ++ more)).Nodup) :
    putAll entries more = entries ++ more := by
  induction more generalizing entries with
  | nil => rw [List.append_nil]; rfl
  | cons entry rest ih =>
      have hnew : Keying.text entry.1 ∉ keys entries := by
        rw [keys_append] at h
        exact fun hmem => (List.nodup_append.mp h).2.2 _ hmem _ List.mem_cons_self rfl
      have hput : put entry.1 entry.2 entries = entries ++ [entry] := put_of_not_mem hnew _
      have hsplit : entries ++ entry :: rest = (entries ++ [entry]) ++ rest := by simp
      rw [hsplit] at h ⊢
      rw [← ih h, ← hput]
      rfl

@[simp]
theorem keys_map_values {β : Type} (f : α → β) (entries : KeyedBy κ α) :
    keys (entries.map fun (key, value) => (key, f value)) = keys entries := by
  rw [keys, List.map_map]
  rfl

section

variable {ι : Type} (key : ι → κ) (value : ι → Option α)

/-- A table of what there is for some items, each under its own key. -/
def ofItems (items : List ι) : KeyedBy κ α :=
  items.filterMap fun i => (value i).map fun v => (key i, v)

omit [Keying κ] in
theorem ofItems_cons (first : ι) (rest : List ι) :
    ofItems key value (first :: rest) =
      ((value first).map fun v => (key first, v)).toList ++ ofItems key value rest := by
  rw [ofItems, List.filterMap_cons]
  cases value first <;> rfl

omit [Keying κ] in
theorem ofItems_congr {value value' : ι → Option α} {items : List ι}
    (h : ∀ i ∈ items, value i = value' i) : ofItems key value items = ofItems key value' items := by
  induction items with
  | nil => rfl
  | cons first rest ih =>
      obtain ⟨hfirst, hrest⟩ := List.forall_mem_cons.mp h
      rw [ofItems_cons, ofItems_cons, hfirst, ih hrest]

theorem keys_ofItems_sublist (items : List ι) :
    (keys (ofItems key value items)).Sublist (items.map fun i => Keying.text (key i)) := by
  induction items with
  | nil => exact List.Sublist.slnil
  | cons first rest ih =>
      rw [ofItems_cons]
      cases value first with
      | none => exact ih.cons _
      | some v => exact ih.cons_cons _

theorem erase_ofItems (k : String) (items : List ι) :
    erase k (ofItems key value items) =
      ofItems key value (items.filter fun i => Keying.text (key i) ≠ k) := by
  rw [erase, ofItems, ofItems, List.filter_filterMap, List.filterMap_filter]
  congr 1
  funext i
  cases value i <;> simp [Option.filter]

theorem get?_ofItems {items : List ι}
    (hdistinct : (items.map fun i => Keying.text (key i)).Nodup) {item : ι} (h : item ∈ items) :
    get? (Keying.text (key item)) (ofItems key value items) = value item := by
  induction items with
  | nil => cases h
  | cons first rest ih =>
      rw [List.map_cons, List.nodup_cons] at hdistinct
      have hcons : get? (Keying.text (key item)) (ofItems key value (first :: rest)) =
          if Keying.text (key first) = Keying.text (key item) then
            (value first).or (get? (Keying.text (key item)) (ofItems key value rest))
          else get? (Keying.text (key item)) (ofItems key value rest) := by
        rw [ofItems_cons]
        cases value first with
        | none => simp
        | some v => simp [get?]
      rw [hcons]
      rcases List.mem_cons.mp h with rfl | hrest
      · have hnone : get? (Keying.text (key item)) (ofItems key value rest) = none :=
          get?_eq_none fun hmem => hdistinct.1 ((keys_ofItems_sublist key value rest).subset hmem)
        rw [if_pos rfl, hnone, Option.or_none]
      · have hother : Keying.text (key first) ≠ Keying.text (key item) :=
          fun hsame => hdistinct.1 (hsame ▸ List.mem_map_of_mem hrest)
        rw [if_neg hother]
        exact ih hdistinct.2 hrest

end

theorem keys_zip_sublist (names : List String) (values : List α) :
    (keys (names.zip values)).Sublist names := by
  induction names generalizing values with
  | nil => exact List.Sublist.slnil
  | cons name rest ih =>
      cases values with
      | nil => exact List.nil_sublist _
      | cons value more => exact (ih more).cons_cons name

/-- A table made of names by a function gives back its results. -/
theorem get?_zip_map (names : List String) (f : String → α) {name : String} (h : name ∈ names) :
    get? name (names.zip (names.map f)) = some (f name) := by
  induction names with
  | nil => cases h
  | cons first rest ih =>
      rw [List.map_cons, List.zip_cons_cons, get?]
      split
      · next hfirst => rw [← hfirst]; rfl
      · next hother =>
          rcases List.mem_cons.mp h with rfl | hrest
          · exact absurd rfl hother
          · exact ih hrest

theorem get?_map_values {β : Type} (f : α → β) (k : String) (entries : KeyedBy κ α) :
    get? k (entries.map fun (key, value) => (key, f value)) = (get? k entries).map f := by
  induction entries with
  | nil => rfl
  | cons entry rest ih =>
      simp only [List.map_cons, get?, ih]
      split <;> rfl

end Keyed

end ModelWiring
