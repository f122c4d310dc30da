import ModelWiring.Proofs.Options.RoundTrip
import ModelWiring.Proofs.Value.Order
import ModelWiring.Workspace.Command

/-!
Equal records hash alike. Equality goes by what values say: numbers by their
quantity, words by their text, maps whatever their order. The key that a value
is hashed by keeps no more than that, at any depth; and once lists and maps are
frozen, everything in a record has such a key.
-/

namespace ModelWiring

namespace Value

theorem hashKey_of_quantity? {v : Value} {q : Quantity} (h : v.quantity? = some q) :
    v.hashKey = .ok (.number q.hash) := by
  match v, h with
  | bool _, h | int _, h | float (.infinite _), h | float (.finite ..), h => simp [hashKey, h]

theorem hashKey_of_text? {v : Value} {s : String} (h : v.text? = some s) :
    v.hashKey = .ok (.ofText s) := by
  match v, h with
  | text _, rfl | choice _, rfl => simp only [hashKey]

theorem freeze_of_quantity? {v : Value} {q : Quantity} (h : v.quantity? = some q) :
    v.freeze = v := by
  match v, h with
  | bool _, _ | int _, _ | float _, _ => rfl

theorem freeze_of_text? {v : Value} {s : String} (h : v.text? = some s) : v.freeze = v := by
  match v, h with
  | text _, _ | choice _, _ => rfl

theorem nests_of_text? {v : Value} {s : String} (h : v.text? = some s) :
    v.Nests (·.isOrdinary) := by
  match v, h with
  | text _, _ | choice _, _ => rfl

theorem nests_of_quantity? {v : Value} {q : Quantity} (h : v.quantity? = some q) :
    v.Nests (·.isOrdinary) := by
  match v, h with
  | bool _, _ | int _, _ | float (.infinite _), _ | float (.finite ..), _ => rfl

theorem isOrdinary_bias {token weight : Value} (h : (bias token weight).isOrdinary) :
    (∃ s, token.text? = some s) ∧ ∃ q, weight.quantity? = some q := by
  obtain ⟨htoken, hweight⟩ := Bool.and_eq_true_iff.mp h
  exact ⟨Option.isSome_iff_exists.mp htoken, Option.isSome_iff_exists.mp hweight⟩

theorem hashKey_bias {token weight : Value} {s : String} {q : Quantity}
    (hs : token.text? = some s) (hq : weight.quantity? = some q) :
    (bias token weight).hashKey = .ok (.sequence [.ofText s, .number q.hash]) := by
  rw [hashKey, hashKey_of_text? hs, hashKey_of_quantity? hq]
  rfl

/-- What may stand in a record has a hash. -/
theorem hashKey_of_isOrdinary : ∀ v : Value, v.isOrdinary → ∃ key, v.freeze.hashKey = .ok key
  | null, _ | bool _, _ | int _, _ | text _, _ | choice _, _ | float (.finite ..), _
  | float (.infinite _), _ => ⟨_, rfl⟩
  | bias token weight, h => by
      obtain ⟨⟨s, hs⟩, q, hq⟩ := isOrdinary_bias h
      exact ⟨_, hashKey_bias hs hq⟩

/-- Two parts that are alike as they stand are the same number, the same text, or
both nothing. -/
theorem alikeAtoms_cases {v w : Value} (hv : v.isOrdinary) (h : alikeAtoms v w = true) :
    (∃ q, v.quantity? = some q ∧ w.quantity? = some q) ∨
      (∃ s, v.text? = some s ∧ w.text? = some s) ∨ v = null ∧ w = null := by
  unfold alikeAtoms at h
  split at h
  · next hx hy => exact .inl ⟨_, hx, by rw [hy, of_decide_eq_true h]⟩
  · next hs ht _ => exact .inr (.inl ⟨_, hs, by rw [ht, of_decide_eq_true h]⟩)
  · refine .inr (.inr ?_)
    match v, w, h with
    | null, null, _ => exact ⟨rfl, rfl⟩
    | float (.nan _), float (.nan _), _ => cases hv
    | ref _, ref _, _ => cases hv

theorem hashKey_eq_of_alikeAtoms {v w : Value} (hv : v.isOrdinary) (h : alikeAtoms v w = true) :
    v.hashKey = w.freeze.hashKey := by
  rcases alikeAtoms_cases hv h with ⟨q, hvq, hwq⟩ | ⟨s, hvs, hws⟩ | ⟨rfl, rfl⟩
  · rw [freeze_of_quantity? hwq, hashKey_of_quantity? hvq, hashKey_of_quantity? hwq]
  · rw [freeze_of_text? hws, hashKey_of_text? hvs, hashKey_of_text? hws]
  · rfl

section

variable {w : Value}

theorem alike_bias {token weight : Value} (h : alike (bias token weight) w = true) :
    ∃ token' weight', w = bias token' weight' ∧ alike token token' = true ∧
      alike weight weight' = true := by
  cases w <;> simp only [alike, Bool.false_eq_true, Bool.and_eq_true] at h
  case bias token' weight' => exact ⟨token', weight', rfl, h⟩

theorem alike_list {items : List Value} (h : alike (list items) w = true) :
    ∃ items', w = list items' ∧ alikeItems items items' = true := by
  cases w <;> simp only [alike, Bool.false_eq_true] at h
  case list items' => exact ⟨items', rfl, h⟩

theorem alike_tuple {items : List Value} (h : alike (tuple items) w = true) :
    ∃ items', w = tuple items' ∧ alikeItems items items' = true := by
  cases w <;> simp only [alike, Bool.false_eq_true] at h
  case tuple items' => exact ⟨items', rfl, h⟩

/-- Maps of either kind are alike to maps of either kind. -/
theorem alike_entries {v : Value} {entries : Table} (hv : v.entries? = some entries)
    (h : alike v w = true) :
    ∃ entries', w.entries? = some entries' ∧ entries.length = entries'.length ∧
      alikeEntries entries entries' = true := by
  match v, hv with
  | map _, rfl | frozen _, rfl =>
      rw [alike] at h
      split at h
      · next entries' hentries =>
          rw [Bool.and_eq_true, decide_eq_true_eq] at h
          exact ⟨entries', hentries, h⟩
      · cases h

theorem freeze_of_entries? {entries : Table} (h : w.entries? = some entries) :
    w.freeze = frozen (freezeEntries entries) := by
  match w, h with
  | map _, rfl | frozen _, rfl => rfl

theorem Nests.of_entries? {part : Value → Prop} {entries : Table}
    (h : w.entries? = some entries) (hw : w.Nests part) :
    (Keyed.keys entries).Nodup ∧ NestsEntries part entries := by
  match w, h with
  | map _, rfl | frozen _, rfl => exact hw

end

/-- The order of a map does not count for its hash. -/
theorem hashEntries_freeze_perm {entries entries' : Table} (hperm : entries.Perm entries')
    (hdistinct : (Keyed.keys entries).Nodup) (hnests : NestsEntries (·.isOrdinary) entries) :
    hashEntries (freezeEntries entries) = hashEntries (freezeEntries entries') := by
  obtain ⟨keys, hkeys⟩ := hnests.hashEntries_freeze hashKey_of_isOrdinary
  have hfrozen : (freezeEntries entries).Perm (freezeEntries entries') := by
    rw [freezeEntries_eq_map, freezeEntries_eq_map]
    exact hperm.map _
  have hdistinct' : (Keyed.keys (freezeEntries entries)).Nodup := by
    rw [keys_freezeEntries]
    exact hdistinct
  rw [hkeys, hashEntries_perm hfrozen hdistinct' hkeys]

/-- Of the second table, only what stands under the keys of the first counts. -/
theorem alikeEntries_congr {entries whole whole' : Table}
    (h : ∀ k ∈ Keyed.keys entries, Keyed.get? k whole' = Keyed.get? k whole)
    (halike : alikeEntries entries whole = true) : alikeEntries entries whole' = true := by
  induction entries with
  | nil => rfl
  | cons entry rest ih =>
      obtain ⟨hfirst, hrest⟩ := List.forall_mem_cons.mp h
      have hfirst : Keyed.get? entry.1.text whole' = Keyed.get? entry.1.text whole := hfirst
      rw [alikeEntries, Bool.and_eq_true] at halike ⊢
      rw [hfirst]
      exact ⟨halike.1, ih hrest halike.2⟩

/-- The first entry of a map has its like in the other map, which may be moved to
the front; the rest of the one is then alike to the rest of the other. -/
theorem alikeEntries_cons {name : Key} {v : Value} {rest entries' : Table}
    (hdistinct : (Keyed.keys ((name, v) :: rest)).Nodup)
    (h : alikeEntries ((name, v) :: rest) entries' = true) :
    ∃ key w rest', entries'.Perm ((key, w) :: rest') ∧ key.text = name.text ∧
      alike v w = true ∧ alikeEntries rest rest' = true := by
  rw [alikeEntries, Bool.and_eq_true] at h
  obtain ⟨hfirst, hrest⟩ := h
  split at hfirst
  · next w hget =>
      obtain ⟨before, key, after, rfl, hkey, -⟩ := Keyed.exists_split_of_get? hget
      refine ⟨key, w, before ++ after, List.perm_middle, hkey, hfirst, ?_⟩
      refine alikeEntries_congr (fun k hk => ?_) hrest
      have hnew : name.text ∉ Keyed.keys rest := (List.nodup_cons.mp hdistinct).1
      have hother : Keying.text key ≠ k := by
        rintro rfl
        exact hnew (hkey ▸ hk)
      rw [Keyed.get?_append, Keyed.get?_append, Keyed.get?, if_neg hother]
  · cases hfirst

mutual

/-- What is alike hashes alike once it is frozen. -/
theorem Nests.hashKey_eq : ∀ {v w : Value}, v.Nests (·.isOrdinary) → w.Nests (·.isOrdinary) →
    alike v w = true → v.freeze.hashKey = w.freeze.hashKey
  | .null, _, hv, _, h | .bool _, _, hv, _, h | .int _, _, hv, _, h | .float _, _, hv, _, h
  | .text _, _, hv, _, h | .choice _, _, hv, _, h => by
      simp only [alike] at h
      exact hashKey_eq_of_alikeAtoms hv h
  | .bias token weight, w, hv, hw, h => by
      obtain ⟨token', weight', rfl, htoken, hweight⟩ := alike_bias h
      obtain ⟨⟨s, hs⟩, q, hq⟩ := isOrdinary_bias hv
      obtain ⟨⟨s', hs'⟩, q', hq'⟩ := isOrdinary_bias hw
      have htokens := Nests.hashKey_eq (nests_of_text? hs) (nests_of_text? hs') htoken
      have hweights := Nests.hashKey_eq (nests_of_quantity? hq) (nests_of_quantity? hq') hweight
      rw [freeze_of_text? hs, freeze_of_text? hs'] at htokens
      rw [freeze_of_quantity? hq, freeze_of_quantity? hq'] at hweights
      change (bias token weight).hashKey = (bias token' weight').hashKey
      rw [hashKey, hashKey, htokens, hweights]
  | .list items, w, hv, hw, h => by
      obtain ⟨items', rfl, hitems⟩ := alike_list h
      rw [Value.freeze, Value.freeze, hashKey, hashKey, NestsItems.hashKeys_eq hv hw hitems]
  | .tuple items, w, hv, hw, h => by
      obtain ⟨items', rfl, hitems⟩ := alike_tuple h
      rw [Value.freeze, Value.freeze, hashKey, hashKey, NestsItems.hashKeys_eq hv hw hitems]
  | .map entries, w, hv, hw, h | .frozen entries, w, hv, hw, h => by
      obtain ⟨entries', hentries, hlength, halike⟩ := alike_entries rfl h
      obtain ⟨hdistinct, hnests⟩ := hw.of_entries? hentries
      rw [freeze_of_entries? hentries, Value.freeze, hashKey, hashKey,
        NestsEntries.hashEntries_eq hv.2 hnests hv.1 hdistinct hlength halike]

theorem NestsItems.hashKeys_eq : ∀ {items items' : List Value},
    NestsItems (·.isOrdinary) items → NestsItems (·.isOrdinary) items' →
    alikeItems items items' = true →
    hashKeys (freezeItems items) = hashKeys (freezeItems items')
  | [], [], _, _, _ => rfl
  | v :: rest, w :: rest', hv, hw, h => by
      rw [alikeItems, Bool.and_eq_true] at h
      rw [freezeItems, freezeItems, hashKeys, hashKeys, hv.1.hashKey_eq hw.1 h.1,
        NestsItems.hashKeys_eq hv.2 hw.2 h.2]

theorem NestsEntries.hashEntries_eq : ∀ {entries entries' : Table},
    NestsEntries (·.isOrdinary) entries → NestsEntries (·.isOrdinary) entries' →
    (Keyed.keys entries).Nodup → (Keyed.keys entries').Nodup →
    entries.length = entries'.length → alikeEntries entries entries' = true →
    hashEntries (freezeEntries entries) = hashEntries (freezeEntries entries')
  | [], [], _, _, _, _, _, _ => rfl
  | (name, v) :: rest, entries', hv, hw, hdistinct, hdistinct', hlength, h => by
      obtain ⟨key, w, rest', hperm, hkey, hfirst, hrest⟩ := alikeEntries_cons hdistinct h
      have hmoved := nestsEntries_iff.mpr fun entry hentry =>
        nestsEntries_iff.mp hw entry (hperm.mem_iff.mpr hentry)
      have hapart : (Keyed.keys ((key, w) :: rest')).Nodup := (hperm.map _).nodup_iff.mp hdistinct'
      have hcount : rest.length = rest'.length := by
        rw [hperm.length_eq] at hlength
        simpa using hlength
      rw [hashEntries_freeze_perm hperm hdistinct' hw, freezeEntries, freezeEntries, hashEntries,
        hashEntries, hkey, hv.1.hashKey_eq hmoved.1 hfirst,
        NestsEntries.hashEntries_eq hv.2 hmoved.2 (List.nodup_cons.mp hdistinct).2
          (List.nodup_cons.mp hapart).2 hcount hrest]

end

end Value

namespace Record

/-- What a builder makes a record of stands in it frozen. -/
theorem values_of_build {b : Builder} {r : Record} (hbuild : b.build = .ok r)
    {part : Value → Prop} (hvalues : ∀ entry ∈ b.values, entry.2.Nests part)
    (hnull : part .null) :
    Value.NestsItems part r.values ∧ Value.freezeItems r.values = r.values := by
  rw [Builder.eq_ofFields_of_build hbuild, Value.nestsItems_iff, Value.freezeItems_eq_map, ofFields]
  constructor
  · refine List.forall_mem_map.mpr fun field _ => Value.Nests.freeze ?_
    rw [Builder.reads]
    cases hfound : Keyed.get? field b.values with
    | none => exact hnull
    | some value =>
        obtain ⟨name, hmem, -⟩ := Keyed.mem_of_get? hfound
        exact hvalues _ hmem
  · rw [List.map_map]
    exact List.map_congr_left fun field _ => Value.freeze_freeze _

/-- Records that builders make of ordinary values all have a hash, and those that
are equal have the same. -/
theorem hash_of_equal {b b' : Builder} {r r' : Record}
    (hbuild : b.build = .ok r) (hbuild' : b'.build = .ok r')
    (hvalues : ∀ entry ∈ b.values, entry.2.Nests (·.isOrdinary))
    (hvalues' : ∀ entry ∈ b'.values, entry.2.Nests (·.isOrdinary)) :
    ∃ key key', r.toValue.hashKey = .ok key ∧ r'.toValue.hashKey = .ok key' ∧
      (r.toValue.equal r'.toValue = true →
        key = key' ∧ r.toValue.hashesLike r'.toValue = .ok true) := by
  obtain ⟨hnests, hfrozen⟩ := values_of_build hbuild hvalues rfl
  obtain ⟨hnests', hfrozen'⟩ := values_of_build hbuild' hvalues' rfl
  obtain ⟨keys, hkeys⟩ := hnests.hashKeys_freeze Value.hashKey_of_isOrdinary
  obtain ⟨keys', hkeys'⟩ := hnests'.hashKeys_freeze Value.hashKey_of_isOrdinary
  have hhash : r.toValue.hashKey = .ok (.sequence keys) := by
    rw [toValue, Value.hashKey, ← hfrozen, hkeys]
    rfl
  have hhash' : r'.toValue.hashKey = .ok (.sequence keys') := by
    rw [toValue, Value.hashKey, ← hfrozen', hkeys']
    rfl
  refine ⟨_, _, hhash, hhash', fun hequal => ?_⟩
  have halike : Value.alikeItems r.values r'.values = true := by
    rw [Value.equal, Bool.and_eq_true, toValue, toValue, Value.alike, Bool.and_eq_true] at hequal
    exact hequal.2.2
  have hsame := hnests.hashKeys_eq hnests' halike
  rw [hkeys, hkeys'] at hsame
  obtain rfl : keys = keys' := Except.ok.inj hsame
  refine ⟨rfl, ?_⟩
  rw [Value.hashesLike, hhash, hhash']
  exact congrArg Except.ok (HashKey.same_self _)

/-- Options of a chat, with numbers and words as such. -/
private def worded : Builder where
  kind := .watsonxChat
  values := [("top_k", .int 1), ("stop_sequences", .list [.choice (.truncate .start), .text ""]),
    ("additional", .map [("seen", .bool true), ("decay", .map [("from", .int 0), ("to", .int 2)])])]

/-- The same options in other forms and another order. -/
private def reworded : Builder where
  kind := .watsonxChat
  values := [("additional", .map [("decay", .map [("to", .float (.round false 2 1)),
      ("from", .float (.zero true))]), ("seen", .float (.round false 1 1))]),
    ("top_k", .bool true), ("stop_sequences", .tuple [.text "START", .text ""])]

theorem hash_of_equal_reworded :
    ∃ r r', worded.build = .ok r ∧ reworded.build = .ok r' ∧
      r.toValue.equal r'.toValue = true ∧ r.toValue.hashesLike r'.toValue = .ok true := by
  obtain ⟨r, hr⟩ : ∃ r, worded.build = .ok r := ⟨_, rfl⟩
  obtain ⟨r', hr'⟩ : ∃ r', reworded.build = .ok r' := ⟨_, rfl⟩
  have hequal : r.toValue.equal r'.toValue = true := by
    cases hr
    cases hr'
    decide +kernel
  obtain ⟨_, _, -, -, hhash⟩ := hash_of_equal hr hr' (by decide +kernel) (by decide +kernel)
  exact ⟨r, r', hr, hr', hequal, (hhash hequal).2⟩

end Record

end ModelWiring
