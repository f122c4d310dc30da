import ModelWiring.Proofs.Text.Splitting
import ModelWiring.Proofs.Text.Trimming

/-!
Lists that are written in one line with commas. What is read off a line are the
items that it lists, in their order, however many blanks stand around each and
however many blank parts there are; so the items that were read, put together
with commas, are read as the same items.
-/

namespace ModelWiring.Text

/-- A text that can stand in a line as an item. -/
structure IsItem (s : String) : Prop where
  nonempty : s ≠ ""
  undivided : ',' ∉ s.toList
  trimmed : Trimmed s.toList

instance (s : List Char) : Decidable (Trimmed s) :=
  decidable_of_iff (trim s = s) trim_eq_self_iff

instance (s : String) : Decidable (IsItem s) :=
  decidable_of_iff (s ≠ "" ∧ ',' ∉ s.toList ∧ Trimmed s.toList)
    ⟨fun ⟨nonempty, undivided, trimmed⟩ => ⟨nonempty, undivided, trimmed⟩,
      fun h => ⟨h.nonempty, h.undivided, h.trimmed⟩⟩

/-- The parts of a line that lists some items: each item in its turn, with blanks
around it, and parts of blanks alone anywhere. -/
inductive Spells : List String → List (List Char) → Prop
  | done : Spells [] []
  | item {before after : List Char} {items : List String} {parts : List (List Char)}
      (item : String) (hbefore : AllBlank before) (hafter : AllBlank after)
      (hrest : Spells items parts) :
      Spells (item :: items) ((before ++ item.toList ++ after) :: parts)
  | blank {part : List Char} {items : List String} {parts : List (List Char)}
      (hpart : AllBlank part) (hrest : Spells items parts) : Spells items (part :: parts)

/-- The parts of a line, put together with commas, list some items. -/
def Lists (line : String) (items : List String) : Prop :=
  ∃ parts, Spells items parts ∧ line.toList = [','].intercalate parts

/-- The items that the parts of a line hold. -/
def partItems (parts : List (List Char)) : List String :=
  ((parts.map trim).filter (· ≠ [])).map String.ofList

theorem commaItems_eq (line : String) :
    commaItems line = partItems (splitAt ',' line.toList) := rfl

theorem partItems_cons (part : List Char) (parts : List (List Char)) :
    partItems (part :: parts) =
      if trim part = [] then partItems parts
      else String.ofList (trim part) :: partItems parts := by
  rw [partItems, List.map_cons, List.filter_cons]
  by_cases hblank : trim part = []
  · rw [if_pos hblank, if_neg (by simpa using hblank)]
    rfl
  · rw [if_neg hblank, if_pos (by simpa using hblank)]
    rfl

section

variable {items : List String} {parts : List (List Char)}

theorem Spells.partItems_eq (h : Spells items parts) (hitems : ∀ item ∈ items, IsItem item) :
    partItems parts = items := by
  induction h with
  | done => rfl
  | @item before after _ _ item hbefore hafter _ ih =>
      obtain ⟨hitem, hrest⟩ := List.forall_mem_cons.mp hitems
      have htrim : trim (before ++ item.toList ++ after) = item.toList := by
        rw [trim_surrounded hbefore _ hafter, trim_eq_self_iff.mpr hitem.trimmed]
      have hsome : item.toList ≠ [] := fun hnil => hitem.nonempty (String.toList_eq_nil_iff.mp hnil)
      rw [partItems_cons, htrim, if_neg hsome, ih hrest, String.ofList_toList]
  | blank hpart _ ih =>
      rw [partItems_cons, if_pos (trim_eq_nil_iff.mpr hpart), ih hitems]

theorem AllBlank.undivided {s : List Char} (h : AllBlank s) : ',' ∉ s := fun hmem => by
  have hcomma : isBlank ',' = false := by decide
  rw [h _ hmem] at hcomma
  cases hcomma

theorem Spells.undivided (h : Spells items parts) (hitems : ∀ item ∈ items, IsItem item) :
    ∀ part ∈ parts, ',' ∉ part := by
  induction h with
  | done => exact List.forall_mem_nil _
  | item item hbefore hafter _ ih =>
      obtain ⟨hitem, hrest⟩ := List.forall_mem_cons.mp hitems
      refine List.forall_mem_cons.mpr ⟨?_, ih hrest⟩
      rw [List.mem_append, List.mem_append, not_or, not_or]
      exact ⟨⟨hbefore.undivided, hitem.undivided⟩, hafter.undivided⟩
  | blank hpart _ ih => exact List.forall_mem_cons.mpr ⟨hpart.undivided, ih hitems⟩

/-- Any parts at all list the items that they hold. -/
theorem spells_partItems (parts : List (List Char)) : Spells (partItems parts) parts := by
  induction parts with
  | nil => exact .done
  | cons part rest ih =>
      rw [partItems_cons]
      split
      · next hblank => exact .blank (trim_eq_nil_iff.mp hblank) ih
      · obtain ⟨before, after, hbefore, hafter, hpart⟩ := exists_surrounded part
        have hspells := Spells.item (String.ofList (trim part)) hbefore hafter ih
        rwa [String.toList_ofList, ← hpart] at hspells

end

section

variable {line : String} {items : List String}

theorem Lists.commaItems_eq (h : Lists line items) (hitems : ∀ item ∈ items, IsItem item) :
    commaItems line = items := by
  obtain ⟨parts, hspells, hline⟩ := h
  rw [Text.commaItems_eq, hline]
  by_cases hparts : parts = []
  · -- An empty line has one part all the same, a blank one.
    subst hparts
    cases hspells
    rfl
  · rw [splitAt_intercalate (hspells.undivided hitems) hparts]
    exact hspells.partItems_eq hitems

theorem lists_commaItems (line : String) : Lists line (commaItems line) :=
  ⟨splitAt ',' line.toList, spells_partItems _, (intercalate_splitAt ',' line.toList).symm⟩

theorem lists_intercalate (items : List String) : Lists (",".intercalate items) items := by
  refine ⟨items.map String.toList, ?_, String.toList_intercalate⟩
  induction items with
  | nil => exact .done
  | cons item rest ih =>
      have hnone : AllBlank [] := List.forall_mem_nil _
      have hspells := Spells.item item hnone hnone ih
      rwa [List.nil_append, List.append_nil] at hspells

theorem isItem_of_mem_commaItems {item : String} (h : item ∈ commaItems line) : IsItem item := by
  obtain ⟨chars, hchars, rfl⟩ := List.mem_map.mp h
  obtain ⟨hmem, hsome⟩ := List.mem_filter.mp hchars
  obtain ⟨part, hpart, rfl⟩ := List.mem_map.mp hmem
  obtain ⟨before, after, -, -, hsplit⟩ := exists_surrounded part
  have hundivided : ',' ∉ part := not_mem_of_mem_splitAt hpart
  rw [hsplit, List.mem_append, List.mem_append, not_or, not_or] at hundivided
  refine ⟨?_, ?_, ?_⟩
  · intro hempty
    have hnil : trim part = [] := by simpa using congrArg String.toList hempty
    simp [hnil] at hsome
  · rw [String.toList_ofList]
    exact hundivided.1.2
  · rw [String.toList_ofList]
    exact trimmed_trim part

end

/-- What is read off a line are items, and put together with commas they are read
again. Of all lists of items it is the one that the line lists. -/
theorem commaItems_listed (line : String) :
    (∀ item ∈ commaItems line, IsItem item) ∧
      commaItems (",".intercalate (commaItems line)) = commaItems line ∧
      ∀ items, (∀ item ∈ items, IsItem item) → (Lists line items ↔ commaItems line = items) := by
  have hitems : ∀ item ∈ commaItems line, IsItem item := fun _ => isItem_of_mem_commaItems
  refine ⟨hitems, (lists_intercalate _).commaItems_eq hitems, fun items hall => ?_⟩
  constructor
  · intro hlists
    exact hlists.commaItems_eq hall
  · rintro rfl
    exact lists_commaItems line

/-- Blanks that are no spaces go as well, and a blank inside an item stays. -/
theorem commaItems_listed_spaced :
    (∀ item ∈ ["STOP", "end of text"], IsItem item) ∧
      Lists " ,\u3000STOP\t, \n,end of text," ["STOP", "end of text"] ∧
      commaItems " ,\u3000STOP\t, \n,end of text," = ["STOP", "end of text"] := by
  have hitems : ∀ item ∈ ["STOP", "end of text"], IsItem item := by decide +kernel
  have hlists : Lists " ,\u3000STOP\t, \n,end of text," ["STOP", "end of text"] := by
    refine ⟨[[' '], ['\u3000'] ++ "STOP".toList ++ ['\t'], [' ', '\n'],
      [] ++ "end of text".toList ++ [], []], ?_, rfl⟩
    apply Spells.blank (by decide)
    apply Spells.item _ (by decide) (by decide)
    apply Spells.blank (by decide)
    apply Spells.item _ (by decide) (by decide)
    exact .blank (by decide) .done
  exact ⟨hitems, hlists, ((commaItems_listed _).2.2 _ hitems).mp hlists⟩

end ModelWiring.Text
