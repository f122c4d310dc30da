import Mathlib.Data.List.DropRight
import ModelWiring.Text.Blank

/-!
Texts without blanks around. Trimming gives such a text and leaves one that is
so already; all that it takes away are blanks, and how many there were does not
count.
-/

namespace ModelWiring.Text

/-- A text that neither starts nor ends with a blank. -/
structure Trimmed (s : List Char) : Prop where
  start : ∀ c ∈ s.head?, isBlank c = false
  finish : ∀ c ∈ s.getLast?, isBlank c = false

theorem trim_eq (s : List Char) : trim s = (s.dropWhile isBlank).rdropWhile isBlank := rfl

theorem trimmed_trim (s : List Char) : Trimmed (trim s) := by
  rw [trim_eq]
  constructor
  · intro c hc
    -- Cutting the end off leaves the first character, if any is left.
    obtain ⟨rest, hrest⟩ := List.rdropWhile_prefix isBlank (l := s.dropWhile isBlank)
    have hhead := List.head?_dropWhile_not isBlank s
    rw [← hrest, List.head?_append, Option.mem_def.mp hc] at hhead
    simpa using hhead
  · intro c hc
    obtain ⟨before, hsplit⟩ := List.getLast?_eq_some_iff.mp hc
    have hlast := List.rdropWhile_last_not isBlank (s.dropWhile isBlank) (by simp [hsplit])
    simpa [hsplit] using hlast

theorem trim_eq_self_iff {s : List Char} : trim s = s ↔ Trimmed s := by
  refine ⟨fun h => h ▸ trimmed_trim s, fun h => ?_⟩
  have hstart : s.dropWhile isBlank = s := by
    rw [List.dropWhile_eq_self_iff]
    intro hne
    have hfirst := h.start s[0] (by rw [List.head?_eq_getElem?]; simp)
    simpa using hfirst
  rw [trim_eq, hstart, List.rdropWhile_eq_self_iff]
  intro hne
  have hlast := h.finish (s.getLast hne) (List.getLast?_eq_some_getLast hne)
  simpa using hlast

/-- A text of blanks alone, or of nothing. -/
def AllBlank (s : List Char) : Prop :=
  ∀ c ∈ s, isBlank c = true

instance (s : List Char) : Decidable (AllBlank s) :=
  decidable_of_iff (s.all isBlank = true) List.all_eq_true

section

variable {before after : List Char}

theorem trimEnd_append (s : List Char) (hafter : AllBlank after) :
    trimEnd (s ++ after) = trimEnd s := by
  have hreverse : ∀ c ∈ after.reverse, isBlank c = true :=
    fun c hc => hafter c (List.mem_reverse.mp hc)
  rw [trimEnd, List.reverse_append, List.dropWhile_append_of_pos hreverse, trimEnd]

/-- Blanks around a text do not count for what it is trimmed to. -/
theorem trim_surrounded (hbefore : AllBlank before) (s : List Char) (hafter : AllBlank after) :
    trim (before ++ s ++ after) = trim s := by
  rw [trim, List.append_assoc, List.dropWhile_append_of_pos hbefore, List.dropWhile_append]
  split
  · next hnone =>
      -- Nothing but blanks in the text, so that the blanks behind it go as well.
      have hblank : after.dropWhile isBlank = [] := List.dropWhile_eq_nil_iff.mpr hafter
      rw [hblank, trim, List.isEmpty_iff.mp hnone]
  · exact trimEnd_append _ hafter

end

/-- A text is what it is trimmed to with blanks around. -/
theorem exists_surrounded (s : List Char) :
    ∃ before after, AllBlank before ∧ AllBlank after ∧ s = before ++ trim s ++ after := by
  refine ⟨s.takeWhile isBlank, (s.dropWhile isBlank).rtakeWhile isBlank,
    fun c hc => List.mem_takeWhile_imp hc, fun c hc => List.mem_rtakeWhile_imp hc, ?_⟩
  rw [trim_eq, List.append_assoc, List.rdropWhile_append_rtakeWhile,
    List.takeWhile_append_dropWhile]

theorem trim_eq_nil_iff {s : List Char} : trim s = [] ↔ AllBlank s := by
  constructor
  · intro hnil
    obtain ⟨before, after, hbefore, hafter, hs⟩ := exists_surrounded s
    rw [hs, hnil, List.append_nil]
    exact List.forall_mem_append.mpr ⟨hbefore, hafter⟩
  · intro hblank
    have hnone : AllBlank [] := List.forall_mem_nil _
    have htrim := trim_surrounded hblank [] hnone
    rwa [List.append_nil, List.append_nil] at htrim

theorem toList_strip (s : String) : (strip s).toList = trim s.toList :=
  String.toList_ofList

theorem strip_eq_self_iff {s : String} : strip s = s ↔ Trimmed s.toList := by
  rw [← String.toList_inj, toList_strip, trim_eq_self_iff]

end ModelWiring.Text
