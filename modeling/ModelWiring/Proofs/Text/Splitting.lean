import ModelWiring.Text.Blank

/-!
A text cut at a separator. No part has the separator in it, everything else of
the text is in some part, and parts without it are found again when they are put
together.
-/

namespace ModelWiring.Text

theorem mem_splitAt (separator : Char) {s : List Char} {c : Char} (h : c ∈ s) :
    c = separator ∨ ∃ part ∈ splitAt separator s, c ∈ part := by
  induction s with
  | nil => cases h
  | cons first rest ih =>
      rw [splitAt]
      split
      · next hfirst =>
          rcases List.mem_cons.mp h with rfl | h
          · exact .inl hfirst
          · rcases ih h with hc | ⟨part, hpart, hc⟩
            · exact .inl hc
            · exact .inr ⟨part, List.mem_cons_of_mem _ hpart, hc⟩
      · split
        · next hnone => exact absurd hnone (splitAt_ne_nil separator rest)
        · next part parts hparts =>
            rcases List.mem_cons.mp h with rfl | h
            · exact .inr ⟨c :: part, List.mem_cons_self, List.mem_cons_self⟩
            · rw [hparts] at ih
              rcases ih h with hc | ⟨other, hother, hc⟩
              · exact .inl hc
              · rcases List.mem_cons.mp hother with rfl | hother
                · exact .inr ⟨first :: other, List.mem_cons_self, List.mem_cons_of_mem _ hc⟩
                · exact .inr ⟨other, List.mem_cons_of_mem _ hother, hc⟩

theorem not_mem_of_mem_splitAt {separator : Char} {s part : List Char}
    (h : part ∈ splitAt separator s) : separator ∉ part := by
  induction s generalizing part with
  | nil =>
      rw [splitAt, List.mem_singleton] at h
      rw [h]
      exact List.not_mem_nil
  | cons first rest ih =>
      rw [splitAt] at h
      split at h
      · rcases List.mem_cons.mp h with rfl | h
        · exact List.not_mem_nil
        · exact ih h
      · next hfirst =>
          split at h
          · next hnone => exact absurd hnone (splitAt_ne_nil separator rest)
          · next start parts hparts =>
              rw [hparts] at ih
              rcases List.mem_cons.mp h with rfl | h
              · rw [List.mem_cons, not_or]
                exact ⟨Ne.symm hfirst, ih List.mem_cons_self⟩
              · exact ih (List.mem_cons_of_mem _ h)

theorem splitAt_eq_splitOn (separator : Char) (s : List Char) :
    splitAt separator s = s.splitOn separator := by
  induction s with
  | nil => rfl
  | cons c rest ih =>
      rw [List.splitOn_cons_eq_if_modifyHead, ← ih, splitAt]
      by_cases hc : c = separator
      · rw [if_pos hc, if_pos (beq_iff_eq.mpr hc)]
      · rw [if_neg hc, if_neg fun h => hc (beq_iff_eq.mp h)]
        obtain ⟨part, parts, hparts⟩ :=
          List.exists_cons_of_ne_nil (splitAt_ne_nil separator rest)
        rw [hparts]
        rfl

theorem splitAt_of_not_mem {separator : Char} {s : List Char} (h : separator ∉ s) :
    splitAt separator s = [s] := by
  rw [splitAt_eq_splitOn, List.splitOn_eq_singleton h]

/-- Parts without the separator are found again between the separators. -/
theorem splitAt_intercalate {separator : Char} {parts : List (List Char)}
    (hnone : ∀ part ∈ parts, separator ∉ part) (hparts : parts ≠ []) :
    splitAt separator ([separator].intercalate parts) = parts := by
  rw [splitAt_eq_splitOn, List.splitOn_intercalate separator hnone hparts]

end ModelWiring.Text
