import ModelWiring.Proofs.Text.Trimming
import ModelWiring.Text.LowerCase

/-!
Lower-casing a second time changes nothing, since an image is its own image. A
character that is no blank has no blank for an image, so a text without blanks
around it has none around its image. Together they say which texts trimming and
lower-casing leave as they are: those that have been through both.
-/

namespace ModelWiring.Text

/-- A row of the table of lower-casing. -/
abbrev Run := Nat × Nat × Nat × Nat

namespace Run

abbrev first (run : Run) : Nat := run.1
abbrev last (run : Run) : Nat := run.2.1
abbrev step (run : Run) : Nat := run.2.2.1
abbrev image (run : Run) : Nat := run.2.2.2
abbrev lastImage (run : Run) : Nat := run.image + (run.last - run.first)

/-- A code point that the run maps to its image. -/
def Covers (run : Run) (n : Nat) : Prop :=
  run.first ≤ n ∧ n ≤ run.last ∧ (n - run.first) % run.step = 0

/-- What the images of a run are: characters, none of them a blank, a capital of
ASCII or the capital I with a dot. -/
structure Sound (run : Run) : Prop where
  small : 0x61 ≤ run.image
  valid : run.lastImage < 0xD800 ∨ 0xE000 ≤ run.image ∧ run.lastImage < 0x110000
  undotted : run.lastImage < 0x130 ∨ 0x130 < run.image
  shown : ∀ blank ∈ blankRanges, run.lastImage < blank.1 ∨ blank.2 < run.image

theorem sound_iff {run : Run} : run.Sound ↔
    0x61 ≤ run.image ∧
      (run.lastImage < 0xD800 ∨ 0xE000 ≤ run.image ∧ run.lastImage < 0x110000) ∧
      (run.lastImage < 0x130 ∨ 0x130 < run.image) ∧
      ∀ blank ∈ blankRanges, run.lastImage < blank.1 ∨ blank.2 < run.image :=
  ⟨fun h => ⟨h.small, h.valid, h.undotted, h.shown⟩,
    fun ⟨hsmall, hvalid, hundotted, hshown⟩ => ⟨hsmall, hvalid, hundotted, hshown⟩⟩

instance (run : Run) : Decidable run.Sound :=
  decidable_of_iff' _ sound_iff

/-- Whether the images of a run all stand between the members of another. -/
def isBetween (run other : Run) : Bool :=
  other.step = 2 && (run.step = 2 || run.first = run.last) && (run.image + other.first) % 2 = 1

/-- Whether the images of a run pass by the runs of an ascending table: where
they meet one, they stand between its members. -/
def passesBy (run : Run) : List Run → Bool
  | [] => true
  | other :: rest =>
      if other.last < run.image then run.passesBy rest
      else if run.lastImage < other.first then true
      else run.isBetween other && run.passesBy rest

theorem of_passesBy {run other : Run} {runs : List Run}
    (hascending : (runs.map first).Pairwise (· < ·)) (h : run.passesBy runs = true)
    (hother : other ∈ runs) :
    other.last < run.image ∨ run.lastImage < other.first ∨ run.isBetween other = true := by
  induction runs with
  | nil => cases hother
  | cons next rest ih =>
      rw [List.map_cons, List.pairwise_cons] at hascending
      rw [passesBy] at h
      split at h
      · next hbelow =>
          rcases List.mem_cons.mp hother with rfl | hrest
          · exact .inl hbelow
          · exact ih hascending.2 h hrest
      · split at h
        · next habove =>
            rcases List.mem_cons.mp hother with rfl | hrest
            · exact .inr (.inl habove)
            · have hlater := hascending.1 other.first (List.mem_map_of_mem hrest)
              exact .inr (.inl (Nat.lt_trans habove hlater))
        · obtain ⟨hbetween, h⟩ := Bool.and_eq_true_iff.mp h
          rcases List.mem_cons.mp hother with rfl | hrest
          · exact .inr (.inr hbetween)
          · exact ih hascending.2 h hrest

theorem Covers.image_le {run : Run} {n : Nat} (h : run.Covers n) :
    run.image + (n - run.first) ≤ run.lastImage :=
  Nat.add_le_add_left (Nat.sub_le_sub_right h.2.1 _) _

/-- An image that stands beside another run, or between its members, is none of
them. -/
theorem not_covers_image {run other : Run} {n : Nat} (hcovers : run.Covers n)
    (h : other.last < run.image ∨ run.lastImage < other.first ∨ run.isBetween other = true) :
    ¬other.Covers (run.image + (n - run.first)) := by
  have hlastImage := hcovers.image_le
  obtain ⟨hfirst, hlast, hstep⟩ := hcovers
  rintro ⟨hfirst', hlast', hstep'⟩
  rcases h with hbelow | habove | hbetween
  · omega
  · omega
  · simp only [isBetween, Bool.and_eq_true, Bool.or_eq_true, decide_eq_true_eq] at hbetween
    obtain ⟨⟨heven, hrun⟩, hodd⟩ := hbetween
    rw [heven] at hstep'
    rcases hrun with htwo | hsingle
    · rw [htwo] at hstep
      omega
    · omega

end Run

theorem lowerRuns_ascending : (lowerRuns.map Run.first).Pairwise (· < ·) :=
  List.isChain_iff_pairwise.mp (by decide +kernel)

theorem lowerRuns_sound : ∀ run ∈ lowerRuns, Run.Sound run := by
  decide +kernel

theorem lowerRuns_passBy : ∀ run ∈ lowerRuns, Run.passesBy run lowerRuns = true := by
  decide +kernel

/-- The image of a character beyond ASCII: itself, or the image in a run that
covers it. -/
theorem lowerChar_cases {c : Char} (h : 0x80 ≤ c.toNat) :
    (lowerChar c = c ∧ ∀ run ∈ lowerRuns, ¬Run.Covers run c.toNat) ∨
      ∃ run : Run, run ∈ lowerRuns ∧ run.Covers c.toNat ∧
        lowerChar c = Char.ofNat (run.image + (c.toNat - run.first)) := by
  unfold lowerChar
  rw [if_neg (Nat.not_lt.mpr h)]
  split
  · next first last step image hfound =>
      have hcovers := List.find?_some hfound
      simp only [Bool.and_eq_true, decide_eq_true_eq] at hcovers
      exact .inr ⟨(first, last, step, image), List.mem_of_find?_eq_some hfound,
        ⟨hcovers.1.1, hcovers.1.2, hcovers.2⟩, rfl⟩
  · next hnone =>
      refine .inl ⟨rfl, fun run hrun hcovers => ?_⟩
      have hmissed := List.find?_eq_none.mp hnone run hrun
      simp only [Bool.and_eq_true, decide_eq_true_eq, not_and] at hmissed
      exact hmissed ⟨hcovers.1, hcovers.2.1⟩ hcovers.2.2

/-- A character that no run covers is its own image. -/
theorem lowerChar_eq_self {c : Char} (h : 0x80 ≤ c.toNat)
    (hruns : ∀ run ∈ lowerRuns, ¬Run.Covers run c.toNat) : lowerChar c = c := by
  rcases lowerChar_cases h with ⟨heq, -⟩ | ⟨run, hrun, hcovers, -⟩
  · exact heq
  · exact absurd hcovers (hruns run hrun)

theorem isBlank_eq_false_iff {c : Char} :
    isBlank c = false ↔ ∀ blank ∈ blankRanges, c.toNat < blank.1 ∨ blank.2 < c.toNat := by
  simp only [isBlank, inRanges, List.any_eq_false, Bool.and_eq_true, decide_eq_true_eq, not_and,
    Nat.not_le, or_iff_not_imp_left, Nat.not_lt]

/-- A character that lower-casing leaves as it is, wherever it stands. -/
def IsLowered (c : Char) : Prop :=
  lowerChar c = c ∧ c ≠ 'İ'

instance (c : Char) : Decidable (IsLowered c) :=
  inferInstanceAs (Decidable (_ ∧ _))

theorem lowered_ascii {c : Char} (h : isAscii c = true) :
    IsLowered c.toLower ∧ (isBlank c = false → isBlank c.toLower = false) ∧
      (0x61 ≤ c.toNat → c.toLower = c) :=
  forall_ascii (P := fun c => IsLowered c.toLower ∧
    (isBlank c = false → isBlank c.toLower = false) ∧ (0x61 ≤ c.toNat → c.toLower = c))
    (by decide +kernel) h

/-- The image of a covered character is its own image, and no blank. -/
theorem Run.lowered_image {run : Run} (hrun : run ∈ lowerRuns) {n : Nat} (hcovers : run.Covers n) :
    IsLowered (Char.ofNat (run.image + (n - run.first))) ∧
      isBlank (Char.ofNat (run.image + (n - run.first))) = false := by
  have hsound := lowerRuns_sound run hrun
  have hge : run.image ≤ run.image + (n - run.first) := Nat.le_add_right _ _
  have hle := hcovers.image_le
  have hclear (other : Run) (hother : other ∈ lowerRuns) :
      ¬other.Covers (run.image + (n - run.first)) :=
    not_covers_image hcovers (of_passesBy lowerRuns_ascending (lowerRuns_passBy run hrun) hother)
  generalize run.image + (n - run.first) = m at *
  have hvalid : m.isValidChar := by
    have := hsound.valid
    unfold Nat.isValidChar
    omega
  have hm : (Char.ofNat m).toNat = m := by
    rw [Char.ofNat, dif_pos hvalid]
    rfl
  refine ⟨⟨?_, ?_⟩, ?_⟩
  · by_cases hascii : m < 0x80
    · have hlower := (lowered_ascii (c := Char.ofNat m) (by simpa [isAscii, hm] using hascii)).2.2
      rw [lowerChar, hm, if_pos hascii]
      exact hlower (by rw [hm]; exact Nat.le_trans hsound.small hge)
    · apply lowerChar_eq_self
      · rw [hm]
        exact Nat.not_lt.mp hascii
      · rw [hm]
        exact hclear
  · intro hdotted
    have hcode : m = 0x130 := by rw [← hm, hdotted]; rfl
    have := hsound.undotted
    omega
  · rw [isBlank_eq_false_iff, hm]
    intro blank hblank
    have := hsound.shown blank hblank
    omega

/-- Of every character but one, the image is its own image. -/
theorem isLowered_lowerChar {c : Char} (h : c ≠ 'İ') : IsLowered (lowerChar c) := by
  by_cases hascii : c.toNat < 0x80
  · rw [lowerChar, if_pos hascii]
    exact (lowered_ascii (by simpa [isAscii] using hascii)).1
  · rcases lowerChar_cases (Nat.not_lt.mp hascii) with ⟨heq, -⟩ | ⟨run, hrun, hcovers, heq⟩
    · rw [heq]
      exact ⟨heq, h⟩
    · rw [heq]
      exact (Run.lowered_image hrun hcovers).1

theorem isBlank_lowerChar {c : Char} (h : isBlank c = false) : isBlank (lowerChar c) = false := by
  by_cases hascii : c.toNat < 0x80
  · rw [lowerChar, if_pos hascii]
    exact (lowered_ascii (by simpa [isAscii] using hascii)).2.1 h
  · rcases lowerChar_cases (Nat.not_lt.mp hascii) with ⟨heq, -⟩ | ⟨run, hrun, hcovers, heq⟩
    · rw [heq]
      exact h
    · rw [heq]
      exact (Run.lowered_image hrun hcovers).2

/-- The image of a character between what stands before it, given backwards, and
what follows. -/
def imageAt (before : List Char) (c : Char) (rest : List Char) : List Char :=
  if c = 'Σ' then [if meetsCased before && !meetsCased rest then 'ς' else 'σ']
  else if c = 'İ' then ['i', '\u0307']
  else [lowerChar c]

theorem lowerAfter_cons (before : List Char) (c : Char) (rest : List Char) :
    lowerAfter before (c :: rest) = imageAt before c rest ++ lowerAfter (c :: before) rest := rfl

section

variable (before : List Char) {c d : Char} (rest : List Char)

theorem imageAt_ne_nil : imageAt before c rest ≠ [] := by
  unfold imageAt
  split
  · simp
  · split <;> simp

theorem lowered_of_mem_imageAt (h : d ∈ imageAt before c rest) :
    IsLowered d ∧ (isBlank c = false → isBlank d = false) := by
  have hsigma : (IsLowered 'ς' ∧ isBlank 'ς' = false) ∧ IsLowered 'σ' ∧ isBlank 'σ' = false := by
    decide +kernel
  have hdotted : (IsLowered 'i' ∧ isBlank 'i' = false) ∧
      IsLowered '\u0307' ∧ isBlank '\u0307' = false := by
    decide +kernel
  unfold imageAt at h
  split at h
  · split at h
    · rw [List.mem_singleton.mp h]
      exact ⟨hsigma.1.1, fun _ => hsigma.1.2⟩
    · rw [List.mem_singleton.mp h]
      exact ⟨hsigma.2.1, fun _ => hsigma.2.2⟩
  · split at h
    · rcases List.mem_cons.mp h with rfl | h
      · exact ⟨hdotted.1.1, fun _ => hdotted.1.2⟩
      · rw [List.mem_singleton.mp h]
        exact ⟨hdotted.2.1, fun _ => hdotted.2.2⟩
    · next hne =>
        rw [List.mem_singleton.mp h]
        exact ⟨isLowered_lowerChar hne, isBlank_lowerChar⟩

theorem imageAt_of_isLowered (h : IsLowered c) : imageAt before c rest = [c] := by
  have hsigma : c ≠ 'Σ' := by
    rintro rfl
    revert h
    decide +kernel
  rw [imageAt, if_neg hsigma, if_neg h.2, h.1]

end

theorem isLowered_of_mem_lowerAfter {before s : List Char} :
    ∀ c ∈ lowerAfter before s, IsLowered c := by
  induction s generalizing before with
  | nil => exact List.forall_mem_nil _
  | cons c rest ih =>
      rw [lowerAfter_cons, List.forall_mem_append]
      exact ⟨fun d hd => (lowered_of_mem_imageAt before rest hd).1, ih⟩

theorem lowerAfter_of_isLowered (before : List Char) {s : List Char}
    (h : ∀ c ∈ s, IsLowered c) : lowerAfter before s = s := by
  induction s generalizing before with
  | nil => rfl
  | cons c rest ih =>
      obtain ⟨hfirst, hrest⟩ := List.forall_mem_cons.mp h
      rw [lowerAfter_cons, imageAt_of_isLowered before rest hfirst, ih (c :: before) hrest]
      rfl

theorem lowerAfter_ne_nil (before : List Char) {s : List Char} (h : s ≠ []) :
    lowerAfter before s ≠ [] := by
  obtain ⟨c, rest, rfl⟩ := List.exists_cons_of_ne_nil h
  rw [lowerAfter_cons]
  exact List.append_ne_nil_of_left_ne_nil (imageAt_ne_nil before rest) _

/-- A text with no blanks around it has none around its image. -/
theorem Trimmed.lowerAfter {s : List Char} (h : Trimmed s) (before : List Char) :
    Trimmed (lowerAfter before s) := by
  constructor
  · intro d hd
    cases s with
    | nil => cases hd
    | cons c rest =>
        rw [lowerAfter_cons, List.head?_append_of_ne_nil _ (imageAt_ne_nil before rest)] at hd
        exact (lowered_of_mem_imageAt before rest (List.mem_of_mem_head? hd)).2 (h.start c rfl)
  · have hfinish := h.finish
    clear h
    induction s generalizing before with
    | nil => exact hfinish
    | cons c rest ih =>
        rw [lowerAfter_cons]
        cases rest with
        | nil =>
            intro d hd
            have hmem := List.mem_of_getLast? hd
            rw [Text.lowerAfter, List.append_nil] at hmem
            exact (lowered_of_mem_imageAt before [] hmem).2 (hfinish c rfl)
        | cons next more =>
            rw [List.getLast?_append_of_ne_nil _ (lowerAfter_ne_nil _ (List.cons_ne_nil _ _))]
            exact ih (c :: before) hfinish

/-- A text that trimming and lower-casing leave as it is. -/
structure Normal (s : String) : Prop where
  trimmed : Trimmed s.toList
  lowered : ∀ c ∈ s.toList, IsLowered c

theorem toList_lower (s : String) : (lower s).toList = lowerAfter [] s.toList :=
  String.toList_ofList

/-- What has been trimmed and lower-cased stays as it is. -/
theorem normal_lower_strip (s : String) : Normal (lower (strip s)) := by
  constructor
  · rw [toList_lower, toList_strip]
    exact (trimmed_trim _).lowerAfter []
  · rw [toList_lower]
    exact isLowered_of_mem_lowerAfter

theorem Normal.strip_eq {s : String} (h : Normal s) : strip s = s :=
  strip_eq_self_iff.mpr h.trimmed

theorem Normal.lower_eq {s : String} (h : Normal s) : lower s = s := by
  rw [← String.toList_inj, toList_lower, lowerAfter_of_isLowered [] h.lowered]

theorem lower_strip_eq_self_iff {s : String} : lower (strip s) = s ↔ Normal s := by
  refine ⟨fun h => h ▸ normal_lower_strip s, fun h => ?_⟩
  rw [h.strip_eq, h.lower_eq]

theorem lower_ne_empty {s : String} (h : s ≠ "") : lower s ≠ "" := by
  intro hempty
  have hchars := congrArg String.toList hempty
  rw [toList_lower] at hchars
  exact lowerAfter_ne_nil [] (fun hnil => h (String.toList_inj.mp hnil)) hchars

end ModelWiring.Text
