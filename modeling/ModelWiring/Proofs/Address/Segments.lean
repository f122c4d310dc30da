import ModelWiring.Proofs.Address.Joining

/-!
Paths made of segments that need no escape and stand for themselves. Such a path
is in its normal form, and one that is resolved against a directory continues it,
segment by segment.
-/

namespace ModelWiring.Address

/-- Parts of characters of one kind, joined, start with such a character. -/
theorem intercalate_start (separator : List Char) {p : Char → Bool} {parts : List (List Char)}
    (hparts : parts ≠ []) (h : ∀ part ∈ parts, part ≠ [] ∧ part.all p = true) :
    ∃ c rest, separator.intercalate parts = c :: rest ∧ p c = true := by
  obtain ⟨first, more, rfl⟩ := List.exists_cons_of_ne_nil hparts
  obtain ⟨hfirst, hchars⟩ := h first List.mem_cons_self
  obtain ⟨c, rest, rfl⟩ := List.exists_cons_of_ne_nil hfirst
  exact ⟨c, _, List.intercalate_cons_cons_left, List.all_eq_true.mp hchars c List.mem_cons_self⟩

/-- What no character of a text is does not stand in it. -/
theorem not_mem_of_forall {p : Char → Bool} {s : List Char} (h : ∀ c ∈ s, p c = true) {mark : Char}
    (hmark : p mark = false) : mark ∉ s := fun hmem => by
  rw [h mark hmem] at hmark
  cases hmark

/-- A segment of a path that needs no escape and does not stand for another
place. -/
structure IsSegment (s : List Char) : Prop where
  nonempty : s ≠ []
  plain : s.all isUnreserved = true
  ordinary : s ≠ ['.'] ∧ s ≠ ['.', '.']

instance (s : List Char) : Decidable (IsSegment s) :=
  decidable_of_iff (s ≠ [] ∧ s.all isUnreserved = true ∧ s ≠ ['.'] ∧ s ≠ ['.', '.'])
    ⟨fun ⟨nonempty, plain, ordinary⟩ => ⟨nonempty, plain, ordinary⟩,
      fun h => ⟨h.nonempty, h.plain, h.ordinary⟩⟩

theorem IsSegment.mem {s : List Char} (h : IsSegment s) : ∀ c ∈ s, isUnreserved c = true :=
  List.all_eq_true.mp h.plain

/-- The segments with a slash before each. -/
def rooted (segments : List (List Char)) : List Char :=
  segments.flatMap ('/' :: ·)

theorem rooted_append (segments more : List (List Char)) :
    rooted (segments ++ more) = rooted segments ++ rooted more :=
  List.flatMap_append

/-- The path of a directory has a slash after its segments. -/
theorem rooted_directory (segments : List (List Char)) :
    rooted (segments ++ [[]]) = rooted segments ++ ['/'] :=
  rooted_append segments [[]]

theorem rooted_eq_intercalate (segments : List (List Char)) :
    rooted segments = ['/'].intercalate ([] :: segments) := by
  induction segments with
  | nil => rfl
  | cons segment rest ih =>
      rw [List.intercalate_cons_cons, List.nil_append, List.singleton_append]
      cases rest with
      | nil => simp [rooted]
      | cons next more =>
          rw [List.intercalate_cons_cons] at ih ⊢
          rw [rooted, List.flatMap_cons, ← rooted, ih]
          simp

/-- The segments between slashes, after the first slash. -/
theorem rooted_eq_cons {segments : List (List Char)} (h : segments ≠ []) :
    rooted segments = '/' :: ['/'].intercalate segments := by
  rw [rooted_eq_intercalate, List.intercalate_cons_of_ne_nil h]
  rfl

section

variable {segments : List (List Char)}
  (h : ∀ segment ∈ segments, segment = [] ∨ IsSegment segment)

include h

theorem no_slash : ∀ segment ∈ segments, '/' ∉ segment := by
  intro segment hsegment
  rcases h segment hsegment with rfl | hok
  · exact List.not_mem_nil
  · exact not_mem_of_forall hok.mem (by decide)

/-- Beside empty segments, there is none to be worked out. -/
theorem no_dots : ['.'] ∉ segments ∧ ['.', '.'] ∉ segments := by
  constructor
  all_goals
    intro hmem
    rcases h _ hmem with hempty | hok
    · cases hempty
  · exact hok.ordinary.1 rfl
  · exact hok.ordinary.2 rfl

theorem mem_rooted : ∀ c ∈ rooted segments, (isUnreserved c || c = '/') = true := by
  intro c hc
  obtain ⟨segment, hsegment, hc⟩ := List.mem_flatMap.mp hc
  rcases List.mem_cons.mp hc with rfl | hc
  · rfl
  · rcases h segment hsegment with rfl | hok
    · cases hc
    · rw [hok.mem c hc]
      rfl

/-- The segments between the slashes, and the empty one before the first. -/
theorem splitAt_rooted : Text.splitAt '/' (rooted segments) = [] :: segments := by
  rw [rooted_eq_intercalate]
  exact Text.splitAt_intercalate (List.forall_mem_cons.mpr ⟨List.not_mem_nil, no_slash h⟩)
    (List.cons_ne_nil _ _)

theorem normalPath_rooted : normalPath (rooted segments) = rooted segments := by
  obtain ⟨hsame, hupper⟩ := no_dots h
  rw [normalPath, splitAt_rooted h, if_neg]
  simp [hsame, hupper]

theorem normalPath_intercalate (hsome : segments ≠ []) :
    normalPath (['/'].intercalate segments) = ['/'].intercalate segments := by
  obtain ⟨hsame, hupper⟩ := no_dots h
  rw [normalPath, Text.splitAt_intercalate (no_slash h) hsome, if_neg]
  simp [hsame, hupper]

end

/-- Working out the segments keeps all of them where none is for the same or the
upper place. -/
theorem climb_eq_self {all : List (List Char)} (hsame : ['.'] ∉ all) (hupper : ['.', '.'] ∉ all) :
    climb all = all := by
  have hfold (done : List (List Char)) : all.foldl (fun done segment =>
      if segment = ['.', '.'] then done.tail
      else if segment = ['.'] then done
      else segment :: done) done = all.reverse ++ done := by
    induction all generalizing done with
    | nil => rfl
    | cons segment rest ih =>
        rw [List.mem_cons, not_or] at hsame hupper
        rw [List.foldl_cons, if_neg (Ne.symm hupper.1), if_neg (Ne.symm hsame.1),
          ih hsame.2 hupper.2, List.reverse_cons, List.append_assoc, List.singleton_append]
  rw [climb, hfold, List.append_nil, List.reverse_reverse]

/-- The empty segment at the end of a directory is left out when others follow. -/
theorem withoutEmptyInner_directory {base path : List (List Char)} (hpath : path ≠ [])
    (hbase : ∀ segment ∈ base, segment ≠ []) (hinner : ∀ segment ∈ path, segment ≠ []) :
    withoutEmptyInner (([] :: (base ++ [[]])) ++ path) = [] :: (base ++ path) := by
  obtain ⟨inner, last, rfl⟩ : ∃ inner last, path = inner ++ [last] :=
    ⟨_, _, (List.dropLast_concat_getLast hpath).symm⟩
  have hkept {segments : List (List Char)} (h : ∀ segment ∈ segments, segment ≠ []) :
      segments.filter (!·.isEmpty) = segments :=
    List.filter_eq_self.mpr fun segment hsegment => by simpa using h segment hsegment
  have hall : ([] :: (base ++ [[]])) ++ (inner ++ [last]) =
      [] :: ((base ++ [] :: inner) ++ [last]) := by simp
  rw [hall, withoutEmptyInner]
  simp only [List.getLast?_concat, List.dropLast_concat, List.filter_append, hkept hbase]
  rw [List.filter_cons_of_neg (by simp), hkept fun s hs => hinner s (List.mem_append_left _ hs),
    List.cons_append, List.append_assoc]

/-- A path that is resolved against a directory puts its segments behind those
of the directory. -/
theorem joinPaths_directory {base path : List (List Char)}
    (hbase : ∀ segment ∈ base, IsSegment segment) (hpath : ∀ segment ∈ path, IsSegment segment)
    (hsome : path ≠ []) :
    joinPaths (rooted (base ++ [[]])) (['/'].intercalate path) = rooted (base ++ path) := by
  obtain ⟨c, rest, hstart, hc⟩ := intercalate_start ['/'] hsome fun s hs =>
    ⟨(hpath s hs).nonempty, (hpath s hs).plain⟩
  have hhead : (['/'].intercalate path).head? ≠ some '/' := by
    rw [hstart]
    rintro h
    cases h
    cases hc
  have hdirectory : ∀ segment ∈ base ++ [[]], segment = [] ∨ IsSegment segment :=
    List.forall_mem_append.mpr ⟨fun s hs => .inr (hbase s hs), by simp⟩
  have hlast : ([] :: (base ++ [[]])).getLast? = some [] :=
    List.getLast?_concat (l := [] :: base)
  have hsegments := withoutEmptyInner_directory hsome (fun s hs => (hbase s hs).nonempty)
    fun s hs => (hpath s hs).nonempty
  have hall : ∀ segment ∈ [] :: (base ++ path), segment = [] ∨ IsSegment segment :=
    List.forall_mem_cons.mpr ⟨.inl rfl, List.forall_mem_append.mpr
      ⟨fun s hs => .inr (hbase s hs), fun s hs => .inr (hpath s hs)⟩⟩
  obtain ⟨hsame, hupper⟩ := no_dots hall
  have hend {dots : List Char} (hdots : dots ∉ [] :: (base ++ path)) :
      ([] :: (base ++ path)).getLast? ≠ some dots := fun h => hdots (List.mem_of_getLast? h)
  have hjoined : (rooted (base ++ path)).isEmpty = false := by
    rw [rooted_eq_cons (List.append_ne_nil_of_right_ne_nil _ hsome)]
    rfl
  rw [joinPaths, if_neg hhead, splitAt_rooted hdirectory,
    Text.splitAt_intercalate (no_slash fun s hs => .inr (hpath s hs)) hsome]
  simp only [hlast, if_true, hsegments, climb_eq_self hsame hupper, hend hsame, hend hupper,
    decide_false, Bool.or_self, Bool.false_eq_true, if_false, ← rooted_eq_intercalate, hjoined]

end ModelWiring.Address
