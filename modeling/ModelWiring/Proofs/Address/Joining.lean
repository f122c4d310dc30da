import ModelWiring.Proofs.Address.Reading

/-!
Where a reference leads that is resolved against a base. One that names no place
of its own continues the base and stays at its place; any other one decides by
itself, and of the base only the scheme plays a part.
-/

namespace ModelWiring.Address

theorem followsAuthority_append {s t : List Char} (hs : FollowsAuthority s)
    (ht : FollowsAuthority t) : FollowsAuthority (s ++ t) := by
  cases s with
  | nil => exact ht
  | cons c rest => exact hs

theorem followsAuthority_announced {mark : Char} (hmark : endsAuthority mark = true)
    (s : Option (List Char)) : FollowsAuthority (announced mark s) := by
  cases s with
  | none => rfl
  | some rest => exact hmark

theorem followsAuthority_given {mark : Char} (hmark : endsAuthority mark = true)
    (s : List Char) : FollowsAuthority (Reference.given mark s) := by
  unfold Reference.given
  split
  · rfl
  · exact hmark

/-- Every scheme whose references continue a base has a place. -/
theorem located_of_relative {scheme : List Char} (h : isOneOf relativeSchemes scheme = true) :
    isOneOf locatedSchemes scheme = true := by
  have hall : ∀ name ∈ relativeSchemes, name ∈ locatedSchemes := by decide
  exact List.contains_iff_mem.mpr (hall _ (List.contains_iff_mem.mp h))

namespace Reference

/-- The scheme and the place that a reference names, when both are found. -/
theorem ofText_ok {standard s : List Char} {r : Reference} (h : ofText standard s = .ok r) :
    r.scheme = (splitScheme standard s).1 ∧
      r.location = (splitAuthority (splitScheme standard s).2).1 := by
  unfold ofText at h
  simp only at h
  cases hchecked : checkLocation (splitAuthority (splitScheme standard s).2).1 with
  | error cause => rw [hchecked] at h; cases h
  | ok u =>
      rw [hchecked] at h
      cases h
      exact ⟨rfl, rfl⟩

/-- The text of a reference with a scheme and a place. -/
theorem chars_located {r : Reference} (hscheme : r.scheme ≠ []) (hlocation : r.location ≠ []) :
    ∃ tail, FollowsAuthority tail ∧
      r.chars = r.scheme ++ ':' :: '/' :: '/' :: (r.location ++ tail) := by
  let path := r.path ++ given ';' r.parameters
  let rooted := if !path.isEmpty && path.head? ≠ some '/' then '/' :: path else path
  have hrooted : FollowsAuthority rooted := by
    unfold rooted
    split
    · rfl
    · next hstart =>
        cases hpath : path with
        | nil => rfl
        | cons c rest =>
            have hc : c = '/' := by simpa [hpath] using hstart
            rw [hc]
            rfl
  refine ⟨rooted ++ given '?' r.query ++ given '#' r.fragment,
    followsAuthority_append (followsAuthority_append hrooted (followsAuthority_given rfl _))
      (followsAuthority_given rfl _), ?_⟩
  have hscheme' : r.scheme.isEmpty = false := List.isEmpty_eq_false_iff.mpr hscheme
  have hlocation' : r.location.isEmpty = false := List.isEmpty_eq_false_iff.mpr hlocation
  simp [chars, hscheme', hlocation', rooted, path]

end Reference

theorem chars_ne_nil {a : Address} (hscheme : a.scheme ≠ []) : a.chars ≠ [] := by
  simp [chars, hscheme]

namespace Readable

variable {a : Address} (h : a.Readable)

include h

theorem authority_ne_nil (hhost : a.host ≠ []) : a.authority ≠ [] := by
  intro hempty
  have hlocation := (List.append_eq_nil_iff.mp hempty).2
  have hbracketed := (List.append_eq_nil_iff.mp hlocation).1
  rcases h.bracketed_eq with ⟨-, hplain⟩ | ⟨-, hbrackets⟩
  · exact hhost (hplain ▸ hbracketed)
  · rw [hbrackets] at hbracketed
    cases hbracketed

theorem chars_eq (hscheme : a.scheme ≠ []) (hhost : a.host ≠ []) :
    ∃ tail, FollowsAuthority tail ∧
      a.chars = a.scheme ++ ':' :: '/' :: '/' :: (a.authority ++ tail) := by
  have hpath : FollowsAuthority a.path := by
    rcases h.path hhost with hpath | hpath
    · rw [hpath]
      rfl
    · rw [FollowsAuthority, hpath]
      rfl
  refine ⟨a.path ++ announced '?' a.query ++ announced '#' a.fragment,
    followsAuthority_append (followsAuthority_append hpath (followsAuthority_announced rfl _))
      (followsAuthority_announced rfl _), ?_⟩
  have hscheme' : a.scheme.isEmpty = false := List.isEmpty_eq_false_iff.mpr hscheme
  have hauthority : a.authority.isEmpty = false :=
    List.isEmpty_eq_false_iff.mpr (h.authority_ne_nil hhost)
  simp [chars, hscheme', hauthority]

theorem splitScheme_reference (hscheme : a.scheme ≠ []) (standard rest : List Char) :
    Reference.splitScheme standard (a.scheme ++ ':' :: rest) = (a.scheme, rest) := by
  have hinitial : a.scheme.head?.any Char.isAlpha = true := by
    obtain ⟨c, rest, hc⟩ := List.exists_cons_of_ne_nil hscheme
    have hall := h.initial
    rw [hc] at hall ⊢
    exact hall
  obtain ⟨htake, hdrop⟩ := takeWhile_append_stop h.scheme (':' :: rest)
    (by rw [List.head?_cons]; decide)
  rw [Reference.splitScheme, htake, hdrop]
  simp only [hinitial, if_true, h.lower]

theorem reference_ok (hscheme : a.scheme ≠ []) (hhost : a.host ≠ []) {standard : List Char}
    {r : Reference} (hr : Reference.ofText standard a.chars = .ok r) :
    r.scheme = a.scheme ∧ r.location = a.authority := by
  obtain ⟨tail, htail, hchars⟩ := h.chars_eq hscheme hhost
  obtain ⟨hrscheme, hrlocation⟩ := Reference.ofText_ok hr
  rw [hchars, h.splitScheme_reference hscheme] at hrscheme hrlocation
  exact ⟨hrscheme, hrlocation.trans (congrArg Prod.fst (h.splitAuthority_text htail))⟩

end Readable

/-- A reference, given as a text, continues a base: it is empty, or it names no
other scheme than the base's and no place, and its scheme is one for which that
has a meaning. -/
def Continues (base : Address) (reference : List Char) : Prop :=
  reference = [] ∨ (isOneOf relativeSchemes base.scheme = true ∧
    ∃ r, Reference.ofText base.scheme reference = .ok r ∧ r.scheme = base.scheme ∧
      r.location = [])

/-- What a reference that does not continue a base stands for: itself, but the
scheme of the base is put before a place without one. -/
def ownText (base : Address) (reference : List Char) (r : Reference) : List Char :=
  if r.scheme = base.scheme ∧ isOneOf relativeSchemes base.scheme = true then r.chars
  else reference

section

variable {base other : Address} {reference : List Char} (h : base.scheme = other.scheme)

include h

/-- Of the base, only the scheme counts for what continues it. -/
theorem continues_congr : base.Continues reference ↔ other.Continues reference := by
  rw [Continues, Continues, h]

theorem ownText_congr {r : Reference} : base.ownText reference r = other.ownText reference r := by
  rw [ownText, ownText, h]

end

/-- How a base and a reference come together, both cut into parts. -/
inductive Joined (b r : Reference) (reference : List Char) : List Char → Prop where
  /-- The reference has a scheme of its own, or one that no base continues. -/
  | alone (hscheme : r.scheme = b.scheme → isOneOf relativeSchemes r.scheme = false) :
      Joined b r reference reference
  | elsewhere (hscheme : r.scheme = b.scheme) (hrelative : isOneOf relativeSchemes r.scheme = true)
      (hlocation : r.location ≠ []) : Joined b r reference r.chars
  | continued (hscheme : r.scheme = b.scheme) (hrelative : isOneOf relativeSchemes r.scheme = true)
      (hlocation : r.location = []) (more : Reference) (hmore : more.scheme = b.scheme)
      (hplace : more.location = b.location) : Joined b r reference more.chars

theorem joinText_ok {base reference joined : List Char} (h : joinText base reference = .ok joined)
    (hbase : base ≠ []) (hreference : reference ≠ []) :
    ∃ b r, Reference.ofText [] base = .ok b ∧ Reference.ofText b.scheme reference = .ok r ∧
      Joined b r reference joined := by
  rw [joinText, if_neg (by simpa using hbase), if_neg (by simpa using hreference)] at h
  cases hb : Reference.ofText [] base with
  | error cause => rw [hb] at h; cases h
  | ok b =>
    cases hr : Reference.ofText b.scheme reference with
    | error cause => simp only [hb, hr, Except.bind, bind] at h; cases h
    | ok r =>
      refine ⟨b, r, rfl, hr, ?_⟩
      simp only [hb, hr, Except.bind, bind] at h
      split at h
      · next halone =>
          cases h
          refine .alone fun hscheme => ?_
          simpa [hscheme] using halone
      next hrelative =>
      simp only [ne_eq, Bool.or_eq_true, decide_eq_true_eq, Bool.not_eq_true', not_or,
        Decidable.not_not, Bool.not_eq_false] at hrelative
      obtain ⟨hscheme, hrelative⟩ := hrelative
      have hlocated := located_of_relative hrelative
      simp only [hlocated, Bool.true_and, if_true, Bool.not_eq_true',
        List.isEmpty_eq_false_iff] at h
      split at h
      · next hlocation =>
          cases h
          exact .elsewhere hscheme hrelative hlocation
      next hlocation =>
      have hlocation := Decidable.not_not.mp hlocation
      split at h
      · cases h
        exact .continued hscheme hrelative hlocation _ hscheme rfl
      · cases h
        exact .continued hscheme hrelative hlocation _ hscheme rfl

section

variable {base : Address} (h : base.Readable) (hscheme : base.scheme ≠ []) (hhost : base.host ≠ [])
variable {reference joined : List Char} (hjoined : joinText base.chars reference = .ok joined)

include h hscheme hhost hjoined

/-- What continues a base starts with the scheme and the authority of it. -/
theorem joined_start (hcontinues : Continues base reference) :
    ∃ tail, FollowsAuthority tail ∧
      joined = base.scheme ++ ':' :: '/' :: '/' :: (base.authority ++ tail) := by
  have hchars := chars_ne_nil hscheme
  rcases hcontinues with rfl | ⟨hrelative, r, hr, hsame, hlocation⟩
  · rw [joinText, if_neg (by simpa using hchars)] at hjoined
    cases hjoined
    exact h.chars_eq hscheme hhost
  · by_cases hempty : reference = []
    · subst hempty
      rw [joinText, if_neg (by simpa using hchars)] at hjoined
      cases hjoined
      exact h.chars_eq hscheme hhost
    obtain ⟨b, r', hb, hr', hway⟩ := joinText_ok hjoined hchars hempty
    obtain ⟨hbscheme, hblocation⟩ := h.reference_ok hscheme hhost hb
    have hread : r' = r := Except.ok.inj (hr'.symm.trans (hbscheme ▸ hr))
    subst hread
    cases hway with
    | alone hother =>
        rw [← hsame, hother (hsame.trans hbscheme.symm)] at hrelative
        cases hrelative
    | elsewhere _ _ hplace => exact absurd hlocation hplace
    | continued _ _ _ more hmore hplace =>
        obtain ⟨tail, htail, hmoreChars⟩ := Reference.chars_located
          (r := more) (by rw [hmore, hbscheme]; exact hscheme)
          (by rw [hplace, hblocation]; exact h.authority_ne_nil hhost)
        exact ⟨tail, htail, by rw [hmoreChars, hmore, hplace, hbscheme, hblocation]⟩

/-- What does not continue a base stands for itself. -/
theorem joined_own (hown : ¬ Continues base reference) :
    ∃ r, Reference.ofText base.scheme reference = .ok r ∧ joined = ownText base reference r := by
  have hchars := chars_ne_nil hscheme
  have hempty : reference ≠ [] := fun hempty => hown (.inl hempty)
  obtain ⟨b, r, hb, hr, hway⟩ := joinText_ok hjoined hchars hempty
  obtain ⟨hbscheme, hblocation⟩ := h.reference_ok hscheme hhost hb
  rw [hbscheme] at hr
  refine ⟨r, hr, ?_⟩
  cases hway with
  | alone hother =>
      refine (if_neg ?_).symm
      rintro ⟨hsame, hrelative⟩
      rw [← hsame, hother (hsame.trans hbscheme.symm)] at hrelative
      cases hrelative
  | elsewhere hsame hrelative _ =>
      exact (if_pos ⟨hsame.trans hbscheme, (hsame.trans hbscheme) ▸ hrelative⟩).symm
  | continued hsame hrelative hlocation =>
      have hsame := hsame.trans hbscheme
      exact absurd (.inr ⟨hsame ▸ hrelative, r, hr, hsame, hlocation⟩) hown

end

theorem isAbsolute_iff {a : Address} : a.isAbsolute = true ↔ a.scheme ≠ [] ∧ a.host ≠ [] := by
  simp [isAbsolute]

theorem SamePlace.isAbsolute {a b : Address} (h : a.SamePlace b) (hb : b.isAbsolute = true) :
    a.isAbsolute = true := by
  obtain ⟨hscheme, hhost⟩ := isAbsolute_iff.mp hb
  obtain ⟨hsame, hhosts, -⟩ := h
  refine isAbsolute_iff.mpr ⟨hsame ▸ hscheme, ?_⟩
  rintro hempty
  rw [SameHost, hempty] at hhosts
  exact hhost (List.map_eq_nil_iff.mp hhosts.symm)

theorem requestTarget_of_isAbsolute {a : Address} (h : a.isAbsolute = true) :
    a.requestTarget = .ok a :=
  if_pos h

section

variable {base reference resolved : Address} (h : base.Readable) (habsolute : base.isAbsolute = true)
variable (hresolved : base.join reference = .ok resolved)

include hresolved

theorem join_ok : ∃ joined, joinText base.chars reference.chars = .ok joined ∧
    parse joined = .ok resolved := by
  unfold join at hresolved
  cases hjoined : joinText base.chars reference.chars with
  | error cause => rw [hjoined] at hresolved; cases hresolved
  | ok joined =>
      rw [hjoined] at hresolved
      have hread : (parse joined).mapError JoinFault.address = .ok resolved := hresolved
      cases hparsed : parse joined with
      | error cause => rw [hparsed] at hread; cases hread
      | ok address =>
          rw [hparsed] at hread
          cases hread
          exact ⟨joined, rfl, hparsed⟩

include h habsolute

/-- A reference that continues an absolute base leads to the place of it. -/
theorem samePlace_of_join (hcontinues : Continues base reference.chars) :
    resolved.SamePlace base := by
  obtain ⟨hscheme, hhost⟩ := isAbsolute_iff.mp habsolute
  obtain ⟨joined, hjoined, hparsed⟩ := join_ok hresolved
  obtain ⟨tail, htail, hstart⟩ := joined_start h hscheme hhost hjoined hcontinues
  exact h.samePlace_of_parse htail (hstart ▸ hparsed)

/-- Any other reference leads where it says by itself. -/
theorem parse_ownText_of_join (hown : ¬ Continues base reference.chars) :
    ∃ r, Reference.ofText base.scheme reference.chars = .ok r ∧
      parse (ownText base reference.chars r) = .ok resolved := by
  obtain ⟨hscheme, hhost⟩ := isAbsolute_iff.mp habsolute
  obtain ⟨joined, hjoined, hparsed⟩ := join_ok hresolved
  obtain ⟨r, hr, howntext⟩ := joined_own h hscheme hhost hjoined hown
  exact ⟨r, hr, howntext ▸ hparsed⟩

end

end ModelWiring.Address
