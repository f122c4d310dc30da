import ModelWiring.Address.Host

/-!
The plain form of a domain name. It consists of characters that stand for
themselves in a host, so nothing in it is written by bytes.
-/

namespace ModelWiring.Address

/-- What holds of the characters of all parts and of what is put between them. -/
theorem forall_mem_intercalate {P : Char → Prop} {separator : List Char} {parts : List (List Char)}
    (hseparator : ∀ c ∈ separator, P c) (h : ∀ part ∈ parts, ∀ c ∈ part, P c) :
    ∀ c ∈ separator.intercalate parts, P c := by
  induction parts with
  | nil => exact List.forall_mem_nil _
  | cons part rest ih =>
      obtain ⟨hpart, hrest⟩ := List.forall_mem_cons.mp h
      cases rest with
      | nil => simpa using hpart
      | cons next more =>
          rw [List.intercalate_cons_cons]
          exact List.forall_mem_append.mpr
            ⟨List.forall_mem_append.mpr ⟨hpart, hseparator⟩, ih hrest⟩

/-- A check that was passed leaves what comes after it. -/
theorem ok_of_guard {ε α β : Type} {c : Prop} [Decidable c] {cause : ε} {next : β → Except ε α}
    {rest : Except ε α} {a : α} (h : (if c then throw cause >>= next else rest) = .ok a) :
    rest = .ok a := by
  split at h
  · cases h
  · exact h

/-- Every character of a text stands before the last mark, is that, or stands
behind it. -/
theorem mem_cutLast (mark : Char) {s : List Char} {c : Char} (h : c ∈ s) :
    c ∈ (s.reverse.dropWhile (· ≠ mark)).tail.reverse ∨ c = mark ∨
      c ∈ (s.reverse.takeWhile (· ≠ mark)).reverse := by
  rw [← List.mem_reverse, ← List.takeWhile_append_dropWhile (p := fun d => decide (d ≠ mark))
    (l := s.reverse), List.mem_append] at h
  rcases h with h | h
  · exact .inr (.inr (List.mem_reverse.mpr h))
  · cases hdrop : s.reverse.dropWhile (· ≠ mark) with
    | nil => rw [hdrop] at h; cases h
    | cons d rest =>
        have hd : d = mark := by
          have hhead := List.head?_dropWhile_not (fun d => decide (d ≠ mark)) s.reverse
          rw [hdrop] at hhead
          simpa using hhead
        rw [hdrop] at h
        rcases List.mem_cons.mp h with rfl | h
        · exact .inr (.inl hd)
        · exact .inl (List.mem_reverse.mpr h)

namespace Label

/-- The permitted characters of ASCII are the hyphen, digits and small letters. -/
theorem hostSafe_of_permitted {c : Char} (hascii : Text.isAscii c = true)
    (h : Text.inRuns permittedRuns c = true) : hostSafe c = true := by
  have hruns : ∀ run ∈ permittedRuns, run.1 < 0x80 →
      run ∈ [(0x2D, 0x2D, 1), (0x30, 0x39, 1), (0x61, 0x7A, 1)] := by decide +kernel
  have hsafe : ∀ run ∈ [(0x2D, 0x2D, 1), (0x30, 0x39, 1), (0x61, 0x7A, 1)],
      run.1 ≤ c.toNat → c.toNat ≤ run.2.1 → hostSafe c = true :=
    Text.forall_ascii (P := fun c => ∀ run ∈ [(0x2D, 0x2D, 1), (0x30, 0x39, 1), (0x61, 0x7A, 1)],
      run.1 ≤ c.toNat → c.toNat ≤ run.2.1 → hostSafe c = true) (by decide +kernel) hascii
  have hsmall : c.toNat < 0x80 := of_decide_eq_true hascii
  obtain ⟨run, hrun, hin⟩ := List.any_eq_true.mp h
  simp only [Bool.and_eq_true, decide_eq_true_eq] at hin
  exact hsafe run (hruns run hrun (by omega)) hin.1.1 hin.1.2

/-- Characters that depend on those beside them are no ASCII ones. -/
theorem permitsBetween?_of_ascii {c : Char} (hascii : Text.isAscii c = true)
    (label before after : List Char) : permitsBetween? label before c after = none := by
  have hsmall : c.toNat < 0x80 := of_decide_eq_true hascii
  have hother (d : Char) (h : 0x80 ≤ d.toNat) : c ≠ d := by
    rintro rfl
    omega
  have hdigits (low high : Nat) (h : 0x80 ≤ low) : Text.inRanges [(low, high)] c = false := by
    simp only [Text.inRanges, List.any_cons, List.any_nil, Bool.or_false, Bool.and_eq_false_iff,
      decide_eq_false_iff_not]
    exact .inl (by omega)
  simp [permitsBetween?, hother '·' (by decide), hother '\u0375' (by decide),
    hother '\u05F3' (by decide), hother '\u05F4' (by decide), hother '\u30FB' (by decide),
    hdigits 0x660 0x669 (by decide), hdigits 0x6F0 0x6F9 (by decide)]

theorem checkChars_cons {label before after : List Char} {c : Char}
    (h : checkChars label before (c :: after) = .ok ()) :
    checkChars label (c :: before) after = .ok () ∧
      (Text.isAscii c = true → hostSafe c = true) := by
  rw [checkChars] at h
  by_cases hpermitted : Text.inRuns permittedRuns c = true
  · rw [if_pos hpermitted] at h
    exact ⟨h, fun hascii => hostSafe_of_permitted hascii hpermitted⟩
  rw [if_neg hpermitted] at h
  by_cases hjoiner : (c = '\u200C' || c = '\u200D') = true
  · rw [if_pos hjoiner] at h
    have hforeign : Text.isAscii c = false := by
      rcases Bool.or_eq_true_iff.mp hjoiner with hc | hc <;> rw [of_decide_eq_true hc] <;> decide
    have hpermits {permits : Bool} {cause : DomainFault}
        (h : (if permits then checkChars label (c :: before) after else .error cause) = .ok ()) :
        checkChars label (c :: before) after = .ok () := by
      cases permits with
      | false => cases h
      | true => exact h
    exact ⟨hpermits h, fun hascii => absurd hascii (by simp [hforeign])⟩
  · rw [if_neg hjoiner] at h
    split at h
    · next hpermits =>
        refine ⟨h, fun hascii => ?_⟩
        rw [permitsBetween?_of_ascii hascii] at hpermits
        cases hpermits
    · cases h
    · cases h

theorem hostSafe_of_checkChars {label before after : List Char}
    (h : checkChars label before after = .ok ()) :
    ∀ c ∈ after, Text.isAscii c = true → hostSafe c = true := by
  induction after generalizing before with
  | nil => exact fun c hc => absurd hc List.not_mem_nil
  | cons first rest ih =>
      obtain ⟨hrest, hfirst⟩ := checkChars_cons h
      exact List.forall_mem_cons.mpr ⟨hfirst, ih hrest⟩

theorem hostSafe_of_check {label : List Char} (h : check label = .ok ()) :
    ∀ c ∈ label, Text.isAscii c = true → hostSafe c = true := by
  unfold check at h
  have hchecked := ok_of_guard (ok_of_guard (ok_of_guard (ok_of_guard (ok_of_guard
    (ok_of_guard h)))))
  cases hchars : checkChars label [] label with
  | error cause => rw [hchars] at hchecked; cases hchecked
  | ok u => exact hostSafe_of_checkChars hchars

end Label

namespace Punycode

theorem hostSafe_digit : ∀ d < 36, hostSafe (digit d) = true := by
  decide

theorem hostSafe_encodeNumber (bias place n : Nat) :
    ∀ c ∈ encodeNumber bias place n, hostSafe c = true := by
  induction place, n using encodeNumber.induct bias with
  | case1 place n t hlast =>
      rw [encodeNumber, if_pos hlast]
      have hle := threshold_le place bias
      exact List.forall_mem_singleton.mpr (hostSafe_digit n (by omega))
  | case2 place n t hmore ih =>
      rw [encodeNumber, if_neg hmore]
      have hle := threshold_le place bias
      have hlt : (n - threshold place bias) % (36 - threshold place bias) <
          36 - threshold place bias := Nat.mod_lt _ (by omega)
      exact List.forall_mem_cons.mpr ⟨hostSafe_digit _ (by omega), ih⟩

theorem hostSafe_pass {basic : Nat} {next c : Char} {p : Progress}
    (h : ∀ d ∈ p.digits, hostSafe d = true) :
    ∀ d ∈ (p.pass basic next c).digits, hostSafe d = true := by
  unfold Progress.pass
  split
  · exact h
  · split
    · exact List.forall_mem_append.mpr ⟨h, hostSafe_encodeNumber _ _ _⟩
    · exact h

theorem hostSafe_encodeInsertions {label others : List Char} {basic low : Nat} {p : Progress}
    (h : ∀ d ∈ p.digits, hostSafe d = true) :
    ∀ d ∈ (encodeInsertions label basic others low p).digits, hostSafe d = true := by
  induction others generalizing low p with
  | nil => exact h
  | cons next rest ih =>
      apply ih
      have hfold (l : List Char) (p : Progress) (hp : ∀ d ∈ p.digits, hostSafe d = true) :
          ∀ d ∈ (l.foldl (Progress.pass basic next) p).digits, hostSafe d = true := by
        induction l generalizing p with
        | nil => exact hp
        | cons c tail ih => exact ih _ (hostSafe_pass hp)
      exact hfold label _ h

/-- The plain form of a label has its ASCII characters, a hyphen and digits. -/
theorem hostSafe_encode {label : List Char}
    (h : ∀ c ∈ label, Text.isAscii c = true → hostSafe c = true) :
    ∀ c ∈ encode label, hostSafe c = true := by
  have hbasic : ∀ c ∈ label.filter (·.toNat < 0x80), hostSafe c = true := by
    intro c hc
    obtain ⟨hmem, hascii⟩ := List.mem_filter.mp hc
    exact h c hmem hascii
  refine List.forall_mem_append.mpr ⟨?_, hostSafe_encodeInsertions (List.forall_mem_nil _)⟩
  split
  · exact List.forall_mem_nil _
  · exact List.forall_mem_append.mpr ⟨hbasic, List.all_eq_true.mp (by decide)⟩

theorem hostSafe_of_digitValue? {c : Char} {d : Nat} (h : digitValue? c = some d) :
    hostSafe c = true := by
  have halphanum : c.isAlphanum = true := by
    change (c.isUpper || c.isLower || c.isDigit) = true
    simp only [Bool.or_eq_true]
    unfold digitValue? at h
    split at h
    · next hlower => exact .inl (.inr hlower)
    · split at h
      · next hupper =>
          obtain ⟨hlow, hhigh⟩ := Bool.and_eq_true_iff.mp hupper
          exact .inl (.inl (decide_eq_true ⟨of_decide_eq_true hlow, of_decide_eq_true hhigh⟩))
      · split at h
        · next hdigit => exact .inr hdigit
        · cases h
  simp [hostSafe, isUnreserved, halphanum]

theorem decodeNumber?_some {bias place weight n m : Nat} {s rest : List Char}
    (h : decodeNumber? bias s place weight n = some (m, rest)) :
    ∃ number, s = number ++ rest ∧ ∀ c ∈ number, hostSafe c = true := by
  induction s generalizing place weight n with
  | nil => cases h
  | cons c tail ih =>
      rw [decodeNumber?] at h
      split at h
      · cases h
      · next d hdigit =>
          have hc := hostSafe_of_digitValue? hdigit
          simp only at h
          split at h
          · cases h
            exact ⟨[c], rfl, List.forall_mem_singleton.mpr hc⟩
          · obtain ⟨number, rfl, hnumber⟩ := ih h
            exact ⟨c :: number, rfl, List.forall_mem_cons.mpr ⟨hc, hnumber⟩⟩

/-- What is read as a plain form consists of the plain characters of the label,
which stay where they are read, and of digits. -/
theorem decodeInsertions?_some {s label whole : List Char} {place low bias : Nat} {isFirst : Bool}
    (h : decodeInsertions? s label place low bias isFirst = some whole) :
    (∀ c ∈ s, hostSafe c = true) ∧ ∀ c ∈ label, c ∈ whole := by
  induction s, label, place, low, bias, isFirst using decodeInsertions?.induct with
  | case1 s label place low bias isFirst hempty =>
      rw [decodeInsertions?, if_pos hempty] at h
      cases h
      rw [List.isEmpty_iff.mp hempty]
      exact ⟨List.forall_mem_nil _, fun c hc => hc⟩
  | case2 s label place low bias isFirst hsome hnone =>
      rw [decodeInsertions?, if_neg hsome] at h
      split at h
      · cases h
      · next hfound => rw [hnone] at hfound; cases hfound
  | case3 s label place low bias isFirst hsome n rest hnumber hlt count place' code place'' hvalid
      ih =>
      rw [decodeInsertions?, if_neg hsome] at h
      split at h
      · next hnone => rw [hnone] at hnumber; cases hnumber
      · next n' rest' hfound =>
          cases hnumber.symm.trans hfound
          simp only at h
          rw [if_pos hvalid] at h
          obtain ⟨hrest, hkept⟩ := ih h
          obtain ⟨number, rfl, hdigits⟩ := decodeNumber?_some hnumber
          refine ⟨List.forall_mem_append.mpr ⟨hdigits, hrest⟩, fun c hc => hkept c ?_⟩
          rw [← List.take_append_drop place'' label] at hc
          rcases List.mem_append.mp hc with hc | hc
          · exact List.mem_append_left _ hc
          · exact List.mem_append_right _ (List.mem_cons_of_mem _ hc)
  | case4 s label place low bias isFirst hsome n rest hnumber hlt count place' code hinvalid =>
      rw [decodeInsertions?, if_neg hsome] at h
      split at h
      · next hnone => rw [hnone] at hnumber; cases hnumber
      · next n' rest' hfound =>
          cases hnumber.symm.trans hfound
          simp only at h
          rw [if_neg hinvalid] at h
          cases h

theorem hostSafe_of_decode? {s label : List Char} (h : decode? s = some label)
    (hascii : ∀ c ∈ s, Text.isAscii c = true)
    (hlabel : ∀ c ∈ label, Text.isAscii c = true → hostSafe c = true) :
    ∀ c ∈ s, hostSafe c = true := by
  obtain ⟨hdigits, hbasic⟩ := decodeInsertions?_some h
  intro c hc
  rcases mem_cutLast '-' hc with hbefore | rfl | hafter
  · exact hlabel c (hbasic c hbefore) (hascii c hc)
  · decide
  · exact hdigits c hafter

end Punycode

namespace Domain

theorem toLower_of_ascii {c : Char} (h : Text.isAscii c = true) :
    Text.isAscii c.toLower = true ∧ (hostSafe c.toLower = true → hostSafe c = true) :=
  Text.forall_ascii (P := fun c => Text.isAscii c.toLower = true ∧
    (hostSafe c.toLower = true → hostSafe c = true)) (by decide +kernel) h

/-- A label of ASCII characters that may be sent as it is. -/
theorem hostSafe_of_written {label form : List Char} (hascii : ∀ c ∈ label, Text.isAscii c = true)
    (h : written label = .ok form) : ∀ c ∈ label, hostSafe c = true := by
  have hchar {c : Char} (hc : c ∈ label) := toLower_of_ascii (hascii c hc)
  have hlowerAscii : ∀ c ∈ label.map Char.toLower, Text.isAscii c = true := by
    intro c hc
    obtain ⟨d, hd, rfl⟩ := List.mem_map.mp hc
    exact (hchar hd).1
  have hlower : ∀ c ∈ label.map Char.toLower, hostSafe c = true := by
    unfold written at h
    simp only at h
    split at h
    · next hmark =>
        obtain ⟨content, hcontent⟩ := List.isPrefixOf_iff_prefix.mp hmark
        have hread := ok_of_guard (ok_of_guard h)
        split at hread
        · cases hread
        · next whole hwhole =>
            cases hchecked : Label.check whole with
            | error cause => rw [hchecked] at hread; cases hread
            | ok u =>
                rw [← hcontent] at hwhole hlowerAscii ⊢
                rw [List.drop_left] at hwhole
                have hcontentAscii : ∀ c ∈ content, Text.isAscii c = true :=
                  fun c hc => hlowerAscii c (List.mem_append_right _ hc)
                exact List.forall_mem_append.mpr ⟨List.all_eq_true.mp (by decide),
                  Punycode.hostSafe_of_decode? hwhole hcontentAscii
                    (Label.hostSafe_of_check hchecked)⟩
    · cases hchecked : Label.check (label.map Char.toLower) with
      | error cause => rw [hchecked] at h; cases h
      | ok u => exact fun c hc => Label.hostSafe_of_check hchecked c hc (hlowerAscii c hc)
  intro c hc
  exact (hchar hc).2 (hlower _ (List.mem_map_of_mem hc))

theorem hostSafe_of_plain {label sent : List Char} (h : plain label = .ok sent) :
    ∀ c ∈ sent, hostSafe c = true := by
  unfold plain at h
  simp only at h
  split at h
  · next hascii =>
      cases hwritten : written label with
      | error cause => rw [hwritten] at h; cases h
      | ok form =>
          rw [hwritten] at h
          cases ok_of_guard h
          exact hostSafe_of_written (List.all_eq_true.mp hascii) hwritten
  · cases hchecked : Label.check label with
    | error cause => rw [hchecked] at h; cases h
    | ok u =>
        rw [hchecked] at h
        cases ok_of_guard h
        exact List.forall_mem_append.mpr
          ⟨List.all_eq_true.mp (by decide),
            Punycode.hostSafe_encode (Label.hostSafe_of_check hchecked)⟩

theorem forall_of_mapM {α β ε : Type} {f : α → Except ε β} {P : β → Prop}
    (hf : ∀ a b, f a = .ok b → P b) {items : List α} {results : List β}
    (h : items.mapM f = .ok results) : ∀ b ∈ results, P b := by
  induction items generalizing results with
  | nil => cases h; exact List.forall_mem_nil _
  | cons a rest ih =>
      rw [List.mapM_cons] at h
      cases hfirst : f a with
      | error cause => rw [hfirst] at h; cases h
      | ok b =>
          cases hrest : rest.mapM f with
          | error cause => rw [hfirst, hrest] at h; cases h
          | ok more =>
              rw [hfirst, hrest] at h
              cases h
              exact List.forall_mem_cons.mpr ⟨hf a b hfirst, ih hrest⟩

theorem hostSafe_of_mapLabels {name sent : List Char} (h : mapLabels plain name = .ok sent) :
    ∀ c ∈ sent, hostSafe c = true := by
  have hjoined {l : List (List Char)} {ending : List Char}
      (hending : ∀ c ∈ ending, hostSafe c = true)
      (h : (do return ['.'].intercalate (← l.mapM plain) ++ ending) = Except.ok sent) :
      ∀ c ∈ sent, hostSafe c = true := by
    cases hforms : l.mapM plain with
    | error cause => rw [hforms] at h; cases h
    | ok forms =>
        rw [hforms] at h
        cases h
        have hparts := forall_of_mapM (fun _ _ => hostSafe_of_plain) hforms
        exact List.forall_mem_append.mpr
          ⟨forall_mem_intercalate (List.all_eq_true.mp (by decide)) hparts, hending⟩
  unfold mapLabels at h
  have hchecked := ok_of_guard h
  split at hchecked
  · cases hchecked
  · cases hchecked
  · exact hjoined (List.all_eq_true.mp (by decide)) hchecked
  · refine hjoined (l := (labels name).reverse.reverse) (List.forall_mem_nil _) ?_
    simpa only [List.append_nil] using hchecked

/-- The plain form of a name stands for itself in a host. -/
theorem hostSafe_of_toPlain {name sent : List Char} (h : toPlain name = .ok sent) :
    ∀ c ∈ sent, hostSafe c = true := by
  unfold toPlain at h
  cases hsent : mapLabels plain name with
  | error cause => rw [hsent] at h; cases h
  | ok form =>
      rw [hsent] at h
      cases ok_of_guard h
      exact hostSafe_of_mapLabels hsent

end Domain

end ModelWiring.Address
