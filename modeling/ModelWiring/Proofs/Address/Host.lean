import ModelWiring.Proofs.Address.Domain
import ModelWiring.Proofs.Text.Splitting

/-!
Hosts in their normal form. Such a host is read as itself again, but for the
case of letters: what stands for a byte is written in capitals, and capitals
are read as small letters.
-/

namespace ModelWiring.Address

theorem isAscii_of_isAlphanum {c : Char} (h : c.isAlphanum = true) : Text.isAscii c = true := by
  delta Char.isAlphanum Char.isAlpha Char.isUpper Char.isLower Char.isDigit at h
  simp only [Bool.or_eq_true, Bool.and_eq_true, decide_eq_true_eq, UInt32.le_iff_toNat_le,
    ge_iff_le] at h
  have hval : c.toNat = c.val.toNat := rfl
  have hupper : 'Z'.val.toNat = 90 := rfl
  have hlower : 'z'.val.toNat = 122 := rfl
  have hdigit : '9'.val.toNat = 57 := rfl
  exact decide_eq_true (by omega)

theorem isAscii_of_hostSafe {c : Char} (h : hostSafe c = true) : Text.isAscii c = true := by
  have hmarks : ∀ d ∈ ['-', '.', '_', '~'] ++ "!$&'()*+,;=\"`\x7b\x7d%|\\".toList,
      Text.isAscii d = true := List.all_eq_true.mp (by decide)
  simp only [hostSafe, isUnreserved, Bool.or_eq_true, List.contains_iff_mem, or_assoc] at h
  rcases h with halphanum | hmark | hmark
  · exact isAscii_of_isAlphanum halphanum
  · exact hmarks c (List.mem_append_left _ hmark)
  · exact hmarks c (List.mem_append_right _ hmark)

theorem hostSafe_toLower {c : Char} (h : hostSafe c = true) :
    hostSafe c.toLower = true ∧ c.toLower.toLower = c.toLower :=
  Text.forall_ascii (P := fun c => hostSafe c = true → hostSafe c.toLower = true ∧
    c.toLower.toLower = c.toLower) (by decide +kernel) (isAscii_of_hostSafe h) h

theorem mem_hexDigits {digit : Nat → Char} {width n : Nat} {c : Char}
    (h : c ∈ Text.hexDigits digit width n) : ∃ d < 16, c = digit d := by
  induction width generalizing n with
  | zero => cases h
  | succ width ih =>
      rcases List.mem_append.mp h with h | h
      · exact ih h
      · exact ⟨n % 16, Nat.mod_lt _ (by decide), List.mem_singleton.mp h⟩

/-- Where hexadecimal digits behind a percent sign are safe, all of an escaped
text is. -/
theorem safe_of_mem_escape {safe : Char → Bool} (hpercent : safe '%' = true)
    (hdigit : ∀ d < 16, safe (Text.upperHex d) = true) {s : List Char} {c : Char}
    (h : c ∈ escape safe s) : safe c = true := by
  obtain ⟨d, -, hc⟩ := List.mem_flatMap.mp h
  split at hc
  · next hsafe => rwa [List.mem_singleton.mp hc]
  · obtain ⟨b, -, hc⟩ := List.mem_flatMap.mp hc
    rcases List.mem_cons.mp hc with rfl | hc
    · exact hpercent
    · obtain ⟨d, hd, rfl⟩ := mem_hexDigits hc
      exact hdigit d hd

/-- Hosts that differ in the case of letters alone. -/
def SameHost (host other : List Char) : Prop :=
  host.map Char.toLower = other.map Char.toLower

instance (host other : List Char) : Decidable (SameHost host other) :=
  inferInstanceAs (Decidable (_ = _))

/-- A text of digits with dots between them has no other characters. -/
theorem digit_of_mem_groups {s : List Char}
    (h : ∀ part ∈ Text.splitAt '.' s, part.all Numeral.isDigit = true) {c : Char} (hc : c ∈ s) :
    c = '.' ∨ c.isDigit = true := by
  rcases Text.mem_splitAt '.' hc with hdot | ⟨part, hpart, hc⟩
  · exact .inl hdot
  · exact .inr (List.all_eq_true.mp (h part hpart) c hc)

theorem hostSafe_of_isVersion4 {host : List Char} (h : isVersion4 host = true) :
    ∀ c ∈ host, hostSafe c = true := by
  obtain ⟨-, hoctets⟩ := Bool.and_eq_true_iff.mp h
  have hdigits : ∀ part ∈ Text.splitAt '.' host, part.all Numeral.isDigit = true := by
    intro part hpart
    have hoctet := List.all_eq_true.mp hoctets part hpart
    simp only [isOctet, Bool.and_eq_true] at hoctet
    exact hoctet.1.1.1.2
  intro c hc
  rcases digit_of_mem_groups hdigits hc with rfl | hdigit
  · decide
  · simp [hostSafe, isUnreserved, Char.isAlphanum, hdigit]

theorem eq_bracketed {s : List Char} (hopen : s.head? = some '[') (hclose : s.getLast? = some ']')
    (hlength : 1 < s.length) : s = '[' :: s.tail.dropLast ++ [']'] := by
  obtain ⟨rest, rfl⟩ := List.head?_eq_some_iff.mp hopen
  cases rest with
  | nil => simp at hlength
  | cons c more =>
      rw [List.getLast?_cons_cons] at hclose
      obtain ⟨inner, hinner⟩ := List.getLast?_eq_some_iff.mp hclose
      rw [hinner, List.tail_cons, List.dropLast_concat, List.cons_append]

/-- A normal host is safe, or it stood in brackets and is an address of eight
groups. -/
theorem normalHost_ok {text host : List Char} (h : normalHost text = .ok host) :
    (∀ c ∈ host, hostSafe c = true) ∨
      (isVersion6 host = true ∧ text = '[' :: host ++ [']']) := by
  unfold normalHost at h
  split at h
  · cases h
    exact .inl (List.forall_mem_nil _)
  split at h
  · split at h
    · next hversion =>
        cases h
        exact .inl (hostSafe_of_isVersion4 hversion)
    · cases h
  split at h
  · next hbrackets =>
      simp only at h
      split at h
      · next hversion =>
          cases h
          simp only [Bool.and_eq_true, decide_eq_true_eq] at hbrackets
          exact .inr ⟨hversion, eq_bracketed hbrackets.1.1 hbrackets.1.2 hbrackets.2⟩
      · cases h
  split at h
  · cases h
    exact .inl fun c hc => safe_of_mem_escape (by decide) (by decide) hc
  · split at h
    · next form hform =>
        cases h
        exact .inl (Domain.hostSafe_of_toPlain hform)
    · cases h

/-- A host with a character that stands in no group of digits. -/
theorem looksVersion4_eq_false {host : List Char} {c : Char} (hc : c ∈ host)
    (hother : c ≠ '.' ∧ c.isDigit = false) : looksVersion4 host = false := by
  rw [Bool.eq_false_iff]
  intro hlooks
  have hparts : ∀ part ∈ Text.splitAt '.' host, part.all Numeral.isDigit = true := by
    intro part hpart
    have hpart' := List.all_eq_true.mp (Bool.and_eq_true_iff.mp hlooks).2 part hpart
    exact (Bool.and_eq_true_iff.mp hpart').2
  rcases digit_of_mem_groups hparts hc with hdot | hdigit
  · exact hother.1 hdot
  · rw [hother.2] at hdigit
    cases hdigit

/-- A safe host that does not look like a version 4 address is put into small
letters. -/
theorem normalHost_eq_toLower {host : List Char} (hsafe : ∀ c ∈ host, hostSafe c = true)
    (hlooks : looksVersion4 host = false) : normalHost host = .ok (host.map Char.toLower) := by
  have hascii : host.all Text.isAscii = true :=
    List.all_eq_true.mpr fun c hc => isAscii_of_hostSafe (hsafe c hc)
  have hopen : host.head? ≠ some '[' := by
    intro hhead
    have hbracket := hsafe '[' (List.mem_of_head? hhead)
    cases hbracket
  have hself : escape hostSafe (host.map Char.toLower) = host.map Char.toLower := by
    apply escape_eq_self
    rw [List.all_map, List.all_eq_true]
    exact fun c hc => (hostSafe_toLower (hsafe c hc)).1
  by_cases hempty : host = []
  · subst hempty
    rfl
  · rw [normalHost, if_neg (by simpa using hempty), hlooks, if_neg Bool.false_ne_true,
      if_neg (by simp [hopen]), if_pos hascii, hself]

theorem normalHost_of_safe {host again : List Char} (hsafe : ∀ c ∈ host, hostSafe c = true)
    (h : normalHost host = .ok again) : SameHost again host := by
  cases hlooks : looksVersion4 host with
  | false =>
      rw [normalHost_eq_toLower hsafe hlooks] at h
      cases h
      rw [SameHost, List.map_map]
      exact List.map_congr_left fun c hc => (hostSafe_toLower (hsafe c hc)).2
  | true =>
      unfold normalHost at h
      rw [hlooks, if_pos rfl] at h
      split at h
      · next hempty =>
          cases h
          rw [List.isEmpty_iff.mp hempty]
          rfl
      split at h
      · cases h
        rfl
      · cases h

theorem colon_mem_of_isVersion6 {host : List Char} (h : isVersion6 host = true) :
    ':' ∈ host := by
  simp only [isVersion6, Bool.and_eq_true, decide_eq_true_eq] at h
  apply Decidable.byContradiction
  intro hnone
  have haddress : ':' ∉ host.takeWhile (· ≠ '%') :=
    fun hmem => hnone ((List.takeWhile_sublist _).subset hmem)
  have hlength := h.1.1.2
  rw [Text.splitAt_of_not_mem haddress] at hlength
  simp at hlength

theorem normalHost_bracketed {host : List Char} (h : isVersion6 host = true) :
    normalHost ('[' :: host ++ [']']) = .ok host := by
  have hdigits : looksVersion4 ('[' :: host ++ [']']) = false :=
    looksVersion4_eq_false List.mem_cons_self (by decide)
  have hinner : ('[' :: host ++ [']']).tail.dropLast = host := by simp
  have hbrackets : (decide (('[' :: host ++ [']']).head? = some '[') &&
      decide (('[' :: host ++ [']']).getLast? = some ']') &&
      decide (1 < ('[' :: host ++ [']']).length)) = true := by
    rw [List.getLast?_concat]
    simp
  rw [normalHost, hdigits, if_neg (by simp), if_neg (by simp), if_pos hbrackets]
  simp only [hinner, h, if_true]

end ModelWiring.Address
