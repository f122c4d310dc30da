import ModelWiring.Address.Join
import ModelWiring.Proofs.Address.Host
import ModelWiring.Proofs.Double.Decimal

/-!
Addresses that were read, and their texts. Before its path, the text of such an
address is cut into the same parts again, whatever follows them, by both ways of
reading: that of whole addresses and that of references.
-/

namespace ModelWiring.Address

theorem splitLast_append {mark : Char} {after : List Char} (h : mark ∉ after)
    (before : List Char) : splitLast mark (before ++ mark :: after) = (before, after) := by
  have hafter : ∀ c ∈ after.reverse, decide (c ≠ mark) = true := by
    intro c hc
    exact decide_eq_true fun hmark => h (hmark ▸ List.mem_reverse.mp hc)
  have hreverse : (before ++ mark :: after).reverse = after.reverse ++ mark :: before.reverse := by
    simp
  obtain ⟨htake, hdrop⟩ := takeWhile_append_stop hafter (mark :: before.reverse) (by simp)
  rw [splitLast, hreverse, htake, hdrop]
  simp

theorem splitLast_of_not_mem {mark : Char} {s : List Char} (h : mark ∉ s) :
    splitLast mark s = ([], s) := by
  have hall : ∀ c ∈ s.reverse, decide (c ≠ mark) = true := by
    intro c hc
    exact decide_eq_true fun hmark => h (hmark ▸ List.mem_reverse.mp hc)
  obtain ⟨htake, hdrop⟩ := takeWhile_append_stop hall [] rfl
  rw [List.append_nil] at htake hdrop
  rw [splitLast, htake, hdrop]
  simp

theorem splitLast_mem {mark c : Char} {s : List Char} :
    (c ∈ (splitLast mark s).1 → c ∈ s) ∧ (c ∈ (splitLast mark s).2 → c ∈ s ∧ c ≠ mark) := by
  refine ⟨fun h => ?_, fun h => ?_⟩
  · have htail := List.mem_of_mem_tail (List.mem_reverse.mp h)
    exact List.mem_reverse.mp ((List.dropWhile_sublist _).subset htail)
  · have htake := List.mem_reverse.mp h
    have hother := List.all_eq_true.mp List.all_takeWhile c htake
    exact ⟨List.mem_reverse.mp ((List.takeWhile_sublist _).subset htake), by simpa using hother⟩

theorem mem_of_splitHost {c : Char} {s : List Char} (h : c ∈ (splitHost s).1) : c ∈ s := by
  unfold splitHost at h
  split at h
  · next hbrackets =>
      obtain ⟨-, hclose⟩ := Bool.and_eq_true_iff.mp hbrackets
      rcases List.mem_append.mp h with h | h
      · exact splitLast_mem.1 h
      · rw [List.mem_singleton.mp h]
        exact List.contains_iff_mem.mp hclose
  · exact (List.takeWhile_sublist _).subset h

theorem splitScheme_ok (s : List Char) :
    (∀ c ∈ (splitScheme s).1, isSchemeChar c = true) ∧
      (splitScheme s).1.head?.all Char.isAlpha = true := by
  unfold splitScheme
  simp only
  split
  · split
    · next hhead => exact ⟨fun c hc => List.all_eq_true.mp List.all_takeWhile c hc, hhead⟩
    · exact ⟨List.forall_mem_nil _, rfl⟩
  · exact ⟨List.forall_mem_nil _, rfl⟩

theorem splitAuthority_ok (s : List Char) :
    ∀ c ∈ (splitAuthority s).1, c ≠ '/' ∧ c ≠ '?' ∧ c ≠ '#' := by
  unfold splitAuthority
  split
  · intro c hc
    have hends := List.all_eq_true.mp List.all_takeWhile c hc
    simp only [Bool.not_eq_true', Bool.or_eq_false_iff, decide_eq_false_iff_not] at hends
    exact ⟨hends.1.1, hends.1.2, hends.2⟩
  · exact List.forall_mem_nil _

/-- A slash put behind a text stands behind its scheme. -/
theorem splitScheme_closed (s : List Char) :
    splitScheme (s ++ ['/']) = ((splitScheme s).1, (splitScheme s).2 ++ ['/']) := by
  obtain ⟨htake, hdrop⟩ := takeWhile_append_of_stop (p := isSchemeChar) s ['/'] rfl
  simp only [splitScheme, htake, hdrop]
  cases hrest : s.dropWhile isSchemeChar with
  | nil => rfl
  | cons c rest =>
      by_cases hc : c = ':'
      · subst hc
        simp only [List.cons_append]
        split <;> rfl
      · have hcolon : ∀ more, c :: rest ≠ ':' :: more := fun more heq => hc (List.cons.inj heq).1
        split
        · next heq => exact absurd (List.cons.inj heq).1 hc
        · rfl

theorem splitAuthority_closed {s : List Char} (h : s.getLast? ≠ some '/') :
    (splitAuthority (s ++ ['/'])).1 = (splitAuthority s).1 := by
  unfold splitAuthority
  split
  · next rest heq =>
      cases s with
      | nil => cases heq
      | cons c s =>
          cases s with
          | nil =>
              obtain ⟨rfl, -⟩ := List.cons.inj heq
              exact absurd rfl h
          | cons d s =>
              cases heq
              exact (takeWhile_append_of_stop s ['/'] rfl).1
  · next hother =>
      split
      · next rest => exact absurd rfl (hother (rest ++ ['/']))
      · rfl

theorem getLast?_splitScheme {s : List Char} (h : s.getLast? ≠ some '/') :
    (splitScheme s).2.getLast? ≠ some '/' := by
  have hsuffix : (splitScheme s).2 <:+ s := by
    unfold splitScheme
    simp only
    split
    · next rest hrest =>
        split
        · exact (hrest ▸ List.suffix_cons ':' rest).trans (List.dropWhile_suffix _)
        · exact List.suffix_refl s
    · exact List.suffix_refl s
  intro hlast
  obtain ⟨before, hbefore⟩ := hsuffix
  rw [← hbefore, List.getLast?_append, hlast] at h
  exact h rfl

/-- What a text of parts comes to in its normal form. -/
structure Parts.Gives (p : Parts) (a : Address) : Prop where
  scheme : a.scheme = p.scheme.map Char.toLower
  userInfo : a.userInfo = escape userInfoSafe (splitLast '@' p.authority).1
  host : normalHost (p.host.getD (splitHost (splitLast '@' p.authority).2).1) = .ok a.host
  port : readPort p.scheme (splitHost (splitLast '@' p.authority).2).2 = .ok a.port
  allowed : checkPath (!p.scheme.isEmpty)
    (!a.userInfo.isEmpty || !a.host.isEmpty || a.port.isSome) p.path = .ok ()
  path : a.path = escape pathSafe
    (if !p.scheme.isEmpty || (!a.userInfo.isEmpty || !a.host.isEmpty || a.port.isSome)
      then normalPath p.path else p.path)

theorem Parts.gives_of_normal {p : Parts} {a : Address} (h : p.normal = .ok a) : p.Gives a := by
  unfold normal at h
  simp only at h
  cases hhost : normalHost (p.host.getD (splitHost (splitLast '@' p.authority).2).1) with
  | error cause => rw [hhost] at h; cases h
  | ok host =>
      cases hport : readPort p.scheme (splitHost (splitLast '@' p.authority).2).2 with
      | error cause => rw [hhost, hport] at h; cases h
      | ok port =>
          rw [hhost, hport] at h
          simp only [Except.bind, bind] at h
          split at h
          · cases h
          · next hallowed =>
              cases h
              exact ⟨rfl, rfl, hhost, hport, hallowed, rfl⟩

/-- What is known of the parts of an address that was read from a text. -/
structure Readable (a : Address) : Prop where
  scheme : ∀ c ∈ a.scheme, isSchemeChar c = true
  initial : a.scheme.head?.all Char.isAlpha = true
  lower : a.scheme.map Char.toLower = a.scheme
  userInfo : ∀ c ∈ a.userInfo, userInfoSafe c = true
  host : (∀ c ∈ a.host, hostSafe c = true) ∨
    (isVersion6 a.host = true ∧ ∀ c ∈ a.host, c ≠ '/' ∧ c ≠ '?' ∧ c ≠ '#' ∧ c ≠ '@')
  port : ∀ port, a.port = some port → port.natAbs < powerOfTen greatestDigitCount
  path : a.host ≠ [] → a.path = [] ∨ a.path.head? = some '/'

theorem toLower_isSchemeChar {c : Char} (h : isSchemeChar c = true) :
    isSchemeChar c.toLower = true ∧ c.toLower.toLower = c.toLower ∧
      (c.isAlpha = true → c.toLower.isAlpha = true) := by
  have hascii : Text.isAscii c = true := by
    simp only [isSchemeChar, Bool.or_eq_true, decide_eq_true_eq, or_assoc] at h
    rcases h with h | rfl | rfl | rfl
    · exact isAscii_of_isAlphanum h
    all_goals decide
  exact Text.forall_ascii (P := fun c => isSchemeChar c = true → isSchemeChar c.toLower = true ∧
    c.toLower.toLower = c.toLower ∧ (c.isAlpha = true → c.toLower.isAlpha = true))
    (by decide +kernel) hascii h

/-- Working out the dots of a path keeps the segment that is empty before its
first slash. -/
theorem dropDots_start (segments : List (List Char)) :
    ∃ more, dropDots ([] :: segments) = [] :: more := by
  have hstep (done : List (List Char)) (segment : List Char)
      (hdone : ∃ more, done.reverse = [] :: more) :
      ∃ more, (if segment = ['.'] then done
        else if segment = ['.', '.'] then
          if done = [[]] then done else done.tail
        else segment :: done).reverse = [] :: more := by
    obtain ⟨more, hmore⟩ := hdone
    split
    · exact ⟨more, hmore⟩
    split
    · split
      · exact ⟨more, hmore⟩
      · next hdeeper =>
          have hdone : done = ([] :: more).reverse := by rw [← hmore, List.reverse_reverse]
          cases more with
          | nil => exact absurd hdone hdeeper
          | cons next more =>
              rw [hdone, List.tail_reverse, List.reverse_reverse]
              exact ⟨_, List.dropLast_cons_cons⟩
    · exact ⟨more ++ [segment], by rw [List.reverse_cons, hmore, List.cons_append]⟩
  have hfold (done : List (List Char)) (hdone : ∃ more, done.reverse = [] :: more) :
      ∃ more, (segments.foldl (fun done segment =>
        if segment = ['.'] then done
        else if segment = ['.', '.'] then
          if done = [[]] then done else done.tail
        else segment :: done) done).reverse = [] :: more := by
    induction segments generalizing done with
    | nil => exact hdone
    | cons segment rest ih => exact ih _ (hstep done segment hdone)
  exact hfold [[]] ⟨[], rfl⟩

theorem normalPath_start {path : List Char} (h : path = [] ∨ path.head? = some '/') :
    normalPath path = [] ∨ (normalPath path).head? = some '/' := by
  rcases h with rfl | h
  · exact .inl (by decide)
  obtain ⟨rest, rfl⟩ := List.head?_eq_some_iff.mp h
  have hsplit : Text.splitAt '/' ('/' :: rest) = [] :: Text.splitAt '/' rest := by
    rw [Text.splitAt, if_pos rfl]
  rw [normalPath, hsplit]
  split
  · obtain ⟨more, hmore⟩ := dropDots_start (Text.splitAt '/' rest)
    rw [hmore]
    cases more with
    | nil => exact .inl rfl
    | cons next more => exact .inr rfl
  · exact .inr rfl

/-- What stands for the port, without the colon before it. -/
def portDigits : List Char → List Char
  | ':' :: rest => rest
  | s => s

theorem readPort_eq (scheme s : List Char) :
    readPort scheme s =
      if (portDigits s).isEmpty then .ok none
      else match Numeral.whole? (String.ofList (portDigits s)) with
        | none => .error (.port (String.ofList (portDigits s)))
        | some port => .ok (if standardPort scheme = some port then none else some port) := rfl

theorem natAbs_lt_of_readPort {scheme s : List Char} {port : Int}
    (h : readPort scheme s = .ok (some port)) : port.natAbs < powerOfTen greatestDigitCount := by
  rw [readPort_eq] at h
  split at h
  · cases h
  · cases hnumber : Numeral.whole? (String.ofList (portDigits s)) with
    | none => rw [hnumber] at h; cases h
    | some number =>
        rw [hnumber] at h
        have hport := Except.ok.inj h
        split at hport
        · cases hport
        · cases hport
          exact Numeral.natAbs_lt_of_whole? hnumber

theorem Parts.Gives.readable {s : List Char} {a : Address} (h : (Parts.ofText s).Gives a) :
    a.Readable := by
  obtain ⟨hscheme, hinitial⟩ := splitScheme_ok s
  have hauthority := splitAuthority_ok (splitScheme s).2
  have hchar {c : Char} (hc : c ∈ (splitLast '@' (Parts.ofText s).authority).2) :
      c ≠ '/' ∧ c ≠ '?' ∧ c ≠ '#' ∧ c ≠ '@' := by
    obtain ⟨hmem, hat⟩ := splitLast_mem.2 hc
    obtain ⟨hslash, hquery, hfragment⟩ := hauthority c hmem
    exact ⟨hslash, hquery, hfragment, hat⟩
  refine ⟨?_, ?_, ?_, ?_, ?_, ?_, ?_⟩
  · rw [h.scheme]
    intro c hc
    obtain ⟨d, hd, rfl⟩ := List.mem_map.mp hc
    exact (toLower_isSchemeChar (hscheme d hd)).1
  · rw [h.scheme, List.head?_map]
    change (Option.map Char.toLower (splitScheme s).1.head?).all Char.isAlpha = true
    cases hhead : (splitScheme s).1.head? with
    | none => rfl
    | some c =>
        rw [hhead] at hinitial
        exact (toLower_isSchemeChar (hscheme c (List.mem_of_head? hhead))).2.2 hinitial
  · rw [h.scheme, List.map_map]
    exact List.map_congr_left fun c hc => (toLower_isSchemeChar (hscheme c hc)).2.1
  · rw [h.userInfo]
    exact fun c hc => safe_of_mem_escape (by decide) (by decide) hc
  · rcases normalHost_ok h.host with hsafe | ⟨hversion, htext⟩
    · exact .inl hsafe
    · refine .inr ⟨hversion, fun c hc => hchar (mem_of_splitHost ?_)⟩
      have htext' : (splitHost (splitLast '@' (Parts.ofText s).authority).2).1 =
          '[' :: a.host ++ [']'] := htext
      rw [htext']
      simp [hc]
  · intro port hport
    exact natAbs_lt_of_readPort (hport ▸ h.port)
  · intro hhost
    have hplace : (!a.userInfo.isEmpty || !a.host.isEmpty || a.port.isSome) = true := by
      simp [hhost]
    have hallowed := h.allowed
    have hpath := h.path
    rw [hplace] at hallowed hpath
    rw [Bool.or_true, if_pos rfl] at hpath
    have hstart : (Parts.ofText s).path = [] ∨ (Parts.ofText s).path.head? = some '/' := by
      unfold checkPath at hallowed
      split at hallowed
      · cases hallowed
      · next hstart => simpa [Decidable.or_iff_not_imp_left] using hstart
    rw [hpath]
    rcases normalPath_start hstart with hnormal | hnormal
    · rw [hnormal]
      exact .inl rfl
    · obtain ⟨rest, hrest⟩ := List.head?_eq_some_iff.mp hnormal
      rw [hrest]
      exact .inr rfl

theorem gives_of_parse {s : List Char} {a : Address} (h : parse s = .ok a) :
    (Parts.ofText s).Gives a := by
  unfold parse at h
  cases hchecked : checkText .tooLong .control s with
  | error cause => rw [hchecked] at h; cases h
  | ok u =>
      rw [hchecked] at h
      exact Parts.gives_of_normal h

theorem readable_of_parse {s : List Char} {a : Address} (h : parse s = .ok a) : a.Readable :=
  (gives_of_parse h).readable

/-- The port that a request goes to: that of the scheme if none is written. -/
def effectivePort (a : Address) : Option Int :=
  a.port <|> standardPort a.scheme

/-- Both addresses are at one place: they have a scheme, a host and a port in
common. -/
def SamePlace (a b : Address) : Prop :=
  a.scheme = b.scheme ∧ SameHost a.host b.host ∧ a.effectivePort = b.effectivePort

instance (a b : Address) : Decidable (a.SamePlace b) :=
  inferInstanceAs (Decidable (_ ∧ _))

theorem SamePlace.trans {a b c : Address} (hab : a.SamePlace b) (hbc : b.SamePlace c) :
    a.SamePlace c :=
  ⟨hab.1.trans hbc.1, Eq.trans hab.2.1 hbc.2.1, hab.2.2.trans hbc.2.2⟩

/-- A character that ends the authority. -/
def endsAuthority (c : Char) : Bool :=
  c = '/' || c = '?' || c = '#'

/-- What may follow the authority. -/
def FollowsAuthority (tail : List Char) : Prop :=
  tail.head?.all endsAuthority = true

theorem announced_port {port : Option Int} {c : Char}
    (h : c ∈ announced ':' (port.map fun port => (toString port).toList)) :
    c = ':' ∨ isWritten c = true := by
  cases port with
  | none => cases h
  | some number =>
      rcases List.mem_cons.mp h with hc | hc
      · exact .inl hc
      · exact .inr (isWritten_of_mem_toString hc)

theorem readPort_announced {scheme : List Char} {port again : Option Int}
    (hport : ∀ number, port = some number → number.natAbs < powerOfTen greatestDigitCount)
    (h : readPort scheme (announced ':' (port.map fun port => (toString port).toList)) =
      .ok again) :
    (again <|> standardPort scheme) = (port <|> standardPort scheme) := by
  cases port with
  | none =>
      cases h
      rfl
  | some number =>
      have hdigits : (toString number).toList.isEmpty = false := by
        rw [Numeral.toList_toString]
        split
        · rfl
        · exact List.isEmpty_eq_false_iff.mpr Nat.toDigits_ne_nil
      have hread := Numeral.whole?_toString (hport number rfl)
      simp only [readPort_eq, Option.map_some, announced, portDigits, hdigits, String.ofList_toList,
        hread] at h
      have hagain := Except.ok.inj h
      split at hagain
      · next hstandard =>
          rw [← hagain, hstandard]
          rfl
      · rw [← hagain]

/-- A safe host ends where the port is announced, if there is one. -/
theorem splitHost_of_hostSafe {host : List Char} (hsafe : ∀ c ∈ host, hostSafe c = true)
    (port : Option (List Char)) :
    splitHost (host ++ announced ':' port) = (host, announced ':' port) := by
  have hopen : (host ++ announced ':' port).head? ≠ some '[' := by
    cases host with
    | nil => cases port <;> simp [announced]
    | cons c rest =>
        rintro ⟨⟩
        cases hsafe '[' List.mem_cons_self
  have hcolon : ∀ c ∈ host, decide (c ≠ ':') = true := by
    intro c hc
    refine decide_eq_true ?_
    rintro rfl
    cases hsafe ':' hc
  obtain ⟨htake, hdrop⟩ := takeWhile_append_stop hcolon (announced ':' port)
    (by cases port <;> simp [announced])
  rw [splitHost, decide_eq_false hopen, Bool.false_and, if_neg Bool.false_ne_true, htake, hdrop]

/-- Where the marks around an authority are not safe, no safe character is one. -/
theorem no_mark {safe : Char → Bool} {c : Char} (h : safe c = true)
    (hmarks : ['/', '?', '#', '@'].all (!safe ·) = true) :
    endsAuthority c = false ∧ c ≠ '@' := by
  have hother (d : Char) (hd : d ∈ ['/', '?', '#', '@']) : c ≠ d := by
    rintro rfl
    have hmark := List.all_eq_true.mp hmarks c hd
    rw [h] at hmark
    cases hmark
  simp [endsAuthority, hother '/', hother '?', hother '#', hother '@']

namespace Readable

variable {a : Address} (h : a.Readable)

include h

theorem bracketed_eq :
    ((∀ c ∈ a.host, hostSafe c = true) ∧ bracketed a.host = a.host) ∨
      (isVersion6 a.host = true ∧ bracketed a.host = '[' :: a.host ++ [']']) := by
  rcases h.host with hsafe | ⟨hversion, -⟩
  · refine .inl ⟨hsafe, if_neg fun hcolon => ?_⟩
    have hbad := hsafe ':' (List.contains_iff_mem.mp hcolon)
    cases hbad
  · exact .inr ⟨hversion, if_pos (List.contains_iff_mem.mpr (colon_mem_of_isVersion6 hversion))⟩

theorem splitHost_location :
    splitHost a.location =
      (bracketed a.host, announced ':' (a.port.map fun port => (toString port).toList)) := by
  unfold location
  rcases h.bracketed_eq with ⟨hsafe, hplain⟩ | ⟨-, hbrackets⟩
  · rw [hplain, splitHost_of_hostSafe hsafe]
  · have hclose : ']' ∉ announced ':' (a.port.map fun port => (toString port).toList) := by
      intro hmem
      rcases announced_port hmem with hc | hc
      · cases hc
      · cases hc
    have hsplit := splitLast_append hclose ('[' :: a.host)
    rw [hbrackets, List.append_assoc, List.singleton_append, splitHost, if_pos (by simp), hsplit]

theorem mem_location {c : Char} (hc : c ∈ a.location) :
    endsAuthority c = false ∧ c ≠ '@' := by
  rcases List.mem_append.mp hc with hc | hc
  · have hhost {c : Char} (hc : c ∈ a.host) : endsAuthority c = false ∧ c ≠ '@' := by
      rcases h.host with hsafe | ⟨-, hchars⟩
      · exact no_mark (hsafe c hc) (by decide)
      · obtain ⟨hslash, hquery, hfragment, hat⟩ := hchars c hc
        simp [endsAuthority, hslash, hquery, hfragment, hat]
    unfold bracketed at hc
    split at hc
    · rcases List.mem_append.mp hc with hc | hc
      · rcases List.mem_cons.mp hc with rfl | hc
        · decide
        · exact hhost hc
      · rw [List.mem_singleton.mp hc]
        decide
    · exact hhost hc
  · rcases announced_port hc with rfl | hc
    · decide
    · exact no_mark hc (by decide)

theorem splitLast_authority : (splitLast '@' a.authority).2 = a.location := by
  have hat : '@' ∉ a.location := fun hmem => (h.mem_location hmem).2 rfl
  unfold authority
  split
  · rw [List.nil_append, splitLast_of_not_mem hat]
  · rw [List.append_assoc, List.singleton_append, splitLast_append hat]

theorem mem_authority {c : Char} (hc : c ∈ a.authority) : endsAuthority c = false := by
  unfold authority at hc
  rcases List.mem_append.mp hc with hc | hc
  · split at hc
    · cases hc
    · rcases List.mem_append.mp hc with hc | hc
      · exact (no_mark (h.userInfo c hc) (by decide)).1
      · rw [List.mem_singleton.mp hc]
        rfl
  · exact (h.mem_location hc).1

theorem splitScheme_text (rest : List Char) :
    splitScheme (a.scheme ++ ':' :: rest) = (a.scheme, rest) := by
  obtain ⟨htake, hdrop⟩ := takeWhile_append_stop h.scheme (':' :: rest)
    (by rw [List.head?_cons]; decide)
  rw [splitScheme, htake, hdrop]
  simp only [h.initial, if_true]

theorem splitAuthority_text {tail : List Char} (htail : FollowsAuthority tail) :
    splitAuthority ('/' :: '/' :: (a.authority ++ tail)) = (a.authority, tail) := by
  have hall : ∀ c ∈ a.authority, (!endsAuthority c) = true := by
    intro c hc
    rw [h.mem_authority hc]
    rfl
  obtain ⟨htake, hdrop⟩ := takeWhile_append_stop hall tail
    (by simpa [FollowsAuthority] using htail)
  exact Prod.ext htake hdrop

theorem normalHost_again {host : List Char} (hhost : normalHost (bracketed a.host) = .ok host) :
    SameHost host a.host := by
  rcases h.bracketed_eq with ⟨hsafe, hplain⟩ | ⟨hversion, hbrackets⟩
  · rw [hplain] at hhost
    exact normalHost_of_safe hsafe hhost
  · rw [hbrackets, normalHost_bracketed hversion] at hhost
    cases hhost
    rfl

/-- What is read from a text that starts as an address does is at the place of
that address. -/
theorem samePlace_of_parse {tail : List Char}
    (htail : FollowsAuthority tail) {again : Address}
    (hagain : parse (a.scheme ++ ':' :: '/' :: '/' :: (a.authority ++ tail)) = .ok again) :
    again.SamePlace a := by
  have hgives := gives_of_parse hagain
  have hscheme : (Parts.ofText (a.scheme ++ ':' :: '/' :: '/' :: (a.authority ++ tail))).scheme =
      a.scheme := by
    simp only [Parts.ofText, h.splitScheme_text]
  have hauthority : (Parts.ofText (a.scheme ++ ':' :: '/' :: '/' ::
      (a.authority ++ tail))).authority = a.authority := by
    simp only [Parts.ofText, h.splitScheme_text, h.splitAuthority_text htail]
  have hnone : (Parts.ofText (a.scheme ++ ':' :: '/' :: '/' :: (a.authority ++ tail))).host =
    none := rfl
  have hagainScheme := hgives.scheme
  have hagainHost := hgives.host
  have hagainPort := hgives.port
  rw [hscheme, h.lower] at hagainScheme
  rw [hnone, hauthority, h.splitLast_authority, h.splitHost_location] at hagainHost
  rw [hscheme, hauthority, h.splitLast_authority, h.splitHost_location] at hagainPort
  refine ⟨hagainScheme, h.normalHost_again hagainHost, ?_⟩
  rw [effectivePort, hagainScheme]
  exact readPort_announced h.port hagainPort

end Readable

end ModelWiring.Address
