import ModelWiring.Proofs.Address.Segments

/-!
The address of a backend as people write it, and the resources under it. Each is
read as it stands, and a resource that is resolved against the directory of the
backend is found under the segments of it.
-/

namespace ModelWiring.Address

section

variable {mark : Char} {s : List Char} (h : mark ∉ s)

include h

theorem splitMark_announced (part : Option (List Char)) :
    splitMark mark (s ++ announced mark part) = (s, part) := by
  have hall : ∀ c ∈ s, decide (c ≠ mark) = true := fun c hc =>
    decide_eq_true fun hmark => h (hmark ▸ hc)
  obtain ⟨htake, hdrop⟩ := takeWhile_append_stop hall (announced mark part)
    (by cases part <;> simp [announced])
  rw [splitMark, htake, hdrop]
  cases part <;> rfl

theorem splitMark_of_not_mem : splitMark mark s = (s, none) := by
  simpa [announced] using splitMark_announced h none

end

theorem checkText_ok {length : AddressFault} {control : Char → Nat → AddressFault}
    {s : List Char} (hlength : s.length ≤ greatestLength)
    (hchars : ∀ c ∈ s, isControl c = false) : checkText length control s = .ok () := by
  have hnone : s.find? isControl = none :=
    List.find?_eq_none.mpr fun c hc => by simp [hchars c hc]
  rw [checkText, if_neg (Nat.not_lt.mpr hlength), hnone]

def isQueryChar (c : Char) : Bool :=
  c.isAlphanum || ['=', '&', '-'].contains c

/-- What stands in a path of segments and in the query after it. -/
def isPlaceChar (c : Char) : Bool :=
  isUnreserved c || ['/', '?', '=', '&'].contains c

theorem isAscii_of_isLower {c : Char} (h : c.isLower = true) : Text.isAscii c = true := by
  have hletter : (c.isUpper || c.isLower || c.isDigit) = true := by
    rw [h, Bool.or_true, Bool.true_or]
  exact isAscii_of_isAlphanum hletter

theorem isAscii_of_isPlaceChar {c : Char} (h : isPlaceChar c = true) : Text.isAscii c = true := by
  simp only [isPlaceChar, Bool.or_eq_true, List.contains_iff_mem] at h
  rcases h with h | h
  · exact isAscii_of_hostSafe (by rw [hostSafe, h]; rfl)
  · exact List.all_eq_true.mp (by decide : ['/', '?', '=', '&'].all Text.isAscii = true) c h

theorem isControl_of_hostSafe {c : Char} (h : hostSafe c = true) : isControl c = false :=
  Text.forall_ascii (P := fun c => hostSafe c = true → isControl c = false) (by decide +kernel)
    (isAscii_of_hostSafe h) h

theorem isPlaceChar_spec {c : Char} (h : isPlaceChar c = true) : isControl c = false ∧
    ((isUnreserved c || c = '/') = true → pathSafe c = true) ∧
    (isQueryChar c = true → querySafe c = true) :=
  Text.forall_ascii (P := fun c => isPlaceChar c = true → isControl c = false ∧
    ((isUnreserved c || c = '/') = true → pathSafe c = true) ∧
    (isQueryChar c = true → querySafe c = true)) (by decide +kernel) (isAscii_of_isPlaceChar h) h

/-- A path and a query that stand for themselves in every text. -/
structure IsPlain (path : List Char) (query : Option (List Char)) : Prop where
  chars : ∀ c ∈ path, (isUnreserved c || c = '/') = true
  normal : normalPath path = path
  query_ok : ∀ s ∈ query, s ≠ [] ∧ s.all isQueryChar = true

theorem isPlain_rooted {segments : List (List Char)} {query : Option (List Char)}
    (h : ∀ segment ∈ segments, segment = [] ∨ IsSegment segment)
    (hquery : ∀ s ∈ query, s ≠ [] ∧ s.all isQueryChar = true) : IsPlain (rooted segments) query :=
  ⟨mem_rooted h, normalPath_rooted h, hquery⟩

namespace IsPlain

variable {path : List Char} {query : Option (List Char)} (h : IsPlain path query)

include h

theorem mem_text : ∀ c ∈ path ++ announced '?' query, isPlaceChar c = true := by
  have hpath : ∀ c ∈ path, isPlaceChar c = true := by
    intro c hc
    have hchar := h.chars c hc
    simp only [isPlaceChar, Bool.or_eq_true, decide_eq_true_eq, List.contains_iff_mem] at hchar ⊢
    exact hchar.imp_right fun hslash => List.mem_cons.mpr (.inl hslash)
  refine List.forall_mem_append.mpr ⟨hpath, ?_⟩
  cases hquery : query with
  | none => exact List.forall_mem_nil _
  | some s =>
      refine List.forall_mem_cons.mpr ⟨rfl, fun c hc => ?_⟩
      have hchar := List.all_eq_true.mp (h.query_ok s hquery).2 c hc
      simp only [isQueryChar, Bool.or_eq_true, List.contains_iff_mem] at hchar
      rcases hchar with halphanum | hmark
      · simp [isPlaceChar, isUnreserved, halphanum]
      · exact List.all_eq_true.mp (by decide : ['=', '&', '-'].all isPlaceChar = true) c hmark

theorem splitMarks :
    splitMark '#' (path ++ announced '?' query) = (path ++ announced '?' query, none) ∧
      splitMark '?' (path ++ announced '?' query) = (path, query) :=
  ⟨splitMark_of_not_mem (not_mem_of_forall h.mem_text (by decide)),
    splitMark_announced (not_mem_of_forall h.chars (by decide)) query⟩

theorem splitParameters_eq : Reference.splitParameters path = (path, []) := by
  have hsuffix : (path.reverse.takeWhile (· ≠ '/')).reverse <:+ path := by
    rw [← List.reverse_prefix, List.reverse_reverse]
    exact List.takeWhile_prefix _
  have hlast : ';' ∉ (path.reverse.takeWhile (· ≠ '/')).reverse := fun hmem =>
    not_mem_of_forall h.chars (by decide) (hsuffix.subset hmem)
  unfold Reference.splitParameters
  simp only [splitMark_of_not_mem hlast, List.suffix_iff_eq_append.mp hsuffix]
  rfl

theorem escaped : escape pathSafe path = path ∧ query.map (escape querySafe) = query := by
  have hmem := List.forall_mem_append.mp h.mem_text
  constructor
  · exact escape_eq_self (List.all_eq_true.mpr fun c hc =>
      (isPlaceChar_spec (hmem.1 c hc)).2.1 (h.chars c hc))
  · cases hquery : query with
    | none => rfl
    | some s =>
        rw [hquery] at hmem
        refine congrArg some (escape_eq_self (List.all_eq_true.mpr fun c hc => ?_))
        have hchar := isPlaceChar_spec (hmem.2 c (List.mem_cons_of_mem _ hc))
        exact hchar.2.2 (List.all_eq_true.mp (h.query_ok s hquery).2 c hc)

theorem given_query : Reference.given '?' (query.getD []) = announced '?' query := by
  cases hquery : query with
  | none => rfl
  | some s => exact if_neg (by simpa using (h.query_ok s hquery).1)

end IsPlain

/-- An address with neither a user nor a port nor a fragment. -/
def bare (scheme host path : List Char) (query : Option (List Char)) : Address where
  scheme
  userInfo := []
  host
  port := none
  path
  query
  fragment := none

section

variable {scheme host path : List Char} {query : Option (List Char)}
  (hhost : ∀ c ∈ host, hostSafe c = true)

include hhost

theorem location_bare : (bare scheme host path query).location = host := by
  have hcolon : host.contains ':' = false := by
    simpa using not_mem_of_forall hhost (by decide)
  simp only [location, bare, bracketed, hcolon, Bool.false_eq_true, if_false, Option.map_none,
    announced, List.append_nil]

theorem authority_bare : (bare scheme host path query).authority = host := by
  rw [authority, location_bare hhost]
  rfl

/-- Parts that stand for themselves come to an address of just these. -/
theorem Parts.normal_bare (hlower : scheme.map Char.toLower = scheme) (hplain : IsPlain path query)
    (hnormal : normalHost host = .ok host)
    (hallowed : checkPath (!scheme.isEmpty) (!host.isEmpty) path = .ok ()) :
    Parts.normal { scheme, authority := host, path, query, fragment := none } =
      .ok (bare scheme host path query) := by
  have hat : '@' ∉ host := not_mem_of_forall hhost (by decide)
  have hsplit : splitHost host = (host, []) := by
    simpa [announced] using splitHost_of_hostSafe hhost none
  obtain ⟨hpath, hquery⟩ := hplain.escaped
  have hport : readPort scheme [] = .ok none := rfl
  have hnone : escape userInfoSafe [] = [] := rfl
  simp only [normal, splitLast_of_not_mem hat, hsplit, Option.getD_none, hnormal, hport, hnone,
    List.isEmpty_nil, Bool.not_true, Bool.false_or, Option.isSome_none, Bool.or_false, hallowed,
    Except.bind, bind, hplain.normal, ite_self, hpath, hquery, hlower]
  rfl

end

theorem splitScheme_of_not_mem {s : List Char} (h : ':' ∉ s) : splitScheme s = ([], s) := by
  unfold splitScheme
  simp only
  split
  · next rest hrest =>
      exact absurd ((List.dropWhile_sublist _).subset (hrest ▸ List.mem_cons_self)) h
  · rfl

theorem Reference.splitScheme_of_not_mem {s : List Char} (h : ':' ∉ s) (standard : List Char) :
    splitScheme standard s = (standard, s) := by
  unfold splitScheme
  simp only
  split
  · next rest hrest =>
      exact absurd ((List.dropWhile_sublist _).subset (hrest ▸ List.mem_cons_self)) h
  · rfl

/-- Where a text is cut into a path and a query that stand for themselves, both
ways of reading find these and no more. -/
theorem Parts.ofText_eq {s rest scheme authority path : List Char} {query : Option (List Char)}
    (hplain : IsPlain path query) (hscheme : splitScheme s = (scheme, rest))
    (hauthority : splitAuthority rest = (authority, path ++ announced '?' query)) :
    ofText s = { scheme, authority, path, query, fragment := none } := by
  obtain ⟨hfragment, hquery⟩ := hplain.splitMarks
  simp only [ofText, hscheme, hauthority, hfragment, hquery]

theorem Reference.ofText_eq {standard s rest scheme location path : List Char}
    {query : Option (List Char)} (hplain : IsPlain path query)
    (hscheme : splitScheme standard s = (scheme, rest))
    (hlocation : splitAuthority rest = (location, path ++ announced '?' query))
    (hchecked : checkLocation location = .ok ()) :
    ofText standard s = .ok {
      scheme, location, path, parameters := [], query := query.getD [], fragment := [] } := by
  obtain ⟨hfragment, hquery⟩ := hplain.splitMarks
  simp only [ofText, hscheme, hlocation, hchecked, Except.bind, bind, hfragment, hquery,
    hplain.splitParameters_eq, ite_self]
  rfl

theorem Reference.checkLocation_of_hostSafe {host : List Char}
    (h : ∀ c ∈ host, hostSafe c = true) : checkLocation host = .ok () := by
  have hopen : host.contains '[' = false := by simpa using not_mem_of_forall h (by decide)
  have hclose : host.contains ']' = false := by simpa using not_mem_of_forall h (by decide)
  have hnone : host.any (Text.inRanges dividingRanges) = false := by
    refine List.any_eq_false.mpr fun c hc => ?_
    exact Text.forall_ascii (P := fun c => ¬ Text.inRanges dividingRanges c = true)
      (by decide +kernel) (isAscii_of_hostSafe (h c hc))
  simp only [checkLocation, hopen, hclose, hnone]
  rfl

/-- A reference with a path and no place goes on from the place and the path of
its base. -/
theorem joinText_continued {base reference : List Char} {b r : Reference}
    (hbase : Reference.ofText [] base = .ok b)
    (hreference : Reference.ofText b.scheme reference = .ok r)
    (hsome : base ≠ [] ∧ reference ≠ []) (hscheme : r.scheme = b.scheme)
    (hrelative : isOneOf relativeSchemes b.scheme = true) (hlocation : r.location = [])
    (hpath : r.path ≠ []) :
    joinText base reference =
      .ok (Reference.chars { r with
        location := b.location, path := joinPaths b.path r.path }) := by
  have hlocated := located_of_relative hrelative
  rw [joinText, if_neg (by simpa using hsome.1), if_neg (by simpa using hsome.2)]
  simp only [hbase, hreference, Except.bind, bind, hscheme, hrelative, hlocated, hlocation]
  simp [hpath]
  rfl

/-- Where a backend is, as people write it: a scheme of the web, a host of labels
in small letters, and the segments of a path. -/
structure Site where
  scheme : List Char
  labels : List (List Char)
  segments : List (List Char)
  scheme_web : scheme = "http".toList ∨ scheme = "https".toList
  labels_ne_nil : labels ≠ []
  labels_ok : ∀ label ∈ labels, label ≠ [] ∧ label.all Char.isLower = true
  segments_ok : ∀ segment ∈ segments, IsSegment segment

/-- What is asked of a backend: the segments of a path, at least one, and maybe a
query. -/
structure Resource where
  segments : List (List Char)
  query : Option (List Char)
  segments_ne_nil : segments ≠ []
  segments_ok : ∀ segment ∈ segments, IsSegment segment
  query_ok : ∀ s ∈ query, s ≠ [] ∧ s.all isQueryChar = true

namespace Site

variable (site : Site)

def host : List Char :=
  ['.'].intercalate site.labels

/-- The text of the site up to its path. -/
def origin : List Char :=
  site.scheme ++ "://".toList ++ site.host

/-- The address of a path and a query at the place of the site. -/
def place (path : List Char) (query : Option (List Char)) : Address :=
  bare site.scheme site.host path query

theorem mem_host : ∀ c ∈ site.host, (c.isLower || c = '.') = true := by
  refine forall_mem_intercalate (List.all_eq_true.mp (by decide)) fun label hlabel c hc => ?_
  rw [List.all_eq_true.mp (site.labels_ok label hlabel).2 c hc]
  rfl

theorem hostSafe_host : ∀ c ∈ site.host, hostSafe c = true ∧ c.toLower = c ∧ c ≠ '-' := by
  intro c hc
  have hchar := site.mem_host c hc
  have hascii : Text.isAscii c = true := by
    simp only [Bool.or_eq_true, decide_eq_true_eq] at hchar
    rcases hchar with hlower | rfl
    · exact isAscii_of_isLower hlower
    · decide
  exact Text.forall_ascii (P := fun c => (c.isLower || c = '.') = true →
    hostSafe c = true ∧ c.toLower = c ∧ c ≠ '-') (by decide +kernel) hascii hchar

theorem host_start : ∃ c rest, site.host = c :: rest ∧ c.isLower = true :=
  intercalate_start _ site.labels_ne_nil site.labels_ok

theorem normalHost_host : normalHost site.host = .ok site.host := by
  obtain ⟨c, rest, hhost, hc⟩ := site.host_start
  have hletter : c ≠ '.' ∧ c.isDigit = false := by
    constructor
    · rintro rfl
      cases hc
    · exact Text.forall_ascii (P := fun c => c.isLower = true → c.isDigit = false)
        (by decide +kernel) (isAscii_of_isLower hc) hc
  have hlooks := looksVersion4_eq_false (hhost ▸ List.mem_cons_self) hletter
  rw [normalHost_eq_toLower (fun c hc => (site.hostSafe_host c hc).1) hlooks,
    List.map_congr_left fun c hc => (site.hostSafe_host c hc).2.1, List.map_id']

theorem scheme_ok : site.scheme ≠ [] ∧ site.scheme.map Char.toLower = site.scheme ∧
    (∀ c ∈ site.scheme, isSchemeChar c = true) ∧ site.scheme.head?.all Char.isAlpha = true ∧
    isOneOf relativeSchemes site.scheme = true := by
  rcases site.scheme_web with h | h
  all_goals
    rw [h]
    exact ⟨by decide, by decide, List.all_eq_true.mp (by decide), by decide, by decide⟩

theorem isControl_origin : ∀ c ∈ site.origin, isControl c = false := by
  have hscheme : (site.scheme ++ "://".toList).all (!isControl ·) = true := by
    rcases site.scheme_web with h | h
    all_goals
      rw [h]
      decide
  refine List.forall_mem_append.mpr ⟨fun c hc => ?_, fun c hc =>
    isControl_of_hostSafe (site.hostSafe_host c hc).1⟩
  simpa using List.all_eq_true.mp hscheme c hc

variable {path : List Char} {query : Option (List Char)}

theorem authority_place : (site.place path query).authority = site.host :=
  authority_bare fun c hc => (site.hostSafe_host c hc).1

/-- What stands behind the scheme and its colon. -/
def afterScheme (path : List Char) (query : Option (List Char)) : List Char :=
  '/' :: '/' :: (site.host ++ (path ++ announced '?' query))

theorem chars_place :
    (site.place path query).chars = site.origin ++ path ++ announced '?' query := by
  obtain ⟨hscheme, -⟩ := site.scheme_ok
  obtain ⟨c, rest, hhost, -⟩ := site.host_start
  have hsome : site.host.isEmpty = false := by rw [hhost]; rfl
  rw [chars, site.authority_place]
  simp [place, bare, hscheme, hsome, origin, announced]

theorem chars_place_cut :
    (site.place path query).chars = site.scheme ++ ':' :: site.afterScheme path query := by
  rw [chars_place]
  simp [origin, afterScheme]

section

variable (hpath : path.head? = some '/')

include hpath

theorem readable_place (query : Option (List Char)) : (site.place path query).Readable := by
  obtain ⟨-, hlower, hchars, hinitial, -⟩ := site.scheme_ok
  refine ⟨hchars, hinitial, hlower, List.forall_mem_nil _,
    .inl fun c hc => (site.hostSafe_host c hc).1, ?_, fun _ => .inr hpath⟩
  intro port hport
  cases hport

theorem splitAuthority_place :
    splitAuthority (site.afterScheme path query) = (site.host, path ++ announced '?' query) := by
  have htail : FollowsAuthority (path ++ announced '?' query) := by
    rw [FollowsAuthority, List.head?_append, hpath]
    rfl
  have hsplit := (site.readable_place hpath query).splitAuthority_text htail
  rwa [authority_place] at hsplit

variable (hplain : IsPlain path query)

include hplain

/-- A text of a site, within the limit, is read as it stands. -/
theorem parse_place (hlength : (site.place path query).chars.length ≤ greatestLength) :
    parse (site.place path query).chars = .ok (site.place path query) := by
  have hreadable := site.readable_place hpath query
  obtain ⟨hscheme, hlower, hchars, -⟩ := site.scheme_ok
  obtain ⟨c, rest, hhost, -⟩ := site.host_start
  have hcut : splitScheme (site.place path query).chars =
      (site.scheme, site.afterScheme path query) := by
    rw [chars_place_cut]
    exact hreadable.splitScheme_text _
  have hallowed : checkPath (!site.scheme.isEmpty) (!site.host.isEmpty) path = .ok () := by
    simp [checkPath, hhost, hpath]
  rw [parse, Parts.ofText_eq hplain hcut (site.splitAuthority_place hpath),
    Parts.normal_bare (fun c hc => (site.hostSafe_host c hc).1) hlower hplain site.normalHost_host
      hallowed, checkText_ok hlength]
  · rfl
  · rw [chars_place, List.append_assoc]
    exact List.forall_mem_append.mpr ⟨site.isControl_origin, fun c hc =>
      (isPlaceChar_spec (hplain.mem_text c hc)).1⟩

theorem ofText_place (standard : List Char) :
    Reference.ofText standard (site.place path query).chars = .ok {
      scheme := site.scheme, location := site.host, path, parameters := []
      query := query.getD [], fragment := [] } := by
  obtain ⟨hscheme, -⟩ := site.scheme_ok
  have hcut : Reference.splitScheme standard (site.place path query).chars =
      (site.scheme, site.afterScheme path query) := by
    rw [chars_place_cut]
    exact (site.readable_place hpath query).splitScheme_reference hscheme _ _
  exact Reference.ofText_eq hplain hcut (site.splitAuthority_place hpath)
    (Reference.checkLocation_of_hostSafe fun c hc => (site.hostSafe_host c hc).1)

/-- The parts that a text of a site is cut into are put together to that text. -/
theorem chars_joined : Reference.chars {
      scheme := site.scheme, location := site.host, path, parameters := []
      query := query.getD [], fragment := [] } = (site.place path query).chars := by
  obtain ⟨hscheme, -⟩ := site.scheme_ok
  obtain ⟨c, rest, hhost, -⟩ := site.host_start
  have hsome : site.host.isEmpty = false := by rw [hhost]; rfl
  have hparts : Reference.given ';' [] = [] ∧ Reference.given '#' [] = [] := ⟨rfl, rfl⟩
  rw [chars_place, Reference.chars]
  simp [hparts, hsome, hpath, hscheme, hplain.given_query, origin]

end

/-- The address of the site itself, as a directory: a slash ends its path. -/
def directory : Address :=
  site.place (rooted (site.segments ++ [[]])) none

theorem isPlain_directory : IsPlain (rooted (site.segments ++ [[]])) none :=
  isPlain_rooted (List.forall_mem_append.mpr
    ⟨fun s hs => .inr (site.segments_ok s hs), by simp⟩) nofun

theorem directory_start : (rooted (site.segments ++ [[]])).head? = some '/' := by
  rw [rooted_eq_cons (List.append_ne_nil_of_right_ne_nil _ (List.cons_ne_nil _ _))]
  rfl

/-- The address of a resource under the site: behind the segments of the site
those of the resource. -/
def under (resource : Resource) : Address :=
  site.place (rooted (site.segments ++ resource.segments)) resource.query

end Site

namespace Resource

variable (resource : Resource)

/-- A resource as a reference, without a slash before it. -/
def reference : Address :=
  bare [] [] (['/'].intercalate resource.segments) resource.query

theorem isPlain_reference : IsPlain (['/'].intercalate resource.segments) resource.query := by
  refine ⟨forall_mem_intercalate (List.all_eq_true.mp (by decide)) fun segment hsegment c hc => ?_,
    normalPath_intercalate (fun s hs => .inr (resource.segments_ok s hs)) resource.segments_ne_nil,
    resource.query_ok⟩
  rw [(resource.segments_ok segment hsegment).mem c hc]
  rfl

theorem chars_reference : resource.reference.chars =
    ['/'].intercalate resource.segments ++ announced '?' resource.query := by
  simp [chars, authority, location, bracketed, reference, bare, announced]

/-- A reference starts with a character that needs no escape, so with no slash. -/
theorem reference_start :
    ∃ c rest, ['/'].intercalate resource.segments = c :: rest ∧ isUnreserved c = true :=
  intercalate_start _ resource.segments_ne_nil fun s hs =>
    ⟨(resource.segments_ok s hs).nonempty, (resource.segments_ok s hs).plain⟩

theorem mem_text : ∀ c ∈ resource.reference.chars, isPlaceChar c = true := by
  rw [chars_reference]
  exact resource.isPlain_reference.mem_text

theorem no_colon : ':' ∉ resource.reference.chars :=
  not_mem_of_forall resource.mem_text (by decide)

/-- A reference names no place: it does not start with a slash. -/
theorem splitAuthority_reference : splitAuthority resource.reference.chars =
    ([], ['/'].intercalate resource.segments ++ announced '?' resource.query) := by
  obtain ⟨c, rest, hstart, hc⟩ := resource.reference_start
  rw [chars_reference, hstart, List.cons_append]
  unfold splitAuthority
  split
  · next heq =>
      rw [(List.cons.inj heq).1] at hc
      cases hc
  · rfl

theorem parse_reference (hlength : resource.reference.chars.length ≤ greatestLength) :
    parse resource.reference.chars = .ok resource.reference := by
  have hallowed : checkPath false false (['/'].intercalate resource.segments) = .ok () := by
    obtain ⟨c, rest, hstart, hc⟩ := resource.reference_start
    have hdouble : startsDouble (c :: rest) = false := by
      unfold startsDouble
      split
      · next heq =>
          cases heq
          cases hc
      · rfl
    have hcolon : c ≠ ':' := by
      rintro rfl
      cases hc
    rw [hstart]
    simp [checkPath, hdouble, hcolon]
  rw [parse, checkText_ok hlength fun c hc => (isPlaceChar_spec (resource.mem_text c hc)).1,
    Parts.ofText_eq resource.isPlain_reference (splitScheme_of_not_mem resource.no_colon)
      resource.splitAuthority_reference]
  exact Parts.normal_bare (List.forall_mem_nil _) rfl resource.isPlain_reference rfl hallowed

theorem ofText_reference (standard : List Char) :
    Reference.ofText standard resource.reference.chars = .ok {
      scheme := standard, location := [], path := ['/'].intercalate resource.segments
      parameters := [], query := resource.query.getD [], fragment := [] } :=
  Reference.ofText_eq resource.isPlain_reference
    (Reference.splitScheme_of_not_mem resource.no_colon standard)
    resource.splitAuthority_reference rfl

end Resource

namespace Site

variable (site : Site) (resource : Resource)

theorem isPlain_under : IsPlain (rooted (site.segments ++ resource.segments)) resource.query :=
  isPlain_rooted (List.forall_mem_append.mpr ⟨fun s hs => .inr (site.segments_ok s hs),
    fun s hs => .inr (resource.segments_ok s hs)⟩) resource.query_ok

theorem path_under : rooted (site.segments ++ resource.segments) =
    '/' :: ['/'].intercalate (site.segments ++ resource.segments) :=
  rooted_eq_cons (List.append_ne_nil_of_right_ne_nil _ resource.segments_ne_nil)

/-- A resource that is resolved against the directory of a site is found under
the site. -/
theorem join_reference (hlength : (site.under resource).chars.length ≤ greatestLength) :
    site.directory.join resource.reference = .ok (site.under resource) := by
  obtain ⟨hscheme, -, -, -, hrelative⟩ := site.scheme_ok
  obtain ⟨c, rest, hstart, -⟩ := resource.reference_start
  have hbase : Reference.ofText [] site.directory.chars = _ :=
    site.ofText_place site.directory_start site.isPlain_directory []
  have hsome : site.directory.chars ≠ [] ∧ resource.reference.chars ≠ [] := by
    refine ⟨chars_ne_nil hscheme, ?_⟩
    rw [Resource.chars_reference, hstart]
    exact List.cons_ne_nil _ _
  have hpath : (rooted (site.segments ++ resource.segments)).head? = some '/' := by
    rw [path_under]
    rfl
  have hjoined : joinText site.directory.chars resource.reference.chars =
      .ok (site.under resource).chars := by
    rw [joinText_continued hbase (resource.ofText_reference _) hsome rfl hrelative rfl
      (by rw [hstart]; exact List.cons_ne_nil _ _)]
    simp only [joinPaths_directory site.segments_ok resource.segments_ok resource.segments_ne_nil]
    rw [site.chars_joined hpath (site.isPlain_under resource)]
    rfl
  rw [join, hjoined]
  exact congrArg (·.mapError JoinFault.address)
    (site.parse_place hpath (site.isPlain_under resource) hlength)

end Site

end ModelWiring.Address
