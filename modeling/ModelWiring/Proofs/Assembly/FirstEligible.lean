import ModelWiring.Proofs.Assembly.Run

/-!
The first eligible entry wins. An assembly that returns registers a capability
that was open if and only if an entry of the list is eligible for it, and what
it registers is the model of the first such entry, in the order of the list.
All models of one entry hold one client, and no client that is built is held by
the models of two entries.
-/

namespace ModelWiring.Assembly

/-- The first entry that is eligible for a capability, with its place. -/
structure FirstEligible (installed : Installation) (settings : Settings)
    (providers : List Provider) (capability : Capability) (place : Nat) (p : Provider) :
    Prop where
  entry : providers[place]? = some p
  eligible : p.Eligible installed settings capability
  first : ∀ earlier < place, ∀ q, providers[earlier]? = some q →
    ¬q.Eligible installed settings capability

section

variable {installed : Installation} {settings : Settings} {providers rest : List Provider}
  {capability : Capability} {place place' : Nat} {p q : Provider}

theorem FirstEligible.unique (h : FirstEligible installed settings providers capability place p)
    (h' : FirstEligible installed settings providers capability place' q) :
    place = place' ∧ p = q := by
  have hplace : place = place' := by
    rcases Nat.lt_trichotomy place place' with hlt | heq | hgt
    · exact absurd h.eligible (h'.first place hlt p h.entry)
    · exact heq
    · exact absurd h'.eligible (h.first place' hgt q h'.entry)
  subst hplace
  exact ⟨rfl, Option.some.inj (h.entry.symm.trans h'.entry)⟩

theorem FirstEligible.mem (h : FirstEligible installed settings providers capability place p) :
    p ∈ providers :=
  List.mem_of_getElem? h.entry

theorem FirstEligible.head (h : p.Eligible installed settings capability) :
    FirstEligible installed settings (p :: rest) capability 0 p :=
  ⟨rfl, h, fun _ hlt => absurd hlt (Nat.not_lt_zero _)⟩

theorem FirstEligible.tail (hskip : ¬p.Eligible installed settings capability)
    (h : FirstEligible installed settings rest capability place q) :
    FirstEligible installed settings (p :: rest) capability (place + 1) q := by
  refine ⟨by simpa using h.entry, h.eligible, ?_⟩
  intro earlier hlt other hother
  cases earlier with
  | zero =>
      cases hother
      exact hskip
  | succ earlier => exact h.first earlier (by omega) other (by simpa using hother)

theorem FirstEligible.of_cons
    (h : FirstEligible installed settings (p :: rest) capability (place + 1) q) :
    ¬p.Eligible installed settings capability ∧
      FirstEligible installed settings rest capability place q := by
  refine ⟨h.first 0 (by omega) p rfl, by simpa using h.entry, h.eligible, ?_⟩
  intro earlier hlt other hother
  exact h.first (earlier + 1) (by omega) other (by simpa using hother)

end

variable {settings : Settings} {channel : Option Nat} {clients : Keyed ClientId}
  {providers : List Provider} {w w' : World} {added : List Registration}

theorem Applies.made_open (h : Applies settings channel clients providers w added w') :
    ∀ r ∈ added, Registry.find? w.registrations r.capability = none := by
  induction h with
  | done => simp
  | next hentry _ ih =>
      intro r hr
      have hrun := Provider.entryRun hentry
      rcases List.mem_append.mp hr with hr | hr
      · exact (hrun.sound r hr).1
      · have hopen := ih r hr
        rw [hrun.registrations, Registry.find?_append, Option.or_eq_none_iff] at hopen
        exact hopen.1

/-- A run over an entry leaves nothing for later that it is eligible for. -/
theorem not_eligible_of_later {p : Provider} {rest : List Provider} {w₁ : World}
    {first more : List Registration}
    (hentry : (p.apply settings channel (Keyed.get? p.identifier clients)).perform w =
      (.ok first, w₁))
    (hrest : Applies settings channel clients rest w₁ more w') {r : Registration}
    (hr : r ∈ more) : ¬p.Eligible w.installed settings r.capability := by
  intro heligible
  have hserved := (Provider.entryRun hentry).complete _ heligible
  rw [hrest.made_open r hr] at hserved
  cases hserved

/-- Of the registrations of a run, those that its first entry is eligible for
are made in the run over that entry, and all others later. -/
theorem mem_first_or_more {p : Provider} {rest : List Provider} {w₁ : World}
    {first more : List Registration}
    (hentry : (p.apply settings channel (Keyed.get? p.identifier clients)).perform w =
      (.ok first, w₁))
    (hrest : Applies settings channel clients rest w₁ more w') {r : Registration}
    (hr : r ∈ first ++ more) :
    (r ∈ first ∧ p.Eligible w.installed settings r.capability) ∨
      (r ∈ more ∧ ¬p.Eligible w.installed settings r.capability) := by
  rcases List.mem_append.mp hr with hr | hr
  · exact Or.inl ⟨hr, ((Provider.entryRun hentry).sound r hr).2⟩
  · exact Or.inr ⟨hr, not_eligible_of_later hentry hrest hr⟩

theorem mem_more_of_later {p q : Provider} {rest : List Provider} {w₁ : World}
    {first more : List Registration} {place : Nat}
    (hentry : (p.apply settings channel (Keyed.get? p.identifier clients)).perform w =
      (.ok first, w₁))
    (hrest : Applies settings channel clients rest w₁ more w') {r : Registration}
    (hr : r ∈ first ++ more)
    (hlater : FirstEligible w.installed settings (p :: rest) r.capability (place + 1) q) :
    r ∈ more := by
  rcases mem_first_or_more hentry hrest hr with ⟨_, heligible⟩ | ⟨hr, _⟩
  · exact absurd heligible hlater.of_cons.1
  · exact hr

/-- For each registration that a run makes there is an entry that is the first
one eligible for its capability. -/
theorem Applies.sound (h : Applies settings channel clients providers w added w') :
    ∀ r ∈ added, ∃ place p,
      FirstEligible w.installed settings providers r.capability place p := by
  induction h with
  | done => simp
  | next hentry hrest ih =>
      intro r hr
      rcases mem_first_or_more hentry hrest hr with ⟨_, heligible⟩ | ⟨hr, hskip⟩
      · exact ⟨0, _, .head heligible⟩
      · obtain ⟨place, q, hfirst⟩ := ih r hr
        rw [(Provider.entryRun hentry).installed] at hfirst
        exact ⟨place + 1, q, hfirst.tail hskip⟩

/-- The client of each place of the list: the registrations made for the entry
there are models with that client, clients that are built are new to every
later entry, and none is built but for such an entry. -/
structure SharesClients (settings : Settings) (channel : Option Nat) (clients : Keyed ClientId)
    (providers : List Provider) (w : World) (added : List Registration) (w' : World)
    (api : Nat → ClientId) : Prop where
  made : ∀ r ∈ added, ∀ place p,
    FirstEligible w.installed settings providers r.capability place p →
    p.Makes w.installed settings p.models (api place) r ∧
      p.Supplied settings channel (Keyed.get? p.identifier clients) w w' (api place)
  apart : ∀ r ∈ added, ∀ r' ∈ added, ∀ place place' p p',
    FirstEligible w.installed settings providers r.capability place p →
    FirstEligible w.installed settings providers r'.capability place' p' →
    Keyed.get? p.identifier clients = none → Keyed.get? p'.identifier clients = none →
    place < place' → api place < api place'
  used : ∀ built, w.clients.length ≤ built → built < w'.clients.length →
    ∃ r ∈ added, ∃ place p,
      FirstEligible w.installed settings providers r.capability place p ∧
      Keyed.get? p.identifier clients = none ∧ built = api place

/-- The clients of all places, from that of the first one and those after it. -/
def clientAt (first : ClientId) (later : Nat → ClientId) : Nat → ClientId
  | 0 => first
  | place + 1 => later place

section

variable {p : Provider} {rest : List Provider} {w₁ : World} {first more : List Registration}
  {id : ClientId} {api : Nat → ClientId}
  (hentry : (p.apply settings channel (Keyed.get? p.identifier clients)).perform w =
    (.ok first, w₁))
  (hrest : Applies settings channel clients rest w₁ more w')
  (hsupplied : first ≠ [] →
    p.Supplied settings channel (Keyed.get? p.identifier clients) w w₁ id)
  (h : SharesClients settings channel clients rest w₁ more w' api)

include hentry hrest hsupplied h

/-- With an entry in front, each registration still has the client of its
place: the first entry made its own, and the rest moved on by one. -/
theorem SharesClients.made_cons
    (hmakes : ∀ r ∈ first, p.Makes w.installed settings p.models id r)
    {r : Registration} (hr : r ∈ first ++ more) {place : Nat} {q : Provider}
    (hfirst : FirstEligible w.installed settings (p :: rest) r.capability place q) :
    q.Makes w.installed settings q.models (clientAt id api place) r ∧
      q.Supplied settings channel (Keyed.get? q.identifier clients) w w'
        (clientAt id api place) := by
  have hrun := Provider.entryRun hentry
  rcases mem_first_or_more hentry hrest hr with ⟨hr, heligible⟩ | ⟨hr, hskip⟩
  · obtain ⟨rfl, rfl⟩ := hfirst.unique (.head heligible)
    have hclient := hsupplied (List.ne_nil_of_mem hr)
    exact ⟨hmakes r hr, hclient.mono (List.prefix_refl _) rfl hrest.clients_prefix⟩
  · cases place with
    | zero =>
        cases hfirst.entry
        exact absurd hfirst.eligible hskip
    | succ place =>
        have hlater := hfirst.of_cons.2
        rw [← hrun.installed] at hlater
        obtain ⟨hmodel, hclient⟩ := h.made r hr place q hlater
        rw [hrun.installed] at hmodel
        exact ⟨hmodel, hclient.mono hrun.clients hrun.installed (List.prefix_refl _)⟩

/-- A client that the first entry builds is there when the run goes on, so what
is built later comes behind it. -/
theorem SharesClients.apart_cons {r r' : Registration} (hr : r ∈ first ++ more)
    (hr' : r' ∈ first ++ more) {place place' : Nat} {q q' : Provider}
    (hfirst : FirstEligible w.installed settings (p :: rest) r.capability place q)
    (hfirst' : FirstEligible w.installed settings (p :: rest) r'.capability place' q')
    (hnone : Keyed.get? q.identifier clients = none)
    (hnone' : Keyed.get? q'.identifier clients = none) (hlt : place < place') :
    clientAt id api place < clientAt id api place' := by
  cases place' with
  | zero => exact absurd hlt (Nat.not_lt_zero _)
  | succ place' =>
      have hr' := mem_more_of_later hentry hrest hr' hfirst'
      have hlater' := hfirst'.of_cons.2
      rw [← (Provider.entryRun hentry).installed] at hlater'
      cases place with
      | zero =>
          cases hfirst.entry
          rcases mem_first_or_more hentry hrest hr with ⟨hr, _⟩ | ⟨_, hskip⟩
          · have hold := hsupplied (List.ne_nil_of_mem hr)
            have hnew := (h.made r' hr' place' q' hlater').2
            rw [hnone] at hold
            rw [hnone'] at hnew
            obtain ⟨_, _, _, _, _, hget⟩ := hold
            have hlength := (List.getElem?_eq_some_iff.mp hget).1
            exact Nat.lt_of_lt_of_le hlength hnew.1
          · exact absurd hfirst.eligible hskip
      | succ place =>
          have hr := mem_more_of_later hentry hrest hr hfirst
          have hlater := hfirst.of_cons.2
          rw [← (Provider.entryRun hentry).installed] at hlater
          exact h.apart r hr r' hr' place place' q q' hlater hlater' hnone hnone' (by omega)

omit hsupplied in
theorem SharesClients.used_cons
    (hbuilt : ∀ built, w.clients.length ≤ built → built < w₁.clients.length →
      first ≠ [] ∧ Keyed.get? p.identifier clients = none ∧ built = id)
    {built : ClientId} (hold : w.clients.length ≤ built) (hnew : built < w'.clients.length) :
    ∃ r ∈ first ++ more, ∃ place q,
      FirstEligible w.installed settings (p :: rest) r.capability place q ∧
        Keyed.get? q.identifier clients = none ∧ built = clientAt id api place := by
  rcases Nat.lt_or_ge built w₁.clients.length with hfirst | hlater
  · obtain ⟨hne, hnone, rfl⟩ := hbuilt built hold hfirst
    obtain ⟨r, hr⟩ := List.exists_mem_of_ne_nil first hne
    have heligible := ((Provider.entryRun hentry).sound r hr).2
    exact ⟨r, List.mem_append_left more hr, 0, p, .head heligible, hnone, rfl⟩
  · obtain ⟨r, hr, place, q, hfirst, hnone, rfl⟩ := h.used built hlater hnew
    rw [(Provider.entryRun hentry).installed] at hfirst
    have hskip := not_eligible_of_later hentry hrest hr
    exact ⟨r, List.mem_append_right first hr, place + 1, q, hfirst.tail hskip, hnone, rfl⟩

end

theorem Applies.shares (h : Applies settings channel clients providers w added w') :
    ∃ api, SharesClients settings channel clients providers w added w' api := by
  induction h with
  | done =>
      refine ⟨fun _ => 0, by simp, by simp, ?_⟩
      intro built hold hnew
      exact absurd hnew (Nat.not_lt.mpr hold)
  | next hentry hrest ih =>
      obtain ⟨id, hmakes, hsupplied, hbuilt⟩ := (Provider.entryRun hentry).oneClient
      obtain ⟨api, hshares⟩ := ih
      refine ⟨clientAt id api, ?_, ?_, ?_⟩
      · intro r hr place q hfirst
        exact hshares.made_cons hentry hrest hsupplied hmakes hr hfirst
      · intro r hr r' hr' place place' q q' hfirst hfirst' hnone hnone' hlt
        exact hshares.apart_cons hentry hrest hsupplied hr hr' hfirst hfirst' hnone hnone' hlt
      · intro built hold hnew
        exact hshares.used_cons hentry hrest hbuilt hold hnew

/-- What an assembly that returns does to a registry: of every capability that
was open, the first eligible entry decides. -/
structure FirstEligibleWins (settings : Settings) (channel : Option Nat)
    (clients : Keyed ClientId) (providers : List Provider) (w w' : World) : Prop where
  kept : ∀ c r, Registry.find? w.registrations c = some r →
    Registry.find? w'.registrations c = some r
  /-- An open capability is registered if and only if an entry is eligible. -/
  served_iff : ∀ c, Registry.find? w.registrations c = none →
    ((Registry.find? w'.registrations c).isSome = true ↔
      ∃ p ∈ providers, p.Eligible w.installed settings c)
  /-- The registration is that of the first such entry: its identifier, the
  default options that come of what it offers, and the model that is made of
  these and of the client that belongs to the place of the entry. Where a model
  class of the package is offered, the model is of that class and holds both. -/
  registered : ∃ api : Nat → ClientId,
    (∀ c r, Registry.find? w.registrations c = none →
      Registry.find? w'.registrations c = some r →
      ∃ place p found options served,
        FirstEligible w.installed settings providers c place p ∧
        Provider.offered? w.installed p.models c = some found ∧
        found.Models (.map (settings.capability c).options) (api place) options served ∧
        r = {
          capability := c
          provider := p.identifier
          client := served
          options := some options } ∧
        (∀ m, found = .model m → ∃ record notices,
          (m.defaultOptions (.map (settings.capability c).options)).outcome =
            (.ok record, notices) ∧
          options = .record record ∧
          served = .model { modelClass := m, api := api place, defaults := some record }) ∧
        p.Supplied settings channel (Keyed.get? p.identifier clients) w w' (api place)) ∧
    -- A client that is built serves the models of one entry only.
    (∀ c c' place place' p p',
      Registry.find? w.registrations c = none → Registry.find? w.registrations c' = none →
      FirstEligible w.installed settings providers c place p →
      FirstEligible w.installed settings providers c' place' p' →
      Keyed.get? p.identifier clients = none → Keyed.get? p'.identifier clients = none →
      api place = api place' → place = place') ∧
    -- No client is built that serves none.
    ∀ built, w.clients.length ≤ built → built < w'.clients.length →
      ∃ c place p, Registry.find? w.registrations c = none ∧
        FirstEligible w.installed settings providers c place p ∧
        Keyed.get? p.identifier clients = none ∧ built = api place

theorem Applies.mem_of_find? {w₁ : World} {c : Capability} {r : Registration}
    (h : Applies settings channel clients providers w added w₁)
    (hopen : Registry.find? w.registrations c = none)
    (hfound : Registry.find? w₁.registrations c = some r) : r ∈ added ∧ r.capability = c := by
  rw [h.registrations_eq, Registry.find?_append, hopen] at hfound
  exact Registry.capability_of_find? hfound

theorem Applies.firstEligibleWins {w₁ : World}
    (h : Applies settings channel clients providers w added w₁) :
    FirstEligibleWins settings channel clients providers w w₁ := by
  have hadded (c : Capability) (hopen : Registry.find? w.registrations c = none)
      (hserved : ∃ p ∈ providers, p.Eligible w.installed settings c) :
      ∃ r ∈ added, r.capability = c := by
    obtain ⟨p, hmem, heligible⟩ := hserved
    obtain ⟨r, hr⟩ := Option.isSome_iff_exists.mp (h.complete hmem heligible)
    exact ⟨r, h.mem_of_find? hopen hr⟩
  refine ⟨fun c r => h.find?_of_served, ?_, ?_⟩
  · intro c hopen
    constructor
    · intro hserved
      obtain ⟨r, hfound⟩ := Option.isSome_iff_exists.mp hserved
      obtain ⟨hr, rfl⟩ := h.mem_of_find? hopen hfound
      obtain ⟨place, p, hfirst⟩ := h.sound r hr
      exact ⟨p, hfirst.mem, hfirst.eligible⟩
    · rintro ⟨p, hmem, heligible⟩
      exact h.complete hmem heligible
  · obtain ⟨api, hmade, hapart, hused⟩ := h.shares
    refine ⟨api, ?_, ?_, ?_⟩
    · intro c r hopen hfound
      obtain ⟨hr, rfl⟩ := h.mem_of_find? hopen hfound
      obtain ⟨place, p, hfirst⟩ := h.sound r hr
      obtain ⟨⟨found, options, served, hoffered, hmodel, hr⟩, hclient⟩ := hmade r hr place p hfirst
      refine ⟨place, p, found, options, served, hfirst, hoffered, hmodel, hr, ?_, hclient⟩
      rintro m rfl
      exact Implementation.models_iff.mp hmodel
    · intro c c' place place' p p' hopen hopen' hfirst hfirst' hnone hnone' hsame
      obtain ⟨r, hr, rfl⟩ := hadded c hopen ⟨p, hfirst.mem, hfirst.eligible⟩
      obtain ⟨r', hr', rfl⟩ := hadded c' hopen' ⟨p', hfirst'.mem, hfirst'.eligible⟩
      rcases Nat.lt_trichotomy place place' with hlt | heq | hgt
      · have hless := hapart r hr r' hr' place place' p p' hfirst hfirst' hnone hnone' hlt
        exact absurd hsame (Nat.ne_of_lt hless)
      · exact heq
      · have hless := hapart r' hr' r hr place' place p' p hfirst' hfirst hnone' hnone hgt
        exact absurd hsame.symm (Nat.ne_of_lt hless)
    · intro built hold hnew
      obtain ⟨r, hr, place, p, hfirst, hnone, hsame⟩ := hused built hold hnew
      exact ⟨r.capability, place, p, h.made_open r hr, hfirst, hnone, hsame⟩

/-- Whatever the settings, the entries, the clients handed in and what was
registered before: if an assembly returns, then every capability that was open
went to the first entry eligible for it, and nothing else changed. -/
theorem assemble_first_eligible_wins {given : Option Settings} {list : Option (List Provider)}
    (h : (assemble given list channel clients).perform w = (.ok added, w')) :
    FirstEligibleWins (settingsIn w given) channel clients (entries list) w w' := by
  obtain ⟨w₁, warnings, rfl, hrun⟩ := assemble_returns h
  obtain ⟨hkept, hserved, hregistered⟩ := hrun.firstEligibleWins
  cases given <;> exact ⟨hkept, hserved, hregistered⟩

/-- Settings that leave chat to any provider, and embedding to one of them. -/
private def dividedSettings : Settings where
  connection := { projectId := .text "project", iamToken := .text "token" }
  embedding := { selector := some "second" }

/-- A class that is no model class, and takes no channel when it is called. -/
private def decoder : ForeignClass where
  connect _ _ := .error (.unexpectedArgument "JSONDecoder.__init__" Implementation.channelArgument)
  asModel := {
    defaultOptions := fun _ => throw (.noTypeMember "JSONDecoder" Implementation.optionsMember)
    instantiate := fun _ _ => .ok (.other "JSONDecoder") }

/-- One class is installed beside the package. -/
private def withDecoder : Installation where
  lookUp moduleName member :=
    if moduleName = "json" ∧ member = "JSONDecoder" then .found (.foreign decoder)
    else .noModule moduleName

/-- An entry whose client class is not there, and two that offer the same, of
which one names a client class outside the package. -/
private def rivals : List Provider :=
  [{ Provider.watsonx with identifier := "absent", clientPath := "absent.module:Client" },
   { Provider.watsonx with identifier := "first" },
   { Provider.watsonx with identifier := "second", clientPath := "json:JSONDecoder" }]

private def ownClient : World where
  clients := [⟨.supplied "own" .returns fun _ _ => .null, 0, []⟩]
  installed := withDecoder

/-- Two rivals divide the capabilities: the first one builds a client, and the
second one has one that is handed in and asks nothing of its client class. -/
theorem assemble_first_eligible_wins_divided :
    ∃ added w',
      (assemble (some dividedSettings) (some rivals) none [("second", 0)]).perform ownClient =
        (.ok added, w') ∧
      added.map (fun r => (r.capability, r.provider, r.client.api?)) =
        [(.chat, "first", some 1), (.embedding, "second", some 0)] ∧
      FirstEligibleWins dividedSettings none [("second", 0)] rivals ownClient w' := by
  have hmade : ((applyAll dividedSettings none [("second", 0)] rivals).perform
      ownClient).1.toOption.map (List.map fun r => (r.capability, r.provider, r.client.api?)) =
      some [(.chat, "first", some 1), (.embedding, "second", some 0)] := by
    decide +kernel
  rcases hrun : (applyAll dividedSettings none [("second", 0)] rivals).perform ownClient
    with ⟨cause | added, w₁⟩
  · rw [hrun] at hmade
    cases hmade
  · rw [hrun] at hmade
    have hreturns : ∃ warnings,
        (assemble (some dividedSettings) (some rivals) none [("second", 0)]).perform ownClient =
          (.ok added, w₁.noted warnings) :=
      Applies.assemble_eq (applies hrun)
    obtain ⟨warnings, hreturns⟩ := hreturns
    exact ⟨added, _, hreturns, Option.some.inj hmade, assemble_first_eligible_wins hreturns⟩

end ModelWiring.Assembly
