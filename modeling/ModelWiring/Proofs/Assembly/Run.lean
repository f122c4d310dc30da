import ModelWiring.Proofs.Assembly.Entry

/-!
The run over a list of entries as a chain of runs over one entry each, and the
assembly around it, which reads the settings first and reports unknown
selectors at the end. A run that fails is a chain up to the entry that fails.
-/

namespace ModelWiring

namespace Assembly

/-- A run over entries in which every entry returns, with the registrations
made. -/
inductive Applies (settings : Settings) (channel : Option Nat) (clients : Keyed ClientId) :
    List Provider → World → List Registration → World → Prop where
  | done (w : World) : Applies settings channel clients [] w [] w
  | next {p : Provider} {rest : List Provider} {w w₁ w' : World}
      {first more : List Registration}
      (hentry : (p.apply settings channel (Keyed.get? p.identifier clients)).perform w =
        (.ok first, w₁))
      (hrest : Applies settings channel clients rest w₁ more w') :
      Applies settings channel clients (p :: rest) w (first ++ more) w'

variable {settings : Settings} {channel : Option Nat} {clients : Keyed ClientId}
  {providers : List Provider} {w w' : World} {added : List Registration}

theorem Applies.perform_eq (h : Applies settings channel clients providers w added w') :
    (applyAll settings channel clients providers).perform w = (.ok added, w') := by
  induction h with
  | done w => rfl
  | next hentry _ ih =>
      rw [applyAll, Action.perform_bind_of_ok _ hentry]
      simp [ih, Except.map]

theorem applies (h : (applyAll settings channel clients providers).perform w = (.ok added, w')) :
    Applies settings channel clients providers w added w' := by
  induction providers generalizing w added with
  | nil =>
      cases h
      exact .done _
  | cons p rest ih =>
      rw [applyAll] at h
      obtain ⟨first, w₁, hentry, hthen⟩ := Action.bind_returns h
      obtain ⟨more, w₂, hmore, hlast⟩ := Action.bind_returns hthen
      cases hlast
      exact .next hentry (ih hmore)

/-- A run over entries that fails gets through some of them and fails in the
next one. -/
theorem applyAll_fails {cause : Fault}
    (h : (applyAll settings channel clients providers).perform w = (.error cause, w')) :
    ∃ before p after added w₁, providers = before ++ p :: after ∧
      Applies settings channel clients before w added w₁ ∧
      (p.apply settings channel (Keyed.get? p.identifier clients)).perform w₁ =
        (.error cause, w') := by
  induction providers generalizing w with
  | nil => cases h
  | cons p rest ih =>
      rw [applyAll] at h
      rcases Action.bind_fails h with hfails | ⟨first, w₁, hentry, hthen⟩
      · exact ⟨[], p, rest, [], w, rfl, .done w, hfails⟩
      · rcases Action.bind_fails hthen with hmore | ⟨more, w₂, hmore, hlast⟩
        · obtain ⟨before, q, after, added, w₂, rfl, hbefore, hlast⟩ := ih hmore
          exact ⟨p :: before, q, after, first ++ added, w₂, rfl, .next hentry hbefore, hlast⟩
        · cases hlast

theorem Applies.registrations_eq (h : Applies settings channel clients providers w added w') :
    w'.registrations = w.registrations ++ added := by
  induction h with
  | done => simp
  | next hentry _ ih =>
      rw [ih, (Provider.entryRun hentry).registrations, List.append_assoc]

theorem Applies.installed_eq (h : Applies settings channel clients providers w added w') :
    w'.installed = w.installed := by
  induction h with
  | done => rfl
  | next hentry _ ih => exact ih.trans (Provider.entryRun hentry).installed

theorem Applies.clients_prefix (h : Applies settings channel clients providers w added w') :
    w.clients <+: w'.clients := by
  induction h with
  | done => exact List.prefix_refl _
  | next hentry _ ih => exact (Provider.entryRun hentry).clients.trans ih

theorem Applies.find?_of_served (h : Applies settings channel clients providers w added w')
    {capability : Capability} {r : Registration}
    (hserved : Registry.find? w.registrations capability = some r) :
    Registry.find? w'.registrations capability = some r := by
  rw [h.registrations_eq, Registry.find?_append, hserved]
  rfl

theorem Applies.complete (h : Applies settings channel clients providers w added w')
    {capability : Capability} {p : Provider} (hmem : p ∈ providers)
    (heligible : p.Eligible w.installed settings capability) :
    (Registry.find? w'.registrations capability).isSome = true := by
  induction h with
  | done => cases hmem
  | next hentry hrest ih =>
      have hrun := Provider.entryRun hentry
      rcases List.mem_cons.mp hmem with rfl | hmem
      · obtain ⟨r, hr⟩ := Option.isSome_iff_exists.mp (hrun.complete capability heligible)
        rw [hrest.find?_of_served hr]
        rfl
      · rw [← hrun.installed] at heligible
        exact ih hmem heligible

/-- The settings that an assembly works with: the given ones, else those of the
environment. -/
def settingsIn (w : World) (given : Option Settings) : Settings :=
  given.getD (w.environment.settings w.vault).1

/-- The entries that an assembly goes through: the given ones, else the
standard ones. -/
def entries (given : Option (List Provider)) : List Provider :=
  given.getD (Provider.standard.map (·.2))

/-- The world after the settings were read: looking into the environment calls
the vault and reports. -/
def consulted (w : World) : Option Settings → World
  | some _ => w
  | none => { w with
      vaultCalls := w.vaultCalls ++ (w.environment.settings w.vault).2.1
      notices := w.notices ++ (w.environment.settings w.vault).2.2 }

@[simp]
theorem registrations_consulted (given : Option Settings) :
    (consulted w given).registrations = w.registrations := by
  cases given <;> rfl

@[simp]
theorem clients_consulted (given : Option Settings) :
    (consulted w given).clients = w.clients := by
  cases given <;> rfl

@[simp]
theorem installed_consulted (given : Option Settings) :
    (consulted w given).installed = w.installed := by
  cases given <;> rfl

/-- The report about a selector that names no provider, if there is one. -/
def unknownSelectorNotices (settings : Settings) (known : List String)
    (registrations : List Registration) (capability : Capability) : List Notice :=
  match (settings.capability capability).selector with
  | none => []
  | some selector =>
      if selector ≠ "" ∧ selector ∉ known ∧
          !(Registry.find? registrations capability).isSome then
        [.unknownSelector capability selector known]
      else []

theorem perform_reportUnknown (settings : Settings) (known : List String)
    (capability : Capability) (w : World) :
    (reportUnknown settings known capability).perform w =
      (.ok (), w.noted (unknownSelectorNotices settings known w.registrations capability)) := by
  unfold reportUnknown unknownSelectorNotices
  cases (settings.capability capability).selector with
  | none => simp
  | some selector =>
      simp only [Action.perform_bind, Registry.perform_isRegistered]
      split <;> simp

/-- An assembly is a run over its entries, between the reading of the settings
and the reports on their selectors. -/
theorem perform_assemble (given : Option Settings) (list : Option (List Provider))
    (channel : Option Nat) (clients : Keyed ClientId) (w : World) :
    (assemble given list channel clients).perform w =
      match (applyAll (settingsIn w given) channel clients (entries list)).perform
        (consulted w given) with
      | (.ok added, w₁) => (.ok added, w₁.noted (Capability.all.flatMap
          (unknownSelectorNotices (settingsIn w given) (knownIdentifiers (entries list))
            w₁.registrations)))
      | (.error cause, w₁) => (.error cause, w₁) := by
  have hrun (s : Settings) (w₀ : World) : (do
      let registered ← applyAll s channel clients (entries list)
      for capability in Capability.all do
        reportUnknown s (knownIdentifiers (entries list)) capability
      return registered : Action (List Registration)).perform w₀ =
      match (applyAll s channel clients (entries list)).perform w₀ with
      | (.ok added, w₁) => (.ok added, w₁.noted (Capability.all.flatMap
          (unknownSelectorNotices s (knownIdentifiers (entries list)) w₁.registrations)))
      | (.error cause, w₁) => (.error cause, w₁) := by
    rw [Action.perform_bind]
    rcases (applyAll s channel clients (entries list)).perform w₀ with ⟨cause | added, w₁⟩
    · rfl
    · simp [Capability.all, perform_reportUnknown, Action.perform_bind, Except.map]
  cases given with
  | some s => exact hrun s w
  | none =>
      have hread : environmentSettings.perform w = (.ok (settingsIn w none), consulted w none) :=
        rfl
      unfold assemble
      rw [Action.perform_bind_of_ok _ hread]
      exact hrun _ _

theorem assemble_returns {given : Option Settings} {list : Option (List Provider)}
    (h : (assemble given list channel clients).perform w = (.ok added, w')) :
    ∃ w₁ warnings, w' = w₁.noted warnings ∧
      Applies (settingsIn w given) channel clients (entries list) (consulted w given) added w₁ := by
  rw [perform_assemble] at h
  rcases hrun : (applyAll (settingsIn w given) channel clients (entries list)).perform
    (consulted w given) with ⟨cause | made, w₁⟩
  · rw [hrun] at h
    cases h
  · rw [hrun] at h
    cases h
    exact ⟨w₁, _, rfl, applies hrun⟩

theorem Applies.assemble_eq {given : Option Settings} {list : Option (List Provider)} {w₁ : World}
    (h : Applies (settingsIn w given) channel clients (entries list) (consulted w given) added
      w₁) :
    ∃ warnings, (assemble given list channel clients).perform w =
      (.ok added, w₁.noted warnings) := by
  rw [perform_assemble, h.perform_eq]
  exact ⟨_, rfl⟩

theorem assemble_fails_iff {given : Option Settings} {list : Option (List Provider)}
    {cause : Fault} :
    (assemble given list channel clients).perform w = (.error cause, w') ↔
      (applyAll (settingsIn w given) channel clients (entries list)).perform (consulted w given) =
        (.error cause, w') := by
  rw [perform_assemble]
  rcases (applyAll (settingsIn w given) channel clients (entries list)).perform
    (consulted w given) with ⟨cause' | made, w₁⟩ <;> simp

end Assembly

end ModelWiring
