import ModelWiring.Proofs.Assembly.Run

/-!
The registrations that a run makes, whether it returns or fails after some of
them. They are collected step by step, without a look at the registry; that
they are what the registry gains, and what a run that returns gives back, is
proved along the run.
-/

namespace ModelWiring

/-- How registrations that are made one by one end up: behind those that there
were, for capabilities of their own, and as the result if there is one. -/
structure Appends (w : World) (made : List Registration)
    (result : Except Fault (List Registration)) (w' : World) : Prop where
  registrations : w'.registrations = w.registrations ++ made
  distinct : (w.registrations.map Registration.capability).Nodup →
    (w'.registrations.map Registration.capability).Nodup
  returned : ∀ added, result = .ok added → added = made

namespace Appends

variable {w w₁ w' : World} {made more : List Registration}
  {result : Except Fault (List Registration)}

theorem nothing (h : w'.registrations = w.registrations) : Appends w [] (.ok []) w' := by
  refine ⟨by simp [h], by simp [h], ?_⟩
  intro added hadded
  cases hadded
  rfl

theorem failure {cause : Fault} (h : w'.registrations = w.registrations) :
    Appends w [] (.error cause) w' := by
  refine ⟨by simp [h], by simp [h], ?_⟩
  intro added hadded
  cases hadded

/-- A failure later on leaves what was made. -/
theorem fails (h : Appends w made result w') (cause : Fault) :
    Appends w made (.error cause) w' := by
  refine ⟨h.registrations, h.distinct, ?_⟩
  intro added hadded
  cases hadded

theorem one {r : Registration} (hopen : Registry.find? w.registrations r.capability = none)
    (h : w'.registrations = w.registrations ++ [r]) : Appends w [r] (.ok [r]) w' := by
  refine ⟨h, ?_, ?_⟩
  · intro hdistinct
    rw [h, List.map_append, List.nodup_append]
    refine ⟨hdistinct, by simp, ?_⟩
    intro c hc c' hc'
    obtain ⟨standing, hstanding, rfl⟩ := List.mem_map.mp hc
    rw [List.map_singleton, List.mem_singleton] at hc'
    subst hc'
    exact Registry.find?_eq_none_iff.mp hopen standing hstanding
  · intro added hadded
    cases hadded
    rfl

/-- What follows on registrations that were made adds its own to them. -/
theorem append (hfirst : Appends w made (.ok made) w₁) (hrest : Appends w₁ more result w') :
    Appends w (made ++ more) (result.map (made ++ ·)) w' := by
  refine ⟨?_, fun hdistinct => hrest.distinct (hfirst.distinct hdistinct), ?_⟩
  · rw [hrest.registrations, hfirst.registrations, List.append_assoc]
  · intro added hadded
    cases result with
    | error cause => cases hadded
    | ok given =>
        cases hadded
        rw [hrest.returned given rfl]

end Appends

namespace Provider

variable (p : Provider) (clientClass : Implementation) (settings : Settings)
  (channel : Option Nat)

/-- The registration that one step makes, if any. It stands also where it cannot
be reported. -/
def madeAt (api : Option ClientId) (capability : Capability) (path : String) (w : World) :
    List Registration :=
  match (p.settle clientClass settings channel api capability path).perform w with
  | (.ok (some made), _) => [made.registration]
  | (.ok none, _) | (.error _, _) => []

/-- The registrations that going through offers makes: those of its steps, up
to one that fails. -/
def madeOf : Option ClientId → List (Capability × String) → World → List Registration
  | _, [], _ => []
  | api, (capability, path) :: rest, w =>
      p.madeAt clientClass settings channel api capability path w ++
        match (p.consider clientClass settings channel api capability path).perform w with
        | (.ok none, w₁) => madeOf api rest w₁
        | (.ok (some made), w₁) => madeOf (some made.client) rest w₁
        | (.error _, _) => []

/-- The registrations that a run over an entry makes. -/
def made (client : Option ClientId) (w : World) : List Registration :=
  match Implementation.find w.installed p.clientPath with
  | .found found => p.madeOf found settings channel client p.models w
  | .missing _ | .broken _ => []

theorem appends_consider (api : Option ClientId) (capability : Capability) (path : String)
    (w : World) :
    Appends w (p.madeAt clientClass settings channel api capability path w)
      (((p.consider clientClass settings channel api capability path).perform w).1.map
        fun made => (made.map Made.registration).toList)
      ((p.consider clientClass settings channel api capability path).perform w).2 := by
  rw [madeAt, consider, Action.perform_bind]
  rcases hrun : (p.settle clientClass settings channel api capability path).perform w
    with ⟨cause | outcome, w₁⟩
  · exact .failure (settles hrun).registrations_of_error
  · cases outcome with
    | none => exact .nothing (settles hrun).registrations_of_none
    | some made =>
        have henrols := (settles hrun).enrols
        have hone : Appends w [made.registration] (.ok [made.registration]) w₁ := by
          apply Appends.one _ henrols.registrations
          rw [henrols.capability_eq]
          exact henrols.wasOpen
        simp only [announce, Action.perform_bind, Action.perform_lift]
        cases made.options.shownModel with
        | error cause => exact hone.fails cause
        | ok model => exact ⟨hone.registrations, hone.distinct, hone.returned⟩

theorem appends_registerModels (api : Option ClientId) (offers : List (Capability × String))
    (w : World) :
    Appends w (p.madeOf clientClass settings channel api offers w)
      ((p.registerModels clientClass settings channel api offers).perform w).1
      ((p.registerModels clientClass settings channel api offers).perform w).2 := by
  induction offers generalizing api w with
  | nil => exact .nothing rfl
  | cons offer rest ih =>
      obtain ⟨capability, path⟩ := offer
      have hstep := p.appends_consider clientClass settings channel api capability path w
      rw [registerModels_cons, Action.perform_bind, madeOf]
      rcases hrun : (p.consider clientClass settings channel api capability path).perform w
        with ⟨cause | outcome, w₁⟩
      all_goals rw [hrun] at hstep
      · rw [List.append_nil]
        exact hstep.fails cause
      · have hmade := hstep.returned _ rfl
        rw [← hmade] at hstep ⊢
        cases outcome with
        | none =>
            obtain ⟨⟨n, _, rfl⟩, _⟩ := skipped_step hrun
            obtain ⟨hregistrations, hdistinct, hreturned⟩ := ih api (w.noted [n])
            exact ⟨hregistrations, hdistinct, hreturned⟩
        | some made =>
            have hthen := hstep.append (ih (some made.client) w₁)
            simpa using hthen

theorem appends_apply (client : Option ClientId) (w : World) :
    Appends w (p.made settings channel client w) ((p.apply settings channel client).perform w).1
      ((p.apply settings channel client).perform w).2 := by
  rw [perform_apply, made]
  cases Implementation.find w.installed p.clientPath with
  | broken cause => exact .failure rfl
  | missing reason => exact .nothing rfl
  | found found => exact p.appends_registerModels found settings channel client p.models w

end Provider

namespace Assembly

/-- The registrations that a run over entries makes: those of each entry, up to
one in which it fails. -/
def made (settings : Settings) (channel : Option Nat) (clients : Keyed ClientId) :
    List Provider → World → List Registration
  | [], _ => []
  | p :: rest, w =>
      p.made settings channel (Keyed.get? p.identifier clients) w ++
        match (p.apply settings channel (Keyed.get? p.identifier clients)).perform w with
        | (.ok _, w₁) => made settings channel clients rest w₁
        | (.error _, _) => []

theorem appends_applyAll (settings : Settings) (channel : Option Nat) (clients : Keyed ClientId)
    (providers : List Provider) (w : World) :
    Appends w (made settings channel clients providers w)
      ((applyAll settings channel clients providers).perform w).1
      ((applyAll settings channel clients providers).perform w).2 := by
  induction providers generalizing w with
  | nil => exact .nothing rfl
  | cons p rest ih =>
      have hentry := p.appends_apply settings channel (Keyed.get? p.identifier clients) w
      rw [applyAll, Action.perform_bind, made]
      rcases hrun : (p.apply settings channel (Keyed.get? p.identifier clients)).perform w
        with ⟨cause | first, w₁⟩
      · rw [hrun] at hentry
        simp only [List.append_nil]
        exact ⟨hentry.registrations, hentry.distinct, fun _ hadded => by cases hadded⟩
      · rw [hrun] at hentry
        have hfirst := hentry.returned first rfl
        subst hfirst
        simpa [Action.perform_bind] using hentry.append (ih w₁)

/-- An assembly gains what its run makes, whether it returns or fails. -/
theorem appends_assemble (given : Option Settings) (list : Option (List Provider))
    (channel : Option Nat) (clients : Keyed ClientId) (w : World) :
    Appends w (made (settingsIn w given) channel clients (entries list) (consulted w given))
      ((assemble given list channel clients).perform w).1
      ((assemble given list channel clients).perform w).2 := by
  have hrun := appends_applyAll (settingsIn w given) channel clients (entries list)
    (consulted w given)
  rw [perform_assemble]
  obtain ⟨hregistrations, hdistinct, hreturned⟩ := hrun
  rw [registrations_consulted] at hregistrations hdistinct
  rcases hresult : (applyAll (settingsIn w given) channel clients (entries list)).perform
    (consulted w given) with ⟨cause | added, w₁⟩
  all_goals
    rw [hresult] at hregistrations hdistinct hreturned
    exact ⟨hregistrations, hdistinct, hreturned⟩

end Assembly

end ModelWiring
