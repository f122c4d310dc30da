import ModelWiring.Proofs.Assembly.Run

/-!
What an assembly that fails leaves behind. Nothing is taken back: the offers
before the one that failed were registered as they would have been without it.
So the registry grows by what an assembly over these offers alone gives back,
and by the registration of the offer that failed where it was made already and
only could not be reported.
-/

namespace ModelWiring

namespace Provider

variable {p : Provider} {clientClass : Implementation} {settings : Settings}
  {channel : Option Nat} {api api' : Option ClientId} {offers : List (Capability × String)}
  {capability : Capability} {path : String} {w w₁ w' : World} {added : List Registration}
  {cause : Fault}

/-- A chain of steps depends on the entry by its identifier, not by what else
it offers. -/
theorem Registers.of_models
    (h : p.Registers clientClass settings channel api offers w added api' w')
    (models : List (Capability × String)) :
    { p with models }.Registers clientClass settings channel api offers w added api' w' := by
  induction h with
  | done api w => exact .done api w
  | skipped hstep _ ih => exact .skipped hstep ih
  | made hstep _ ih => exact .made hstep ih

theorem Registers.perform_fails
    (h : p.Registers clientClass settings channel api offers w added api' w₁)
    (hfails : (p.consider clientClass settings channel api' capability path).perform w₁ =
      (.error cause, w')) :
    (p.registerModels clientClass settings channel api
      (offers ++ [(capability, path)])).perform w = (.error cause, w') := by
  induction h with
  | done =>
      rw [List.nil_append, registerModels_cons]
      exact Action.perform_bind_of_error _ hfails
  | skipped hstep _ ih =>
      rw [List.cons_append, registerModels_cons, Action.perform_bind_of_ok _ hstep]
      exact ih hfails
  | made hstep _ ih =>
      rw [List.cons_append, registerModels_cons, Action.perform_bind_of_ok _ hstep]
      exact Action.perform_bind_of_error _ (ih hfails)

/-- A chain over some offers is the run over the entry that offers only these. -/
theorem Registers.apply_returns {client : Option ClientId}
    (hfind : Implementation.find w.installed p.clientPath = .found clientClass)
    (h : p.Registers clientClass settings channel client offers w added api' w') :
    ({ p with models := offers }.apply settings channel client).perform w = (.ok added, w') := by
  rw [perform_apply]
  simp only [hfind]
  exact (h.of_models offers).perform_eq

theorem Registers.apply_fails {client : Option ClientId}
    (hfind : Implementation.find w.installed p.clientPath = .found clientClass)
    (h : p.Registers clientClass settings channel client offers w added api' w₁)
    (hfails : (p.consider clientClass settings channel api' capability path).perform w₁ =
      (.error cause, w')) :
    ({ p with models := offers ++ [(capability, path)] }.apply settings channel client).perform w =
      (.error cause, w') := by
  rw [perform_apply]
  simp only [hfind]
  exact (h.of_models (offers ++ [(capability, path)])).perform_fails hfails

end Provider

namespace Assembly

variable {settings : Settings} {channel : Option Nat} {clients : Keyed ClientId}
  {before after : List Provider} {p : Provider} {w w₁ w' : World}
  {first more : List Registration} {cause : Fault}

theorem Applies.append (hfirst : Applies settings channel clients before w first w₁)
    (hrest : Applies settings channel clients after w₁ more w') :
    Applies settings channel clients (before ++ after) w (first ++ more) w' := by
  induction hfirst with
  | done => exact hrest
  | next hentry _ ih =>
      rw [List.append_assoc]
      exact .next hentry (ih hrest)

theorem Applies.perform_fails (h : Applies settings channel clients before w first w₁)
    (hfails : (p.apply settings channel (Keyed.get? p.identifier clients)).perform w₁ =
      (.error cause, w')) :
    (applyAll settings channel clients (before ++ [p])).perform w = (.error cause, w') := by
  induction h with
  | done =>
      rw [List.nil_append, applyAll]
      exact Action.perform_bind_of_error _ hfails
  | next hentry _ ih =>
      rw [List.cons_append, applyAll, Action.perform_bind_of_ok _ hentry]
      exact Action.perform_bind_of_error _ (ih hfails)

/-- A list of entries cut off right before an entry or an offer, and right
behind it. -/
inductive CutOff (list : List Provider) : List Provider → List Provider → Prop where
  | entry {before after : List Provider} {p : Provider} (hlist : list = before ++ p :: after) :
      CutOff list before (before ++ [p])
  | offer {before after : List Provider} {p : Provider} {done rest : List (Capability × String)}
      {offer : Capability × String} (hlist : list = before ++ p :: after)
      (hmodels : p.models = done ++ offer :: rest) :
      CutOff list (before ++ [{ p with models := done }])
        (before ++ [{ p with models := done ++ [offer] }])

/-- What a failure leaves of the offer that failed: nothing, or its registration
where what failed was the report on that, since the options cannot show their
model. -/
def Unreported (cause : Fault) (own : List Registration) : Prop :=
  own = [] ∨ ∃ r options, own = [r] ∧ r.options = some options ∧
    options.shownModel = .error cause

theorem unreported_of_failed_step {clientClass : Implementation} {api : Option ClientId}
    {capability : Capability} {path : String}
    (h : (p.consider clientClass settings channel api capability path).perform w =
      (.error cause, w₁)) :
    ∃ own, w₁.registrations = w.registrations ++ own ∧ Unreported cause own := by
  rcases Provider.failed_step h with hkept | ⟨made, henrols, hshown⟩
  · exact ⟨[], by rw [hkept, List.append_nil], .inl rfl⟩
  · obtain ⟨_, _, _, _, hmade⟩ := henrols.model
    refine ⟨[made.registration], henrols.registrations, .inr ⟨_, _, rfl, ?_, hshown⟩⟩
    rw [hmade]
    rfl

/-- A run over entries fails at one place of the list: cut off before it the
run returns and leaves the same registry, up to what cannot be reported; cut off
behind it the run fails too. -/
theorem applyAll_cut_off {providers : List Provider}
    (h : (applyAll settings channel clients providers).perform w = (.error cause, w')) :
    ∃ tried failing added own w₁, CutOff providers tried failing ∧
      Applies settings channel clients tried w added w₁ ∧
      (applyAll settings channel clients failing).perform w = (.error cause, w') ∧
      w'.registrations = w₁.registrations ++ own ∧ Unreported cause own := by
  obtain ⟨before, p, after, first, w₁, hlist, hbefore, hentry⟩ := applyAll_fails h
  rcases Provider.apply_fails hentry with
    rfl | ⟨found, done, capability, path, rest, more, api', w₂, hfind, hmodels, hchain, hstep⟩
  · exact ⟨before, before ++ [p], first, [], w', .entry hlist, hbefore,
      hbefore.perform_fails hentry, (List.append_nil _).symm, .inl rfl⟩
  · have hreturns : ({ p with models := done }.apply settings channel
        (Keyed.get? p.identifier clients)).perform w₁ = (.ok more, w₂) :=
      hchain.apply_returns hfind
    have hfails : ({ p with models := done ++ [(capability, path)] }.apply settings channel
        (Keyed.get? p.identifier clients)).perform w₁ = (.error cause, w') :=
      hchain.apply_fails hfind hstep
    obtain ⟨own, hown, hunreported⟩ := unreported_of_failed_step hstep
    exact ⟨_, _, _, own, w₂, .offer hlist hmodels, hbefore.append (.next hreturns (.done w₂)),
      hbefore.perform_fails hfails, hown, hunreported⟩

/-- When an assembly fails, the registrations that there were stay in front, and
behind them stand those that an assembly gives back that is cut off right before
the entry, or the offer, that failed; and behind these, where only the report on
it failed, the registration of that offer. -/
theorem assemble_failure_keeps_made {given : Option Settings} {list : Option (List Provider)}
    (h : (assemble given list channel clients).perform w = (.error cause, w')) :
    ∃ tried failing added own w₁, CutOff (entries list) tried failing ∧
      (assemble given (some tried) channel clients).perform w = (.ok added, w₁) ∧
      (assemble given (some failing) channel clients).perform w = (.error cause, w') ∧
      w₁.registrations = w.registrations ++ added ∧
      w'.registrations = w.registrations ++ added ++ own ∧ Unreported cause own := by
  obtain ⟨tried, failing, added, own, w₁, hcut, htried, hfailing, hkept, hown⟩ :=
    applyAll_cut_off (assemble_fails_iff.mp h)
  have hreturns : ∃ warnings, (assemble given (some tried) channel clients).perform w =
      (.ok added, w₁.noted warnings) := Applies.assemble_eq htried
  obtain ⟨warnings, hreturns⟩ := hreturns
  have hadded := htried.registrations_eq
  rw [registrations_consulted] at hadded
  refine ⟨tried, failing, added, own, _, hcut, hreturns, assemble_fails_iff.mpr hfailing, hadded,
    ?_, hown⟩
  rw [hkept, hadded]

private def halves : List Provider :=
  [{ Provider.watsonx with identifier := "first", models := Provider.watsonx.models.take 1 },
   { Provider.watsonx with identifier := "second", models := Provider.watsonx.models.drop 1 }]

private def suppliedWorld : World where
  clients := [⟨.supplied "own" .returns fun _ _ => .null, 0, []⟩]

/-- The first entry has its client and is served; the second one needs a client
of its own, which the settings do not describe. -/
private theorem halves_fail : ∃ cause w',
    (assemble (some {}) (some halves) none [("first", 0)]).perform suppliedWorld =
      (.error cause, w') ∧
    w'.registrations.map (fun r => (r.capability, r.provider)) = [(.chat, "first")] ∧
    ∀ r ∈ w'.registrations, (r.options.all fun options => options.shownModel.isOk) = true := by
  have hleft : ((applyAll {} none [("first", 0)] halves).perform suppliedWorld).1.isOk = false ∧
      ((applyAll {} none [("first", 0)] halves).perform suppliedWorld).2.registrations.map
        (fun r => (r.capability, r.provider)) = [(.chat, "first")] ∧
      ∀ r ∈ ((applyAll {} none [("first", 0)] halves).perform suppliedWorld).2.registrations,
        (r.options.all fun options => options.shownModel.isOk) = true := by
    decide +kernel
  rcases hrun : (applyAll {} none [("first", 0)] halves).perform suppliedWorld
    with ⟨cause | added, w'⟩
  · rw [hrun] at hleft
    exact ⟨cause, w', assemble_fails_iff.mpr hrun, hleft.2⟩
  · rw [hrun] at hleft
    cases hleft.1

/-- An assembly that fails may leave more registrations than there were. -/
theorem assemble_failure_not_undone : ∃ cause w',
    (assemble (some {}) (some halves) none [("first", 0)]).perform suppliedWorld =
      (.error cause, w') ∧
    w'.registrations ≠ suppliedWorld.registrations := by
  obtain ⟨cause, w', hfails, hregistered, _⟩ := halves_fail
  refine ⟨cause, w', hfails, fun hsame => ?_⟩
  rw [hsame] at hregistered
  cases hregistered

theorem assemble_failure_keeps_made_halves : ∃ cause w' tried failing added w₁,
    (assemble (some {}) (some halves) none [("first", 0)]).perform suppliedWorld =
      (.error cause, w') ∧
    CutOff halves tried failing ∧
    (assemble (some {}) (some tried) none [("first", 0)]).perform suppliedWorld =
      (.ok added, w₁) ∧
    (assemble (some {}) (some failing) none [("first", 0)]).perform suppliedWorld =
      (.error cause, w') ∧
    added.map (fun r => (r.capability, r.provider)) = [(.chat, "first")] ∧
    w'.registrations = added := by
  obtain ⟨cause, w', hfails, hregistered, hshown⟩ := halves_fail
  obtain ⟨tried, failing, added, own, w₁, hcut, hreturns, hfailing, _, hkept, hown⟩ :=
    assemble_failure_keeps_made hfails
  obtain rfl : own = [] := by
    rcases hown with hnone | ⟨r, options, rfl, hoptions, hunshown⟩
    · exact hnone
    · have hr := hshown r (by simp [hkept])
      simp [hoptions, hunshown, Except.isOk, Except.toBool] at hr
  have hadded : w'.registrations = added := by
    rw [hkept, List.append_nil]
    rfl
  refine ⟨cause, w', tried, failing, added, w₁, hfails, hcut, hreturns, hfailing, ?_, hadded⟩
  rw [← hadded, hregistered]

end Assembly

end ModelWiring
