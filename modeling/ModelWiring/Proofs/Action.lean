import ModelWiring.World

/-!
What actions do to a world, one lemma for each way to build one. An action
that binds another is taken apart into the two runs that follow each other;
what the first one changed stays also when the second one fails.
-/

namespace ModelWiring

/-- The world with some more reports. -/
def World.noted (w : World) (more : List Notice) : World :=
  { w with notices := w.notices ++ more }

namespace World

variable (w : World) (more later : List Notice)

@[simp]
theorem registrations_noted : (w.noted more).registrations = w.registrations := rfl

@[simp]
theorem clients_noted : (w.noted more).clients = w.clients := rfl

@[simp]
theorem notices_noted : (w.noted more).notices = w.notices ++ more := rfl

@[simp]
theorem noted_nil : w.noted [] = w := by
  simp [noted]

@[simp]
theorem noted_noted : (w.noted more).noted later = w.noted (more ++ later) := by
  simp [noted]

end World

section

variable {ε α β : Type} (next : α → Except ε β)

theorem ok_bind (a : α) : (.ok a >>= next : Except ε β) = next a := rfl

/-- A computation that returns does so in its first part. -/
theorem bind_ok {next} {r : Except ε α} {b : β} (h : r >>= next = .ok b) :
    ∃ a, r = .ok a ∧ next a = .ok b := by
  cases r with
  | error cause => cases h
  | ok a => exact ⟨a, rfl, h⟩

theorem ok_mapError {ε' : Type} (f : ε → ε') (a : α) :
    (.ok a : Except ε α).mapError f = .ok a := rfl

theorem mapError_ok {ε' : Type} {f : ε → ε'} {r : Except ε α} {a : α}
    (h : r.mapError f = .ok a) : r = .ok a := by
  cases r with
  | error cause => cases h
  | ok b =>
      cases h
      rfl

theorem ok_of_toOption {r : Except ε α} {a : α} (h : r.toOption = some a) : r = .ok a := by
  cases r with
  | error cause => cases h
  | ok b => exact congrArg _ (Option.some.inj h)

theorem map_ok {f : α → β} {r : Except ε α} {b : β} (h : r.map f = .ok b) :
    ∃ a, r = .ok a ∧ f a = b := by
  cases r with
  | error cause => cases h
  | ok a => exact ⟨a, rfl, Except.ok.inj h⟩

theorem map_error {f : α → β} {r : Except ε α} {cause : ε} (h : r.map f = .error cause) :
    r = .error cause := by
  cases r with
  | error other => exact congrArg _ (Except.error.inj h)
  | ok a => cases h

/-- A check that is made under a condition leaves what comes after it. -/
theorem check_ok {c : Prop} [Decidable c] {check : Except ε Unit} {rest : Except ε β} {b : β}
    (h : (if c then check >>= fun _ => rest else rest) = .ok b) :
    (c → check = .ok ()) ∧ rest = .ok b := by
  split at h
  · obtain ⟨⟨⟩, hcheck, hrest⟩ := bind_ok h
    exact ⟨fun _ => hcheck, hrest⟩
  · next hc => exact ⟨fun hc' => absurd hc' hc, h⟩

end

/-- What a computation that reports comes to, and what it reports. -/
def Reporting.outcome {α : Type} (r : Reporting α) : Except Fault α × List Notice :=
  r.run.run []

namespace Reporting

variable {α β : Type} {r : Reporting α} {before later : List Notice}

theorem run_lift (r : Except Fault α) (before : List Notice) :
    (liftM r : Reporting α).run.run before = (r, before) := by
  cases r <;> rfl

theorem run_bind_of_ok {a : α} (h : r.run.run before = (.ok a, later)) (next : α → Reporting β) :
    (r >>= next).run.run before = (next a).run.run later := by
  simp only [ExceptT.run_bind, StateT.run_bind, h]
  rfl

theorem run_bind_of_error {cause : Fault} (h : r.run.run before = (.error cause, later))
    (next : α → Reporting β) : (r >>= next).run.run before = (.error cause, later) := by
  simp only [ExceptT.run_bind, StateT.run_bind, h]
  rfl

/-- A computation that returns does so in its first part. -/
theorem run_bind_returns {next : α → Reporting β} {b : β} {final : List Notice}
    (h : (r >>= next).run.run before = (.ok b, final)) :
    ∃ a later, r.run.run before = (.ok a, later) ∧ (next a).run.run later = (.ok b, final) := by
  rcases hrun : r.run.run before with ⟨cause | a, later⟩
  · rw [run_bind_of_error hrun] at h
    cases h
  · rw [run_bind_of_ok hrun] at h
    exact ⟨a, later, rfl, h⟩

/-- What reports nothing may be taken out of a computation that returns. -/
theorem run_lift_bind_returns {r : Except Fault α} {next : α → Reporting β} {b : β}
    {final : List Notice} (h : (liftM r >>= next).run.run before = (.ok b, final)) :
    ∃ a, r = .ok a ∧ (next a).run.run before = (.ok b, final) := by
  obtain ⟨a, later, hlift, hnext⟩ := run_bind_returns h
  rw [run_lift] at hlift
  cases hlift
  exact ⟨a, rfl, hnext⟩

end Reporting

namespace Action

variable {α β : Type}

/-- The outcome of an action on a world, and the world it leaves. -/
def perform (act : Action α) (w : World) : Except Fault α × World :=
  act.run.run w

@[simp]
theorem perform_pure (a : α) (w : World) : (pure a : Action α).perform w = (.ok a, w) := rfl

@[simp]
theorem perform_throw (cause : Fault) (w : World) :
    (throw cause : Action α).perform w = (.error cause, w) := rfl

@[simp]
theorem perform_get (w : World) : (get : Action World).perform w = (.ok w, w) := rfl

@[simp]
theorem perform_set (w w' : World) : (set w' : Action PUnit).perform w = (.ok ⟨⟩, w') := rfl

@[simp]
theorem perform_modify (f : World → World) (w : World) :
    (modify f : Action PUnit).perform w = (.ok ⟨⟩, f w) := rfl

@[simp]
theorem perform_lift (r : Except Fault α) (w : World) :
    (liftM r : Action α).perform w = (r, w) := by
  cases r <;> rfl

@[simp]
theorem perform_note (n : Notice) (w : World) : (note n).perform w = (.ok (), w.noted [n]) := rfl

/-- The second action starts where the first one ends, unless that fails. -/
theorem perform_bind (act : Action α) (next : α → Action β) (w : World) :
    (act >>= next).perform w = match act.perform w with
      | (.ok a, w₁) => (next a).perform w₁
      | (.error cause, w₁) => (.error cause, w₁) := by
  simp only [perform, ExceptT.run_bind, StateT.run_bind]
  rcases act.run.run w with ⟨_ | a, w₁⟩ <;> rfl

@[simp]
theorem perform_map (f : α → β) (act : Action α) (w : World) :
    (f <$> act).perform w = ((act.perform w).1.map f, (act.perform w).2) := by
  simp only [perform, ExceptT.run_map, StateT.run_map]
  rcases act.run.run w with ⟨_ | a, w₁⟩ <;> rfl

/-- A handler takes over in the world that the failed run leaves. -/
theorem perform_tryCatch (act : Action α) (handler : Fault → Action α) (w : World) :
    (tryCatch act handler).perform w = match act.perform w with
      | (.ok a, w₁) => (.ok a, w₁)
      | (.error cause, w₁) => (handler cause).perform w₁ := by
  change (ExceptT.tryCatch act handler).run.run w = _
  have hrun : act.run.run w = StateT.run act w := rfl
  simp only [perform, ExceptT.tryCatch, ExceptT.run_mk, StateT.run_bind, hrun]
  rcases StateT.run act w with ⟨_ | a, w₁⟩ <;> rfl

theorem perform_bind_of_ok {act : Action α} {w w₁ : World} {a : α} (next : α → Action β)
    (h : act.perform w = (.ok a, w₁)) :
    (act >>= next).perform w = (next a).perform w₁ := by
  rw [perform_bind, h]

theorem perform_bind_of_error {act : Action α} {w w₁ : World} {cause : Fault}
    (next : α → Action β) (h : act.perform w = (.error cause, w₁)) :
    (act >>= next).perform w = (.error cause, w₁) := by
  rw [perform_bind, h]

/-- What follows an action may be replaced by what does the same. -/
theorem perform_bind_congr (act : Action α) {next next' : α → Action β}
    (h : ∀ a w, (next a).perform w = (next' a).perform w) (w : World) :
    (act >>= next).perform w = (act >>= next').perform w := by
  rw [perform_bind, perform_bind]
  rcases act.perform w with ⟨_ | a, w₁⟩
  · rfl
  · exact h a w₁

theorem bind_returns {act : Action α} {next : α → Action β} {w w' : World} {b : β}
    (h : (act >>= next).perform w = (.ok b, w')) :
    ∃ a w₁, act.perform w = (.ok a, w₁) ∧ (next a).perform w₁ = (.ok b, w') := by
  rw [perform_bind] at h
  rcases hact : act.perform w with ⟨_ | a, w₁⟩
  · simp [hact] at h
  · rw [hact] at h
    exact ⟨a, w₁, rfl, h⟩

/-- A run that fails does so in its first part or, after that, in its second. -/
theorem bind_fails {act : Action α} {next : α → Action β} {w w' : World} {cause : Fault}
    (h : (act >>= next).perform w = (.error cause, w')) :
    act.perform w = (.error cause, w') ∨
      ∃ a w₁, act.perform w = (.ok a, w₁) ∧ (next a).perform w₁ = (.error cause, w') := by
  rw [perform_bind] at h
  rcases hact : act.perform w with ⟨cause' | a, w₁⟩
  · rw [hact] at h
    cases h
    exact Or.inl rfl
  · rw [hact] at h
    exact Or.inr ⟨a, w₁, rfl, h⟩

/-- What a computation reports stays reported also when it fails. -/
@[simp]
theorem perform_ofReporting (r : Reporting α) (w : World) :
    (ofReporting r).perform w = (r.outcome.1, w.noted r.outcome.2) := by
  rcases h : r.run.run [] with ⟨_ | a, notices⟩ <;>
    simp [ofReporting, perform_bind, Reporting.outcome, h, World.noted]

@[simp]
theorem perform_openChannel (w : World) :
    openChannel.perform w = (.ok w.channels.length, { w with channels := w.channels ++ [{}] }) :=
  rfl

@[simp]
theorem perform_addClient (client : Client) (w : World) :
    (addClient client).perform w =
      (.ok w.clients.length, { w with clients := w.clients ++ [⟨client, 0, []⟩] }) := rfl

end Action

end ModelWiring
