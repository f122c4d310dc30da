import ModelWiring.Proofs.Action

/-!
Two runs side by side. Two actions agree when, from worlds that stand in a
relation, both return and their values are related, or both fail with one and
the same fault; the worlds that they leave stand in the relation again. There
is one rule for each way to build an action.
-/

namespace ModelWiring

/-- Both results are values in a relation, or both are the same fault. -/
inductive SameResult {α β : Type} (R : α → β → Prop) : Except Fault α → Except Fault β → Prop where
  | returned {a : α} {b : β} (h : R a b) : SameResult R (.ok a) (.ok b)
  | failed (cause : Fault) : SameResult R (.error cause) (.error cause)

namespace SameResult

variable {α β : Type} {R S : α → β → Prop}

theorem refl {R : α → α → Prop} (h : ∀ a, R a a) (r : Except Fault α) : SameResult R r r := by
  cases r with
  | ok a => exact .returned (h a)
  | error cause => exact .failed cause

theorem mono {r : Except Fault α} {r' : Except Fault β} (h : SameResult R r r')
    (himp : ∀ a b, R a b → S a b) : SameResult S r r' := by
  cases h with
  | returned hvalue => exact .returned (himp _ _ hvalue)
  | failed cause => exact .failed cause

theorem map {γ δ : Type} {T : γ → δ → Prop} {r : Except Fault α} {r' : Except Fault β}
    (h : SameResult R r r') {f : α → γ} {f' : β → δ} (himp : ∀ a b, R a b → T (f a) (f' b)) :
    SameResult T (r.map f) (r'.map f') := by
  cases h with
  | returned hvalue => exact .returned (himp _ _ hvalue)
  | failed cause => exact .failed cause

end SameResult

namespace Action

variable {α β γ δ : Type} {W : World → World → Prop} {R : α → β → Prop} {S : γ → δ → Prop}

/-- From related worlds two actions come to the same result, up to a relation of
the values, and leave related worlds. -/
def Agree (W : World → World → Prop) (R : α → β → Prop) (act : Action α) (act' : Action β) :
    Prop :=
  ∀ w w', W w w' →
    SameResult R (act.perform w).1 (act'.perform w').1 ∧ W (act.perform w).2 (act'.perform w').2

theorem agree_pure {a : α} {b : β} (h : R a b) : Agree W R (pure a) (pure b) := by
  intro w w' hw
  exact ⟨.returned h, hw⟩

theorem agree_lift {r : Except Fault α} {r' : Except Fault β} (h : SameResult R r r') :
    Agree W R (liftM r) (liftM r') := by
  intro w w' hw
  rw [perform_lift, perform_lift]
  exact ⟨h, hw⟩

theorem agree_bind {act : Action α} {act' : Action β} {next : α → Action γ}
    {next' : β → Action δ} (hact : Agree W R act act')
    (hnext : ∀ a b, R a b → Agree W S (next a) (next' b)) :
    Agree W S (act >>= next) (act' >>= next') := by
  intro w w' hw
  obtain ⟨hresult, hworlds⟩ := hact w w' hw
  rw [perform_bind, perform_bind]
  rcases hrun : act.perform w with ⟨r, w₁⟩
  rcases hrun' : act'.perform w' with ⟨r', w₁'⟩
  rw [hrun, hrun'] at hresult hworlds
  cases hresult with
  | failed cause => exact ⟨.failed cause, hworlds⟩
  | returned hvalue => exact hnext _ _ hvalue w₁ w₁' hworlds

end Action

end ModelWiring
