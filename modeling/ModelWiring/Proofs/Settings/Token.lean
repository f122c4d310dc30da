import ModelWiring.Assembly
import ModelWiring.Proofs.Action

/-!
How the token of a connection is read from the environment. A variable for it
goes before a vault, which is visited only where there is no such text and
another variable says where the vault is. Whatever fails there, reading the
settings does not.
-/

namespace ModelWiring

namespace Vault

def failsAt (vault : Vault) (call : VaultCall) : Bool :=
  match vault with
  | holds _ => false
  | fails step _ => call.step = step

/-- The secret that a visit gives if none of its calls fails. -/
def secret? : Vault → Option Value
  | holds secret => some secret
  | fails .. => none

/-- All the calls of a visit, in order. -/
def visit (url name : Value) : List VaultCall :=
  [.credential, .client url, .secret name]

/-- The calls that a visit makes. -/
def calls (vault : Vault) (url name : Value) : List VaultCall :=
  ((vault.enter url name).run.run []).2

variable (vault : Vault) (url name : Value)

/-- A visit ends right after the first call that fails. -/
theorem calls_eq_take :
    vault.calls url name =
      (visit url name).take ((visit url name).findIdx vault.failsAt + 1) := by
  cases vault with
  | holds secret => rfl
  | fails step message => cases step <;> rfl

theorem calls_ne_nil : vault.calls url name ≠ [] := by
  rw [calls_eq_take, visit, List.take_succ_cons]
  exact List.cons_ne_nil _ _

theorem nodup_steps_calls : ((vault.calls url name).map VaultCall.step).Nodup := by
  rw [calls_eq_take]
  exact ((List.take_sublist _ _).map _).nodup (by simp [visit, VaultCall.step])

/-- A visit without a secret is one in which some call fails. -/
theorem exists_failsAt_iff :
    (∃ call ∈ vault.calls url name, vault.failsAt call) ↔ vault.secret? = none := by
  cases vault with
  | holds secret => simp [failsAt, secret?]
  | fails step message =>
      rw [calls_eq_take]
      cases step <;> simp [visit, failsAt, secret?, VaultCall.step, List.findIdx_cons]

theorem eq_holds (h : ∀ call ∈ vault.calls url name, vault.failsAt call = false) :
    ∃ secret, vault = .holds secret := by
  cases hsecret : vault.secret? with
  | none =>
      obtain ⟨call, hcall, hfails⟩ := (vault.exists_failsAt_iff url name).mpr hsecret
      rw [h call hcall] at hfails
      cases hfails
  | some secret =>
      cases vault with
      | holds secret => exact ⟨secret, rfl⟩
      | fails step message => cases hsecret

theorem fetch_of_ne {url : String} (h : url ≠ "") :
    (vault.fetch (.text url) name).1 = vault.secret?.getD .null ∧
      (vault.fetch (.text url) name).2.1 = vault.calls (.text url) name := by
  have hgiven : (Value.text url).isTruthy = true := by simpa [Value.isTruthy] using h
  unfold fetch
  rw [if_pos hgiven]
  cases vault with
  | holds secret => exact ⟨rfl, rfl⟩
  | fails step message => cases step <;> exact ⟨rfl, rfl⟩

theorem fetch_of_not_truthy {url : Value} (h : url.isTruthy = false) :
    vault.fetch url name = (.null, [], []) := by
  unfold fetch
  rw [h]
  rfl

end Vault

namespace Environment

/-- A variable that is not set, or has no text. -/
def Blank (env : Environment) (name : String) : Prop :=
  ∀ s, Keyed.get? name env = some s → s = ""

variable {env : Environment} {name : String}

theorem blank_or_given (env : Environment) (name : String) :
    env.Blank name ∨ ∃ s, Keyed.get? name env = some s ∧ s ≠ "" := by
  by_cases h : env.Blank name
  · exact .inl h
  · obtain ⟨s, hs⟩ := Classical.not_forall.mp h
    exact .inr ⟨s, Classical.not_imp.mp hs⟩

theorem not_blank {s : String} (h : Keyed.get? name env = some s) (hs : s ≠ "") :
    ¬env.Blank name :=
  fun hblank => hs (hblank s h)

theorem valueOr_of_get? {s : String} (h : Keyed.get? name env = some s) (standard : Value) :
    env.valueOr name standard = .text s := by
  rw [valueOr, h]

theorem Blank.not_truthy (h : env.Blank name) : (env.valueOr name .null).isTruthy = false := by
  cases hget : Keyed.get? name env with
  | none =>
      rw [valueOr, hget]
      rfl
  | some s =>
      rw [valueOr_of_get? hget, h s hget]
      rfl

/-- The name of the secret that a vault is asked for. -/
def secretName (env : Environment) : String :=
  (Keyed.get? "WATSONX_AI_SECRET_NAME" env).getD "watsonx-ai-iam-token"

theorem valueOr_secretName (env : Environment) :
    env.valueOr "WATSONX_AI_SECRET_NAME" (.text "watsonx-ai-iam-token") =
      .text env.secretName := by
  unfold valueOr secretName
  cases Keyed.get? "WATSONX_AI_SECRET_NAME" env <;> rfl

/-- Where a token comes from, with the calls that a vault gets for it. -/
inductive TokenRead (env : Environment) (vault : Vault) : Value → List VaultCall → Prop where
  | given {token : String} (htoken : Keyed.get? "WATSONX_AI_IAM_TOKEN" env = some token)
      (hne : token ≠ "") : TokenRead env vault (.text token) []
  | unvisited (htoken : env.Blank "WATSONX_AI_IAM_TOKEN")
      (hurl : env.Blank "WATSONX_AI_KEYVAULT_URL") : TokenRead env vault .null []
  | visited {url : String} (htoken : env.Blank "WATSONX_AI_IAM_TOKEN")
      (hurl : Keyed.get? "WATSONX_AI_KEYVAULT_URL" env = some url) (hne : url ≠ "") :
      TokenRead env vault (vault.secret?.getD .null)
        (vault.calls (.text url) (.text env.secretName))

theorem tokenRead (env : Environment) (vault : Vault) :
    env.TokenRead vault (env.token vault).1 (env.token vault).2.1 := by
  unfold token
  rcases env.blank_or_given "WATSONX_AI_IAM_TOKEN" with htoken | ⟨token, htoken, hne⟩
  · simp only [htoken.not_truthy, Bool.false_eq_true, if_false, valueOr_secretName]
    rcases env.blank_or_given "WATSONX_AI_KEYVAULT_URL" with hurl | ⟨url, hurl, hne⟩
    · rw [vault.fetch_of_not_truthy _ hurl.not_truthy]
      exact .unvisited htoken hurl
    · obtain ⟨hsecret, hcalls⟩ := vault.fetch_of_ne (.text env.secretName) hne
      rw [valueOr_of_get? hurl, hsecret, hcalls]
      exact .visited htoken hurl hne
  · have hgiven : (Value.text token).isTruthy = true := by simpa [Value.isTruthy] using hne
    simp only [valueOr_of_get? htoken, hgiven, if_true]
    exact .given htoken hne

namespace TokenRead

variable {vault : Vault} {value : Value} {calls : List VaultCall}

theorem calls_ne_nil_iff (h : env.TokenRead vault value calls) :
    calls ≠ [] ↔
      env.Blank "WATSONX_AI_IAM_TOKEN" ∧ ¬env.Blank "WATSONX_AI_KEYVAULT_URL" := by
  cases h with
  | given htoken hne => simp [not_blank htoken hne]
  | unvisited htoken hurl => simp [hurl]
  | visited htoken hurl hne => simp [vault.calls_ne_nil, htoken, not_blank hurl hne]

theorem calls_eq (h : env.TokenRead vault value calls) {url : String}
    (hurl : Keyed.get? "WATSONX_AI_KEYVAULT_URL" env = some url) (hcalls : calls ≠ []) :
    calls = vault.calls (.text url) (.text env.secretName) := by
  cases h with
  | given | unvisited => exact absurd rfl hcalls
  | visited htoken hother hne =>
      cases hurl.symm.trans hother
      rfl

theorem nodup_steps (h : env.TokenRead vault value calls) : (calls.map VaultCall.step).Nodup := by
  cases h with
  | given | unvisited => exact List.nodup_nil
  | visited => exact vault.nodup_steps_calls _ _

theorem of_given (h : env.TokenRead vault value calls) {token : String}
    (htoken : Keyed.get? "WATSONX_AI_IAM_TOKEN" env = some token) (hne : token ≠ "") :
    value = .text token := by
  cases h with
  | given hother => exact congrArg Value.text (Option.some.inj (hother.symm.trans htoken))
  | unvisited hblank | visited hblank => exact absurd hblank (not_blank htoken hne)

theorem of_all (h : env.TokenRead vault value calls) (hcalls : calls ≠ [])
    (hall : ∀ call ∈ calls, vault.failsAt call = false) : vault = .holds value := by
  cases h with
  | given | unvisited => exact absurd rfl hcalls
  | visited =>
      obtain ⟨secret, rfl⟩ := vault.eq_holds _ _ hall
      rfl

theorem of_failing (h : env.TokenRead vault value calls)
    (htoken : env.Blank "WATSONX_AI_IAM_TOKEN")
    (hnone : calls = [] ∨ ∃ call ∈ calls, vault.failsAt call) : value = .null := by
  cases h with
  | given hother hne => exact absurd htoken (not_blank hother hne)
  | unvisited => rfl
  | visited =>
      rcases hnone with hnil | hfails
      · exact absurd hnil (vault.calls_ne_nil _ _)
      · rw [(vault.exists_failsAt_iff _ _).mp hfails]
        rfl

end TokenRead

end Environment

namespace Assembly

/-- Reading the settings never fails, whatever the variables hold and wherever
a vault fails. The vault is visited just when no text is given for the token and
one for the place of the vault; the calls end right after the first that fails,
and none is made twice. The token is the text that is given, or what a visit
gives, and nothing otherwise. -/
theorem environmentSettings_token (w : World) :
    ∃ settings calls notices,
      environmentSettings.perform w = (.ok settings, { w with
        vaultCalls := w.vaultCalls ++ calls, notices := w.notices ++ notices }) ∧
      (calls ≠ [] ↔ w.environment.Blank "WATSONX_AI_IAM_TOKEN" ∧
        ¬w.environment.Blank "WATSONX_AI_KEYVAULT_URL") ∧
      (∀ url, Keyed.get? "WATSONX_AI_KEYVAULT_URL" w.environment = some url → calls ≠ [] →
        let visit := Vault.visit (.text url) (.text w.environment.secretName)
        calls = visit.take (visit.findIdx w.vault.failsAt + 1)) ∧
      (calls.map VaultCall.step).Nodup ∧
      (∀ token, Keyed.get? "WATSONX_AI_IAM_TOKEN" w.environment = some token → token ≠ "" →
        settings.connection.iamToken = .text token) ∧
      (calls ≠ [] → (∀ call ∈ calls, w.vault.failsAt call = false) →
        ∃ secret, w.vault = .holds secret ∧ settings.connection.iamToken = secret) ∧
      (w.environment.Blank "WATSONX_AI_IAM_TOKEN" →
        (calls = [] ∨ ∃ call ∈ calls, w.vault.failsAt call) →
        settings.connection.iamToken = .null) := by
  have hread := w.environment.tokenRead w.vault
  refine ⟨(w.environment.settings w.vault).1, (w.environment.settings w.vault).2.1,
    (w.environment.settings w.vault).2.2, rfl, hread.calls_ne_nil_iff, ?_, hread.nodup_steps,
    fun token => hread.of_given, fun hcalls hall => ⟨_, hread.of_all hcalls hall, rfl⟩,
    hread.of_failing⟩
  intro url hurl hcalls
  exact (hread.calls_eq hurl hcalls).trans (w.vault.calls_eq_take _ _)

end Assembly

end ModelWiring
