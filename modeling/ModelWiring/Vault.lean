import ModelWiring.Notice

/-!
Fetching a secret from a vault. Three steps are taken one after the other, and
the first that fails ends the visit; a failure is reported and never passed on.
-/

namespace ModelWiring

inductive VaultStep where
  | credential
  | client
  | secret
deriving DecidableEq, Repr

/-- How a vault behaves: every step succeeds, or one fails. -/
inductive Vault where
  | holds (secret : Value)
  | fails (step : VaultStep) (message : String)
deriving Repr

/-- A step as the vault sees it. -/
inductive VaultCall where
  | credential
  | client (url : Value)
  | secret (name : Value)
deriving Repr

def VaultCall.step : VaultCall → VaultStep
  | credential => .credential
  | client _ => .client
  | secret _ => .secret

/-- A visit to a vault: it may fail with a message, and keeps the calls made. -/
abbrev Visit (α : Type) := ExceptT String (StateM (List VaultCall)) α

namespace Vault

/-- Makes a call. Where the vault holds a secret, the call for it gives it; what
the other calls give is passed on and not looked at. -/
def answer (vault : Vault) (call : VaultCall) : Visit Value := do
  modify (· ++ [call])
  match vault with
  | holds secret => return secret
  | fails step message => if call.step = step then throw message else return .null

/-- Takes the three steps, up to one that fails. -/
def enter (vault : Vault) (url name : Value) : Visit Value := do
  let _ ← vault.answer .credential
  let _ ← vault.answer (.client url)
  vault.answer (.secret name)

/-- The secret, or nothing where no vault is named or a step fails; with the
calls made and what is reported. -/
def fetch (vault : Vault) (url name : Value) : Value × List VaultCall × List Notice :=
  if url.isTruthy then
    match (vault.enter url name).run.run [] with
    | (.ok secret, calls) => (secret, calls, [.secretFetched name])
    | (.error message, calls) => (.null, calls, [.secretFailed name message])
  else (.null, [], [])

/-- A visit is reported once, by how it ended. -/
theorem fetch_notices (vault : Vault) (url name : Value) :
    (vault.fetch url name).2.2 = [] ∨ (vault.fetch url name).2.2 = [.secretFetched name] ∨
      ∃ message, (vault.fetch url name).2.2 = [.secretFailed name message] := by
  unfold fetch
  split
  · split
    · exact .inr (.inl rfl)
    · exact .inr (.inr ⟨_, rfl⟩)
  · exact .inl rfl

end Vault

end ModelWiring
