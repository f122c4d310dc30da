import ModelWiring.Client.Basic
import ModelWiring.Provider.Implementation
import ModelWiring.Registration
import ModelWiring.Settings.Environment

/-!
What a run works on: the registrations, the clients with their channels, the
replies that will come, what is installed, and what was sent and reported. An
action changes it also when it fails.
-/

namespace ModelWiring

/-- What clients send over: it is open until it is closed, and keeps the
cookies of the answers. -/
structure Channel where
  isClosed : Bool := false
  cookies : List Cookie := []
deriving Repr

structure World where
  registrations : List Registration := []
  clients : List ClientState := []
  channels : List Channel := []
  replies : List Reply := []
  sent : List Request := []
  notices : List Notice := []
  environment : Environment := []
  vault : Vault := .fails .credential "no vault"
  vaultCalls : List VaultCall := []
  /-- The day that the dates of cookies are compared with. -/
  today : Day := ⟨2026, 1, 1⟩
  /-- What can be imported beside the package; unless more is said, nothing. -/
  installed : Installation := {}

/-- A channel by its place; one that there is not is open and empty. -/
def World.channel (w : World) (place : Nat) : Channel :=
  w.channels.getD place {}

abbrev Action (α : Type) := ExceptT Fault (StateM World) α

namespace Action

/-- Runs a computation that only reports. -/
def ofReporting {α : Type} (r : Reporting α) : Action α := do
  let (result, notices) := r.run.run []
  modify fun w => { w with notices := w.notices ++ notices }
  liftM result

def note (n : Notice) : Action Unit :=
  modify fun w => { w with notices := w.notices ++ [n] }

/-- Follows a path to what is installed. -/
def locate (path : String) : Action (Option Implementation) := do
  ofReporting (Implementation.locate (← get).installed path)

def openChannel : Action Nat := do
  let w ← get
  set { w with channels := w.channels ++ [({} : Channel)] }
  return w.channels.length

def addClient (client : Client) : Action ClientId := do
  let w ← get
  set { w with clients := w.clients ++ [ClientState.mk client 0 []] }
  return w.clients.length

/-- The next reply, a standard one when none is left. -/
def takeReply : Action Reply := do
  let w ← get
  match w.replies with
  | [] => return .standard
  | reply :: rest =>
      set { w with replies := rest }
      return reply

def setChannel (place : Nat) (c : Channel) : Action Unit :=
  modify fun w => { w with channels := w.channels.set place c }

end Action

end ModelWiring
