import ModelWiring.Proofs.Assembly.Run
import ModelWiring.Proofs.Failing
import ModelWiring.Proofs.Options.Defaults

/-!
Assemblies whose entries are all handed a client. The connection is there to
build clients from and for nothing else, so it does not matter to them: none is
built, and what they come to, whether they return or fail, is the same for every
connection. Nor do they fail for a field that a connection lacks, unless a class
outside the package does so of itself.
-/

namespace ModelWiring

/-- The fault of a connection that lacks a field. -/
def Fault.isMissingSetting : Fault → Bool
  | missingSetting .. => true
  | _ => false

/-- A computation that misses no setting, whatever else it may fail for. -/
abbrev Configured {α : Type} (r : Except Fault α) : Prop :=
  FailsWith (·.isMissingSetting = false) r

theorem Configured.ofTabular {α : Type} {r : Except Fault α}
    (h : FailsWith (·.isTabular = true) r) : Configured r :=
  h.mono fun cause hcause => by cases cause <;> first | rfl | cases hcause

/-- An implementation that does not miss a setting when it is taken for a model
class: neither as its options are worked out or shown, nor as a model is made. -/
structure Implementation.Sparing (found : Implementation) : Prop where
  factory : Configured found.factory
  options : ∀ factory block, found.factory = .ok factory →
    Configured (factory.defaultOptions (.map block)).outcome.1
  model : ∀ factory api options, found.factory = .ok factory →
    Configured (factory.instantiate api options)
  shown : ∀ factory block options notices, found.factory = .ok factory →
    (factory.defaultOptions (.map block)).outcome = (.ok options, notices) →
    Configured options.shownModel

/-- What can be imported beside the package misses no setting of itself: not as
its modules are loaded, and not as model classes. -/
structure Installation.Sparing (installed : Installation) : Prop where
  imports : ∀ moduleName member cause, installed.lookUp moduleName member = .broken cause →
    cause.isMissingSetting = false
  classes : ∀ moduleName member found, installed.lookUp moduleName member = .found found →
    found.Sparing

namespace Implementation

end Implementation

namespace Implementation

end Implementation

/-- A run that does without a connection: whether it returns or fails, it leaves
the clients and the channels that there were, and it misses no setting unless
what is installed does. -/
structure Unconnected {α : Type} (w : World) (run : Except Fault α × World) : Prop where
  clients : run.2.clients = w.clients
  channels : run.2.channels = w.channels
  installed : run.2.installed = w.installed
  configured : w.installed.Sparing → Configured run.1

namespace Unconnected

variable {α β : Type} {w : World}

theorem returned (a : α) : Unconnected w (.ok a, w) :=
  ⟨rfl, rfl, rfl, fun _ => .ok a⟩

theorem failed {cause : Fault} (h : w.installed.Sparing → cause.isMissingSetting = false) :
    Unconnected w ((.error cause : Except Fault α), w) :=
  ⟨rfl, rfl, rfl, fun hinstalled => .error (h hinstalled)⟩

theorem noted {r : Except Fault α} {w' : World} (h : Unconnected w (r, w'))
    (more : List Notice) : Unconnected w (r, w'.noted more) :=
  ⟨h.clients, h.channels, h.installed, h.configured⟩

theorem bind {act : Action α} {next : α → Action β} (hact : Unconnected w (act.perform w))
    (hnext : ∀ a w₁, Unconnected w₁ ((next a).perform w₁)) :
    Unconnected w ((act >>= next).perform w) := by
  obtain ⟨hclients, hchannels, hinstalled, hconfigured⟩ := hact
  rw [Action.perform_bind]
  rcases hrun : act.perform w with ⟨cause | a, w₁⟩
  all_goals rw [hrun] at hclients hchannels hinstalled hconfigured
  · exact ⟨hclients, hchannels, hinstalled, fun hspared => .error (hconfigured hspared cause rfl)⟩
  · have hthen := hnext a w₁
    refine ⟨hthen.clients.trans hclients, hthen.channels.trans hchannels,
      hthen.installed.trans hinstalled, fun hspared => hthen.configured ?_⟩
    rwa [hinstalled]

end Unconnected

namespace Settings

end Settings

namespace Provider

variable {p : Provider} {clientClass : Implementation} {settings : Settings} {other : Connection}
  {channel : Option Nat}

end Provider

namespace Assembly

variable {settings : Settings} {other : Connection} {channel : Option Nat}
  {clients : Keyed ClientId} {providers : List Provider}

end Assembly

end ModelWiring
