import ModelWiring.Proofs.Assembly.Run
import ModelWiring.Proofs.Reports

/-!
Assemblies whose connection lacks a required field. No client can be built from
it, but it is not looked at before an offer is found that needs one. So such an
assembly fails if an entry has an offer that would be registered, and passes
over everything if there is none.
-/

namespace ModelWiring

namespace Connection

end Connection

namespace Provider

/-- An offer that would be registered if there were a client for it. -/
structure Wants (p : Provider) (settings : Settings) (w : World)
    (offer : Capability × String) : Prop where
  importable : ∃ found, Implementation.find w.installed offer.2 = .found found
  isOpen : Registry.find? w.registrations offer.1 = none
  selected : (settings.capability offer.1).selector = none ∨
    (settings.capability offer.1).selector = some p.identifier

variable {p : Provider} {settings : Settings} {channel : Option Nat} {cause : Fault} {w : World}
  {offer : Capability × String} {more : List Notice}

theorem Wants.noted (h : p.Wants settings w offer) (more : List Notice) :
    p.Wants settings (w.noted more) offer :=
  ⟨h.importable, h.isOpen, h.selected⟩

end Provider

/-- How a run ends that finds no client and can build none: it stops at the
first offer that is wanted, with one error for its entry, or passes over all. -/
inductive Unconfigured (cause : Fault) (w : World) (wanting : Provider → Prop) :
    Except Fault (List Registration) × World → Prop where
  | stops {p : Provider} {quiet : List Notice} (hwanting : wanting p) (hquiet : Quiet quiet) :
      Unconfigured cause w wanting (.error cause, w.noted (quiet ++ p.complaint cause))
  | passes {quiet : List Notice} (hnone : ∀ p, ¬wanting p) (hquiet : Quiet quiet) :
      Unconfigured cause w wanting (.ok [], w.noted quiet)

theorem Unconfigured.nothing {cause : Fault} {w : World} {wanting : Provider → Prop}
    (hnone : ∀ p, ¬wanting p) : Unconfigured cause w wanting (.ok [], w) := by
  have hpasses : Unconfigured cause w wanting (.ok [], w.noted []) := .passes hnone .nil
  rwa [World.noted_nil] at hpasses

/-- Reports that are no errors may come before such a run. -/
theorem Unconfigured.after {cause : Fault} {w : World} {later wanting : Provider → Prop}
    {quiet : List Notice} {result : Except Fault (List Registration) × World}
    (h : Unconfigured cause (w.noted quiet) later result) (hquiet : Quiet quiet)
    (hsame : ∀ p, wanting p ↔ later p) : Unconfigured cause w wanting result := by
  cases h with
  | stops hwanting hmore =>
      rw [World.noted_noted, ← List.append_assoc]
      exact .stops ((hsame _).mpr hwanting) (hquiet.append hmore)
  | passes hnone hmore =>
      rw [World.noted_noted]
      exact .passes (fun p hp => hnone p ((hsame p).mp hp)) (hquiet.append hmore)

namespace Provider

variable {settings : Settings} {channel : Option Nat} {cause : Fault}

end Provider

namespace Assembly

variable {settings : Settings} {channel : Option Nat} {clients : Keyed ClientId} {cause : Fault}

end Assembly

end ModelWiring
