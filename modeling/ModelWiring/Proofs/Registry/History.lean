import ModelWiring.Proofs.Assembly.Made

/-!
Histories of a registry: registering, assembling and clearing in any order and
number, where each step may return or fail, and anything but the registry may
change between two steps. The invariant compares the registry with the list of
all registrations made since it was cleared, of which it knows nothing.
-/

namespace ModelWiring

theorem Client.registrations_close (id : ClientId) (w : World) :
    ((Client.close id).perform w).2.registrations = w.registrations := by
  unfold Client.close
  simp only [Action.perform_bind, Action.perform_get]
  cases w.clients[id]? with
  | none => rfl
  | some state =>
      obtain ⟨client, closes, calls⟩ := state
      cases client with
      | service => rfl
      | supplied _ closing => cases closing <;> rfl

namespace Registry

theorem registrations_closeClients (closed : List ClientId) (list : List Registration)
    (w : World) :
    ((closeClients closed list).perform w).2.registrations = w.registrations := by
  induction list generalizing closed w with
  | nil => rfl
  | cons r rest ih =>
      unfold closeClients
      cases r.client.api? with
      | none => exact ih closed w
      | some id =>
          simp only [Action.perform_bind, Action.perform_get]
          split
          · exact ih closed w
          · have hclose := Client.registrations_close id w
            rw [Action.perform_bind]
            rcases hrun : (Client.close id).perform w with ⟨cause | _, w₁⟩
            · rw [hrun] at hclose
              exact hclose
            · rw [hrun] at hclose
              simp only [Action.perform_bind, Action.perform_note]
              rw [ih]
              exact hclose

/-- Clearing a registry empties it, or fails and leaves it as it was. -/
theorem clear_cases (close : Bool) (w : World) :
    (∃ w', (clear close).perform w = (.ok ⟨⟩, w') ∧ w'.registrations = []) ∨
      ∃ cause w', (clear close).perform w = (.error cause, w') ∧
        w'.registrations = w.registrations := by
  unfold clear
  cases close with
  | false => exact Or.inl ⟨_, rfl, rfl⟩
  | true =>
      have hkept := registrations_closeClients [] w.registrations w
      simp only [if_true, Action.perform_bind, Action.perform_get]
      rcases hrun : (closeClients [] w.registrations).perform w with ⟨cause | _, w₁⟩
      · rw [hrun] at hkept
        exact Or.inr ⟨cause, w₁, rfl, hkept⟩
      · exact Or.inl ⟨_, rfl, rfl⟩

/-- A step in the life of a registry. -/
inductive Step where
  | register (new : Registration)
  | assemble (given : Option Settings) (list : Option (List Provider)) (channel : Option Nat)
      (clients : Keyed ClientId)
  | clear (close : Bool)
  /-- Anything that happens to the rest of the world. -/
  | elsewhere (change : World → World)

namespace Step

/-- The world that a step leaves, whether it returns or fails. -/
def leaves (w : World) : Step → World
  | register new => ((Registry.register new).perform w).2
  | assemble given list channel clients =>
      ((Assembly.assemble given list channel clients).perform w).2
  | clear close => ((Registry.clear close).perform w).2
  | elsewhere change => { change w with registrations := w.registrations }

/-- The registrations made since the registry was cleared, of which some were
made before the step. -/
def made (w : World) (before : List Registration) : Step → List Registration
  | register new => before ++ [new]
  | assemble given list channel clients =>
      before ++ Assembly.made (Assembly.settingsIn w given) channel clients
        (Assembly.entries list) (Assembly.consulted w given)
  | clear close =>
      match ((Registry.clear close).perform w).1 with
      | .ok _ => []
      | .error _ => before
  | elsewhere _ => before

end Step

/-- A state that a history comes to: the world, and all registrations made
since the last clearing that returned, the refused ones among them. -/
structure History where
  world : World
  made : List Registration

namespace History

def next (h : History) (step : Step) : History where
  world := step.leaves h.world
  made := step.made h.world h.made

/-- The history of a registry that is empty at first. -/
def after (w : World) (steps : List Step) : History :=
  steps.foldl next { world := { w with registrations := [] }, made := [] }

/-- No capability is there twice, and for each the first registration made for
it is found. -/
structure Invariant (h : History) : Prop where
  distinct : (h.world.registrations.map Registration.capability).Nodup
  first : ∀ c, find? h.world.registrations c = find? h.made c

variable {h : History}

theorem Invariant.register (hinv : h.Invariant) (new : Registration) :
    (h.next (.register new)).Invariant := by
  cases hopen : find? h.world.registrations new.capability with
  | none =>
      have happends : Appends h.world [new] (.ok [new]) (h.world.registered new) :=
        .one hopen rfl
      simp only [next, Step.leaves, Step.made, perform_register_of_open hopen]
      refine ⟨happends.distinct hinv.distinct, fun c => ?_⟩
      rw [happends.registrations, find?_append, find?_append, hinv.first]
  | some standing =>
      simp only [next, Step.leaves, Step.made, perform_register_of_served hopen]
      refine ⟨hinv.distinct, fun c => ?_⟩
      rw [World.registrations_noted, find?_append, hinv.first]
      -- The refused registration stands behind the one that holds its capability.
      by_cases hc : new.capability = c
      · rw [← hc, ← hinv.first, hopen]
        rfl
      · have hnew : find? [new] c = none := by simp [find?, hc]
        rw [hnew, Option.or_none]

theorem Invariant.assemble (hinv : h.Invariant) (given : Option Settings)
    (list : Option (List Provider)) (channel : Option Nat) (clients : Keyed ClientId) :
    (h.next (.assemble given list channel clients)).Invariant := by
  have happends := Assembly.appends_assemble given list channel clients h.world
  refine ⟨happends.distinct hinv.distinct, fun c => ?_⟩
  simp only [next, Step.leaves, Step.made]
  rw [happends.registrations, find?_append, find?_append, hinv.first]

theorem Invariant.clear (hinv : h.Invariant) (close : Bool) :
    (h.next (.clear close)).Invariant := by
  rcases clear_cases close h.world with ⟨w', hrun, hempty⟩ | ⟨cause, w', hrun, hkept⟩
  · simp only [next, Step.leaves, Step.made, hrun]
    exact ⟨by simp [hempty], by simp [hempty]⟩
  · simp only [next, Step.leaves, Step.made, hrun]
    exact ⟨by rw [hkept]; exact hinv.distinct, by rw [hkept]; exact hinv.first⟩

theorem Invariant.next (hinv : h.Invariant) (step : Step) : (h.next step).Invariant := by
  cases step with
  | register new => exact hinv.register new
  | assemble given list channel clients => exact hinv.assemble given list channel clients
  | clear close => exact hinv.clear close
  | elsewhere change => exact ⟨hinv.distinct, hinv.first⟩

theorem invariant_after (w : World) (steps : List Step) : (after w steps).Invariant := by
  have hrun (h : History) (hinv : h.Invariant) : (steps.foldl History.next h).Invariant := by
    induction steps generalizing h with
    | nil => exact hinv
    | cons step rest ih => exact ih (h.next step) (hinv.next step)
  exact hrun _ ⟨by simp, fun _ => rfl⟩

/-- What holds of a registry at any time, and of the next step whatever it is:
the three views of it agree, and it only grows at its end. -/
structure Coherent (h : History) : Prop where
  distinct : (h.world.registrations.map Registration.capability).Nodup
  /-- Looking a capability up gives the first registration made for it. -/
  found : ∀ c, (get? c).perform h.world =
    (.ok (h.made.find? fun r => r.capability = c), h.world)
  /-- That is the entry for it in the list of registrations. -/
  listed : ∀ c r, (h.made.find? fun r => r.capability = c) = some r ↔
    r ∈ h.world.registrations ∧ r.capability = c
  /-- Registering leaves the list as it was, or adds to its end. -/
  register_grows : ∀ new, h.world.registrations <+: (h.next (.register new)).world.registrations
  /-- So does an assembly: what it made is at the end, and is given back if it
  returns. -/
  assemble_grows : ∀ given list channel clients, ∃ suffix,
    (h.next (.assemble given list channel clients)).made = h.made ++ suffix ∧
    (h.next (.assemble given list channel clients)).world.registrations =
      h.world.registrations ++ suffix ∧
    ∀ added, ((Assembly.assemble given list channel clients).perform h.world).1 = .ok added →
      added = suffix

theorem find?_eq_some_iff_mem {registrations : List Registration}
    (hdistinct : (registrations.map Registration.capability).Nodup) (c : Capability)
    (r : Registration) :
    find? registrations c = some r ↔ r ∈ registrations ∧ r.capability = c := by
  constructor
  · exact capability_of_find?
  · rintro ⟨hr, rfl⟩
    induction registrations with
    | nil => cases hr
    | cons first rest ih =>
        rw [List.map_cons, List.nodup_cons] at hdistinct
        rcases List.mem_cons.mp hr with rfl | hr
        · simp [find?]
        · have hne : first.capability ≠ r.capability := fun heq =>
            hdistinct.1 (heq ▸ List.mem_map_of_mem hr)
          have hrest := ih hdistinct.2 hr
          simpa [find?, hne] using hrest

theorem register_grows (h : History) (new : Registration) :
    h.world.registrations <+: (h.next (.register new)).world.registrations := by
  simp only [History.next, Step.leaves]
  cases hopen : find? h.world.registrations new.capability with
  | none =>
      rw [perform_register_of_open hopen]
      exact List.prefix_append _ _
  | some standing =>
      rw [perform_register_of_served hopen]
      exact List.prefix_refl _

/-- Over any history of a registry that was empty at first, the registration
that stands for a capability is the first one made for it since the registry
was last cleared, and nothing but clearing takes a registration away. -/
theorem coherent_after (w : World) (steps : List Step) : (after w steps).Coherent := by
  obtain ⟨hdistinct, hfirst⟩ := invariant_after w steps
  refine ⟨hdistinct, fun c => ?_, fun c r => ?_, register_grows _, ?_⟩
  · have hget : (get? c).perform (after w steps).world =
        (.ok (find? (after w steps).world.registrations c), (after w steps).world) := rfl
    rw [hget, hfirst]
    rfl
  · have hentry := find?_eq_some_iff_mem hdistinct c r
    rw [hfirst] at hentry
    exact hentry
  · intro given list channel clients
    have happends := Assembly.appends_assemble given list channel clients (after w steps).world
    exact ⟨_, rfl, happends.registrations, happends.returned⟩

end History

end Registry

end ModelWiring
