import ModelWiring.Proofs.Assembly.FirstEligible
import ModelWiring.Proofs.Registry.Closing

/-!
The life of the clients that assembly builds, over any number of assemblies
that return and clearings, in any order. A client that is built is held by a
registration from the start and stays open until the registry is cleared, which
closes it; from then on nothing holds it, and nothing closes it again. This is
said of the classes of the package: what a class outside it gives for a client,
or makes of one, is its own affair.
-/

namespace ModelWiring

namespace Provider

/-- No path of an entry leads out of the package. -/
def Packaged (installed : Installation) (p : Provider) : Prop :=
  ∀ path ∈ p.clientPath :: p.models.map Prod.snd, ∀ c,
    Implementation.find installed path ≠ .found (.foreign c)

variable {installed : Installation} {p : Provider}

/-- The models that such an entry makes hold the client they are made with. -/
theorem Packaged.api?_of_makes (hpackaged : p.Packaged installed) {settings : Settings}
    {id : ClientId} {r : Registration} (h : p.Makes installed settings p.models id r) :
    r.client.api? = some id := by
  obtain ⟨found, options, served, hoffered, hmodel, hmade⟩ := h
  obtain ⟨path, hmem, hfind⟩ := mem_of_offered? hoffered
  cases found with
  | model m =>
      obtain ⟨_, _, _, _, rfl⟩ := Implementation.models_iff.mp hmodel
      rw [hmade]
      rfl
  | foreign c =>
      have hpath : path ∈ p.clientPath :: p.models.map Prod.snd :=
        List.mem_cons_of_mem _ (List.mem_map.mpr ⟨_, hmem, rfl⟩)
      exact absurd hfind (hpackaged path hpath c)
  | client | other =>
      obtain ⟨_, _, hfactory, _⟩ := hmodel
      cases hfactory

/-- The client that such an entry builds is one for the backend. -/
theorem Packaged.service_of_supplied {settings : Settings} {channel : Option Nat} {w w' : World}
    {id : ClientId} (hpackaged : p.Packaged w.installed)
    (h : p.Supplied settings channel none w w' id) :
    w.clients.length ≤ id ∧
      ∃ service place, w'.clients[id]? = some ⟨.service service place, 0, []⟩ := by
  obtain ⟨hnew, clientClass, built, hfind, hconnects, hclient⟩ := h
  cases hconnects with
  | service => exact ⟨hnew, _, _, hclient⟩
  | foreign => exact absurd hfind (hpackaged _ List.mem_cons_self _)

theorem packaged_watsonx (installed : Installation) : watsonx.Packaged installed := by
  have hfound : ∀ path ∈ watsonx.clientPath :: watsonx.models.map Prod.snd,
      Implementation.find installed path = .found .client ∨
        ∃ m, Implementation.find installed path = .found (.model m) := by
    simp only [watsonx, List.map_cons, List.map_nil, List.forall_mem_cons]
    exact ⟨.inl rfl, .inr ⟨.chat, rfl⟩, .inr ⟨.embedding, rfl⟩, List.forall_mem_nil _⟩
  intro path hpath c hforeign
  rcases hfound path hpath with hclient | ⟨m, hmodel⟩
  · rw [hclient] at hforeign
    cases hforeign
  · rw [hmodel] at hforeign
    cases hforeign

/-- An entry may offer less under another name. -/
theorem Packaged.of_subset {q : Provider} (h : p.Packaged installed)
    (hclient : q.clientPath = p.clientPath) (hmodels : q.models ⊆ p.models) :
    q.Packaged installed := by
  intro path hpath
  apply h path
  rcases List.mem_cons.mp hpath with rfl | hmem
  · exact List.mem_cons.mpr (.inl hclient)
  · exact List.mem_cons_of_mem _ (List.map_subset _ hmodels hmem)

end Provider

namespace Assembly

variable {settings : Settings} {channel : Option Nat} {clients : Keyed ClientId}
  {providers : List Provider} {w w' : World} {added : List Registration}

/-- A registration that a run makes holds a client that was handed in, or one
that was built and never closed. -/
theorem Applies.made_client (h : Applies settings channel clients providers w added w')
    (hpackaged : ∀ p ∈ providers, p.Packaged w.installed) {r : Registration} (hr : r ∈ added) :
    ∃ id, r.client.api? = some id ∧
      ((∃ identifier, (identifier, id) ∈ clients) ∨
        w.clients.length ≤ id ∧
          ∃ service place, w'.clients[id]? = some ⟨.service service place, 0, []⟩) := by
  obtain ⟨api, hshares⟩ := h.shares
  obtain ⟨place, p, hfirst⟩ := h.sound r hr
  have hown := hpackaged p hfirst.mem
  obtain ⟨hmakes, hsupplied⟩ := hshares.made r hr place p hfirst
  refine ⟨api place, hown.api?_of_makes hmakes, ?_⟩
  cases hgiven : Keyed.get? p.identifier clients with
  | some given =>
      rw [hgiven] at hsupplied
      obtain ⟨identifier, hentry, _⟩ := Keyed.mem_of_get? hgiven
      have hid : api place = given := hsupplied
      exact .inl ⟨identifier, hid ▸ hentry⟩
  | none =>
      rw [hgiven] at hsupplied
      exact .inr (hown.service_of_supplied hsupplied)

/-- Every client that a run builds is held by a registration that it makes, and
was never closed. -/
theorem Applies.built_client (h : Applies settings channel clients providers w added w')
    (hpackaged : ∀ p ∈ providers, p.Packaged w.installed) {id : ClientId}
    (hold : w.clients.length ≤ id) (hnew : id < w'.clients.length) :
    Registry.Held added id ∧
      ∃ service place, w'.clients[id]? = some ⟨.service service place, 0, []⟩ := by
  obtain ⟨api, hshares⟩ := h.shares
  obtain ⟨r, hr, place, p, hfirst, hnone, rfl⟩ := hshares.used id hold hnew
  have hown := hpackaged p hfirst.mem
  obtain ⟨hmakes, hsupplied⟩ := hshares.made r hr place p hfirst
  rw [hnone] at hsupplied
  exact ⟨⟨r, hr, hown.api?_of_makes hmakes⟩, (hown.service_of_supplied hsupplied).2⟩

end Assembly

namespace Registry

/-- A client of the caller's own: it is there, no assembly built it, and closing
it does not fail. -/
structure Own (w : World) (built : List ClientId) (id : ClientId) : Prop where
  there : id < w.clients.length
  apart : id ∉ built
  closes : w.closeFault? id = none

/-- The worlds that a registry comes to which is empty at first, each with the
clients that assembly built so far. -/
inductive Reach : World → List ClientId → Prop where
  | start {w : World} (hempty : w.registrations = []) : Reach w []
  /-- An assembly that returns, with clients of the caller's own, and of entries
  that name classes of the package. -/
  | assemble {w w' : World} {built : List ClientId} {given : Option Settings}
      {list : Option (List Provider)} {channel : Option Nat} {clients : Keyed ClientId}
      {added : List Registration}
      (h : Reach w built) (hown : ∀ entry ∈ clients, Own w built entry.2)
      (hpackaged : ∀ p ∈ Assembly.entries list, p.Packaged w.installed)
      (hrun : (Assembly.assemble given list channel clients).perform w = (.ok added, w')) :
      Reach w' (built ++ List.range' w.clients.length (w'.clients.length - w.clients.length))
  | clear {w : World} {built : List ClientId} (h : Reach w built) :
      Reach ((Registry.clear true).perform w).2 built
  /-- Anything that registers nothing and closes no client that assembly built:
  asking models, or making more clients of the caller's own. -/
  | elsewhere {w w' : World} {built : List ClientId} (h : Reach w built)
      (hregistrations : w'.registrations = w.registrations)
      (hclients : ∀ id state, w.clients[id]? = some state →
        ∃ state', w'.clients[id]? = some state' ∧ state'.client = state.client ∧
          (id ∈ built → state'.closes = state.closes)) : Reach w' built

/-- What is known of the clients at any time. -/
structure Tracked (w : World) (built : List ClientId) : Prop where
  /-- No client that is held fails to be closed. -/
  held : ∀ id, Held w.registrations id → ∃ state, w.clients[id]? = some state ∧
    state.client.closeFault? = none
  /-- A client that was built is held and open, or was closed once and is held
  no more. -/
  fate : ∀ id ∈ built, ∃ service place closes calls,
    w.clients[id]? = some ⟨.service service place, closes, calls⟩ ∧
      (Held w.registrations id ∧ closes = 0 ∨ ¬Held w.registrations id ∧ closes = 1)

namespace Tracked

variable {w w' : World} {built : List ClientId}

theorem assemble {given : Option Settings} {list : Option (List Provider)} {channel : Option Nat}
    {clients : Keyed ClientId} {added : List Registration} (h : Tracked w built)
    (hown : ∀ entry ∈ clients, Own w built entry.2)
    (hpackaged : ∀ p ∈ Assembly.entries list, p.Packaged w.installed)
    (hrun : (Assembly.assemble given list channel clients).perform w = (.ok added, w')) :
    Tracked w' (built ++ List.range' w.clients.length (w'.clients.length - w.clients.length)) := by
  obtain ⟨w₁, warnings, rfl, happlies⟩ := Assembly.assemble_returns hrun
  rw [← Assembly.installed_consulted given] at hpackaged
  have hregistrations := happlies.registrations_eq
  have hprefix := happlies.clients_prefix
  rw [Assembly.registrations_consulted] at hregistrations
  rw [Assembly.clients_consulted] at hprefix
  have hkept {id : ClientId} {state : ClientState} (hstate : w.clients[id]? = some state) :
      w₁.clients[id]? = some state := by
    obtain ⟨more, hmore⟩ := hprefix
    rw [← hmore, List.getElem?_append_left (List.getElem?_eq_some_iff.mp hstate).1]
    exact hstate
  have hmade {id : ClientId} (hid : Held added id) :
      (∃ identifier, (identifier, id) ∈ clients) ∨ w.clients.length ≤ id ∧
        ∃ service place, w₁.clients[id]? = some ⟨.service service place, 0, []⟩ := by
    obtain ⟨r, hr, hapi⟩ := hid
    obtain ⟨other, hother, hclient⟩ := happlies.made_client hpackaged hr
    cases hapi.symm.trans hother
    rwa [Assembly.clients_consulted] at hclient
  constructor
  · intro id hid
    rw [World.registrations_noted, hregistrations, held_append] at hid
    rcases hid with hid | hid
    · obtain ⟨state, hstate, hfault⟩ := h.held id hid
      exact ⟨state, hkept hstate, hfault⟩
    · rcases hmade hid with ⟨identifier, hentry⟩ | ⟨_, service, place, hclient⟩
      · have hmine := hown _ hentry
        have hstate := List.getElem?_eq_getElem hmine.there
        refine ⟨_, hkept hstate, ?_⟩
        have hfault := hmine.closes
        rwa [World.closeFault?, hstate, Option.bind_some] at hfault
      · exact ⟨_, hclient, rfl⟩
  · intro id hid
    rw [World.registrations_noted, hregistrations, held_append]
    rcases List.mem_append.mp hid with hold | hnew
    · obtain ⟨service, place, closes, calls, hstate, hfate⟩ := h.fate id hold
      -- What the assembly made holds clients of the caller's own, or later ones.
      have hunheld : ¬Held added id := by
        intro hheld
        rcases hmade hheld with ⟨identifier, hentry⟩ | ⟨hlater, _⟩
        · exact (hown _ hentry).apart hold
        · exact absurd (List.getElem?_eq_some_iff.mp hstate).1 (Nat.not_lt.mpr hlater)
      exact ⟨service, place, closes, calls, hkept hstate, by simpa [hunheld] using hfate⟩
    · rw [List.mem_range'_1, World.clients_noted, Nat.add_sub_cancel' hprefix.length_le] at hnew
      obtain ⟨hheld, service, place, hclient⟩ := happlies.built_client hpackaged
        (by rw [Assembly.clients_consulted]; exact hnew.1) hnew.2
      exact ⟨service, place, 0, [], hclient, .inl ⟨.inr hheld, rfl⟩⟩

theorem clear_returns (h : Tracked w built) :
    ∃ w', (Registry.clear true).perform w = (.ok ⟨⟩, w') ∧ w'.registrations = [] ∧
      (∀ id, id ∈ clearCalls w ↔ Held w.registrations id ∧ w.canClose id = true) ∧
      ∀ id, w'.clients[id]? = w.clients[id]?.map fun state =>
        if id ∈ clearCalls w then { state with closes := state.closes + 1 } else state := by
  rcases clear_closes w with ⟨w', hrun, hempty, hall, hclients⟩ |
    ⟨cause, w', before, id, _, hcalls, hfault, _⟩
  · refine ⟨w', hrun, hempty, fun id => ⟨held_of_mem_clearCalls, ?_⟩, hclients⟩
    rintro ⟨hheld, hcan⟩
    exact (hall id hheld hcan).1
  · have hlast : id ∈ clearCalls w := by simp [hcalls]
    obtain ⟨state, hstate, hnone⟩ := h.held id (held_of_mem_clearCalls hlast).1
    rw [World.closeFault?, hstate, Option.bind_some, hnone] at hfault
    cases hfault

theorem clear (h : Tracked w built) : Tracked ((Registry.clear true).perform w).2 built := by
  obtain ⟨w', hrun, hempty, hcalls, hclients⟩ := h.clear_returns
  rw [hrun]
  have hunheld (id : ClientId) : ¬Held w'.registrations id := by simp [Held, hempty]
  refine ⟨fun id hid => absurd hid (hunheld id), fun id hid => ?_⟩
  obtain ⟨service, place, closes, calls, hstate, hfate⟩ := h.fate id hid
  have hcan : w.canClose id = true := by rw [World.canClose, hstate]; rfl
  rcases hfate with ⟨hheld, rfl⟩ | ⟨hfree, rfl⟩
  · have hcalled := (hcalls id).mpr ⟨hheld, hcan⟩
    refine ⟨service, place, 1, calls, ?_, .inr ⟨hunheld id, rfl⟩⟩
    rw [hclients, hstate, Option.map_some, if_pos hcalled]
  · have hcalled : id ∉ clearCalls w := fun hmem => hfree ((hcalls id).mp hmem).1
    refine ⟨service, place, 1, calls, ?_, .inr ⟨hunheld id, rfl⟩⟩
    rw [hclients, hstate, Option.map_some, if_neg hcalled]

theorem elsewhere (h : Tracked w built) (hregistrations : w'.registrations = w.registrations)
    (hclients : ∀ id state, w.clients[id]? = some state →
      ∃ state', w'.clients[id]? = some state' ∧ state'.client = state.client ∧
        (id ∈ built → state'.closes = state.closes)) : Tracked w' built := by
  refine ⟨fun id hid => ?_, fun id hid => ?_⟩
  · rw [hregistrations] at hid
    obtain ⟨state, hstate, hfault⟩ := h.held id hid
    obtain ⟨state', hstate', hclient, _⟩ := hclients id state hstate
    exact ⟨state', hstate', by rw [hclient]; exact hfault⟩
  · obtain ⟨service, place, closes, calls, hstate, hfate⟩ := h.fate id hid
    obtain ⟨⟨client, closes', calls'⟩, hstate', hclient, hcloses⟩ := hclients id _ hstate
    cases hclient
    cases hcloses hid
    rw [hregistrations]
    exact ⟨service, place, closes, calls', hstate', hfate⟩

end Tracked

theorem Reach.tracked {w : World} {built : List ClientId} (h : Reach w built) :
    Tracked w built := by
  induction h with
  | start hempty => exact ⟨fun id hid => by simp [Held, hempty] at hid, nofun⟩
  | assemble _ hown hpackaged hrun ih => exact ih.assemble hown hpackaged hrun
  | clear _ ih => exact ih.clear
  | elsewhere _ hregistrations hclients ih => exact ih.elsewhere hregistrations hclients

/-- At any time, every client that assembly built is held by a registration and
was never closed, or is held by none and was closed once. Clearing then returns;
it calls the closing of each client that is held and has one, once, and of no
other, and this is all that happens to the clients. -/
theorem clients_closed_once {w : World} {built : List ClientId} (h : Reach w built) :
    (∀ id ∈ built, ∃ state, w.clients[id]? = some state ∧
      (Held w.registrations id ∧ state.closes = 0 ∨
        ¬Held w.registrations id ∧ state.closes = 1)) ∧
    (clearCalls w).Nodup ∧
    (∀ id, id ∈ clearCalls w ↔ Held w.registrations id ∧ w.canClose id = true) ∧
    ∃ w', (clear true).perform w = (.ok ⟨⟩, w') ∧ w'.registrations = [] ∧
      ∀ id, w'.clients[id]? = w.clients[id]?.map fun state =>
        if id ∈ clearCalls w then { state with closes := state.closes + 1 } else state := by
  obtain ⟨w', hrun, hempty, hcalls, hclients⟩ := h.tracked.clear_returns
  refine ⟨fun id hid => ?_, nodup_clearCalls w, hcalls, w', hrun, hempty, hclients⟩
  obtain ⟨service, place, closes, calls, hstate, hfate⟩ := h.tracked.fate id hid
  exact ⟨_, hstate, hfate⟩

private def anyProvider : Settings where
  connection := { projectId := .text "project", iamToken := .text "token" }

/-- An entry that offers chat alone, and one that offers all. -/
private def neighbours : List Provider :=
  [{ Provider.watsonx with identifier := "built", models := Provider.watsonx.models.take 1 },
   { Provider.watsonx with identifier := "lent" }]

/-- A world with a client that one of the entries is lent. -/
private def lending : World where
  clients := [⟨.supplied "own" .returns fun _ _ => .null, 0, []⟩]

private def assembling (w : World) : Except Fault (List Registration) × World :=
  (Assembly.assemble (some anyProvider) (some neighbours) none [("lent", 0)]).perform w

/-- The world after assembling and clearing. -/
private def cleared : World :=
  ((clear true).perform (assembling lending).2).2

/-- The world after assembling again. -/
private def reassembled : World :=
  (assembling cleared).2

private theorem reach_assembling {w : World} {built : List ClientId} (h : Reach w built)
    (hown : Own w built 0) (hreturns : (assembling w).1.isOk = true) :
    Reach (assembling w).2 (built ++
      List.range' w.clients.length ((assembling w).2.clients.length - w.clients.length)) := by
  rcases hrun : assembling w with ⟨cause | added, w'⟩
  · rw [hrun] at hreturns
    cases hreturns
  · refine .assemble h (fun entry hentry => ?_) (fun p hp => ?_) hrun
    · cases List.mem_singleton.mp hentry
      exact hown
    · have hwatsonx := Provider.packaged_watsonx w.installed
      rcases List.mem_cons.mp hp with rfl | hp
      · exact hwatsonx.of_subset rfl (List.take_subset 1 _)
      · cases List.mem_singleton.mp hp
        exact hwatsonx.of_subset rfl (List.Subset.refl _)

/-- The first client that was built was closed with the first registrations; the
second one is held, as is the one that is lent. -/
theorem clients_closed_once_reassembled :
    Reach reassembled [1, 2] ∧ reassembled.clients.map ClientState.closes = [1, 1, 0] ∧
      (∀ id ∈ [1, 2], ∃ state, reassembled.clients[id]? = some state ∧
        (Held reassembled.registrations id ∧ state.closes = 0 ∨
          ¬Held reassembled.registrations id ∧ state.closes = 1)) ∧
      clearCalls reassembled = [2, 0] ∧
      ∃ w', (clear true).perform reassembled = (.ok ⟨⟩, w') ∧ w'.registrations = [] ∧
        w'.clients.map ClientState.closes = [2, 1, 1] := by
  obtain ⟨hfirst, hbuilt, hagain, hthere, hcloses⟩ :
      (assembling lending).1.isOk = true ∧ (assembling lending).2.clients.length = 2 ∧
        (assembling cleared).1.isOk = true ∧ cleared.clients.length = 2 ∧
        (cleared.closeFault? 0).isNone = true := by
    decide +kernel
  obtain ⟨hcount, hcalls, hafter⟩ :
      reassembled.clients.map ClientState.closes = [1, 1, 0] ∧ clearCalls reassembled = [2, 0] ∧
        ((clear true).perform reassembled).2.clients.map ClientState.closes = [2, 1, 1] := by
    decide +kernel
  have hreach : Reach reassembled [1, 2] := by
    have hassembled := reach_assembling (.start rfl) ⟨by decide, by simp, rfl⟩ hfirst
    rw [hbuilt] at hassembled
    have hcleared : Reach cleared [1] := .clear hassembled
    have hlent : Own cleared [1] 0 :=
      ⟨by rw [hthere]; decide, by simp, Option.isNone_iff_eq_none.mp hcloses⟩
    have hreassembled := reach_assembling hcleared hlent hagain
    have hlength : reassembled.clients.length = 3 := by simpa using congrArg List.length hcount
    rw [reassembled] at hlength
    rw [hthere, hlength] at hreassembled
    exact hreassembled
  obtain ⟨hfate, _, _, w', hrun, hempty, _⟩ := clients_closed_once hreach
  rw [hrun] at hafter
  exact ⟨hreach, hcount, hfate, hcalls, w', hrun, hempty, hafter⟩

end Registry

end ModelWiring
