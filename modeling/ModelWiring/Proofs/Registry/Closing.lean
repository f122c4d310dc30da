import ModelWiring.Proofs.Registry.History

/-!
What clearing a registry does to the clients that its registrations hold. The
closings that it calls are those of the distinct clients that can be closed,
up to the first one that fails. Only when none fails does the registry drop
its registrations: otherwise it keeps them all, those of the clients that were
closed among them.
-/

namespace ModelWiring

/-- Why closing a client fails, if it does. -/
def Client.closeFault? : Client → Option Fault
  | supplied _ (.fails message) _ => some (.failed message)
  | _ => none

namespace World

def canClose (w : World) (id : ClientId) : Bool :=
  w.clients[id]?.any (·.client.canClose)

def closeFault? (w : World) (id : ClientId) : Option Fault :=
  w.clients[id]?.bind (·.client.closeFault?)

theorem canClose_of_closeFault? {w : World} {id : ClientId} {cause : Fault}
    (h : w.closeFault? id = some cause) : w.canClose id = true := by
  obtain ⟨state, hstate, hfault⟩ := Option.bind_eq_some_iff.mp h
  rw [canClose, hstate, Option.any_some]
  match hclient : state.client, hfault with
  | .supplied _ (.fails _) _, _ => rfl

/-- Some clients are closed once more, and neither the registrations nor the
clients are changed otherwise. -/
structure Closes (w : World) (ids : List ClientId) (w' : World) : Prop where
  registrations : w'.registrations = w.registrations
  clients : ∀ id, w'.clients[id]? = w.clients[id]?.map fun state =>
    if id ∈ ids then { state with closes := state.closes + 1 } else state

namespace Closes

variable {w w₁ w' : World} {ids more : List ClientId}

theorem nothing (w : World) : w.Closes [] w :=
  ⟨rfl, fun id => by simp⟩

theorem one {id : ClientId} {state : ClientState} (hstate : w.clients[id]? = some state)
    (hregistrations : w'.registrations = w.registrations)
    (hclients : w'.clients = w.clients.set id { state with closes := state.closes + 1 }) :
    w.Closes [id] w' := by
  refine ⟨hregistrations, fun other => ?_⟩
  rw [hclients, List.getElem?_set]
  by_cases hother : id = other
  · subst hother
    have hplace := (List.getElem?_eq_some_iff.mp hstate).1
    rw [if_pos rfl, if_pos hplace, hstate]
    simp
  · simp [hother, Ne.symm hother]

theorem noted (h : w.Closes ids w') (notices : List Notice) : w.Closes ids (w'.noted notices) :=
  ⟨h.registrations, h.clients⟩

theorem map_client (h : w.Closes ids w') (id : ClientId) :
    w'.clients[id]?.map ClientState.client = w.clients[id]?.map ClientState.client := by
  rw [h.clients, Option.map_map]
  congr 1
  funext state
  simp only [Function.comp_apply]
  split <;> rfl

theorem canClose_eq (h : w.Closes ids w') (id : ClientId) : w'.canClose id = w.canClose id := by
  have hclient := congrArg (Option.any Client.canClose) (h.map_client id)
  simpa [canClose, Option.any_map, Function.comp_def] using hclient

theorem closeFault?_eq (h : w.Closes ids w') (id : ClientId) :
    w'.closeFault? id = w.closeFault? id := by
  have hclient := congrArg (Option.bind · Client.closeFault?) (h.map_client id)
  simpa [closeFault?, Option.bind_map, Function.comp_def] using hclient

theorem append (h : w.Closes ids w₁) (hmore : w₁.Closes more w')
    (hapart : ∀ id ∈ more, id ∉ ids) : w.Closes (ids ++ more) w' := by
  refine ⟨hmore.registrations.trans h.registrations, fun id => ?_⟩
  rw [hmore.clients, h.clients, Option.map_map]
  congr 1
  funext state
  by_cases hid : id ∈ more
  · simp [hid, hapart id hid]
  · simp [hid]

end Closes

end World

/-- A client that can be closed fails to be, or is closed once more. -/
theorem Client.perform_close {id : ClientId} {w : World} (hcan : w.canClose id = true) :
    (∃ cause, w.closeFault? id = some cause ∧ (close id).perform w = (.error cause, w)) ∨
      w.closeFault? id = none ∧ ∃ w₁, (close id).perform w = (.ok ⟨⟩, w₁) ∧ w.Closes [id] w₁ := by
  unfold World.canClose at hcan
  unfold close World.closeFault?
  cases hstate : w.clients[id]? with
  | none =>
      rw [hstate] at hcan
      cases hcan
  | some state =>
      rw [hstate, Option.any_some] at hcan
      simp only [Action.perform_bind, Action.perform_get, hstate, Option.bind_some]
      obtain ⟨client, closes, calls⟩ := state
      cases client with
      | service service channel => exact .inr ⟨rfl, _, rfl, .one hstate rfl rfl⟩
      | supplied name closing answer =>
          cases closing with
          | absent => cases hcan
          | returns => exact .inr ⟨rfl, _, rfl, .one hstate rfl rfl⟩
          | fails message => exact .inl ⟨.failed message, rfl, rfl⟩

namespace Registry

/-- Some registration of the list hands out what holds the client. -/
def Held (list : List Registration) (id : ClientId) : Prop :=
  ∃ r ∈ list, r.client.api? = some id

theorem held_cons {r : Registration} {rest : List Registration} {id : ClientId} :
    Held (r :: rest) id ↔ r.client.api? = some id ∨ Held rest id := by
  simp [Held]

theorem held_append {first later : List Registration} {id : ClientId} :
    Held (first ++ later) id ↔ Held first id ∨ Held later id := by
  simp [Held, or_and_right, exists_or]

/-- The clients whose closing is called while registrations are gone through,
in the order of the calls. If closing fails, the last one is that at which it
does. -/
def closeCalls (closed : List ClientId) : List Registration → World → List ClientId
  | [], _ => []
  | registration :: rest, w =>
      match registration.client.api? with
      | none => closeCalls closed rest w
      | some id =>
          if id ∈ closed || !w.canClose id then closeCalls closed rest w
          else id :: match (Client.close id).perform w with
            | (.ok _, w₁) =>
                closeCalls (id :: closed) rest (w₁.noted [.closedClient registration.provider])
            | (.error _, _) => []

/-- A run through registrations, with the closings that it calls: it passes over
what holds no client, one that was closed before or one that cannot be closed,
closes every other client, and ends where that fails. -/
inductive Closing : List ClientId → List Registration → World → List ClientId →
    Except Fault Unit → World → Prop
  | done {closed : List ClientId} {w : World} : Closing closed [] w [] (.ok ⟨⟩) w
  | pass {closed called : List ClientId} {r : Registration} {rest : List Registration}
      {w w' : World} {result : Except Fault Unit}
      (hpass : ∀ id, r.client.api? = some id → id ∈ closed ∨ w.canClose id = false)
      (hrest : Closing closed rest w called result w') :
      Closing closed (r :: rest) w called result w'
  | close {closed called : List ClientId} {r : Registration} {rest : List Registration}
      {id : ClientId} {w w₁ w' : World} {result : Except Fault Unit}
      (hapi : r.client.api? = some id) (hnew : id ∉ closed) (hcan : w.canClose id = true)
      (hfault : w.closeFault? id = none) (hcloses : w.Closes [id] w₁)
      (hrest : Closing (id :: closed) rest w₁ called result w') :
      Closing closed (r :: rest) w (id :: called) result w'
  | fail {closed : List ClientId} {r : Registration} {rest : List Registration}
      {id : ClientId} {w : World} {cause : Fault}
      (hapi : r.client.api? = some id) (hnew : id ∉ closed)
      (hfault : w.closeFault? id = some cause) :
      Closing closed (r :: rest) w [id] (.error cause) w

theorem closing (closed : List ClientId) (list : List Registration) (w : World) :
    Closing closed list w (closeCalls closed list w) ((closeClients closed list).perform w).1
      ((closeClients closed list).perform w).2 := by
  induction list generalizing closed w with
  | nil => exact .done
  | cons r rest ih =>
      unfold closeClients closeCalls
      cases hapi : r.client.api? with
      | none => exact .pass (fun id hid => by rw [hapi] at hid; cases hid) (ih closed w)
      | some id =>
          have hable : w.clients[id]?.any (·.client.canClose) = w.canClose id := rfl
          simp only [Action.perform_bind, Action.perform_get, hable]
          split
          · next hpass =>
              refine .pass (fun other hother => ?_) (ih closed w)
              cases hapi.symm.trans hother
              simpa using hpass
          · next hcalls =>
              simp only [Bool.or_eq_true, decide_eq_true_eq, Bool.not_eq_true', not_or,
                Bool.not_eq_false] at hcalls
              rcases Client.perform_close hcalls.2 with
                ⟨cause, hfault, hrun⟩ | ⟨hfault, w₁, hrun, hcloses⟩
              · rw [Action.perform_bind_of_error _ hrun, hrun]
                exact .fail hapi hcalls.1 hfault
              · rw [Action.perform_bind_of_ok _ hrun, hrun]
                exact .close hapi hcalls.1 hcalls.2 hfault (hcloses.noted _) (ih _ _)

namespace Closing

variable {closed called : List ClientId} {list : List Registration} {w w' : World}
  {result : Except Fault Unit}

/-- Only clients that are held, can be closed and were not closed before are
called, each once. -/
theorem sound (h : Closing closed list w called result w') :
    called.Nodup ∧ ∀ id ∈ called, id ∉ closed ∧ Held list id ∧ w.canClose id = true := by
  induction h with
  | done => exact ⟨List.nodup_nil, nofun⟩
  | pass hpass _ ih =>
      refine ⟨ih.1, fun id hid => ?_⟩
      obtain ⟨hnew, hheld, hcan⟩ := ih.2 id hid
      exact ⟨hnew, held_cons.mpr (.inr hheld), hcan⟩
  | close hapi hnew hcan _ hcloses _ ih =>
      obtain ⟨hdistinct, hrest⟩ := ih
      refine ⟨List.nodup_cons.mpr ⟨fun hmem => ?_, hdistinct⟩, fun other hother => ?_⟩
      · exact (hrest _ hmem).1 List.mem_cons_self
      · rcases List.mem_cons.mp hother with rfl | hother
        · exact ⟨hnew, held_cons.mpr (.inl hapi), hcan⟩
        · obtain ⟨hother, hheld, hcanOther⟩ := hrest other hother
          rw [hcloses.canClose_eq] at hcanOther
          exact ⟨fun hmem => hother (List.mem_cons_of_mem _ hmem), held_cons.mpr (.inr hheld),
            hcanOther⟩
  | fail hapi hnew hfault =>
      refine ⟨List.pairwise_singleton _ _, fun id hid => ?_⟩
      cases List.mem_singleton.mp hid
      exact ⟨hnew, held_cons.mpr (.inl hapi), World.canClose_of_closeFault? hfault⟩

/-- A run that returns has closed whatever is held and can be closed, and met
no client whose closing fails. -/
theorem returns (h : Closing closed list w called result w') (hresult : result = .ok ⟨⟩) :
    w.Closes called w' ∧
      ∀ id, Held list id → id ∉ closed → w.canClose id = true →
        id ∈ called ∧ w.closeFault? id = none := by
  induction h with
  | done => exact ⟨.nothing _, fun id ⟨_, hmem, _⟩ => by cases hmem⟩
  | pass hpass _ ih =>
      obtain ⟨hcloses, hall⟩ := ih hresult
      refine ⟨hcloses, fun other hheld hother hable => ?_⟩
      rcases held_cons.mp hheld with hapi | hheld
      · rcases hpass other hapi with hold | hcannot
        · exact absurd hold hother
        · rw [hable] at hcannot
          cases hcannot
      · exact hall other hheld hother hable
  | @close closed called r rest id w w₁ w' result hapi hnew hcan hfault hfirst hrest ih =>
      obtain ⟨hcloses, hall⟩ := ih hresult
      refine ⟨hfirst.append hcloses fun other hother hmem => ?_, fun other hheld hother hable => ?_⟩
      · have hcalled := (hrest.sound.2 other hother).1
        exact hcalled (List.mem_cons.mpr (.inl (List.mem_singleton.mp hmem)))
      · by_cases hsame : other = id
        · subst hsame
          exact ⟨List.mem_cons_self, hfault⟩
        · have hheld : Held rest other := by
            rcases held_cons.mp hheld with hapi' | hheld
            · exact absurd (Option.some.inj (hapi'.symm.trans hapi)) hsame
            · exact hheld
          obtain ⟨hmem, hnone⟩ := hall other hheld (by simp [hsame, hother])
            (by rw [hfirst.canClose_eq]; exact hable)
          rw [hfirst.closeFault?_eq] at hnone
          exact ⟨List.mem_cons_of_mem _ hmem, hnone⟩
  | fail => cases hresult

/-- A run that fails does so in the call that comes last; the clients that were
called before are closed. -/
theorem fails {cause : Fault} (h : Closing closed list w called result w')
    (hresult : result = .error cause) :
    ∃ before id, called = before ++ [id] ∧ w.closeFault? id = some cause ∧ w.Closes before w' := by
  induction h with
  | done => cases hresult
  | pass _ _ ih => exact ih hresult
  | close hapi hnew hcan hfault hfirst hrest ih =>
      obtain ⟨before, last, rfl, hlast, hcloses⟩ := ih hresult
      rw [hfirst.closeFault?_eq] at hlast
      refine ⟨_ :: before, last, rfl, hlast, hfirst.append hcloses fun other hother hmem => ?_⟩
      have hcalled := (hrest.sound.2 other (List.mem_append_left _ hother)).1
      exact hcalled (List.mem_cons.mpr (.inl (List.mem_singleton.mp hmem)))
  | fail _ _ hfault =>
      cases hresult
      exact ⟨[], _, rfl, hfault, .nothing _⟩

end Closing

/-- The clients whose closing is called when a registry is cleared. -/
def clearCalls (w : World) : List ClientId :=
  closeCalls [] w.registrations w

theorem nodup_clearCalls (w : World) : (clearCalls w).Nodup :=
  (closing [] w.registrations w).sound.1

theorem held_of_mem_clearCalls {w : World} {id : ClientId} (h : id ∈ clearCalls w) :
    Held w.registrations id ∧ w.canClose id = true :=
  ((closing [] w.registrations w).sound.2 id h).2

/-- Clearing either closes every client that is held and can be closed, and
drops all registrations, or fails with the closing that it calls last and keeps
them all. -/
theorem clear_closes (w : World) :
    (∃ w', (clear true).perform w = (.ok ⟨⟩, w') ∧ w'.registrations = [] ∧
      (∀ id, Held w.registrations id → w.canClose id = true →
        id ∈ clearCalls w ∧ w.closeFault? id = none) ∧
      ∀ id, w'.clients[id]? = w.clients[id]?.map fun state =>
        if id ∈ clearCalls w then { state with closes := state.closes + 1 } else state) ∨
    ∃ cause w' before id, (clear true).perform w = (.error cause, w') ∧
      clearCalls w = before ++ [id] ∧ w.closeFault? id = some cause ∧ w.Closes before w' := by
  have hrun := closing [] w.registrations w
  unfold clear
  simp only [if_true, Action.perform_bind, Action.perform_get]
  rcases hperform : (closeClients [] w.registrations).perform w with ⟨cause | _, w₁⟩
  · rw [hperform] at hrun
    obtain ⟨before, id, hcalls, hfault, hcloses⟩ := hrun.fails rfl
    exact .inr ⟨cause, w₁, before, id, rfl, hcalls, hfault, hcloses⟩
  · rw [hperform] at hrun
    obtain ⟨hcloses, hall⟩ := hrun.returns rfl
    exact .inl ⟨_, rfl, rfl, fun id hheld => hall id hheld (List.not_mem_nil), hcloses.clients⟩

/-- Whatever a registry holds and however closing goes: a registration of which
the client was called is left if and only if closing some held client fails.
Then all registrations are left, and all calls but the last one have closed
their clients. -/
theorem clear_leaves_called (w : World) :
    ((∃ id ∈ clearCalls w, Held ((clear true).perform w).2.registrations id) ↔
      ∃ id cause, Held w.registrations id ∧ w.closeFault? id = some cause) ∧
    ∀ cause w', (clear true).perform w = (.error cause, w') →
      ∃ before id, clearCalls w = before ++ [id] ∧ w.closeFault? id = some cause ∧
        w.Closes before w' := by
  rcases clear_closes w with ⟨w', hrun, hempty, hall, _⟩ |
    ⟨cause, w', before, id, hrun, hcalls, hfault, hcloses⟩
  · refine ⟨⟨?_, ?_⟩, ?_⟩
    · rintro ⟨id, _, r, hr, _⟩
      rw [hrun, hempty] at hr
      cases hr
    · rintro ⟨id, cause, hheld, hfault⟩
      have hnone := (hall id hheld (World.canClose_of_closeFault? hfault)).2
      rw [hfault] at hnone
      cases hnone
    · intro cause w₁ hfails
      rw [hrun] at hfails
      cases hfails
  · have hlast : id ∈ clearCalls w := by simp [hcalls]
    have hheld := (held_of_mem_clearCalls hlast).1
    refine ⟨⟨fun _ => ⟨id, cause, hheld, hfault⟩, fun _ => ⟨id, hlast, ?_⟩⟩, ?_⟩
    · rw [hrun, hcloses.registrations]
      exact hheld
    · intro cause' w₁ hfails
      rw [hrun] at hfails
      cases hfails
      exact ⟨before, id, hcalls, hfault, hcloses⟩

/-- Two clients of a caller's own, of which the second one cannot be closed
without failing. -/
private def fragile : World where
  clients := [⟨.supplied "ok" .returns fun _ _ => .null, 0, []⟩,
    ⟨.supplied "bad" (.fails "close failed: bad") fun _ _ => .null, 0, []⟩]

private def holding (capability : Capability) (provider name : String) (api : ClientId) :
    Registration where
  capability := capability
  provider := provider
  client := .standIn name (some api)
  options := some (.record { kind := .cohereChat, values := List.replicate 9 .null })

/-- After the first client was closed, the second one fails: both registrations
are left. -/
theorem clear_leaves_called_fragile :
    ¬∀ (w : World) (steps : List Step), ∀ id ∈ clearCalls (History.after w steps).world,
      ¬Held ((clear true).perform (History.after w steps).world).2.registrations id := by
  intro h
  let steps : List Step :=
    [.register (holding .chat "a" "m1" 0), .register (holding .embedding "b" "m2" 1)]
  have hcalls : clearCalls (History.after fragile steps).world = [0, 1] := rfl
  have hleft : ((clear true).perform (History.after fragile steps).world).2.registrations =
      [holding .chat "a" "m1" 0, holding .embedding "b" "m2" 1] := rfl
  apply h fragile steps 0
  · rw [hcalls]
    exact List.mem_cons_self
  · rw [hleft]
    exact ⟨_, List.mem_cons_self, rfl⟩

end Registry

end ModelWiring
