import ModelWiring.Model.Asking
import ModelWiring.Proofs.Action

/-!
What leaves through a client of the backend. Asking it, by itself or through a
model, comes down to one table for one endpoint; what leaves is the request that
is prepared of these, once, and nothing if none can be prepared or the channel is
closed. How the answer is read sends nothing more.
-/

namespace ModelWiring

namespace Action

variable {α β : Type}

/-- The action sends nothing. -/
def Quiet (act : Action α) : Prop :=
  ∀ w, (act.perform w).2.sent = w.sent

theorem quiet_pure (a : α) : (pure a : Action α).Quiet := fun _ => rfl

theorem quiet_throw (cause : Fault) : (throw cause : Action α).Quiet := fun _ => rfl

theorem quiet_get : (get : Action World).Quiet := fun _ => rfl

theorem quiet_lift (r : Except Fault α) : (liftM r : Action α).Quiet := fun w => by
  rw [perform_lift]

theorem quiet_note (n : Notice) : (note n).Quiet := fun _ => rfl

theorem quiet_setChannel (place : Nat) (c : Channel) : (setChannel place c).Quiet := fun _ => rfl

theorem quiet_takeReply : takeReply.Quiet := fun w => by
  cases hreplies : w.replies <;> simp [takeReply, perform_bind, hreplies]

/-- What follows quietly changes nothing of what was sent before. -/
theorem sent_bind {next : α → Action β} (hnext : ∀ a, (next a).Quiet) (act : Action α)
    (w : World) : ((act >>= next).perform w).2.sent = (act.perform w).2.sent := by
  rw [perform_bind]
  rcases hact : act.perform w with ⟨_ | a, w₁⟩
  · rfl
  · exact hnext a w₁

theorem Quiet.bind {act : Action α} {next : α → Action β} (hact : act.Quiet)
    (hnext : ∀ a, (next a).Quiet) : (act >>= next).Quiet := fun w => by
  rw [sent_bind hnext, hact]

theorem sent_tryCatch {handler : Fault → Action α} (hhandler : ∀ cause, (handler cause).Quiet)
    (act : Action α) (w : World) :
    ((tryCatch act handler).perform w).2.sent = (act.perform w).2.sent := by
  rw [perform_tryCatch]
  rcases hact : act.perform w with ⟨cause | a, w₁⟩
  · exact hhandler cause w₁
  · rfl

end Action

open ModelWiring.Action

theorem Request.sent_send (request : Request) (channel : Nat) (w : World) :
    ((request.send channel).perform w).2.sent = w.sent ++ [request] := by
  unfold send
  rw [perform_bind, perform_modify]
  refine Quiet.bind quiet_takeReply (fun reply => ?_) _
  refine Quiet.bind (quiet_lift _) fun receipt => ?_
  refine Quiet.bind quiet_get fun w => ?_
  exact Quiet.bind (quiet_setChannel _ _) fun _ => quiet_lift _

/-- What a request is prepared from: the address that the endpoint is resolved
to, and the body's table. -/
structure Service.Prepares (s : Service) (cookies : List Cookie) (endpoint table : Value)
    (resolved : Address) (payload : Table) (target : Address) (body : List Char) : Prop where
  resolved_ok : s.resolve endpoint = .ok resolved
  payload_ok : s.payload table = .ok payload
  target_ok : resolved.requestTarget = .ok target
  bearer_ok : Headers.checkText ("Bearer " ++ s.token.plainText).toList = .ok ()
  kind_ok : cookies ≠ [] → target.checkKind = .ok ()
  body_ok : Json.write (.map payload) = .ok body
  host_ok : ∃ host, Redirect.hostOf target = .ok host
  location_ok : Headers.checkText target.location = .ok ()

theorem Service.prepare_eq_ok_iff {s : Service} {cookies : List Cookie} {endpoint table : Value}
    {request : Request} :
    s.prepare cookies endpoint table = .ok request ↔ ∃ resolved payload target body,
      s.Prepares cookies endpoint table resolved payload target body ∧ request = {
        method := "POST"
        target
        authorization := target.credentials?.getD ("Bearer " ++ s.token.plainText)
        accept := "application/json"
        contentType := "application/json"
        body := String.ofList body } := by
  constructor
  · intro h
    unfold prepare at h
    obtain ⟨resolved, hresolved, h⟩ := bind_ok h
    obtain ⟨payload, hpayload, h⟩ := bind_ok h
    obtain ⟨target, htarget, h⟩ := bind_ok h
    obtain ⟨⟨⟩, hbearer, h⟩ := bind_ok h
    obtain ⟨hkind, h⟩ := check_ok h
    obtain ⟨body, hbody, h⟩ := bind_ok h
    obtain ⟨host, hhost, h⟩ := bind_ok h
    obtain ⟨⟨⟩, hlocation, h⟩ := bind_ok h
    cases h
    exact ⟨resolved, payload, target, body, ⟨hresolved, hpayload, mapError_ok htarget, hbearer,
      fun hcookies => hkind (by simpa using hcookies), hbody, ⟨host, hhost⟩, hlocation⟩, rfl⟩
  · rintro ⟨resolved, payload, target, body, h, rfl⟩
    obtain ⟨host, hhost⟩ := h.host_ok
    unfold prepare
    rw [h.resolved_ok, ok_bind, h.payload_ok, ok_bind, h.target_ok, ok_mapError, ok_bind]
    simp only [h.bearer_ok, ok_bind, h.body_ok, hhost, h.location_ok]
    split
    · next hcookies =>
        rw [h.kind_ok (by simpa using hcookies), ok_bind]
        rfl
    · rfl

/-- What leaves over a channel for a table that an endpoint is asked with. -/
def Service.leaving (s : Service) (c : Channel) (endpoint request : Value) : List Request :=
  match s.prepare c.cookies endpoint request with
  | .ok request => if c.isClosed then [] else [request]
  | .error _ => []

section

variable {s : Service} {channel : Nat} {w : World}

theorem Service.sent_post (endpoint request : Value) :
    ((s.post channel endpoint request).perform w).2.sent =
      w.sent ++ s.leaving (w.channel channel) endpoint request := by
  unfold post leaving
  rw [perform_bind, perform_get]
  simp only
  cases hprepared : s.prepare (w.channel channel).cookies endpoint request with
  | error cause => simp [perform_bind]
  | ok prepared =>
      rw [perform_bind, perform_lift]
      simp only
      cases hclosed : (w.channel channel).isClosed with
      | true => simp
      | false =>
          simp only [Bool.false_eq_true, if_false]
          rw [sent_tryCatch, Request.sent_send]
          intro cause
          split
          · exact Quiet.bind (quiet_note _) fun _ => quiet_throw cause
          · exact quiet_throw cause

/-- A client of a world by its place. -/
def World.client? (w : World) (id : ClientId) : Option Client :=
  w.clients[id]?.map (·.client)

variable {id : ClientId} (hclient : w.client? id = some (.service s channel))

include hclient

theorem Client.sent_ask (capability : Capability) (request : Value) :
    ((ask id capability request).perform w).2.sent =
      w.sent ++ s.leaving (w.channel channel) (s.endpoint capability) request := by
  obtain ⟨state, hstate, hservice⟩ := Option.map_eq_some_iff.mp hclient
  unfold ask
  rw [perform_bind, perform_get]
  simp only [hstate, hservice]
  exact Service.sent_post _ _

end

namespace Model

/-- The table that a call asks the client with. -/
def callTable (m : Model) (prompt : Value) (options : Option Record) : Except Fault Value := do
  if m.modelClass ≠ .chat then throw (.noMember m.modelClass.name "call")
  let resolved ← m.resolveOptions options
  let parameters ← resolved.wire
  let model := (Keyed.get? "model" parameters).getD .null
  if !model.isTruthy then throw .modelRequired
  return .map [("input", prompt), ("model_id", model),
    ("parameters", .map (Keyed.erase "model" parameters))]

/-- The table that an embedding asks the client with, which none is needed for
where there are no texts. -/
def embedTable (m : Model) (texts : Value) (options : Option Record) :
    Except Fault (Option Value) := do
  if m.modelClass ≠ .embedding then throw (.noMember m.modelClass.name "embed")
  if !texts.isTruthy then return none
  let resolved ← m.resolveOptions options
  let inputs ← texts.elements
  return some (.map [("inputs", .list inputs), ("model_id", resolved.answer "model")])

/-- What a call makes of the answer. -/
def callAnswer (response : Value) : Action Value := do
  match ← liftM (response.lookUp "results") with
  | .list (first :: _) =>
      return (Keyed.get? "generated_text" (← liftM first.mapEntries)).getD (.text "")
  | _ => throw (.malformedAnswer .chat)

/-- What an embedding makes of the answer. -/
def embedAnswer (response : Value) : Action Value := do
  match ← liftM (response.lookUp "results") with
  | .list items => return .list (← liftM (items.mapM fun item => item.lookUp "embedding"))
  | _ => throw (.malformedAnswer .embedding)

theorem quiet_callAnswer (response : Value) : (callAnswer response).Quiet := by
  refine Quiet.bind (quiet_lift _) fun results => ?_
  split
  · exact Quiet.bind (quiet_lift _) fun entries => quiet_pure _
  · exact quiet_throw _

theorem quiet_embedAnswer (response : Value) : (embedAnswer response).Quiet := by
  refine Quiet.bind (quiet_lift _) fun results => ?_
  split
  · exact Quiet.bind (quiet_lift _) fun items => quiet_pure _
  · exact quiet_throw _

variable (m : Model)

theorem perform_call (prompt : Value) (options : Option Record) (w : World) :
    (m.call prompt options).perform w = match m.callTable prompt options with
      | .ok table => (Client.ask m.api .chat table >>= callAnswer).perform w
      | .error cause => (.error cause, w) := by
  unfold call callTable
  by_cases hclass : m.modelClass = .chat
  · simp only [hclass, ne_eq, not_true_eq_false, if_false]
    cases m.resolveOptions options with
    | error cause => rfl
    | ok resolved =>
        rw [perform_bind_of_ok _ (perform_lift (.ok resolved) w), ok_bind]
        cases resolved.wire with
        | error cause => rfl
        | ok parameters =>
            rw [perform_bind_of_ok _ (perform_lift (.ok parameters) w), ok_bind]
            cases ((Keyed.get? "model" parameters).getD .null).isTruthy with
            | false =>
                simp only [Bool.not_false, if_true]
                rfl
            | true =>
                simp only [Bool.not_true, Bool.false_eq_true, if_false]
                rfl
  · simp only [hclass, ne_eq, not_false_eq_true, if_true]
    rfl

theorem perform_embed (texts : Value) (options : Option Record) (w : World) :
    (m.embed texts options).perform w = match m.embedTable texts options with
      | .ok (some table) => (Client.ask m.api .embedding table >>= embedAnswer).perform w
      | .ok none => (.ok (.list []), w)
      | .error cause => (.error cause, w) := by
  unfold embed embedTable
  by_cases hclass : m.modelClass = .embedding
  · simp only [hclass, ne_eq, not_true_eq_false, if_false]
    cases texts.isTruthy with
    | false => rfl
    | true =>
        simp only [Bool.not_true, Bool.false_eq_true, if_false]
        cases m.resolveOptions options with
        | error cause => rfl
        | ok resolved =>
            rw [perform_bind_of_ok _ (perform_lift (.ok resolved) w), ok_bind]
            cases texts.elements with
            | error cause => rfl
            | ok inputs => rfl
  · simp only [hclass, ne_eq, not_false_eq_true, if_true]
    rfl

section

variable {m} {s : Service} {channel : Nat} {w : World}
variable (hclient : w.client? m.api = some (.service s channel))

include hclient

theorem sent_call (prompt : Value) (options : Option Record) :
    ((m.call prompt options).perform w).2.sent = w.sent ++
      match m.callTable prompt options with
      | .ok table => s.leaving (w.channel channel) s.textEndpoint table
      | .error _ => [] := by
  rw [perform_call]
  cases m.callTable prompt options with
  | error cause => simp
  | ok table =>
      simp only
      rw [sent_bind quiet_callAnswer, Client.sent_ask hclient]
      rfl

theorem sent_embed (texts : Value) (options : Option Record) :
    ((m.embed texts options).perform w).2.sent = w.sent ++
      match m.embedTable texts options with
      | .ok (some table) => s.leaving (w.channel channel) s.embeddingEndpoint table
      | .ok none | .error _ => [] := by
  rw [perform_embed]
  cases m.embedTable texts options with
  | error cause => simp
  | ok table =>
      cases table with
      | none => simp
      | some table =>
          simp only
          rw [sent_bind quiet_embedAnswer, Client.sent_ask hclient]
          rfl

end

end Model

/-- The ways to ask a client for a capability: by itself, or through a model of
it. -/
inductive Asks (id : ClientId) : Capability → Action Value → Prop where
  | client (capability : Capability) (request : Value) :
      Asks id capability (Client.ask id capability request)
  | call (m : Model) (hm : m.api = id) (prompt : Value) (options : Option Record) :
      Asks id .chat (m.call prompt options)
  | embed (m : Model) (hm : m.api = id) (texts : Value) (options : Option Record) :
      Asks id .embedding (m.embed texts options)

section

variable {s : Service} {channel : Nat} {w : World} {id : ClientId} {capability : Capability}
  {act : Action Value}

theorem Service.leaving_prepared (c : Channel) (endpoint table : Value) :
    (s.leaving c endpoint table).length ≤ 1 ∧ ∀ request ∈ s.leaving c endpoint table,
      s.prepare c.cookies endpoint table = .ok request := by
  unfold leaving
  split
  · next prepared hprepared =>
      split
      · simp
      · simp [hprepared]
  · simp

/-- In each way, at most one request leaves, and it is prepared for the endpoint
of the capability. -/
theorem Asks.sent (h : Asks id capability act)
    (hclient : w.client? id = some (.service s channel)) :
    ∃ more, (act.perform w).2.sent = w.sent ++ more ∧ more.length ≤ 1 ∧ ∀ request ∈ more,
      ∃ table, s.prepare (w.channel channel).cookies (s.endpoint capability) table =
        .ok request := by
  have hsome (table : Value) {more : List Request}
      (hmore : more = s.leaving (w.channel channel) (s.endpoint capability) table) :
      more.length ≤ 1 ∧ ∀ request ∈ more, ∃ table,
        s.prepare (w.channel channel).cookies (s.endpoint capability) table = .ok request := by
    subst hmore
    obtain ⟨hlength, hprepared⟩ := s.leaving_prepared (w.channel channel)
      (s.endpoint capability) table
    exact ⟨hlength, fun request hrequest => ⟨table, hprepared request hrequest⟩⟩
  cases h with
  | client capability request =>
      exact ⟨_, Client.sent_ask hclient capability request, hsome request rfl⟩
  | call m hm prompt options =>
      subst hm
      refine ⟨_, Model.sent_call hclient prompt options, ?_⟩
      cases m.callTable prompt options with
      | error cause => simp
      | ok table => exact hsome table rfl
  | embed m hm texts options =>
      subst hm
      refine ⟨_, Model.sent_embed hclient texts options, ?_⟩
      cases m.embedTable texts options with
      | error cause => simp
      | ok table =>
          cases table with
          | none => simp
          | some table => exact hsome table rfl

end

end ModelWiring
