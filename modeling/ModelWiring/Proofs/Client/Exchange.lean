import ModelWiring.Proofs.Client.Sending
import ModelWiring.Proofs.Offline
import ModelWiring.Proofs.Reports

/-!
One exchange with the backend. A request that can be prepared leaves over an
open channel, takes the next reply, and the exchange comes to what that reply
says; a failed exchange is reported once, and nothing else is an error. Nothing
happens for a request that cannot be prepared.
-/

namespace ModelWiring

/-- A world that goes on over a channel: some requests left, as many replies
were taken, and the channel was not closed. -/
structure World.GoesOn (channel : Nat) (more : List Request) (w w' : World) : Prop where
  sent : w'.sent = w.sent ++ more
  replies : w'.replies = w.replies.drop more.length
  clients : w'.clients = w.clients
  isClosed : (w'.channel channel).isClosed = (w.channel channel).isClosed

/-- What the backend is understood to say when a reply comes for a request. -/
def World.received (w : World) (channel : Nat) (request : Request) (reply : Reply) :
    Except Fault Value := do
  let receipt ← Receipt.ofReply request reply
  receipt.document request
    (Cookie.receive w.today request.target receipt.headers (w.channel channel).cookies)

def World.nextReply (w : World) : Reply :=
  w.replies.headD .standard

namespace World.GoesOn

variable {channel : Nat} {more later : List Request} {w w₁ w' : World}

theorem refl (channel : Nat) (w : World) : GoesOn channel [] w w := by
  constructor <;> simp

theorem trans (h : GoesOn channel more w w₁) (hlater : GoesOn channel later w₁ w') :
    GoesOn channel (more ++ later) w w' := by
  constructor
  · rw [hlater.sent, h.sent, List.append_assoc]
  · rw [hlater.replies, h.replies, List.drop_drop, List.length_append]
  · rw [hlater.clients, h.clients]
  · rw [hlater.isClosed, h.isClosed]

theorem noted (h : GoesOn channel more w w') (notices : List Notice) :
    GoesOn channel more w (w'.noted notices) :=
  ⟨h.sent, h.replies, h.clients, h.isClosed⟩

end World.GoesOn

namespace ErrorsBetween

variable {w w' : World} {errors : List Notice}

theorem of_notices_eq (h : w'.notices = w.notices) : ErrorsBetween w w' [] :=
  ⟨[], by rw [h, List.append_nil], rfl⟩

theorem noted {n : Notice} (h : w'.notices = w.notices) (hlevel : n.level = .error) :
    ErrorsBetween w (w'.noted [n]) [n] :=
  ⟨[n], by rw [World.notices_noted, h], by simp [hlevel]⟩

end ErrorsBetween

namespace Action

theorem perform_takeReply (w : World) :
    takeReply.perform w = (.ok w.nextReply, { w with replies := w.replies.tail }) := by
  unfold takeReply World.nextReply
  rw [perform_bind_of_ok _ (perform_get w)]
  cases hreplies : w.replies with
  | nil =>
      have hsame : w = { w with replies := [] } := by rw [← hreplies]
      simp only [perform_pure, List.headD_nil, List.tail_nil, ← hsame]
  | cons reply rest => rfl

end Action

/-- A channel is as open after it is set as what it is set to. -/
theorem World.isClosed_set (w : World) (channel : Nat) {c : Channel}
    (h : c.isClosed = (w.channel channel).isClosed) :
    (World.channel { w with channels := w.channels.set channel c } channel).isClosed =
      (w.channel channel).isClosed := by
  simp only [World.channel, List.getD_eq_getElem?_getD, List.getElem?_set_self'] at h ⊢
  cases hplace : w.channels[channel]? with
  | none => rfl
  | some standing =>
      rw [hplace] at h
      exact h

/-- Sending a request takes the next reply and comes to what it says. -/
theorem Request.perform_send (request : Request) (channel : Nat) (w : World) :
    ∃ w', (request.send channel).perform w = (w.received channel request w.nextReply, w') ∧
      w.GoesOn channel [request] w' ∧ w'.notices = w.notices := by
  unfold send World.received
  rw [Action.perform_bind_of_ok _ (Action.perform_modify _ w),
    Action.perform_bind_of_ok _ (Action.perform_takeReply _), Action.perform_bind,
    Action.perform_lift]
  have hreply : World.nextReply { w with sent := w.sent ++ [request] } = w.nextReply := rfl
  rw [hreply]
  cases Receipt.ofReply request w.nextReply with
  | error cause => exact ⟨_, rfl, ⟨rfl, List.drop_one.symm, rfl, rfl⟩, rfl⟩
  | ok receipt =>
      simp only [Action.perform_bind, Action.perform_get, Action.setChannel, Action.perform_modify,
        Action.perform_lift]
      refine ⟨_, rfl, ⟨rfl, List.drop_one.symm, rfl, ?_⟩, rfl⟩
      exact World.isClosed_set { w with sent := w.sent ++ [request], replies := w.replies.tail }
        channel rfl

namespace Service

variable {s : Service} {channel : Nat} {endpoint table : Value} {w : World}

/-- The report about an exchange, if it failed. -/
def failures (endpoint : Value) : Except Fault Value → List Notice
  | .ok _ => []
  | .error cause => if cause.isExchange then [.requestFailed endpoint cause] else []

theorem failures_offline {r : Except Fault Value} (h : Offline r) (endpoint : Value) :
    failures endpoint r = [] := by
  cases r with
  | ok v => rfl
  | error cause => simp [failures, h cause rfl]

theorem perform_post_unprepared {cause : Fault}
    (h : s.prepare (w.channel channel).cookies endpoint table = .error cause) :
    (s.post channel endpoint table).perform w = (.error cause, w) := by
  unfold post
  rw [Action.perform_bind, Action.perform_get]
  simp only [h]
  rfl

theorem perform_post_prepared {request : Request}
    (h : s.prepare (w.channel channel).cookies endpoint table = .ok request)
    (hopen : (w.channel channel).isClosed = false) :
    ∃ w', (s.post channel endpoint table).perform w =
        (w.received channel request w.nextReply, w') ∧
      w.GoesOn channel [request] w' ∧
      ErrorsBetween w w' (failures endpoint (w.received channel request w.nextReply)) := by
  obtain ⟨w₁, hsend, hgoes, hnotices⟩ := request.perform_send channel w
  unfold post
  rw [Action.perform_bind, Action.perform_get]
  simp only [h]
  rw [Action.perform_bind_of_ok _ (Action.perform_lift (.ok request) w)]
  simp only [hopen, Bool.false_eq_true, if_false]
  rw [Action.perform_tryCatch, hsend]
  cases w.received channel request w.nextReply with
  | ok v => exact ⟨w₁, rfl, hgoes, .of_notices_eq hnotices⟩
  | error cause =>
      cases hcause : cause.isExchange with
      | false =>
          refine ⟨w₁, ?_, hgoes, ?_⟩
          · simp [hcause]
          · simp only [failures, hcause]
            exact .of_notices_eq hnotices
      | true =>
          refine ⟨w₁.noted [.requestFailed endpoint cause], ?_, hgoes.noted _, ?_⟩
          · simp [hcause, Action.perform_bind]
          · simp only [failures, hcause]
            exact .noted hnotices rfl

/-- A request that a client prepares although it keeps cookies, it also
prepares without them. -/
theorem prepare_without_cookies {cookies : List Cookie} {request : Request}
    (h : s.prepare cookies endpoint table = .ok request) :
    s.prepare [] endpoint table = .ok request := by
  obtain ⟨resolved, payload, target, body, hprepares, rfl⟩ := prepare_eq_ok_iff.mp h
  exact prepare_eq_ok_iff.mpr ⟨resolved, payload, target, body,
    { hprepares with kind_ok := fun hne => absurd rfl hne }, rfl⟩

end Service

theorem Client.perform_ask {s : Service} {channel : Nat} {w : World} {id : ClientId}
    (hclient : w.client? id = some (.service s channel)) (capability : Capability)
    (request : Value) :
    (ask id capability request).perform w =
      (s.post channel (s.endpoint capability) request).perform w := by
  obtain ⟨state, hstate, hservice⟩ := Option.map_eq_some_iff.mp hclient
  unfold ask
  rw [Action.perform_bind_of_ok _ (Action.perform_get w)]
  simp only [hstate, hservice]

/-- A client of the backend stands at a place, over a channel that is open. -/
structure World.Online (w : World) (id : ClientId) (s : Service) (channel : Nat) : Prop where
  client : w.client? id = some (.service s channel)
  isOpen : (w.channel channel).isClosed = false

theorem World.GoesOn.online {w w' : World} {channel : Nat} {more : List Request} {id : ClientId}
    {s : Service} (h : w.GoesOn channel more w') (hw : w.Online id s channel) :
    w'.Online id s channel := by
  constructor
  · rw [client?, h.clients]
    exact hw.client
  · rw [h.isClosed]
    exact hw.isOpen

end ModelWiring
