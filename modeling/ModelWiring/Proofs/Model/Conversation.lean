import ModelWiring.Proofs.Client.Exchange
import ModelWiring.Proofs.Client.Place
import ModelWiring.Proofs.Options.Building

/-!
Runs of steps on one model. A step is planned before anything is sent: it comes
to a table for the backend, to a value that needs no asking, or to a fault. Only
a table leads to an exchange, and to one alone. So over a whole run the requests
and the replies stay in step, whatever fails on the way: the request with a
given number is answered by the reply with that number, and it is the request
that the step would send if it were the first.
-/

namespace ModelWiring

namespace Model

/-- Something that a model or its client is asked to do. -/
inductive Step where
  | call (prompt : Value) (options : Option Record)
  | embed (texts : Value) (options : Option Record)
  | resolve (options : Option Record)
  | post (capability : Capability) (request : Value)

/-- The options of a call over those of a chat model; other models do not tell
them. -/
def resolved (m : Model) (options : Option Record) : Except Fault Record :=
  if m.modelClass = .chat then m.resolveOptions options
  else .error (.noMember m.modelClass.name "resolve_options")

/-- What is read from the answer to a call. -/
def readCall (response : Value) : Except Fault Value := do
  match ← response.lookUp "results" with
  | .list (first :: _) => return (Keyed.get? "generated_text" (← first.mapEntries)).getD (.text "")
  | _ => throw (.malformedAnswer .chat)

/-- What is read from the answer to an embedding. -/
def readEmbed (response : Value) : Except Fault Value := do
  match ← response.lookUp "results" with
  | .list items => return .list (← items.mapM fun item => item.lookUp "embedding")
  | _ => throw (.malformedAnswer .embedding)

namespace Step

/-- Does the step. -/
def act (m : Model) : Step → Action Value
  | call prompt options => m.call prompt options
  | embed texts options => m.embed texts options
  | resolve options => do return (← liftM (m.resolved options)).toValue
  | post capability request => Client.ask m.api capability request

/-- The capability whose endpoint the step asks, if it asks one. -/
def capability : Step → Capability
  | call .. | resolve _ => .chat
  | embed .. => .embedding
  | post capability _ => capability

/-- What the step comes to without any exchange: a value, or the table that the
backend is asked with. -/
def plan (m : Model) : Step → Except Fault (Value ⊕ Value)
  | call prompt options => do return .inr (← m.callTable prompt options)
  | embed texts options => do
      match ← m.embedTable texts options with
      | some table => return .inr table
      | none => return .inl (.list [])
  | resolve options => do return .inl (← m.resolved options).toValue
  | post _ request => .ok (.inr request)

/-- What the step reads from the document of an answer. -/
def read : Step → Value → Except Fault Value
  | call .. => readCall
  | embed .. => readEmbed
  | resolve _ | post .. => .ok

/-- The world after some steps, of which any may have failed. -/
def after (m : Model) (steps : List Step) (w : World) : World :=
  steps.foldl (fun w step => ((step.act m).perform w).2) w

end Step

theorem perform_callAnswer (response : Value) (w : World) :
    (callAnswer response).perform w = (readCall response, w) := by
  unfold callAnswer readCall
  rw [Action.perform_bind, Action.perform_lift]
  cases response.lookUp "results" with
  | error cause => rfl
  | ok results =>
      cases results with
      | list items =>
          cases items with
          | nil => rfl
          | cons first rest =>
              simp only [ok_bind, Action.perform_bind, Action.perform_lift]
              cases first.mapEntries <;> rfl
      | _ => rfl

theorem perform_embedAnswer (response : Value) (w : World) :
    (embedAnswer response).perform w = (readEmbed response, w) := by
  unfold embedAnswer readEmbed
  rw [Action.perform_bind, Action.perform_lift]
  cases response.lookUp "results" with
  | error cause => rfl
  | ok results =>
      cases results with
      | list items =>
          simp only [ok_bind, Action.perform_bind, Action.perform_lift]
          cases items.mapM fun item => item.lookUp "embedding" <;> rfl
      | _ => rfl

theorem offline_resolveOptions (m : Model) (options : Option Record) :
    Offline (m.resolveOptions options) := by
  unfold resolveOptions
  split
  · exact Record.offline_overlay _ _
  · exact .error rfl

theorem offline_resolved (m : Model) (options : Option Record) : Offline (m.resolved options) :=
  .check (m.offline_resolveOptions options) (.error rfl)

theorem offline_callTable (m : Model) (prompt : Value) (options : Option Record) :
    Offline (m.callTable prompt options) := by
  have hrest : Offline (do
      let resolved ← m.resolveOptions options
      let parameters ← resolved.wire
      let model := (Keyed.get? "model" parameters).getD .null
      if !model.isTruthy then throw .modelRequired
      return .map [("input", prompt), ("model_id", model),
        ("parameters", .map (Keyed.erase "model" parameters))] : Except Fault Value) := by
    apply (m.offline_resolveOptions options).bind
    intro resolved
    apply resolved.offline_wire.bind
    intro parameters
    exact .check (.error rfl) (.ok _)
  exact .check (.error rfl) hrest

theorem offline_embedTable (m : Model) (texts : Value) (options : Option Record) :
    Offline (m.embedTable texts options) := by
  have hrest : Offline (do
      let resolved ← m.resolveOptions options
      let inputs ← texts.elements
      return some (.map [("inputs", .list inputs), ("model_id", resolved.answer "model")]) :
        Except Fault (Option Value)) := by
    apply (m.offline_resolveOptions options).bind
    intro resolved
    exact texts.offline_elements.bind fun _ => .ok _
  exact .check (.error rfl) (.check (.ok none) hrest)

theorem offline_readCall (response : Value) : Offline (readCall response) := by
  apply (response.offline_lookUp _).bind
  intro results
  split
  · exact (Value.offline_mapEntries _).bind fun _ => .ok _
  · exact .error rfl

theorem offline_readEmbed (response : Value) : Offline (readEmbed response) := by
  apply (response.offline_lookUp _).bind
  intro results
  split
  · exact (Offline.mapM (fun item => item.offline_lookUp _) _).bind fun _ => .ok _
  · exact .error rfl

namespace Step

theorem offline_plan (m : Model) (step : Step) : Offline (step.plan m) := by
  cases step with
  | call prompt options => exact (m.offline_callTable prompt options).bind fun _ => .ok _
  | embed texts options =>
      apply (m.offline_embedTable texts options).bind
      intro table
      cases table with
      | some table => exact .ok _
      | none => exact .ok _
  | resolve options => exact (m.offline_resolved options).bind fun _ => .ok _
  | post capability request => exact .ok _

theorem offline_read (step : Step) (response : Value) : Offline (step.read response) := by
  cases step with
  | call => exact offline_readCall response
  | embed => exact offline_readEmbed response
  | resolve | post => exact .ok _

/-- Doing a step is carrying out its plan. -/
theorem perform_act (m : Model) (step : Step) (w : World) :
    (step.act m).perform w = match step.plan m with
      | .error cause => (.error cause, w)
      | .ok (.inl v) => (.ok v, w)
      | .ok (.inr table) => (Client.ask m.api step.capability table >>= fun response =>
          liftM (step.read response)).perform w := by
  cases step with
  | call prompt options =>
      simp only [act, plan, perform_call]
      cases m.callTable prompt options with
      | error cause => rfl
      | ok table =>
          apply Action.perform_bind_congr
          intro response w
          rw [perform_callAnswer, Action.perform_lift]
          rfl
  | embed texts options =>
      simp only [act, plan, perform_embed]
      cases m.embedTable texts options with
      | error cause => rfl
      | ok table =>
          cases table with
          | none => rfl
          | some table =>
              apply Action.perform_bind_congr
              intro response w
              rw [perform_embedAnswer, Action.perform_lift]
              rfl
  | resolve options =>
      simp only [act, plan]
      rw [Action.perform_bind, Action.perform_lift]
      cases m.resolved options <;> rfl
  | post capability request =>
      simp only [act, plan, Step.read, Step.capability]
      rw [Action.perform_bind]
      rcases (Client.ask m.api capability request).perform w with ⟨_ | response, w₁⟩ <;> rfl

variable {m : Model} {s : Service} {channel : Nat} {w : World} {step : Step}

theorem sent_act (hclient : w.client? m.api = some (.service s channel)) (step : Step) :
    ((step.act m).perform w).2.sent = w.sent ++
      match step.plan m with
      | .ok (.inr table) => s.leaving (w.channel channel) (s.endpoint step.capability) table
      | .ok (.inl _) | .error _ => [] := by
  rw [perform_act]
  cases step.plan m with
  | error cause => simp
  | ok planned =>
      cases planned with
      | inl v => simp
      | inr table =>
          simp only
          rw [Action.sent_bind (fun response => Action.quiet_lift _), Client.sent_ask hclient]

/-- What a step comes to in a world with a reply at hand: at most one request
leaves and takes that reply, which decides the result. The step sends the same
request as the first one of a run, and reports an error if its result is a
failed exchange, and only then. -/
structure Done (m : Model) (s : Service) (channel : Nat) (step : Step) (reply : Reply) (w : World)
    (result : Except Fault Value) (w' : World) (more : List Request) : Prop where
  once : more.length ≤ 1
  goesOn : w.GoesOn channel more w'
  answered : ∀ request ∈ more, result = w.received channel request reply >>= step.read
  fresh : ∀ request ∈ more, ∀ (first : World) (place : Nat), first.Online m.api s place →
    (first.channel place).cookies = [] →
    ((step.act m).perform first).2.sent = first.sent ++ [request]
  errors : ErrorsBetween w w' (Service.failures (s.endpoint step.capability) result)

/-- A step that stops before anything is sent. -/
theorem Done.unsent {result : Except Fault Value} (hresult : Offline result) (reply : Reply) :
    Done m s channel step reply w result w [] := by
  constructor
  · simp
  · exact .refl channel w
  · simp
  · simp
  · rw [Service.failures_offline hresult]
    exact .of_notices_eq rfl

/-- A step whose request can be prepared sends it, and comes to what the reply
says. -/
theorem Done.exchanged {table : Value} {request : Request} (hw : w.Online m.api s channel)
    (hplan : step.plan m = .ok (.inr table))
    (hprepared : s.prepare (w.channel channel).cookies (s.endpoint step.capability) table =
      .ok request) :
    Done m s channel step w.nextReply w ((step.act m).perform w).1 ((step.act m).perform w).2
      [request] := by
  obtain ⟨w', hpost, hgoes, herrors⟩ := Service.perform_post_prepared hprepared hw.isOpen
  have hfresh : ∀ (first : World) (place : Nat), first.Online m.api s place →
      (first.channel place).cookies = [] →
      ((step.act m).perform first).2.sent = first.sent ++ [request] := by
    intro first place hfirst hcookies
    rw [sent_act hfirst.client, hplan]
    simp only [Service.leaving, hcookies, hfirst.isOpen,
      Service.prepare_without_cookies hprepared, Bool.false_eq_true, if_false]
  rw [perform_act, hplan]
  simp only
  rw [Action.perform_bind, Client.perform_ask hw.client, hpost]
  cases hreceived : w.received channel request w.nextReply with
  | error cause =>
      rw [hreceived] at herrors
      constructor
      · simp
      · exact hgoes
      · simp [hreceived]
        rfl
      · simpa using hfresh
      · exact herrors
  | ok response =>
      rw [hreceived] at herrors
      simp only [Action.perform_lift]
      constructor
      · simp
      · exact hgoes
      · simp [hreceived, ok_bind]
      · simpa using hfresh
      · rw [Service.failures_offline (step.offline_read response)]
        exact herrors

theorem done (hw : w.Online m.api s channel) (step : Step) :
    ∃ more, Done m s channel step w.nextReply w ((step.act m).perform w).1
      ((step.act m).perform w).2 more := by
  cases hplan : step.plan m with
  | error cause =>
      rw [perform_act, hplan]
      exact ⟨[], .unsent (.error (offline_plan m step cause hplan)) _⟩
  | ok planned =>
      cases planned with
      | inl v =>
          rw [perform_act, hplan]
          exact ⟨[], .unsent (.ok v) _⟩
      | inr table =>
          cases hprepared : s.prepare (w.channel channel).cookies (s.endpoint step.capability)
            table with
          | error cause =>
              rw [perform_act, hplan]
              simp only
              rw [Action.perform_bind, Client.perform_ask hw.client,
                Service.perform_post_unprepared hprepared]
              exact ⟨[], .unsent (.error (s.offline_prepare _ _ _ cause hprepared)) _⟩
          | ok request => exact ⟨[request], .exchanged hw hplan hprepared⟩

/-- As many replies were taken over a run as requests were sent, and the client
is still there and open. -/
theorem after_goesOn (hw : w.Online m.api s channel) (steps : List Step) :
    ∃ earlier, w.GoesOn channel earlier (after m steps w) := by
  induction steps generalizing w with
  | nil => exact ⟨[], .refl channel w⟩
  | cons step rest ih =>
      obtain ⟨more, hdone⟩ := done hw step
      obtain ⟨later, hlater⟩ := ih (hdone.goesOn.online hw)
      exact ⟨more ++ later, hdone.goesOn.trans hlater⟩

/-- A step after any others, over a channel that stays open: with `earlier` the
requests that were sent before it, its request is the next one, and it is
answered by the reply with the same number of the replies that there were. -/
theorem conversation (hw : w.Online m.api s channel) (before : List Step) (step : Step) :
    ∃ earlier more, w.GoesOn channel earlier (after m before w) ∧
      Done m s channel step (w.replies.getD earlier.length .standard) (after m before w)
        ((step.act m).perform (after m before w)).1 (after m (before ++ [step]) w) more := by
  obtain ⟨earlier, hearlier⟩ := after_goesOn hw before
  obtain ⟨more, hdone⟩ := done (hearlier.online hw) step
  have hreply : (after m before w).nextReply = w.replies.getD earlier.length .standard := by
    rw [World.nextReply, hearlier.replies, List.headD_eq_head?_getD, List.head?_drop,
      List.getD_eq_getElem?_getD]
  have hlast : after m (before ++ [step]) w = ((step.act m).perform (after m before w)).2 := by
    simp [after]
  rw [hreply] at hdone
  rw [hlast]
  exact ⟨earlier, more, hearlier, hdone⟩

/-- The first exchange is refused, the second one is answered. -/
private def refusedWorld : World :=
  { Sample.world "generation" with
    replies := [.failure (.transport .connect "refused"), .answer 200 "\x7b\"results\": []\x7d" []] }

private def askingModel : Model where
  modelClass := .chat
  api := 0
  defaults := some (.ofFields .watsonxChat fun
    | "model" => .text "granite"
    | _ => .null)

/-- A call that is refused leaves the second reply to the request after it. -/
theorem conversation_refused :
    ∃ earlier more,
      refusedWorld.GoesOn 0 earlier (after askingModel [call (.text "hi") none] refusedWorld) ∧
      earlier.length = 1 ∧ more.length = 1 ∧
      Done askingModel (Sample.service "generation") 0 (post .chat (.map [("input", .text "hi")]))
        (.answer 200 "\x7b\"results\": []\x7d" [])
        (after askingModel [call (.text "hi") none] refusedWorld)
        (((post .chat (.map [("input", .text "hi")])).act askingModel).perform
          (after askingModel [call (.text "hi") none] refusedWorld)).1
        (after askingModel [call (.text "hi") none, post .chat (.map [("input", .text "hi")])]
          refusedWorld) more := by
  have hw : refusedWorld.Online askingModel.api (Sample.service "generation") 0 := ⟨rfl, rfl⟩
  obtain ⟨earlier, more, hearlier, hdone⟩ := conversation hw [call (.text "hi") none]
    (post .chat (.map [("input", .text "hi")]))
  have hcount : (after askingModel [call (.text "hi") none] refusedWorld).sent.length = 1 ∧
      (after askingModel [call (.text "hi") none, post .chat (.map [("input", .text "hi")])]
        refusedWorld).sent.length = 2 := by
    decide +kernel
  have hfirst : earlier.length = 1 := by
    rw [hearlier.sent] at hcount
    exact hcount.1
  have hsecond : more.length = 1 := by
    have hsent := congrArg List.length hdone.goesOn.sent
    rw [List.length_append, hcount.1] at hsent
    exact Nat.add_left_cancel (hsent.symm.trans hcount.2)
  rw [hfirst] at hdone
  exact ⟨earlier, more, hearlier, hfirst, hsecond, hdone⟩

end Step

end Model

end ModelWiring
