import ModelWiring.Proofs.Client.Place
import ModelWiring.Proofs.Options.Sent

/-!
What a chat model sends. The options of a call, laid over those of the model,
name the model that is asked and hold the parameters. Without a model nothing is
sent; with one a single request leaves, and what is read from its body is the
prompt, the model, the parameters and the project.
-/

namespace ModelWiring

theorem Headers.checkText_of_isAscii {s : List Char} (h : s.all Text.isAscii = true) :
    checkText s = .ok () := by
  have hnone : s.dropWhile Text.isAscii = [] := by
    rw [← List.append_nil s, List.dropWhile_append_of_pos (List.all_eq_true.mp h)]
    rfl
  rw [checkText, hnone]

namespace Service

/-- An endpoint is valid, and the requests to it go to the target. -/
structure Reaches (s : Service) (endpoint : Value) (target : Address) : Prop where
  target_ok : ∃ resolved, s.resolve endpoint = .ok resolved ∧ resolved.requestTarget = .ok target
  kind_ok : target.checkKind = .ok ()
  host_ok : ∃ host, Redirect.hostOf target = .ok host
  location_ok : Headers.checkText target.location = .ok ()

variable {s : Service} {endpoint : Value} {target : Address}

/-- A table that can be written leaves for a valid endpoint in one request. -/
theorem Reaches.leaving (h : s.Reaches endpoint target)
    (hascii : s.token.plainText.toList.all Text.isAscii = true) {c : Channel}
    (hopen : c.isClosed = false) {entries : Table} {body : List Char}
    (hbody : Json.write (.map (Keyed.put (.plain "project_id") s.projectId entries)) = .ok body) :
    s.leaving c endpoint (.map entries) = [{
      method := "POST"
      target
      authorization := target.credentials?.getD ("Bearer " ++ s.token.plainText)
      accept := "application/json"
      contentType := "application/json"
      body := String.ofList body }] := by
  obtain ⟨resolved, hresolved, htarget⟩ := h.target_ok
  have hbearer : Headers.checkText ("Bearer " ++ s.token.plainText).toList = .ok () := by
    apply Headers.checkText_of_isAscii
    rw [String.toList_append, List.all_append, hascii]
    decide
  have hprepares : s.Prepares c.cookies endpoint (.map entries) resolved
      (Keyed.put (.plain "project_id") s.projectId entries) target body :=
    ⟨hresolved, rfl, htarget, hbearer, fun _ => h.kind_ok, hbody, h.host_ok, h.location_ok⟩
  have hprepared := prepare_eq_ok_iff.mpr ⟨_, _, _, _, hprepares, rfl⟩
  simp only [Service.leaving, hprepared, hopen, Bool.false_eq_true, if_false]

end Service

namespace Record

/-- What is read from the body of a chat's request. -/
def chatBody (r : Record) (prompt project : String) : Value :=
  .map [("input", .text prompt), ("model_id", (r.get "model").received),
    ("parameters", .map r.parameters), ("project_id", .text project)]

/-- The table of a chat's request, without the project. -/
def chatTable (r : Record) (prompt : String) : Table :=
  [("input", .text prompt), ("model_id", (r.get "model").thaw),
    ("parameters", .map r.sentParameters)]

section

variable {r : Record} (hbuilt : r.Built) (hkind : r.kind = .watsonxChat) (hsends : r.Sends)
  (hadds : r.Adds)

include hbuilt hkind hsends hadds

/-- The table of a chat's request can be written, and what is read of it is the
body. -/
theorem Built.write_chatTable (prompt project : String) :
    ∃ body, Json.write (.map (Keyed.put (.plain "project_id") (.text project)
        (r.chatTable prompt))) = .ok body ∧
      ∀ limit, (r.chatBody prompt project).depth ≤ limit →
        Json.readWithin limit body = .ok (r.chatBody prompt project) := by
  have hreceived : (Value.map (Keyed.put (.plain "project_id") (.text project)
      (r.chatTable prompt))).received = r.chatBody prompt project := by
    rw [chatBody, ← hbuilt.received_parameters hkind hsends hadds,
      ← hbuilt.received_field hsends "model"]
    rfl
  have hdistinct := hbuilt.nodup_sentParameters hkind hsends hadds
  have hparameters : Json.WritableEntries r.sentParameters :=
    Json.writableEntries_iff.mpr fun entry hentry =>
      hbuilt.writable_wire hsends hadds (List.mem_filter.mp hentry).1
  have hwritable : Json.Writable (.map (Keyed.put (.plain "project_id") (.text project)
      (r.chatTable prompt))) :=
    ⟨(by decide : ["input", "model_id", "parameters", "project_id"].Nodup), trivial,
      hbuilt.writable_field hsends "model", ⟨hdistinct, hparameters⟩, trivial, trivial⟩
  obtain ⟨body, hbody, hread⟩ := Json.readWithin_write hwritable
  rw [← Value.depth_received, hreceived] at hread
  exact ⟨body, hbody, hread⟩

end

end Record

namespace Model

variable {m : Model} {d r : Record}

theorem callTable_eq (hclass : m.modelClass = .chat) (hdefaults : m.defaults = some d)
    {o : Option Record} (hoverlay : d.overlay o = .ok r) (hbuilt : r.Built)
    (hkind : r.kind = .watsonxChat) (hsends : r.Sends) (hadds : r.Adds) (prompt : String) :
    m.callTable (.text prompt) o = if (r.get "model").isTruthy then .ok (.map (r.chatTable prompt))
      else .error .modelRequired := by
  have hresolved : m.resolveOptions o = .ok r := by
    rw [resolveOptions, hdefaults]
    exact hoverlay
  have hwire := hbuilt.complete.wire_eq (hbuilt.extends hsends hadds)
  have htruthy : (r.get "model").thaw.isTruthy = (r.get "model").isTruthy := by
    rw [hbuilt.thaw_eq]
    exact Json.isTruthy_thaw (hsends.nests "model")
  unfold callTable
  simp only [hclass, ne_eq, not_true_eq_false, if_false, hresolved, ok_bind, hwire,
    hbuilt.get?_model hkind hsends hadds, htruthy]
  cases (r.get "model").isTruthy with
  | true => rfl
  | false => rfl

/-- A call of a chat model over an open channel, with a token that headers can
hold and a valid endpoint. The options of the call over those of the model give
a record; if that names no model, nothing is sent, and otherwise one request
whose body is read, down to its depth, as the prompt, the model, the parameters
and the project. -/
theorem call_sends {c : Connection} {s : Service} {project token : String} {w : World}
    {channel : Nat} {target : Address}
    (hclass : m.modelClass = .chat) (hdefaults : m.defaults = some d)
    (hkind : d.kind = .watsonxChat) (hservice : Service.ofConnection c = .ok s)
    (hproject : c.projectId = .text project) (htoken : c.iamToken = .text token)
    (hascii : token.toList.all Text.isAscii = true)
    (hreaches : s.Reaches c.textEndpoint target)
    (hclient : w.client? m.api = some (.service s channel))
    (hopen : (w.channel channel).isClosed = false) (prompt : String) (o : Option Record) :
    ∃ r, d.overlay o = .ok r ∧ (r.Sends → r.Adds →
      if (r.get "model").isTruthy then
        ∃ request, ((m.call (.text prompt) o).perform w).2.sent = w.sent ++ [request] ∧
          request.method = "POST" ∧ request.target = target ∧
          (Keyed.keys r.parameters).Nodup ∧
          ∀ limit, (r.chatBody prompt project).depth ≤ limit →
            Json.readWithin limit request.body.toList = .ok (r.chatBody prompt project)
      else (m.call (.text prompt) o).perform w = (.error .modelRequired, w)) := by
  have hconcrete : d.kind ≠ .common := by rw [hkind]; nofun
  have hoverlay := Record.overlay_eq hconcrete o
  have hbuilt : (d.overlaid o).Built := Record.built_ofFields _ _
  have hkind' : (d.overlaid o).kind = .watsonxChat := hkind
  refine ⟨_, hoverlay, fun hsends hadds => ?_⟩
  have htable := callTable_eq hclass hdefaults hoverlay hbuilt hkind' hsends hadds prompt
  cases htruthy : ((d.overlaid o).get "model").isTruthy with
  | false =>
      rw [htruthy] at htable
      simp only [Bool.false_eq_true, if_false] at htable ⊢
      rw [perform_call, htable]
  | true =>
      rw [htruthy] at htable
      simp only [if_true] at htable ⊢
      obtain ⟨-, -, -, htoken', hproject', hendpoint, -⟩ := Service.ofConnection_ok hservice
      obtain ⟨body, hbody, hread⟩ := hbuilt.write_chatTable hkind' hsends hadds prompt project
      rw [← hproject, ← hproject'] at hbody
      rw [← hendpoint] at hreaches
      have hplain : s.token.plainText = token := by rw [htoken', htoken]; rfl
      have hleaving := hreaches.leaving (hplain ▸ hascii) hopen hbody
      have hsent := sent_call hclient (.text prompt) o
      simp only [htable] at hsent
      refine ⟨_, hsent.trans (congrArg (w.sent ++ ·) hleaving), rfl, rfl,
        hbuilt.nodup_parameters hkind' hsends hadds, fun limit hlimit => ?_⟩
      rw [String.toList_ofList]
      exact hread limit hlimit

/-- A chat model of the one connection. -/
private def penalizingModel : Model where
  modelClass := .chat
  api := 0
  defaults := some <| .ofFields .watsonxChat fun
    | "model" => .text "granite"
    | "additional" => .frozen [("penalty", .frozen [("decay", .tuple [.int 2, .bool true])])]
    | _ => .null

/-- Options of another kind, with a word among the stops. -/
private def stopping : Record :=
  .ofFields .cohereChat fun
    | "temperature" => .float (.finite false Double.fullSignificand (-53))
    | "stop_sequences" => .tuple [.text "END", .choice (.truncate .start)]
    | _ => .null

private def stoppingPenalizing : Record :=
  .ofFields .watsonxChat fun
    | "model" => .text "granite"
    | "temperature" => .float (.finite false Double.fullSignificand (-53))
    | "stop_sequences" => .tuple [.text "END", .choice (.truncate .start)]
    | "additional" => .frozen [("penalty", .frozen [("decay", .tuple [.int 2, .bool true])])]
    | _ => .null

theorem call_sends_stopping :
    ∃ request, ((penalizingModel.call (.text "hi") (some stopping)).perform
        (Sample.world "generation")).2.sent = [request] ∧
      request.method = "POST" ∧ request.target.path = "/ml/generation".toList ∧
      Json.read request.body.toList = .ok (.map [
        ("input", .text "hi"), ("model_id", .text "granite"),
        ("parameters", .map [
          ("temperature", .float (.finite false Double.fullSignificand (-53))),
          ("stop_sequences", .list [.text "END", .text "START"]),
          ("penalty", .map [("decay", .list [.int 2, .bool true])])]),
        ("project_id", .text "p")]) := by
  have hservice : Service.ofConnection (Sample.connection "generation") =
      .ok (Sample.service "generation") := by rfl
  have hreaches : (Sample.service "generation").Reaches (.text "generation")
      { Sample.place with path := "/ml/generation".toList } :=
    ⟨⟨_, by rfl, by rfl⟩, by rfl, ⟨_, rfl⟩, by rfl⟩
  obtain ⟨r, hoverlay, hsent⟩ := call_sends (m := penalizingModel) rfl rfl rfl hservice rfl rfl
    (by decide) hreaches (Sample.client_world _) rfl "hi" (some stopping)
  obtain rfl : stoppingPenalizing = r := Except.ok.inj hoverlay
  obtain ⟨request, hrequest, hmethod, htarget, -, hread⟩ := hsent (by decide +kernel)
    (.inr ⟨_, rfl, by decide⟩)
  refine ⟨request, hrequest, hmethod, by rw [htarget], ?_⟩
  rw [Json.read_eq_readWithin]
  exact hread Json.greatestDepth (by decide +kernel)

end Model

end ModelWiring
