import ModelWiring.Proofs.Failing
import ModelWiring.Proofs.Json.RoundTrip
import ModelWiring.Proofs.Model.Conversation
import ModelWiring.Proofs.Value.Table

/-!
What a model makes of the document that a successful answer brings. The document
is asked for its results as if it were a table, and so is each result; only the
results themselves are looked at before they are taken for a list. So a document
is answered as promised just if it fits what is asked of it.
-/

namespace ModelWiring

/-- A reply brings a text as the content of an answer with a status of success. -/
def Reply.Brings (reply : Reply) (request : Request) (text : List Char) : Prop :=
  ∃ receipt, Receipt.ofReply request reply = .ok receipt ∧ receipt.isSuccess = true ∧
    Text.Encoding.read receipt.content = .ok text

/-- A successful answer without headers brings its body. -/
theorem Reply.brings_of_success {status : Nat} {body : String} {request : Request}
    {text : List Char} (hstatus : 200 ≤ status ∧ status ≤ 299)
    (hkind : request.target.checkKind = .ok ())
    (htext : Text.Encoding.read (Text.bytesOf body.toList) = .ok text) :
    (answer status body []).Brings request text := by
  have hcontent : contentOf (Text.bytesOf body.toList) [] = .ok (Text.bytesOf body.toList) := by
    unfold contentOf
    split
    · next hempty => rw [List.isEmpty_iff.mp hempty]
    · rfl
  refine ⟨⟨status, [], Text.bytesOf body.toList⟩, ?_, by simpa [Receipt.isSuccess], htext⟩
  simp only [Receipt.ofReply, hcontent, ok_mapError, hkind]
  rfl

/-- An answer with a status of success brings what its text is read as. -/
theorem Receipt.document_of_isSuccess {receipt : Receipt} {text : List Char}
    (hsuccess : receipt.isSuccess = true) (htext : Text.Encoding.read receipt.content = .ok text)
    (request : Request) (cookies : List Cookie) :
    receipt.document request cookies = Json.read text := by
  have hstays : Redirect.location? receipt.status receipt.headers = none := by
    have hrange : 200 ≤ receipt.status ∧ receipt.status ≤ 299 := by
      simpa [isSuccess] using hsuccess
    rw [Redirect.location?, if_neg]
    simp only [Redirect.statuses, List.mem_cons, List.not_mem_nil, or_false]
    omega
  unfold document
  simp only [hstays, hsuccess, htext, if_true]
  rfl

theorem World.received_of_brings {w : World} {channel : Nat} {request : Request} {reply : Reply}
    {text : List Char} (h : reply.Brings request text) :
    w.received channel request reply = Json.read text := by
  obtain ⟨receipt, hreceipt, hsuccess, htext⟩ := h
  rw [received, hreceipt, ok_bind, Receipt.document_of_isSuccess hsuccess htext]

namespace Model

/-- The text that a result was generated with, empty where it has none. -/
def generatedText (first : Value) : Value :=
  (first.entries?.bind (Keyed.get? "generated_text")).getD (.text "")

theorem readCall_eq (doc : Value) :
    readCall doc =
      if doc.isTable then match doc.held "results" with
        | .list (first :: _) =>
            if first.isTable then .ok (generatedText first)
            else .error (.noMember first.typeName "get")
        | _ => .error (.malformedAnswer .chat)
      else .error (.noMember doc.typeName "get") := by
  unfold readCall
  rw [Value.lookUp_eq]
  cases doc.isTable with
  | false => rfl
  | true =>
      rw [if_pos rfl, if_pos rfl, ok_bind]
      cases doc.held "results" with
      | list items =>
          cases items with
          | nil => rfl
          | cons first rest => cases first <;> rfl
      | _ => rfl

theorem readEmbed_eq (doc : Value) :
    readEmbed doc =
      if doc.isTable then match doc.held "results" with
        | .list items => match items.find? (!·.isTable) with
            | none => .ok (.list (items.map (Value.held "embedding")))
            | some stray => .error (.noMember stray.typeName "get")
        | _ => .error (.malformedAnswer .embedding)
      else .error (.noMember doc.typeName "get") := by
  unfold readEmbed
  rw [Value.lookUp_eq]
  cases doc.isTable with
  | false => rfl
  | true =>
      rw [if_pos rfl, if_pos rfl, ok_bind]
      cases doc.held "results" with
      | list items =>
          simp only [Value.mapM_lookUp]
          cases items.find? (!·.isTable) <;> rfl
      | _ => rfl

namespace Step

/-- What a document must be for a step to answer as promised: a table; and what
it holds as results, if that is a list, must begin with a table for a call, and
for an embedding have a vector for each text and nothing else. -/
def Fits (doc : Value) : Step → Prop
  | call .. => doc.isTable = true ∧
      ∀ first more, doc.held "results" = .list (first :: more) → first.isTable = true
  | embed texts _ => doc.isTable = true ∧
      ∀ items, doc.held "results" = .list items →
        items.length = (texts.elements?.getD []).length ∧
        ∀ item ∈ items, item.isTable = true ∧ item.held "embedding" ≠ .null
  | resolve _ | post .. => True

/-- What is promised of a step that a document is brought for: the text of the
first result, one vector for each text in the order of the results, or a
complaint about the answer. -/
inductive Promised (doc : Value) : Step → Except Fault Value → Prop where
  | generated {prompt : Value} {options : Option Record} {first : Value} {more : List Value}
      (hresults : doc.held "results" = .list (first :: more)) :
      Promised doc (call prompt options) (.ok (generatedText first))
  | embedded {texts : Value} {options : Option Record} {items : List Value}
      (hresults : doc.held "results" = .list items)
      (hcount : items.length = (texts.elements?.getD []).length)
      (hsome : ∀ item ∈ items, item.held "embedding" ≠ .null) :
      Promised doc (embed texts options) (.ok (.list (items.map (Value.held "embedding"))))
  | document {step : Step} (hread : step.read = .ok) : Promised doc step (.ok doc)
  | malformed (step : Step) : Promised doc step (.error (.malformedAnswer step.capability))

/-- What a step comes to otherwise: it asks something for a member that is no
table, or gives vectors of which some are missing or too many. -/
inductive Strays : Step → Except Fault Value → Prop where
  | noTable {step : Step} {stray : Value} (hstray : stray.isTable = false) :
      Strays step (.error (.noMember stray.typeName "get"))
  | vectors {texts : Value} {options : Option Record} {vectors : List Value}
      (hvectors : vectors.length = (texts.elements?.getD []).length → .null ∈ vectors) :
      Strays (embed texts options) (.ok (.list vectors))

theorem promised_read {doc : Value} {step : Step} (h : step.Fits doc) :
    step.Promised doc (step.read doc) := by
  cases step with
  | call prompt options =>
      obtain ⟨htable, hfirst⟩ := h
      rw [read, readCall_eq, if_pos htable]
      split
      · next first more hresults =>
          rw [if_pos (hfirst first more hresults)]
          exact .generated hresults
      · exact .malformed _
  | embed texts options =>
      obtain ⟨htable, hitems⟩ := h
      rw [read, readEmbed_eq, if_pos htable]
      split
      · next items hresults =>
          obtain ⟨hcount, hall⟩ := hitems items hresults
          have hnone : items.find? (!·.isTable) = none := by
            rw [List.find?_eq_none]
            intro item hitem
            simp [(hall item hitem).1]
          rw [hnone]
          exact .embedded hresults hcount fun item hitem => (hall item hitem).2
      · exact .malformed _
  | resolve | post => exact .document rfl

theorem strays_readCall {doc prompt : Value} {options : Option Record}
    (h : ¬Fits doc (call prompt options)) : Strays (call prompt options) (readCall doc) := by
  rw [readCall_eq]
  cases htable : doc.isTable with
  | false => exact .noTable htable
  | true =>
      rw [if_pos rfl]
      split
      · next first more hresults =>
          cases hfirst : first.isTable with
          | false => exact .noTable hfirst
          | true =>
              refine absurd ⟨htable, fun other rest hother => ?_⟩ h
              cases hresults.symm.trans hother
              exact hfirst
      · next hother =>
          exact absurd ⟨htable, fun first more hresults => absurd hresults (hother first more)⟩ h

theorem strays_readEmbed {doc texts : Value} {options : Option Record}
    (h : ¬Fits doc (embed texts options)) : Strays (embed texts options) (readEmbed doc) := by
  rw [readEmbed_eq]
  cases htable : doc.isTable with
  | false => exact .noTable htable
  | true =>
      rw [if_pos rfl]
      split
      · next items hresults =>
          split
          · next hall =>
              rw [List.find?_eq_none] at hall
              refine .vectors fun hcount => ?_
              rw [List.length_map] at hcount
              refine Classical.byContradiction fun hsome => ?_
              refine h ⟨htable, fun others hothers => ?_⟩
              cases hresults.symm.trans hothers
              refine ⟨hcount, fun item hitem => ⟨by simpa using hall item hitem, fun hnull => ?_⟩⟩
              exact hsome (hnull ▸ List.mem_map_of_mem hitem)
          · next stray hstray =>
              have hstray := List.find?_some hstray
              exact .noTable (by simpa using hstray)
      · next hother =>
          exact absurd ⟨htable, fun items hresults => absurd hresults (hother items)⟩ h

theorem strays_read {doc : Value} {step : Step} (h : ¬step.Fits doc) :
    step.Strays (step.read doc) := by
  cases step with
  | call => exact strays_readCall h
  | embed => exact strays_readEmbed h
  | resolve | post => exact absurd trivial h

/-- What strays is not what was promised. -/
theorem Strays.not_promised {doc : Value} {step : Step} {result : Except Fault Value}
    (h : step.Strays result) : ¬step.Promised doc result := by
  intro hpromised
  cases h with
  | noTable hstray => cases hpromised
  | vectors hvectors =>
      cases hpromised with
      | embedded hresults hcount hsome =>
          obtain ⟨item, hitem, hnull⟩ := List.mem_map.mp (hvectors (by rwa [List.length_map]))
          exact hsome item hitem hnull
      | document hread => cases congrFun hread .null

section

variable {m : Model} {s : Service} {channel : Nat} {w : World} {step : Step} {table : Value}
  {request : Request} {text : List Char}

theorem perform_act_of_brings (hw : w.Online m.api s channel)
    (hplan : step.plan m = .ok (.inr table))
    (hprepared : s.prepare (w.channel channel).cookies (s.endpoint step.capability) table =
      .ok request) (hbrings : w.nextReply.Brings request text) :
    ∃ w', (step.act m).perform w = (Json.read text >>= step.read, w') := by
  obtain ⟨w', hpost, -, -⟩ := Service.perform_post_prepared hprepared hw.isOpen
  rw [World.received_of_brings hbrings] at hpost
  rw [perform_act, hplan]
  simp only
  rw [Action.perform_bind, Client.perform_ask hw.client, hpost]
  cases Json.read text with
  | error cause => exact ⟨w', rfl⟩
  | ok doc => exact ⟨w', Action.perform_lift _ _⟩

/-- A step for which a successful answer brings a text. A text that is read as
no document is refused; a document is answered as promised just if it fits, and
otherwise something is asked that is no table, or vectors are missing. -/
theorem answer_promised_iff (hw : w.Online m.api s channel)
    (hplan : step.plan m = .ok (.inr table))
    (hprepared : s.prepare (w.channel channel).cookies (s.endpoint step.capability) table =
      .ok request) (hbrings : w.nextReply.Brings request text) :
    ∃ w', (step.act m).perform w = (Json.read text >>= step.read, w') ∧
      (∀ cause, Json.read text = .error cause → cause.isUnread = true) ∧
      ∀ doc, Json.read text = .ok doc → (step.Promised doc (step.read doc) ↔ step.Fits doc) ∧
        (¬step.Fits doc → step.Strays (step.read doc)) := by
  obtain ⟨w', hact⟩ := perform_act_of_brings hw hplan hprepared hbrings
  refine ⟨w', hact, Json.read_fails text, fun doc _ => ⟨⟨fun hpromised => ?_, promised_read⟩,
    strays_read⟩⟩
  exact Classical.not_not.mp fun hfits => (strays_read hfits).not_promised hpromised

end

/-- A world in which the next answer is successful and has the given body. -/
private def answeringWorld (body : String) : World :=
  { Sample.world "generation" with replies := [.answer 200 body []] }

private def embeddingModel : Model where
  modelClass := .embedding
  api := 0
  defaults := some (.ofFields .watsonxEmbedding fun
    | "model" => .text "slate"
    | _ => .null)

private def twoTexts : Step :=
  embed (.list [.text "a", .text "b"]) none

private def twoTextsTable : Value :=
  .map [("inputs", .list [.text "a", .text "b"]), ("model_id", .text "slate")]

private def twoTextsRequest : Request where
  method := "POST"
  target := { Sample.place with
    path := "/ml/ml/v1/text/embeddings".toList, query := some "version=2023-05-29".toList }
  authorization := "Bearer t"
  accept := "application/json"
  contentType := "application/json"
  body := "\x7b\"inputs\":[\"a\",\"b\"],\"model_id\":\"slate\",\"project_id\":\"p\"\x7d"

private theorem plan_twoTexts : twoTexts.plan embeddingModel = .ok (.inr twoTextsTable) := rfl

private theorem prepare_twoTexts (body : String) :
    (Sample.service "generation").prepare ((answeringWorld body).channel 0).cookies
      ((Sample.service "generation").endpoint twoTexts.capability) twoTextsTable =
      .ok twoTextsRequest := by rfl

private theorem online_answeringWorld (body : String) :
    (answeringWorld body).Online embeddingModel.api (Sample.service "generation") 0 :=
  ⟨rfl, rfl⟩

/-- An answer whose body is what is written for a document brings that. -/
private theorem brings_written {doc : Value} (body : String) (hwritable : Json.Writable doc)
    (hdepth : doc.depth ≤ Json.greatestDepth) (hreceived : doc.received = doc)
    (hwrite : (Json.write doc).toOption = some body.toList)
    (htext : (Text.Encoding.read (Text.bytesOf body.toList)).toOption = some body.toList) :
    (answeringWorld body).nextReply.Brings twoTextsRequest body.toList ∧
      Json.read body.toList = .ok doc := by
  constructor
  · exact Reply.brings_of_success (by decide) (by rfl) (ok_of_toOption htext)
  · obtain ⟨s, hs, hread⟩ := Json.readWithin_write hwritable
    cases (ok_of_toOption hwrite).symm.trans hs
    exact hreceived ▸ hread Json.greatestDepth hdepth

private def vectorsDocument : Value :=
  .map [("results", .list
    [.map [("embedding", .list [.int 1])], .map [("embedding", .list [.int 2])]])]

private def vectorsBody : String :=
  "\x7b\"results\":[\x7b\"embedding\":[1]\x7d,\x7b\"embedding\":[2]\x7d]\x7d"

/-- Two texts get the two vectors of the answer. -/
theorem answer_promised_iff_vectors :
    ∃ w' vectors, (twoTexts.act embeddingModel).perform (answeringWorld vectorsBody) =
        (.ok (.list vectors), w') ∧ vectors = [.list [.int 1], .list [.int 2]] ∧
      (twoTexts.Promised vectorsDocument (.ok (.list vectors)) ↔
        twoTexts.Fits vectorsDocument) := by
  have hwritable : Json.Writable vectorsDocument := by
    have hshort : 1 < powerOfTen greatestDigitCount ∧ 2 < powerOfTen greatestDigitCount := by
      decide +kernel
    exact ⟨by decide, ⟨⟨by decide, ⟨hshort.1, trivial⟩, trivial⟩,
      ⟨by decide, ⟨hshort.2, trivial⟩, trivial⟩, trivial⟩, trivial⟩
  obtain ⟨hbrings, hread⟩ := brings_written vectorsBody hwritable (by decide) rfl
    (by decide +kernel) (by decide +kernel)
  obtain ⟨w', hact, -, hfits⟩ := answer_promised_iff (online_answeringWorld _) plan_twoTexts
    (prepare_twoTexts _) hbrings
  rw [hread] at hact
  exact ⟨w', _, hact, rfl, (hfits _ hread).1⟩

/-- Two texts get one vector, and that is missing. -/
theorem answer_not_promised :
    let doc := .map [("results", .list [.map []])]
    let body := "\x7b\"results\":[\x7b\x7d]\x7d"
    (answeringWorld body).nextReply.Brings twoTextsRequest body.toList ∧
      Json.read body.toList = .ok doc ∧
      (∃ w', (twoTexts.act embeddingModel).perform (answeringWorld body) =
        (.ok (.list [.null]), w')) ∧
      ¬twoTexts.Promised doc (.ok (.list [.null])) := by
  intro doc body
  have hwritable : Json.Writable doc := ⟨by decide, ⟨⟨by decide, trivial⟩, trivial⟩, trivial⟩
  obtain ⟨hbrings, hread⟩ := brings_written body hwritable (by decide) rfl
    (by decide +kernel) (by decide +kernel)
  obtain ⟨w', hact⟩ := perform_act_of_brings (online_answeringWorld body) plan_twoTexts
    (prepare_twoTexts body) hbrings
  rw [hread] at hact
  exact ⟨hbrings, hread, ⟨w', hact⟩,
    (Strays.vectors fun _ => List.mem_singleton_self _).not_promised⟩

end Step

end Model

end ModelWiring
