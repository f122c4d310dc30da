import ModelWiring.Proofs.Address.Joining
import ModelWiring.Proofs.Client.Sending

/-!
Where requests go. A client resolves each endpoint against the address that it
was built with. An endpoint that continues that address keeps the request at its
place; one that names a place of its own takes the request there, and with it
the token.
-/

namespace ModelWiring

namespace Address

/-- An address read from a text with a slash at its end is at the place of that
read from the text. -/
theorem samePlace_closedBase {s : List Char} {a b : Address} (ha : parse s = .ok a)
    (hb : parse (Service.closedBase s) = .ok b) : b.SamePlace a := by
  have hparts : (Parts.ofText (Service.closedBase s)).scheme = (Parts.ofText s).scheme ∧
      (Parts.ofText (Service.closedBase s)).authority = (Parts.ofText s).authority := by
    unfold Service.closedBase
    split
    · exact ⟨rfl, rfl⟩
    · next hlast =>
        simp only [Parts.ofText, splitScheme_closed]
        exact ⟨trivial, splitAuthority_closed (getLast?_splitScheme hlast)⟩
  obtain ⟨hscheme, hauthority⟩ := hparts
  have ha := gives_of_parse ha
  have hb := gives_of_parse hb
  have hsame : b.scheme = a.scheme := by rw [hb.scheme, ha.scheme, hscheme]
  have hhost : Except.ok b.host = (.ok a.host : Except AddressFault _) := by
    rw [← hb.host, ← ha.host, hauthority]
    rfl
  have hport : Except.ok b.port = (.ok a.port : Except AddressFault _) := by
    rw [← hb.port, ← ha.port, hauthority, hscheme]
  refine ⟨hsame, ?_, ?_⟩
  · rw [Except.ok.inj hhost]
    rfl
  · rw [effectivePort, effectivePort, Except.ok.inj hport, hsame]

end Address

namespace Service

variable {c : Connection} {s : Service}

theorem ofConnection_ok (h : ofConnection c = .ok s) :
    ∃ text, c.baseUrl.text? = some text ∧ Address.parse (closedBase text.toList) = .ok s.base ∧
      s.token = c.iamToken ∧ s.projectId = c.projectId ∧ s.textEndpoint = c.textEndpoint ∧
      s.embeddingEndpoint = c.embeddingEndpoint := by
  unfold ofConnection at h
  split at h
  · cases h
  cases htext : c.baseUrl.text? with
  | none => rw [htext] at h; cases h
  | some text =>
      rw [htext] at h
      cases hbase : Address.parse (closedBase text.toList) with
      | error cause => simp only [hbase] at h; cases h
      | ok base =>
          simp only [hbase] at h
          cases h
          exact ⟨text, rfl, hbase, rfl, rfl, rfl, rfl⟩

theorem resolve_ok {endpoint : Value} {resolved : Address} (h : s.resolve endpoint = .ok resolved) :
    ∃ path reference, endpoint.text? = some path ∧
      Address.parse (path.toList.dropWhile (· = '/')) = .ok reference ∧
      s.base.join reference = .ok resolved := by
  unfold resolve at h
  cases hpath : endpoint.text? with
  | none => rw [hpath] at h; cases h
  | some path =>
      rw [hpath] at h
      obtain ⟨reference, hreference, h⟩ := bind_ok h
      exact ⟨path, reference, rfl, mapError_ok hreference, mapError_ok h⟩

end Service

section

variable {c : Connection} {s : Service} {text : String} {place : Address}
  (hservice : Service.ofConnection c = .ok s) (htext : c.baseUrl.text? = some text)
  (hplace : Address.parse text.toList = .ok place) (habsolute : place.isAbsolute = true)

include hservice htext hplace

theorem Service.samePlace_base : s.base.SamePlace place := by
  obtain ⟨text', htext', hbase, -⟩ := ofConnection_ok hservice
  cases htext.symm.trans htext'
  exact Address.samePlace_closedBase hplace hbase

include habsolute

/-- Where an endpoint is resolved to that continues the address of the
connection, and where any other is. -/
theorem Service.resolve_place {endpoint : Value} {resolved : Address}
    (h : s.resolve endpoint = .ok resolved) :
    ∃ path reference, endpoint.text? = some path ∧
      Address.parse (path.toList.dropWhile (· = '/')) = .ok reference ∧
      (place.Continues reference.chars → resolved.SamePlace place) ∧
      (¬ place.Continues reference.chars → ∃ r,
        Address.Reference.ofText place.scheme reference.chars = .ok r ∧
        Address.parse (place.ownText reference.chars r) = .ok resolved) := by
  obtain ⟨path, reference, hpath, hreference, hjoin⟩ := resolve_ok h
  obtain ⟨_, -, hbase, -⟩ := ofConnection_ok hservice
  have hsame := samePlace_base hservice htext hplace
  have hreadable := Address.readable_of_parse hbase
  have hbaseAbsolute := hsame.isAbsolute habsolute
  refine ⟨path, reference, hpath, hreference, fun hcontinues => ?_, fun hown => ?_⟩
  · rw [← Address.continues_congr hsame.1] at hcontinues
    exact (Address.samePlace_of_join hreadable hbaseAbsolute hjoin hcontinues).trans hsame
  · rw [← Address.continues_congr hsame.1] at hown
    obtain ⟨r, hr, hparsed⟩ := Address.parse_ownText_of_join hreadable hbaseAbsolute hjoin hown
    exact ⟨r, hsame.1 ▸ hr, Address.ownText_congr hsame.1 ▸ hparsed⟩

/-- Every request that a client sends, however it is asked, carries the token of
the connection. It goes to the place of the connection's address where the
endpoint continues that, and where the endpoint says by itself otherwise. -/
theorem Asks.sent_place {id : ClientId} {channel : Nat} {w : World} {capability : Capability}
    {act : Action Value} (hclient : w.client? id = some (.service s channel))
    (hasks : Asks id capability act) :
    ∃ more, (act.perform w).2.sent = w.sent ++ more ∧ more.length ≤ 1 ∧ ∀ request ∈ more,
      request.authorization =
        request.target.credentials?.getD ("Bearer " ++ c.iamToken.plainText) ∧
      ∃ path reference, (s.endpoint capability).text? = some path ∧
        Address.parse (path.toList.dropWhile (· = '/')) = .ok reference ∧
        (place.Continues reference.chars → request.target.SamePlace place) ∧
        (¬ place.Continues reference.chars → ∃ r own,
          Address.Reference.ofText place.scheme reference.chars = .ok r ∧
          Address.parse (place.ownText reference.chars r) = .ok own ∧
          own.requestTarget = .ok request.target) := by
  obtain ⟨more, hsent, hlength, hmore⟩ := hasks.sent hclient
  refine ⟨more, hsent, hlength, fun request hrequest => ?_⟩
  obtain ⟨table, hprepared⟩ := hmore request hrequest
  obtain ⟨resolved, payload, target, body, h, rfl⟩ := Service.prepare_eq_ok_iff.mp hprepared
  obtain ⟨_, -, -, htoken, -⟩ := Service.ofConnection_ok hservice
  obtain ⟨path, reference, hpath, hreference, hstays, hleaves⟩ :=
    Service.resolve_place hservice htext hplace habsolute h.resolved_ok
  refine ⟨by rw [htoken], path, reference, hpath, hreference, fun hcontinues => ?_, fun hown => ?_⟩
  · have hsame := hstays hcontinues
    have htarget := h.target_ok
    rw [Address.requestTarget_of_isAbsolute (hsame.isAbsolute habsolute)] at htarget
    exact Except.ok.inj htarget ▸ hsame
  · obtain ⟨r, hr, hparsed⟩ := hleaves hown
    exact ⟨r, resolved, hr, hparsed, h.target_ok⟩

end

/-! One connection, whose endpoint for texts is left open. -/

namespace Sample

def base : String := "https://api.example.com:443/ml"

def connection (endpoint : String) : Connection where
  baseUrl := .text base
  textEndpoint := .text endpoint
  projectId := .text "p"
  iamToken := .text "t"

def place : Address where
  scheme := "https".toList
  userInfo := []
  host := "api.example.com".toList
  port := none
  path := "/ml".toList
  query := none
  fragment := none

def service (endpoint : String) : Service where
  base := { place with path := "/ml/".toList }
  token := .text "t"
  projectId := .text "p"
  textEndpoint := .text endpoint
  embeddingEndpoint := ({} : Connection).embeddingEndpoint

def world (endpoint : String) : World :=
  { clients := [⟨.service (service endpoint) 0, 0, []⟩] }

def ask : Action Value :=
  Client.ask 0 .chat (.map [("input", .text "hi")])

theorem parse_base : Address.parse base.toList = .ok place := by
  rfl

theorem client_world (endpoint : String) :
    (world endpoint).client? 0 = some (.service (service endpoint) 0) :=
  rfl

theorem sent_ask (endpoint : String) :
    (ask.perform (world endpoint)).2.sent =
      (service endpoint).leaving {} (.text endpoint) (.map [("input", .text "hi")]) :=
  Client.sent_ask (client_world endpoint) .chat (.map [("input", .text "hi")])

end Sample

/-- An endpoint with slashes before it and a query keeps the request at the
place. -/
theorem Asks.sent_place_slashed :
    Service.ofConnection (Sample.connection "//v1/generation?version=2") =
        .ok (Sample.service "//v1/generation?version=2") ∧
      ∃ request, (Sample.ask.perform (Sample.world "//v1/generation?version=2")).2.sent =
          [request] ∧
        request.target.SamePlace Sample.place := by
  have hservice : Service.ofConnection (Sample.connection "//v1/generation?version=2") =
      .ok (Sample.service "//v1/generation?version=2") := by rfl
  have hread : Address.parse "v1/generation?version=2".toList = .ok {
      scheme := [], userInfo := [], host := [], port := none
      path := "v1/generation".toList, query := some "version=2".toList, fragment := none } := by
    rfl
  have hleaves : (Sample.ask.perform (Sample.world "//v1/generation?version=2")).2.sent = [{
      method := "POST"
      target := { Sample.place with
        path := "/ml/v1/generation".toList, query := some "version=2".toList }
      authorization := "Bearer t", accept := "application/json"
      contentType := "application/json", body := "\x7b\"input\":\"hi\",\"project_id\":\"p\"\x7d" }] := by
    rw [Sample.sent_ask]
    decide +kernel
  obtain ⟨more, hsent, -, hmore⟩ := Asks.sent_place hservice rfl Sample.parse_base rfl
    (Sample.client_world _) (.client .chat (.map [("input", .text "hi")]))
  have hsent := hsent.symm.trans hleaves
  subst hsent
  obtain ⟨-, path, reference, hpath, hreference, hstays, -⟩ := hmore _ (List.mem_singleton_self _)
  cases hpath
  cases hreference.symm.trans hread
  exact ⟨hservice, _, hleaves, hstays (.inr ⟨by rfl, _, rfl, rfl, rfl⟩)⟩

/-- An endpoint that is a whole address takes the token to another host. -/
theorem Asks.sent_place_stray :
    Service.ofConnection (Sample.connection "https://elsewhere.example/collect") =
        .ok (Sample.service "https://elsewhere.example/collect") ∧
      ∃ request, (Sample.ask.perform (Sample.world "https://elsewhere.example/collect")).2.sent =
          [request] ∧
        request.authorization = "Bearer t" ∧ ¬ request.target.SamePlace Sample.place := by
  have hleaves : (Sample.ask.perform (Sample.world "https://elsewhere.example/collect")).2.sent =
      [{
        method := "POST"
        target := { Sample.place with
          host := "elsewhere.example".toList, path := "/collect".toList }
        authorization := "Bearer t", accept := "application/json"
        contentType := "application/json", body := "\x7b\"input\":\"hi\",\"project_id\":\"p\"\x7d" }] := by
    rw [Sample.sent_ask]
    decide +kernel
  exact ⟨by rfl, _, hleaves, rfl, by decide⟩

end ModelWiring
