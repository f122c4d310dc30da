import ModelWiring.Proofs.Address.Site
import ModelWiring.Proofs.Model.Call

/-!
Requests for the resources of a backend. The path of the backend's address is
kept, whether or not a slash ends it, and the path of the endpoint is put behind
it, whatever slashes stand before that.
-/

namespace ModelWiring

open ModelWiring.Address

namespace Address

/-- The text of a site, with or without a slash at its end. -/
def Site.text (site : Site) (closed : Bool) : List Char :=
  site.origin ++ rooted site.segments ++ (if closed then ['/'] else [])

/-- The text of a resource, with any number of slashes before. -/
def Resource.text (resource : Resource) (slashes : Nat) : List Char :=
  List.replicate slashes '/' ++ ['/'].intercalate resource.segments
    ++ announced '?' resource.query

/-- The text of the address of a resource under a site: the segments of both,
joined, and the query. -/
def Site.textUnder (site : Site) (resource : Resource) : List Char :=
  site.scheme ++ "://".toList ++ site.host
    ++ '/' :: ['/'].intercalate (site.segments ++ resource.segments)
    ++ announced '?' resource.query

namespace Site

variable (site : Site) (resource : Resource)

theorem chars_directory : site.directory.chars = site.text true := by
  rw [directory, chars_place, rooted_directory]
  simp [text, announced]

theorem chars_under : (site.under resource).chars = site.textUnder resource := by
  rw [under, chars_place, path_under]
  rfl

/-- The address of a resource is that of the directory with the reference
behind. -/
theorem textUnder_eq_append :
    site.textUnder resource = site.directory.chars ++ resource.reference.chars := by
  rw [← chars_under, under, directory, chars_place, chars_place, Resource.chars_reference,
    rooted_append, rooted_directory, rooted_eq_cons resource.segments_ne_nil]
  simp [announced]

/-- Without a slash put at its end, a text of a site ends with the host or with
a segment. -/
theorem getLast?_text : (site.text false).getLast? ≠ some '/' := by
  have hends {before part : List Char} (hpart : part ≠ []) (hslash : '/' ∉ part) :
      (before ++ part).getLast? ≠ some '/' := by
    rw [List.getLast?_append, List.getLast?_eq_some_getLast hpart]
    intro hlast
    exact hslash (Option.some.inj hlast ▸ List.getLast_mem hpart)
  rw [text, if_neg Bool.false_ne_true, List.append_nil]
  by_cases hsegments : site.segments = []
  · obtain ⟨c, rest, hhost, -⟩ := site.host_start
    rw [hsegments, origin, rooted, List.flatMap_nil, List.append_nil]
    exact hends (by rw [hhost]; exact List.cons_ne_nil _ _)
      (not_mem_of_forall (fun c hc => (site.hostSafe_host c hc).1) (by decide))
  · obtain ⟨before, last, hlast⟩ : ∃ before last, site.segments = before ++ [last] :=
      ⟨_, _, (List.dropLast_concat_getLast hsegments).symm⟩
    have hok := site.segments_ok last (by rw [hlast]; exact List.mem_concat_self)
    have htext : site.origin ++ rooted site.segments =
        (site.origin ++ rooted before ++ ['/']) ++ last := by
      rw [hlast, rooted_append]
      simp [rooted]
    rw [htext]
    exact hends hok.nonempty (not_mem_of_forall hok.mem (by decide))

theorem closedBase_text (closed : Bool) :
    Service.closedBase (site.text closed) = site.directory.chars := by
  rw [chars_directory]
  cases closed with
  | false =>
      rw [Service.closedBase, if_neg site.getLast?_text]
      simp [text]
  | true => exact if_pos (by simp [text])

section

variable (path : List Char) (query : Option (List Char))

theorem isAbsolute_place : (site.place path query).isAbsolute = true := by
  obtain ⟨hscheme, -⟩ := site.scheme_ok
  obtain ⟨c, rest, hhost, -⟩ := site.host_start
  have hsome : site.host ≠ [] := by
    rw [hhost]
    exact List.cons_ne_nil _ _
  exact isAbsolute_iff.mpr ⟨hscheme, hsome⟩

theorem checkKind_place : (site.place path query).checkKind = .ok () := by
  have hkind : ∀ c ∈ site.scheme, (decide (c ≠ ':') && decide (c ≠ '/')) = true := by
    rcases site.scheme_web with h | h
    all_goals
      rw [h]
      exact List.all_eq_true.mp (by decide)
  obtain ⟨hscheme, -⟩ := site.scheme_ok
  obtain ⟨htake, -⟩ := takeWhile_append_stop hkind (':' :: site.afterScheme path query) rfl
  refine if_pos ?_
  rw [hasKind, chars_place_cut, htake]
  simp [hscheme]

theorem hostOf_place : Redirect.hostOf (site.place path query) = .ok site.host := by
  have hplain : ¬ Domain.plainMark.isPrefixOf site.host = true := by
    intro hmark
    have hhyphen : '-' ∈ Domain.plainMark := by decide
    have hmem := (List.isPrefixOf_iff_prefix.mp hmark).subset hhyphen
    exact (site.hostSafe_host _ hmem).2.2 rfl
  have hwritten : (site.place path query).writtenHost = .ok site.host := if_neg hplain
  rw [Redirect.hostOf, hwritten]
  rfl

theorem checkText_location : Headers.checkText (site.place path query).location = .ok () := by
  have hsafe : ∀ c ∈ site.host, hostSafe c = true := fun c hc => (site.hostSafe_host c hc).1
  rw [place, location_bare hsafe]
  exact Headers.checkText_of_isAscii (List.all_eq_true.mpr fun c hc =>
    isAscii_of_hostSafe (hsafe c hc))

end

end Site

theorem Resource.dropWhile_text (resource : Resource) (slashes : Nat) :
    (resource.text slashes).dropWhile (· = '/') = resource.reference.chars := by
  obtain ⟨c, rest, hstart, hc⟩ := resource.reference_start
  have hslash : c ≠ '/' := by
    rintro rfl
    cases hc
  have hslashes : ∀ c ∈ List.replicate slashes '/', decide (c = '/') = true := by
    intro c hc
    exact decide_eq_true (List.eq_of_mem_replicate hc)
  rw [text, List.append_assoc, ← chars_reference]
  refine (takeWhile_append_stop hslashes _ ?_).2
  rw [chars_reference, hstart]
  simpa using hslash

end Address

/-- What a connection has for the endpoint of a capability. -/
def Connection.endpoint (c : Connection) : Capability → Value
  | .chat => c.textEndpoint
  | .embedding => c.embeddingEndpoint

/-- The client that is built of a connection whose address is a site. -/
def Address.Site.service (site : Site) (c : Connection) : Service where
  base := site.directory
  token := c.iamToken
  projectId := c.projectId
  textEndpoint := c.textEndpoint
  embeddingEndpoint := c.embeddingEndpoint

theorem Address.Site.endpoint_service (site : Site) (c : Connection) (capability : Capability) :
    (site.service c).endpoint capability = c.endpoint capability := by
  cases capability <;> rfl

section

variable {c : Connection} {site : Site} {resource : Resource} {closed : Bool} {slashes : Nat}
  (hgiven : Service.missingField? c = none)
  (hbase : c.baseUrl.text? = some (String.ofList (site.text closed)))
  (hlength : (site.textUnder resource).length ≤ greatestLength)

include hlength

/-- The address of a resource is within the limit, and so is each text that leads
to it. -/
theorem Address.Site.lengths_le : site.directory.chars.length ≤ greatestLength ∧
    resource.reference.chars.length ≤ greatestLength := by
  rw [Site.textUnder_eq_append, List.length_append] at hlength
  exact ⟨Nat.le_trans (Nat.le_add_right _ _) hlength,
    Nat.le_trans (Nat.le_add_left _ _) hlength⟩

include hgiven hbase in
theorem Service.ofConnection_site : Service.ofConnection c = .ok (site.service c) := by
  have hparsed : Address.parse (closedBase (String.ofList (site.text closed)).toList) =
      .ok site.directory := by
    rw [String.toList_ofList, site.closedBase_text]
    exact site.parse_place site.directory_start site.isPlain_directory (Site.lengths_le hlength).1
  rw [ofConnection, hgiven]
  simp only [hbase, hparsed]
  rfl

/-- The endpoint of a resource is valid for a client of the site, and leads under
the site. -/
theorem Service.reaches_under {s : Service} {endpoint : Value} (hs : s.base = site.directory)
    (hendpoint : endpoint.text? = some (String.ofList (resource.text slashes))) :
    s.Reaches endpoint (site.under resource) := by
  have hread := resource.parse_reference (Site.lengths_le hlength).2
  have hjoined := site.join_reference resource (by rwa [Site.chars_under])
  have hresolved : s.resolve endpoint = .ok (site.under resource) := by
    simp only [resolve, hendpoint, String.toList_ofList, resource.dropWhile_text, hread, hs]
    rw [ok_mapError, ok_bind, hjoined, ok_mapError]
  have habsolute := site.isAbsolute_place (rooted (site.segments ++ resource.segments))
    resource.query
  exact ⟨⟨_, hresolved, requestTarget_of_isAbsolute habsolute⟩, site.checkKind_place _ _,
    ⟨_, site.hostOf_place _ _⟩, site.checkText_location _ _⟩

end

/-- A request that is prepared for a valid endpoint goes where that leads. -/
theorem Service.Reaches.target_eq {s : Service} {endpoint table : Value} {target : Address}
    {cookies : List Cookie} {request : Request} (h : s.Reaches endpoint target)
    (hprepared : s.prepare cookies endpoint table = .ok request) : request.target = target := by
  obtain ⟨resolved, payload, own, body, hprepares, rfl⟩ := prepare_eq_ok_iff.mp hprepared
  obtain ⟨resolved', hresolved, htarget⟩ := h.target_ok
  cases hprepares.resolved_ok.symm.trans hresolved
  exact Except.ok.inj (hprepares.target_ok.symm.trans htarget)

/-- The connection names a site, with or without a slash at its end, and as the
endpoint of a capability a resource, with any number of slashes before. Then
every request for the capability goes to the segments of the site and then those
of the resource, with exactly its query, however the client is asked; and over an
open channel a table that can be written leaves in one such request. -/
theorem Asks.sent_appended (site : Site) (resource : Resource) (closed : Bool) (slashes : Nat)
    (capability : Capability) {c : Connection} (hgiven : Service.missingField? c = none)
    (hbase : c.baseUrl.text? = some (String.ofList (site.text closed)))
    (hendpoint : (c.endpoint capability).text? = some (String.ofList (resource.text slashes)))
    (hlength : (site.textUnder resource).length ≤ greatestLength) :
    ∃ s, Service.ofConnection c = .ok s ∧
      ∀ (w : World) (id : ClientId) (channel : Nat), w.client? id = some (.service s channel) →
        (∀ act, Asks id capability act → ∃ more, (act.perform w).2.sent = w.sent ++ more ∧
          more.length ≤ 1 ∧ ∀ request ∈ more, request.target.chars = site.textUnder resource) ∧
        ((w.channel channel).isClosed = false →
          c.iamToken.plainText.toList.all Text.isAscii = true → ∀ entries body,
          Json.write (.map (Keyed.put (.plain "project_id") c.projectId entries)) = .ok body →
          ∃ request, ((Client.ask id capability (.map entries)).perform w).2.sent =
              w.sent ++ [request] ∧
            request.target.chars = site.textUnder resource) := by
  refine ⟨_, Service.ofConnection_site hgiven hbase hlength, fun w id channel hclient => ?_⟩
  rw [← Site.chars_under]
  have hreaches := Service.reaches_under (s := site.service c) hlength rfl hendpoint
  constructor
  · intro act hasks
    obtain ⟨more, hsent, hmost, hmore⟩ := hasks.sent hclient
    refine ⟨more, hsent, hmost, fun request hrequest => ?_⟩
    obtain ⟨table, hprepared⟩ := hmore request hrequest
    rw [Address.Site.endpoint_service] at hprepared
    exact congrArg Address.chars (hreaches.target_eq hprepared)
  · intro hopen hascii entries body hbody
    have hsent := Client.sent_ask hclient capability (.map entries)
    rw [Address.Site.endpoint_service, hreaches.leaving hascii hopen hbody] at hsent
    exact ⟨_, hsent, rfl⟩

namespace Sample

def site : Site where
  scheme := "https".toList
  labels := ["gw".toList, "example".toList, "com".toList]
  segments := ["watsonx".toList]
  scheme_web := .inr rfl
  labels_ne_nil := by decide
  labels_ok := by decide
  segments_ok := by decide

def resource : Resource where
  segments := ["ml".toList, "v1".toList, "text".toList, "generation".toList]
  query := some "version=2023-05-29".toList
  segments_ne_nil := by decide
  segments_ok := by decide
  query_ok := by
    rintro s ⟨⟩
    decide

def siteConnection : Connection where
  baseUrl := .text "https://gw.example.com/watsonx"
  textEndpoint := .text "//ml/v1/text/generation?version=2023-05-29"
  projectId := .text "p"
  iamToken := .text "t"

def siteWorld : World :=
  { clients := [⟨.service (site.service siteConnection) 0, 0, []⟩] }

end Sample

/-- Slashes before the endpoint, and none after the base, change nothing. -/
theorem Asks.sent_appended_slashed :
    Service.ofConnection Sample.siteConnection =
        .ok (Sample.site.service Sample.siteConnection) ∧
      ∃ request, (Sample.ask.perform Sample.siteWorld).2.sent = [request] ∧
        request.target.text =
          "https://gw.example.com/watsonx/ml/v1/text/generation?version=2023-05-29" := by
  have hopened : Service.ofConnection Sample.siteConnection =
      .ok (Sample.site.service Sample.siteConnection) := by rfl
  have hbody : Json.write (.map (Keyed.put (.plain "project_id") (.text "p")
      [("input", .text "hi")])) =
        .ok "\x7b\"input\":\"hi\",\"project_id\":\"p\"\x7d".toList := by rfl
  obtain ⟨s, hservice, hsent⟩ := Asks.sent_appended Sample.site Sample.resource false 2 .chat
    (c := Sample.siteConnection) (by decide) (by decide) (by decide) (by decide)
  cases hservice.symm.trans hopened
  obtain ⟨request, hrequest, htarget⟩ :=
    (hsent Sample.siteWorld 0 0 rfl).2 rfl (by decide) _ _ hbody
  refine ⟨hopened, request, hrequest, ?_⟩
  rw [Address.text, htarget]
  decide

end ModelWiring
