import ModelWiring.Proofs.Assembly.Offer

/-!
The run over the offers of one entry as a chain of steps. A run that returns is
such a chain, and a run that fails is one up to the step that fails. What a
chain does to the registry and to the clients is proved by induction on it,
from what a single step can do: it registers exactly what is offered for open
and selected capabilities, and all its models share one client.
-/

namespace ModelWiring

namespace Provider

/-- A run over offers in which every step returns. Beside the worlds it has the
client that there is before it and after it, and the registrations made. -/
inductive Registers (p : Provider) (clientClass : Implementation) (settings : Settings)
    (channel : Option Nat) : Option ClientId → List (Capability × String) → World →
      List Registration → Option ClientId → World → Prop where
  | done (api : Option ClientId) (w : World) :
      Registers p clientClass settings channel api [] w [] api w
  | skipped {api api' : Option ClientId} {capability : Capability} {path : String}
      {rest : List (Capability × String)} {w w₁ w' : World} {added : List Registration}
      (hstep : (p.consider clientClass settings channel api capability path).perform w =
        (.ok none, w₁))
      (hrest : Registers p clientClass settings channel api rest w₁ added api' w') :
      Registers p clientClass settings channel api ((capability, path) :: rest) w added api' w'
  | made {api api' : Option ClientId} {capability : Capability} {path : String}
      {rest : List (Capability × String)} {w w₁ w' : World} {added : List Registration}
      {made : Made}
      (hstep : (p.consider clientClass settings channel api capability path).perform w =
        (.ok (some made), w₁))
      (hrest : Registers p clientClass settings channel (some made.client) rest w₁ added api'
        w') :
      Registers p clientClass settings channel api ((capability, path) :: rest) w
        (made.registration :: added) api' w'

section

variable {p : Provider} {clientClass : Implementation} {settings : Settings}
  {channel : Option Nat} {api api' : Option ClientId} {offers : List (Capability × String)}
  {w w' : World} {added : List Registration}

theorem Registers.perform_eq
    (h : p.Registers clientClass settings channel api offers w added api' w') :
    (p.registerModels clientClass settings channel api offers).perform w = (.ok added, w') := by
  induction h with
  | done api w => rfl
  | skipped hstep hrest ih =>
      rw [registerModels_cons, Action.perform_bind_of_ok _ hstep]
      exact ih
  | made hstep hrest ih =>
      rw [registerModels_cons, Action.perform_bind_of_ok _ hstep]
      simp [ih, Except.map]

theorem registers
    (h : (p.registerModels clientClass settings channel api offers).perform w =
      (.ok added, w')) :
    ∃ api', p.Registers clientClass settings channel api offers w added api' w' := by
  induction offers generalizing api w added with
  | nil =>
      cases h
      exact ⟨_, .done _ _⟩
  | cons offer rest ih =>
      obtain ⟨capability, path⟩ := offer
      rw [registerModels_cons] at h
      obtain ⟨outcome, w₁, hstep, hthen⟩ := Action.bind_returns h
      cases outcome with
      | none =>
          obtain ⟨api', hrest⟩ := ih hthen
          exact ⟨api', .skipped hstep hrest⟩
      | some made =>
          obtain ⟨more, w₂, hmore, hlast⟩ := Action.bind_returns hthen
          cases hlast
          obtain ⟨api', hrest⟩ := ih hmore
          exact ⟨api', .made hstep hrest⟩

/-- A run over offers that fails gets through some of them and fails at the
next one. -/
theorem registerModels_fails {cause : Fault}
    (h : (p.registerModels clientClass settings channel api offers).perform w =
      (.error cause, w')) :
    ∃ before capability path after added api' w₁,
      offers = before ++ (capability, path) :: after ∧
      p.Registers clientClass settings channel api before w added api' w₁ ∧
      (p.consider clientClass settings channel api' capability path).perform w₁ =
        (.error cause, w') := by
  induction offers generalizing api w with
  | nil => cases h
  | cons offer rest ih =>
      obtain ⟨capability, path⟩ := offer
      rw [registerModels_cons] at h
      rcases Action.bind_fails h with hfails | ⟨outcome, w₁, hstep, hthen⟩
      · exact ⟨[], capability, path, rest, [], api, w, rfl, .done api w, hfails⟩
      · cases outcome with
        | none =>
            obtain ⟨before, c, q, after, added, api', w₂, rfl, hbefore, hlast⟩ := ih hthen
            exact ⟨_ :: before, c, q, after, added, api', w₂, rfl, .skipped hstep hbefore, hlast⟩
        | some made =>
            rcases Action.bind_fails hthen with hmore | ⟨more, w₂, hmore, hlast⟩
            · obtain ⟨before, c, q, after, added, api', w₂, rfl, hbefore, hlast⟩ := ih hmore
              exact ⟨_ :: before, c, q, after, _ :: added, api', w₂, rfl, .made hstep hbefore,
                hlast⟩
            · cases hlast

end

/-- What is offered for a capability: what the first offer for it leads to that
leads anywhere. -/
def offered? (installed : Installation) (offers : List (Capability × String))
    (capability : Capability) : Option Implementation :=
  offers.findSome? fun (c, path) =>
    match Implementation.find installed path with
    | .found found => if c = capability then some found else none
    | .missing _ | .broken _ => none

section

variable {installed : Installation} {c capability : Capability} {path : String}

theorem offered?_cons_of_ne (rest : List (Capability × String)) (h : c ≠ capability) :
    offered? installed ((c, path) :: rest) capability = offered? installed rest capability := by
  cases hfind : Implementation.find installed path <;> simp [offered?, hfind, h]

theorem offered?_cons_of_missing {reason : String} (rest : List (Capability × String))
    (h : Implementation.find installed path = .missing reason) :
    offered? installed ((c, path) :: rest) capability = offered? installed rest capability := by
  simp [offered?, h]

theorem offered?_cons_self {found : Implementation} (rest : List (Capability × String))
    (h : Implementation.find installed path = .found found) :
    offered? installed ((c, path) :: rest) c = some found := by
  simp [offered?, h]

theorem mem_of_offered? {offers : List (Capability × String)} {found : Implementation}
    (h : offered? installed offers capability = some found) :
    ∃ path, (capability, path) ∈ offers ∧
      Implementation.find installed path = .found found := by
  obtain ⟨⟨c, path⟩, hmem, hsome⟩ := List.exists_of_findSome?_eq_some h
  cases hfind : Implementation.find installed path with
  | found other =>
      by_cases hc : c = capability
      · simp only [hfind, if_pos hc, Option.some.injEq] at hsome
        exact ⟨path, hc ▸ hmem, hfind.trans (congrArg _ hsome)⟩
      · simp [hfind, hc] at hsome
  | missing reason => simp [hfind] at hsome
  | broken cause => simp [hfind] at hsome

theorem offered?_isSome_iff {offers : List (Capability × String)} :
    (offered? installed offers capability).isSome = true ↔
      ∃ path found, (capability, path) ∈ offers ∧
        Implementation.find installed path = .found found := by
  constructor
  · intro h
    obtain ⟨found, hfound⟩ := Option.isSome_iff_exists.mp h
    obtain ⟨path, hmem, hfind⟩ := mem_of_offered? hfound
    exact ⟨path, found, hmem, hfind⟩
  · rintro ⟨path, found, hmem, hfind⟩
    exact List.findSome?_isSome_iff.mpr ⟨(capability, path), hmem, by simp [hfind]⟩

end

end Provider

namespace Registry

theorem find?_append (first later : List Registration) (capability : Capability) :
    find? (first ++ later) capability = (find? first capability).or (find? later capability) :=
  List.find?_append

theorem capability_of_find? {registrations : List Registration} {capability : Capability}
    {r : Registration} (h : find? registrations capability = some r) :
    r ∈ registrations ∧ r.capability = capability :=
  ⟨List.mem_of_find?_eq_some h, by simpa using List.find?_some h⟩

theorem find?_eq_none_iff {registrations : List Registration} {capability : Capability} :
    find? registrations capability = none ↔
      ∀ r ∈ registrations, r.capability ≠ capability := by
  simp [find?]

end Registry

namespace Provider

variable {p : Provider} {clientClass : Implementation} {settings : Settings}
  {channel : Option Nat} {api api' : Option ClientId} {offers : List (Capability × String)}
  {capability : Capability} {path : String} {w w₁ w' : World} {added : List Registration}

/-- A step that skips an offer only reports that; it does not skip one that is
open, selected and there. -/
theorem skipped_step
    (h : (p.consider clientClass settings channel api capability path).perform w =
      (.ok none, w₁)) :
    (∃ n, n.level = .debug ∧ w₁ = w.noted [n]) ∧
      (Registry.find? w.registrations capability = none →
        p.selectedFor capability settings = true →
        ∃ reason, Implementation.find w.installed path = .missing reason) := by
  cases considers h with
  | skipped hsettles =>
      cases hsettles with
      | unavailable hfind => exact ⟨⟨_, rfl, rfl⟩, fun _ _ => ⟨_, hfind⟩⟩
      | served _ hserved =>
          refine ⟨⟨_, rfl, rfl⟩, fun hopen => ?_⟩
          rw [hserved] at hopen
          cases hopen
      | unselected _ _ hselected =>
          refine ⟨⟨_, rfl, rfl⟩, fun _ hyes => ?_⟩
          rw [hselected] at hyes
          cases hyes

/-- What is known where a registration is made: the capability was open and
selected, its model is of what the path leads to, and it holds the client of
the provider. -/
structure Enrols (p : Provider) (clientClass : Implementation) (settings : Settings)
    (channel : Option Nat) (api : Option ClientId) (capability : Capability) (path : String)
    (w : World) (made : Made) (w₁ : World) : Prop where
  wasOpen : Registry.find? w.registrations capability = none
  selected : p.selectedFor capability settings = true
  model : ∃ found served, Implementation.find w.installed path = .found found ∧
    found.Models (.map (settings.capability capability).options) made.client made.options
      served ∧
    made.registration = p.registration capability served made.options
  client : ∃ w₀, p.Obtains clientClass settings.connection channel w api (.ok made.client) w₀ ∧
    w₁.clients = w₀.clients
  registrations : w₁.registrations = w.registrations ++ [made.registration]
  installed : w₁.installed = w.installed

theorem Settles.enrols {made : Made}
    (h : p.Settles clientClass settings channel api capability path w (.ok (some made)) w₁) :
    p.Enrols clientClass settings channel api capability path w made w₁ := by
  cases h with
  | made hfind hopen hselected hserves =>
      cases hserves with
      | registered notices hclient hmodel =>
          refine ⟨hopen, hselected, ⟨_, _, hfind, hmodel, rfl⟩, ⟨_, hclient, rfl⟩, ?_,
            hclient.installed_eq⟩
          rw [← hclient.registrations_eq]
          rfl

theorem Enrols.capability_eq {made : Made}
    (h : p.Enrols clientClass settings channel api capability path w made w₁) :
    made.registration.capability = capability := by
  obtain ⟨_, _, _, _, hmade⟩ := h.model
  rw [hmade, capability_registration]

theorem made_step {made : Made}
    (h : (p.consider clientClass settings channel api capability path).perform w =
      (.ok (some made), w₁)) :
    p.Enrols clientClass settings channel api capability path w made w₁ := by
  cases considers h with
  | made hsettles =>
      obtain ⟨hopen, hselected, hmodel, hclient, hregistrations, hinstalled⟩ := hsettles.enrols
      exact ⟨hopen, hselected, hmodel, hclient, hregistrations, hinstalled⟩

/-- An offer that fails to be settled registers nothing. -/
theorem Settles.registrations_of_error {cause : Fault}
    (h : p.Settles clientClass settings channel api capability path w (.error cause) w₁) :
    w₁.registrations = w.registrations := by
  cases h with
  | broken => rfl
  | failed _ _ _ hserves =>
      cases hserves with
      | clientless hclient => exact hclient.registrations_eq
      | classless hclient => exact hclient.registrations_eq
      | optionless hclient => exact hclient.registrations_eq
      | modelless hclient => exact hclient.registrations_eq

theorem Settles.registrations_of_none
    (h : p.Settles clientClass settings channel api capability path w (.ok none) w₁) :
    w₁.registrations = w.registrations := by
  cases h <;> rfl

/-- A step that fails registers nothing, unless it fails for the report on what
it registered. -/
theorem failed_step {cause : Fault}
    (h : (p.consider clientClass settings channel api capability path).perform w =
      (.error cause, w₁)) :
    w₁.registrations = w.registrations ∨
      ∃ made, p.Enrols clientClass settings channel api capability path w made w₁ ∧
        made.options.shownModel = .error cause := by
  cases considers h with
  | failed hsettles => exact .inl hsettles.registrations_of_error
  | unreported hsettles hshown => exact .inr ⟨_, hsettles.enrols, hshown⟩

theorem Registers.registrations_eq
    (h : p.Registers clientClass settings channel api offers w added api' w') :
    w'.registrations = w.registrations ++ added := by
  induction h with
  | done => simp
  | skipped hstep _ ih =>
      obtain ⟨⟨n, _, rfl⟩, _⟩ := skipped_step hstep
      exact ih
  | made hstep _ ih =>
      rw [ih, (made_step hstep).registrations, List.append_assoc]
      rfl

theorem Registers.installed_eq
    (h : p.Registers clientClass settings channel api offers w added api' w') :
    w'.installed = w.installed := by
  induction h with
  | done => rfl
  | skipped hstep _ ih =>
      obtain ⟨⟨n, _, rfl⟩, _⟩ := skipped_step hstep
      exact ih
  | made hstep _ ih => exact ih.trans (made_step hstep).installed

/-- With a client at hand, a chain neither builds nor changes one. -/
theorem Registers.keeps_client
    (h : p.Registers clientClass settings channel api offers w added api' w') :
    ∀ given, api = some given → api' = some given ∧ w'.clients = w.clients := by
  induction h with
  | done =>
      intro given hapi
      exact ⟨hapi, rfl⟩
  | skipped hstep _ ih =>
      intro given hapi
      obtain ⟨⟨n, _, rfl⟩, _⟩ := skipped_step hstep
      exact ih given hapi
  | made hstep _ ih =>
      intro given hapi
      obtain ⟨w₀, hclient, hclients⟩ := (made_step hstep).client
      subst hapi
      obtain ⟨hid, rfl⟩ := hclient.of_given
      obtain ⟨hsame, hkept⟩ := ih given (congrArg some hid)
      exact ⟨hsame, hkept.trans hclients⟩

/-- Without a client at hand, a chain that makes registrations builds exactly
one, at the end of the clients and from the connection. -/
theorem Registers.builds_client
    (h : p.Registers clientClass settings channel api offers w added api' w')
    (hapi : api = none) :
    (added = [] ∧ api' = none ∧ w'.clients = w.clients) ∨
      (added ≠ [] ∧ api' = some w.clients.length ∧
        ∃ client, clientClass.Connects settings.connection channel client ∧
          w'.clients = w.clients ++ [⟨client, 0, []⟩]) := by
  induction h with
  | done => exact Or.inl ⟨rfl, hapi, rfl⟩
  | skipped hstep _ ih =>
      obtain ⟨⟨n, _, rfl⟩, _⟩ := skipped_step hstep
      exact ih hapi
  | made hstep hrest _ =>
      obtain ⟨w₀, hclient, hclients⟩ := (made_step hstep).client
      subst hapi
      obtain ⟨hid, client, hconnects, hbuilt⟩ := hclient.of_none
      obtain ⟨hsame, hkept⟩ := hrest.keeps_client _ rfl
      exact Or.inr ⟨List.cons_ne_nil _ _, hsame.trans (congrArg some hid), client, hconnects,
        hkept.trans (hclients.trans hbuilt)⟩

theorem Registers.clients_prefix
    (h : p.Registers clientClass settings channel api offers w added api' w') :
    w.clients <+: w'.clients := by
  cases hapi : api with
  | some given =>
      obtain ⟨_, hkept⟩ := h.keeps_client given hapi
      exact ⟨[], by rw [List.append_nil, hkept]⟩
  | none =>
      rcases h.builds_client hapi with ⟨_, _, hkept⟩ | ⟨_, _, client, _, hbuilt⟩
      · exact ⟨[], by rw [List.append_nil, hkept]⟩
      · exact ⟨[⟨client, 0, []⟩], hbuilt.symm⟩

/-- The registration that the entry makes for a capability with a client. -/
def Makes (p : Provider) (installed : Installation) (settings : Settings)
    (offers : List (Capability × String)) (id : ClientId) (r : Registration) : Prop :=
  ∃ found options served, offered? installed offers r.capability = some found ∧
    found.Models (.map (settings.capability r.capability).options) id options served ∧
    r = p.registration r.capability served options

/-- What a step skips may be left out of the offers. -/
theorem offered?_of_skipped
    (h : (p.consider clientClass settings channel api capability path).perform w =
      (.ok none, w₁)) {c : Capability} (hopen : Registry.find? w.registrations c = none)
    (hselected : p.selectedFor c settings = true) (rest : List (Capability × String)) :
    offered? w.installed ((capability, path) :: rest) c = offered? w.installed rest c := by
  by_cases hc : capability = c
  · subst hc
    obtain ⟨reason, hfind⟩ := (skipped_step h).2 hopen hselected
    exact offered?_cons_of_missing rest hfind
  · exact offered?_cons_of_ne rest hc

/-- A registration that a chain makes is for a capability that was open and
selected, of the class that is offered first, and with the client that the
chain ends with. -/
theorem Registers.sound
    (h : p.Registers clientClass settings channel api offers w added api' w') :
    ∀ r ∈ added, Registry.find? w.registrations r.capability = none ∧
      p.selectedFor r.capability settings = true ∧
      ∃ id, api' = some id ∧ p.Makes w.installed settings offers id r := by
  induction h with
  | done => simp
  | skipped hstep _ ih =>
      intro r hr
      obtain ⟨hopen, hselected, id, hid, found, options, served, hoffered, hmodel, hmade⟩ :=
        ih r hr
      obtain ⟨⟨n, _, rfl⟩, _⟩ := skipped_step hstep
      refine ⟨hopen, hselected, id, hid, found, options, served, ?_, hmodel, hmade⟩
      rw [offered?_of_skipped hstep hopen hselected]
      exact hoffered
  | made hstep hrest ih =>
      intro r hr
      have henrols := made_step hstep
      have hcapability := henrols.capability_eq
      rcases List.mem_cons.mp hr with rfl | hr
      · obtain ⟨found, served, hfind, hmodel, hmade⟩ := henrols.model
        rw [hcapability]
        refine ⟨henrols.wasOpen, henrols.selected, _, (hrest.keeps_client _ rfl).1, ?_⟩
        rw [Makes, hcapability]
        exact ⟨found, _, served, offered?_cons_self _ hfind, hmodel, hmade⟩
      · obtain ⟨hopen, hselected, id, hid, found, options, served, hoffered, hmodel, hmade⟩ :=
          ih r hr
        -- The capability was open after the step, so it is another one than that of the step.
        rw [henrols.registrations, Registry.find?_append, Option.or_eq_none_iff] at hopen
        have hne := Registry.find?_eq_none_iff.mp hopen.2 _ List.mem_cons_self
        rw [hcapability] at hne
        refine ⟨hopen.1, hselected, id, hid, found, options, served, ?_, hmodel, hmade⟩
        rw [offered?_cons_of_ne _ hne, ← henrols.installed]
        exact hoffered

theorem Registers.complete
    (h : p.Registers clientClass settings channel api offers w added api' w') :
    ∀ c, p.selectedFor c settings = true →
      (offered? w.installed offers c).isSome = true →
      (Registry.find? w'.registrations c).isSome = true := by
  intro c hselected
  induction h with
  | done => simp [offered?]
  | @skipped _ _ _ _ _ w _ _ _ hstep hrest ih =>
      intro hoffered
      obtain ⟨⟨n, _, rfl⟩, _⟩ := skipped_step hstep
      cases hopen : Registry.find? w.registrations c with
      | none => exact ih (by rwa [offered?_of_skipped hstep hopen hselected] at hoffered)
      | some standing =>
          rw [hrest.registrations_eq, Registry.find?_append, World.registrations_noted, hopen]
          rfl
  | @made _ _ capability _ _ _ _ _ _ made hstep hrest ih =>
      intro hoffered
      have henrols := made_step hstep
      by_cases hc : capability = c
      · have hhead : Registry.find? [made.registration] c = some made.registration := by
          simp [Registry.find?, henrols.capability_eq, hc]
        rw [hrest.registrations_eq, henrols.registrations, Registry.find?_append,
          Registry.find?_append, hhead]
        cases Registry.find? _ c <;> rfl
      · rw [offered?_cons_of_ne _ hc, ← henrols.installed] at hoffered
        exact ih hoffered

/-- An entry may serve a capability: its client class can be imported, it offers
the capability through a class that can be imported, and the selector of the
capability is unset or names the entry. -/
structure Eligible (p : Provider) (installed : Installation) (settings : Settings)
    (capability : Capability) : Prop where
  client : ∃ found, Implementation.find installed p.clientPath = .found found
  model : ∃ path found, (capability, path) ∈ p.models ∧
    Implementation.find installed path = .found found
  selected : (settings.capability capability).selector = none ∨
    (settings.capability capability).selector = some p.identifier

/-- Where the client of an entry comes from: it is the one that was handed in,
else one that was not there before, which its client class gave for the
connection of the settings and over the channel that was handed in, if any. -/
def Supplied (p : Provider) (settings : Settings) (channel : Option Nat)
    (client : Option ClientId) (w w' : World) (id : ClientId) : Prop :=
  match client with
  | some given => id = given
  | none => w.clients.length ≤ id ∧ ∃ clientClass built,
      Implementation.find w.installed p.clientPath = .found clientClass ∧
      clientClass.Connects settings.connection channel built ∧
      w'.clients[id]? = some ⟨built, 0, []⟩

/-- A client stays where it comes from when the world goes on. -/
theorem Supplied.mono {client : Option ClientId} {w₀ w₂ : World} {id : ClientId}
    (h : p.Supplied settings channel client w w₁ id) (hbefore : w₀.clients <+: w.clients)
    (hinstalled : w.installed = w₀.installed) (hafter : w₁.clients <+: w₂.clients) :
    p.Supplied settings channel client w₀ w₂ id := by
  cases client with
  | some given => exact h
  | none =>
      obtain ⟨hnew, clientClass, built, hfind, hconnects, hclient⟩ := h
      refine ⟨Nat.le_trans hbefore.length_le hnew, clientClass, built, ?_, hconnects, ?_⟩
      · rw [← hinstalled]
        exact hfind
      · obtain ⟨more, hmore⟩ := hafter
        rw [← hmore, List.getElem?_append_left (List.getElem?_eq_some_iff.mp hclient).1]
        exact hclient

theorem perform_apply (p : Provider) (settings : Settings) (channel : Option Nat)
    (client : Option ClientId) (w : World) :
    (p.apply settings channel client).perform w =
      match Implementation.find w.installed p.clientPath with
      | .found found => (p.registerModels found settings channel client p.models).perform w
      | .missing reason => (.ok [], w.noted [.unavailable p.clientPath reason])
      | .broken cause => (.error cause, w) := by
  rw [apply, Action.perform_bind, Action.perform_locate]
  cases Implementation.find w.installed p.clientPath <;> rfl

theorem apply_returns {client : Option ClientId}
    (h : (p.apply settings channel client).perform w = (.ok added, w')) :
    (∃ reason, Implementation.find w.installed p.clientPath = .missing reason ∧ added = [] ∧
      w' = w.noted [.unavailable p.clientPath reason]) ∨
    ∃ found api', Implementation.find w.installed p.clientPath = .found found ∧
      p.Registers found settings channel client p.models w added api' w' := by
  rw [perform_apply] at h
  cases hfind : Implementation.find w.installed p.clientPath with
  | broken cause =>
      rw [hfind] at h
      cases h
  | missing reason =>
      rw [hfind] at h
      cases h
      exact Or.inl ⟨reason, rfl, rfl, rfl⟩
  | found found =>
      rw [hfind] at h
      obtain ⟨api', hchain⟩ := registers h
      exact Or.inr ⟨found, api', rfl, hchain⟩

theorem apply_fails {client : Option ClientId} {cause : Fault}
    (h : (p.apply settings channel client).perform w = (.error cause, w')) :
    w' = w ∨
    ∃ found done capability path rest added api' w₁,
      Implementation.find w.installed p.clientPath = .found found ∧
      p.models = done ++ (capability, path) :: rest ∧
      p.Registers found settings channel client done w added api' w₁ ∧
      (p.consider found settings channel api' capability path).perform w₁ =
        (.error cause, w') := by
  rw [perform_apply] at h
  cases hfind : Implementation.find w.installed p.clientPath with
  | broken cause' =>
      rw [hfind] at h
      cases h
      exact Or.inl rfl
  | missing reason =>
      rw [hfind] at h
      cases h
  | found found =>
      rw [hfind] at h
      obtain ⟨done, capability, path, rest, added, api', w₁, hmodels, hchain, hfails⟩ :=
        registerModels_fails h
      exact Or.inr ⟨found, done, capability, path, rest, added, api', w₁, rfl, hmodels, hchain,
        hfails⟩

/-- All registrations that were made hold one and the same client, and no other
client was built. -/
def OneClient (p : Provider) (settings : Settings) (channel : Option Nat)
    (client : Option ClientId) (w : World) (added : List Registration) (w' : World) : Prop :=
  ∃ id, (∀ r ∈ added, p.Makes w.installed settings p.models id r) ∧
    (added ≠ [] → p.Supplied settings channel client w w' id) ∧
    ∀ built, w.clients.length ≤ built → built < w'.clients.length →
      added ≠ [] ∧ client = none ∧ built = id

theorem Registers.oneClient {client : Option ClientId}
    (hfind : Implementation.find w.installed p.clientPath = .found clientClass)
    (h : p.Registers clientClass settings channel client p.models w added api' w') :
    p.OneClient settings channel client w added w' := by
  have hmakes (given : ClientId) (hsame : api' = some given) :
      ∀ r ∈ added, p.Makes w.installed settings p.models given r := by
    intro r hr
    obtain ⟨_, _, id, hid, hmade⟩ := h.sound r hr
    rw [hsame] at hid
    cases hid
    exact hmade
  cases client with
  | some given =>
      obtain ⟨hsame, hkept⟩ := h.keeps_client given rfl
      refine ⟨given, hmakes given hsame, fun _ => rfl, fun built hold hnew => ?_⟩
      rw [hkept] at hnew
      exact absurd hnew (Nat.not_lt.mpr hold)
  | none =>
      rcases h.builds_client rfl with ⟨rfl, _, hkept⟩ | ⟨hne, hsame, made, hconnects, hbuilt⟩
      · refine ⟨0, by simp, fun hne => absurd rfl hne, fun built hold hnew => ?_⟩
        rw [hkept] at hnew
        exact absurd hnew (Nat.not_lt.mpr hold)
      · refine ⟨w.clients.length, hmakes _ hsame, fun _ => ?_, fun built hold hnew => ?_⟩
        · exact ⟨Nat.le_refl _, clientClass, made, hfind, hconnects, by simp [hbuilt]⟩
        · rw [hbuilt, List.length_append, List.length_singleton] at hnew
          exact ⟨hne, rfl, by omega⟩

/-- What the run over an entry comes to when it returns: it adds registrations
for open capabilities that the entry is eligible for, and leaves no such
capability open. -/
structure EntryRun (p : Provider) (settings : Settings) (channel : Option Nat)
    (client : Option ClientId) (w : World) (added : List Registration) (w' : World) : Prop where
  registrations : w'.registrations = w.registrations ++ added
  installed : w'.installed = w.installed
  clients : w.clients <+: w'.clients
  sound : ∀ r ∈ added, Registry.find? w.registrations r.capability = none ∧
    p.Eligible w.installed settings r.capability
  complete : ∀ c, p.Eligible w.installed settings c →
    (Registry.find? w'.registrations c).isSome = true
  oneClient : p.OneClient settings channel client w added w'

theorem entryRun {client : Option ClientId}
    (h : (p.apply settings channel client).perform w = (.ok added, w')) :
    p.EntryRun settings channel client w added w' := by
  rcases apply_returns h with ⟨reason, hfind, rfl, rfl⟩ | ⟨found, api', hfind, hchain⟩
  · refine ⟨by simp, rfl, List.prefix_refl _, by simp, ?_, 0, by simp, by simp, ?_⟩
    · intro c heligible
      obtain ⟨found, hfound⟩ := heligible.client
      rw [hfind] at hfound
      cases hfound
    · intro built hold hnew
      exact absurd hnew (Nat.not_lt.mpr hold)
  · refine ⟨hchain.registrations_eq, hchain.installed_eq, hchain.clients_prefix, ?_, ?_,
      hchain.oneClient hfind⟩
    · intro r hr
      obtain ⟨hopen, hselected, id, _, found', _, _, hoffered, _⟩ := hchain.sound r hr
      exact ⟨hopen, ⟨found, hfind⟩, offered?_isSome_iff.mp (by rw [hoffered]; rfl),
        selectedFor_iff.mp hselected⟩
    · intro c heligible
      exact hchain.complete c (selectedFor_iff.mpr heligible.selected)
        (offered?_isSome_iff.mpr heligible.model)

end Provider

end ModelWiring
