import ModelWiring.Proofs.Assembly.Twins

/-!
Assemblies one after the other. A list of entries may be cut in two: assembling
the first part and then, if that returned, the second comes to what assembling
the whole list comes to. And an assembly that returned settles its entries: it
left nothing to register for them, so it makes no registration when it is run
again, whatever capabilities are still open.
-/

namespace ModelWiring

namespace Provider

variable {p : Provider} {clientClass : Implementation} {settings : Settings}
  {channel : Option Nat} {api api' : Option ClientId} {offers : List (Capability × String)}
  {capability : Capability} {path : String} {w w₁ w' w₂ : World} {added : List Registration}

/-- A step that returned went along a path that can be followed. -/
theorem followed_step {outcome : Option Made}
    (h : (p.consider clientClass settings channel api capability path).perform w =
      (.ok outcome, w₁)) (cause : Fault) :
    Implementation.find w.installed path ≠ .broken cause := by
  have hsettles : ∃ outcome w₁,
      p.Settles clientClass settings channel api capability path w (.ok outcome) w₁ := by
    cases considers h with
    | skipped hsettles => exact ⟨_, _, hsettles⟩
    | made hsettles => exact ⟨_, _, hsettles⟩
  obtain ⟨_, _, hsettles⟩ := hsettles
  cases hsettles with
  | unavailable hfind => simp [hfind]
  | served hfind => simp [hfind]
  | unselected hfind => simp [hfind]
  | made hfind => simp [hfind]

/-- An offer is skipped when its capability is served wherever it could be. -/
theorem settled_step (hpath : ∀ cause, Implementation.find w.installed path ≠ .broken cause)
    (hserved : ∀ found, Implementation.find w.installed path = .found found →
      p.selectedFor capability settings = true →
      (Registry.find? w.registrations capability).isSome = true) :
    ∃ more, (p.consider clientClass settings channel api capability path).perform w =
      (.ok none, w.noted more) := by
  rcases hrun : (p.settle clientClass settings channel api capability path).perform w
    with ⟨r, w₁⟩
  rw [consider, Action.perform_bind, hrun]
  cases settles hrun with
  | broken hfind => exact absurd hfind (hpath _)
  | unavailable | served | unselected => exact ⟨_, rfl⟩
  | failed hfind hopen hselected | made hfind hopen hselected =>
      have hstands := hserved _ hfind hselected
      rw [hopen] at hstands
      cases hstands

/-- A chain that once returned makes nothing more where all that it could serve
is served and the same is installed. -/
theorem Registers.again
    (h : p.Registers clientClass settings channel api offers w added api' w')
    (hinstalled : w₂.installed = w.installed)
    (hserved : ∀ c, p.selectedFor c settings = true →
      (offered? w.installed offers c).isSome = true →
      (Registry.find? w₂.registrations c).isSome = true) (client : Option ClientId) :
    ∃ more, p.Registers clientClass settings channel client offers w₂ [] client
      (w₂.noted more) := by
  -- Both kinds of steps are settled alike; what is left of the offers is served too.
  have hstep {capability : Capability} {path : String} {rest : List (Capability × String)}
      {w w₂ : World} (hpath : ∀ cause, Implementation.find w.installed path ≠ .broken cause)
      (hinstalled : w₂.installed = w.installed)
      (hserved : ∀ c, p.selectedFor c settings = true →
        (offered? w.installed ((capability, path) :: rest) c).isSome = true →
        (Registry.find? w₂.registrations c).isSome = true) :
      ∃ n, (p.consider clientClass settings channel client capability path).perform w₂ =
        (.ok none, w₂.noted n) := by
    rw [← hinstalled] at hpath hserved
    apply settled_step hpath
    intro found hfind hselected
    apply hserved capability hselected
    rw [offered?_cons_self rest hfind]
    rfl
  have hrest {installed : Installation} {capability : Capability} {path : String}
      {rest : List (Capability × String)} (c : Capability)
      (hoffered : (offered? installed rest c).isSome = true) :
      (offered? installed ((capability, path) :: rest) c).isSome = true := by
    rw [offered?_isSome_iff] at hoffered ⊢
    obtain ⟨q, found, hmem, hfind⟩ := hoffered
    exact ⟨q, found, List.mem_cons_of_mem _ hmem, hfind⟩
  induction h generalizing w₂ with
  | done =>
      refine ⟨[], ?_⟩
      rw [World.noted_nil]
      exact .done client w₂
  | skipped hfirst _ ih =>
      obtain ⟨n, hn⟩ := hstep (followed_step hfirst) hinstalled hserved
      obtain ⟨⟨_, _, rfl⟩, _⟩ := skipped_step hfirst
      obtain ⟨more, hmore⟩ := @ih (w₂.noted n) hinstalled
        fun c hselected hoffered => hserved c hselected (hrest c hoffered)
      refine ⟨n ++ more, .skipped hn ?_⟩
      rw [World.noted_noted] at hmore
      exact hmore
  | made hfirst _ ih =>
      obtain ⟨n, hn⟩ := hstep (followed_step hfirst) hinstalled hserved
      have hkept := (made_step hfirst).installed
      obtain ⟨more, hmore⟩ := @ih (w₂.noted n) (hinstalled.trans hkept.symm)
        fun c hselected hoffered => hserved c hselected (hrest c (by rwa [hkept] at hoffered))
      refine ⟨n ++ more, .skipped hn ?_⟩
      rw [World.noted_noted] at hmore
      exact hmore

theorem apply_again {client : Option ClientId}
    (h : (p.apply settings channel client).perform w = (.ok added, w'))
    (hinstalled : w₂.installed = w.installed)
    (hserved : ∀ c, p.Eligible w.installed settings c →
      (Registry.find? w₂.registrations c).isSome = true) :
    ∃ more, (p.apply settings channel client).perform w₂ = (.ok [], w₂.noted more) := by
  rw [perform_apply, hinstalled]
  rcases apply_returns h with ⟨reason, hfind, rfl, -⟩ | ⟨found, api', hfind, hchain⟩
  · rw [hfind]
    exact ⟨_, rfl⟩
  · obtain ⟨more, hagain⟩ := hchain.again hinstalled (fun c hselected hoffered => hserved c
      ⟨⟨found, hfind⟩, offered?_isSome_iff.mp hoffered, selectedFor_iff.mp hselected⟩) client
    rw [hfind]
    exact ⟨more, hagain.perform_eq⟩

end Provider

/-- The world without what was reported and what the vault was asked. -/
def World.unreported (w : World) : World :=
  { w with notices := [], vaultCalls := [] }

theorem World.Twins.unreported_eq {around : Surroundings} {w w' : World}
    (h : World.Twins Eq Eq around around w w') : w.unreported = w'.unreported := by
  have hregistrations : w.registrations = w'.registrations := by
    have hsame := h.registrations.imp fun _ _ hr => hr.eq
    rwa [List.forall₂_eq_eq_eq] at hsame
  have haround : w.surroundings = w'.surroundings := h.left.trans h.right.symm
  have henvironment : w.environment = w'.environment := congrArg Surroundings.environment haround
  have hvault : w.vault = w'.vault := congrArg Surroundings.vault haround
  have hinstalled : w.installed = w'.installed := congrArg Surroundings.installed haround
  rw [unreported, unreported, hregistrations, h.clients, h.channels, h.replies, h.sent, h.today,
    henvironment, hvault, hinstalled]

namespace Assembly

variable {settings : Settings} {given : Option Settings} {channel : Option Nat}
  {clients : Keyed ClientId} {providers before after : List Provider} {w w' w₂ : World}
  {added : List Registration}

theorem applyAll_append (settings : Settings) (channel : Option Nat) (clients : Keyed ClientId)
    (before after : List Provider) :
    applyAll settings channel clients (before ++ after) = (do
      let first ← applyAll settings channel clients before
      let more ← applyAll settings channel clients after
      return first ++ more) := by
  induction before with
  | nil => simp [applyAll]
  | cons p rest ih =>
      simp only [List.cons_append, applyAll, ih, bind_assoc, pure_bind, List.append_assoc]

/-- No run over entries changes what the world stands in. -/
theorem applyAll_keeps (settings : Settings) (channel : Option Nat) (clients : Keyed ClientId)
    (providers : List Provider) (w : World) :
    ((applyAll settings channel clients providers).perform w).2.surroundings = w.surroundings :=
  (agree_applyAll (Settings.Twins.refl (fun _ _ => True) settings) rfl channel clients
    (fun p (_ : p ∈ providers) => Provider.offersOnly_true _ p.models) w w
    (World.Twins.refl w)).2.left

theorem settingsIn_eq (given : Option Settings) (h : w'.surroundings = w.surroundings) :
    settingsIn w' given = settingsIn w given := by
  have henvironment : w'.environment = w.environment := congrArg Surroundings.environment h
  have hvault : w'.vault = w.vault := congrArg Surroundings.vault h
  rw [settingsIn, settingsIn, henvironment, hvault]

theorem surroundings_consulted (w : World) (given : Option Settings) :
    (consulted w given).surroundings = w.surroundings := by
  cases given <;> rfl

/-- Assembles the entries of a first list and, if that returned, those of a
second one. -/
def assembleInTurn (given : Option Settings) (before after : List Provider)
    (channel : Option Nat) (clients : Keyed ClientId) : Action (List Registration) := do
  let first ← assemble given (some before) channel clients
  let more ← assemble given (some after) channel clients
  return first ++ more

/-- The second of two assemblies works with the settings of the first one, in a
world that differs from that after a first run over entries by reports alone. -/
theorem consulted_again {w₁ : World} (notices : List Notice)
    (h : (applyAll (settingsIn w given) channel clients before).perform (consulted w given) =
      (.ok added, w₁)) :
    settingsIn (w₁.noted notices) given = settingsIn w given ∧
      World.Twins Eq Eq w₁.surroundings w₁.surroundings w₁
        (consulted (w₁.noted notices) given) := by
  have hkept := applyAll_keeps (settingsIn w given) channel clients before (consulted w given)
  rw [h, surroundings_consulted] at hkept
  have hsame := World.Twins.refl w₁
  refine ⟨settingsIn_eq given hkept, ?_⟩
  cases given <;> exact ⟨hsame.registrations, rfl, rfl, rfl, rfl, rfl, rfl, rfl⟩

theorem assemble_append (given : Option Settings) (channel : Option Nat)
    (clients : Keyed ClientId) (before after : List Provider) (w : World) :
    ((assemble given (some (before ++ after)) channel clients).perform w).1 =
        ((assembleInTurn given before after channel clients).perform w).1 ∧
      ((assemble given (some (before ++ after)) channel clients).perform w).2.unreported =
        ((assembleInTurn given before after channel clients).perform w).2.unreported := by
  have hentries (list : List Provider) : entries (some list) = list := rfl
  rw [assembleInTurn, perform_assemble, Action.perform_bind, perform_assemble]
  simp only [hentries]
  rw [applyAll_append, Action.perform_bind]
  rcases hfirst : (applyAll (settingsIn w given) channel clients before).perform
    (consulted w given) with ⟨cause | first, w₁⟩
  · exact ⟨rfl, rfl⟩
  · simp only [Action.perform_bind, perform_assemble, hentries]
    obtain ⟨hsettings, hworlds⟩ := consulted_again _ hfirst
    rw [hsettings]
    obtain ⟨hresult, hworlds⟩ :=
      agree_applyAll (Settings.Twins.refl (fun _ _ => True) (settingsIn w given)) rfl channel
        clients (fun p (_ : p ∈ after) => Provider.offersOnly_true _ p.models) _ _ hworlds
    rcases hleft : (applyAll (settingsIn w given) channel clients after).perform w₁ with ⟨r, v⟩
    rcases hright : (applyAll (settingsIn w given) channel clients after).perform
      (consulted (w₁.noted (Capability.all.flatMap (unknownSelectorNotices (settingsIn w given)
        (knownIdentifiers before) w₁.registrations))) given) with ⟨r', v'⟩
    rw [hleft, hright] at hresult hworlds
    cases hresult with
    | failed cause => exact ⟨rfl, hworlds.unreported_eq⟩
    | returned hmore =>
        have hsame := hmore.imp fun _ _ hr => hr.eq
        rw [List.forall₂_eq_eq_eq] at hsame
        rw [hsame]
        exact ⟨rfl, hworlds.unreported_eq⟩

theorem Applies.again (h : Applies settings channel clients providers w added w')
    (hinstalled : w₂.installed = w.installed)
    (hserved : ∀ p ∈ providers, ∀ c, p.Eligible w.installed settings c →
      (Registry.find? w₂.registrations c).isSome = true) :
    ∃ more, Applies settings channel clients providers w₂ [] (w₂.noted more) := by
  induction h generalizing w₂ with
  | done =>
      refine ⟨[], ?_⟩
      rw [World.noted_nil]
      exact .done w₂
  | next hentry _ ih =>
      obtain ⟨n, hn⟩ := Provider.apply_again hentry hinstalled (hserved _ List.mem_cons_self)
      have hkept := (Provider.entryRun hentry).installed
      obtain ⟨more, hmore⟩ := @ih (w₂.noted n) (hinstalled.trans hkept.symm)
        fun p hp c heligible =>
          hserved p (List.mem_cons_of_mem _ hp) c (by rwa [hkept] at heligible)
      refine ⟨n ++ more, ?_⟩
      rw [World.noted_noted] at hmore
      exact .next hn hmore

theorem assemble_again {list : Option (List Provider)}
    (h : (assemble given list channel clients).perform w = (.ok added, w')) :
    ∃ more, (assemble given list channel clients).perform w' =
      (.ok [], (consulted w' given).noted more) := by
  obtain ⟨w₁, notices, rfl, hchain⟩ := assemble_returns h
  have hsettings := (consulted_again notices hchain.perform_eq).1
  have hinstalled : (consulted (w₁.noted notices) given).installed =
      (consulted w given).installed := by
    rw [installed_consulted]
    exact hchain.installed_eq
  have hserved : ∀ p ∈ entries list, ∀ c,
      p.Eligible (consulted w given).installed (settingsIn w given) c →
      (Registry.find? (consulted (w₁.noted notices) given).registrations c).isSome = true := by
    intro p hp c heligible
    rw [registrations_consulted, World.registrations_noted]
    exact hchain.complete hp heligible
  obtain ⟨more, hagain⟩ := hchain.again hinstalled hserved
  rw [← hsettings] at hagain
  obtain ⟨warnings, hrun⟩ := hagain.assemble_eq
  rw [World.noted_noted] at hrun
  exact ⟨more ++ warnings, hrun⟩

/-- Assembling a list of entries is assembling its two parts in turn, in what is
registered, built and returned or raised. After an assembly that returned the
same assembly makes nothing: it only reads its settings again and reports. -/
theorem assemble_composes (given : Option Settings) (channel : Option Nat)
    (clients : Keyed ClientId) (w : World) :
    (∀ before after : List Provider,
      ((assemble given (some (before ++ after)) channel clients).perform w).1 =
          ((assembleInTurn given before after channel clients).perform w).1 ∧
        ((assemble given (some (before ++ after)) channel clients).perform w).2.unreported =
          ((assembleInTurn given before after channel clients).perform w).2.unreported) ∧
      ∀ (list : Option (List Provider)) (added : List Registration) (w' : World),
        (assemble given list channel clients).perform w = (.ok added, w') →
        ∃ more, (assemble given list channel clients).perform w' =
          (.ok [], (consulted w' given).noted more) :=
  ⟨fun before after => assemble_append given channel clients before after w,
    fun _ _ _ => assemble_again⟩

private def chatAlone : List Provider :=
  [{ Provider.watsonx with models := Provider.watsonx.models.take 1 }]

private def handedWorld : World where
  clients := [⟨.supplied "own" .returns fun _ _ => .null, 0, []⟩]

/-- An entry that offers the chat capability alone is assembled twice, while the
other capability stays open. -/
theorem assemble_composes_chat_alone : ∃ added w',
    (assemble (some {}) (some chatAlone) none [(watsonxProvider, 0)]).perform handedWorld =
      (.ok added, w') ∧
    w'.registrations.map (·.capability) = [.chat] ∧
    ∃ more, (assemble (some {}) (some chatAlone) none [(watsonxProvider, 0)]).perform w' =
      (.ok [], w'.noted more) := by
  have hresult : ((assemble (some {}) (some chatAlone) none
        [(watsonxProvider, 0)]).perform handedWorld).1.toOption.isSome = true ∧
      ((assemble (some {}) (some chatAlone) none
        [(watsonxProvider, 0)]).perform handedWorld).2.registrations.map (·.capability) =
        [.chat] := by
    decide +kernel
  rcases hrun : (assemble (some {}) (some chatAlone) none
    [(watsonxProvider, 0)]).perform handedWorld with ⟨cause | added, w'⟩
  · rw [hrun] at hresult
    cases hresult.1
  · rw [hrun] at hresult
    exact ⟨added, w', rfl, hresult.2,
      (assemble_composes (some {}) none [(watsonxProvider, 0)] handedWorld).2 _ added w' hrun⟩

end Assembly

end ModelWiring
