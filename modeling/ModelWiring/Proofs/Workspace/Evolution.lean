import ModelWiring.Proofs.Workspace.Evaluation

/-!
What the commands of a session do to its store. One lemma for each way to
build a step tells what the step ensures; from them follows, command by
command, that the store stays consistent and grows, unless a record is made
by hand.
-/

namespace ModelWiring.Workspace

/-- A later store, which is consistent again. -/
structure Evolves (w w' : Workspace) : Prop where
  grows : w.Grows w'
  consistent : w'.Consistent

variable {w w' w'' : Workspace}

namespace Evolves

theorem trans (h : w.Evolves w') (h' : w'.Evolves w'') : w.Evolves w'' :=
  ⟨h.grows.trans h'.grows, h'.consistent⟩

theorem refl (hw : w.Consistent) : w.Evolves w :=
  ⟨.refl w, hw⟩

/-- What was told apart, and what builders were told to forget, is no part of
the store. -/
theorem of_same (hw : w.Consistent) (hbindings : w'.bindings = w.bindings)
    (hcells : w'.cells = w.cells) : w.Evolves w' := by
  have hgrows : w.Grows w' := .of_cells hcells
  refine ⟨hgrows, ⟨?_, ?_⟩⟩
  · rw [hbindings]
    exact fun entry hentry => hgrows.sound (hw.bindings entry hentry)
  · rw [hcells]
    exact fun cell hcell => hgrows.soundCell (hw.cells cell hcell)

theorem bind (hw : w.Consistent) (name : String) {v : Value} (hv : w.Sound v) :
    w.Evolves (w.bind name v) :=
  ⟨.of_cells rfl, ⟨Keyed.forall_put (P := w.Sound) hv hw.bindings, hw.cells⟩⟩

theorem addCell (hw : w.Consistent) (kind : HandleKind) {cell : Cell} (hcell : w.SoundCell cell) :
    w.Evolves (w.addCell kind cell).2 ∧ (w.addCell kind cell).2.Sound (w.addCell kind cell).1 := by
  have hgrows : w.Grows (w.addCell kind cell).2 := by
    refine ⟨by simp [Workspace.addCell], fun handle ⟨b, hb⟩ => ⟨b, ?_⟩⟩
    exact (List.getElem?_append_left (List.getElem?_eq_some_iff.mp hb).1).trans hb
  refine ⟨⟨hgrows, ⟨?_, ?_⟩⟩, ?_⟩
  · exact fun entry hentry => hgrows.sound (hw.bindings entry hentry)
  · intro other hother
    rcases List.mem_append.mp hother with hold | hnew
    · exact hgrows.soundCell (hw.cells other hold)
    · rw [List.mem_singleton.mp hnew]
      exact hgrows.soundCell hcell
  · change w.cells.length < (w.cells ++ [cell]).length
    simp

theorem store (hw : w.Consistent) {v : Value} (hv : w.Sound v) :
    w.Evolves (w.store v).2 ∧ (w.store v).2.Sound (w.store v).1 := by
  cases v with
  | list items => exact addCell hw .list (Value.refersItems_iff.mp hv)
  | map entries => exact addCell hw .map (Value.refersEntries_iff.mp hv)
  | _ => exact ⟨refl hw, hv⟩

/-- An object may be changed, as long as a builder stays one. -/
theorem setCell (hw : w.Consistent) {handle : Handle} {cell : Cell} (hcell : w.SoundCell cell)
    (hkind : w.LeadsToBuilder handle → ∃ b, cell = .builder b) : w.Evolves (w.setCell handle cell) := by
  have hgrows : w.Grows (w.setCell handle cell) := by
    refine ⟨by simp [Workspace.setCell], fun other ⟨b, hb⟩ => ?_⟩
    unfold LeadsToBuilder Workspace.setCell
    rw [List.getElem?_set]
    split
    · next hsame =>
        have hplace := (List.getElem?_eq_some_iff.mp hb).1
        rw [if_pos (hsame ▸ hplace)]
        obtain ⟨b', rfl⟩ := hkind ⟨b, hsame ▸ hb⟩
        exact ⟨b', rfl⟩
    · exact ⟨b, hb⟩
  refine ⟨hgrows, ⟨?_, ?_⟩⟩
  · exact fun entry hentry => hgrows.sound (hw.bindings entry hentry)
  · intro other hother
    rcases List.mem_or_eq_of_mem_set hother with hold | rfl
    · exact hgrows.soundCell (hw.cells other hold)
    · exact hgrows.soundCell hcell

end Evolves

theorem opened_of_builder {handle : Handle} (h : w.LeadsToBuilder handle) :
    w.opened (.ref handle) = .ref handle :=
  opened_of_no_content h.content?_eq

theorem sound_property? {v value : Value} {name : String} (hv : w.Sound v)
    (h : v.property? name = some value) : w.Sound value := by
  have hdeclared (h : (Builder.declaredFields? v).bind (Keyed.get? name) = some value) :
      w.Sound value := by
    obtain ⟨entries, hentries, hvalue⟩ := Option.bind_eq_some_iff.mp h
    obtain ⟨key, hmem, _⟩ := Keyed.mem_of_get? hvalue
    exact Settled.sound (Builder.refers_declaredFields hv hentries (key, value) hmem)
  unfold Value.property? at h
  split at h
  case h_5 =>
    cases h
    exact hv
  case h_16 => exact hdeclared h
  all_goals
    cases h
    trivial

theorem sound_member {v value : Value} {name : String} (hv : w.Sound v)
    (h : v.member name = .ok value) : w.Sound value := by
  unfold Value.member at h
  split at h
  · next r hr =>
      have hrecord : r.Refers w.LeadsToBuilder := .of_record? hv hr
      exact Settled.sound (hrecord.member h)
  · next hproperty =>
      cases h
      exact sound_property? hv hproperty
  · cases h

namespace Step

variable {α β : Type}

/-- Whatever a step on a workspace comes to satisfies a condition. -/
def Ensures (s : Step α) (w : Workspace) (post : α → Workspace → Prop) : Prop :=
  ∀ before a w' notices, s.perform w before = (.ok (a, w'), notices) → post a w'

theorem Ensures.mono {s : Step α} {post post' : α → Workspace → Prop} (h : Ensures s w post)
    (hpost : ∀ a w', post a w' → post' a w') : Ensures s w post' :=
  fun before a w' notices hrun => hpost a w' (h before a w' notices hrun)

theorem ensures_pure {post : α → Workspace → Prop} {a : α} (h : post a w) :
    Ensures (pure a) w post := by
  intro before b w' notices hrun
  cases hrun
  exact h

theorem ensures_throw {post : α → Workspace → Prop} (cause : Fault) :
    Ensures (throw cause) w post := by
  intro before b w' notices hrun
  cases hrun

theorem ensures_throw_bind {next : α → Step β} {post : β → Workspace → Prop} (cause : Fault) :
    Ensures ((throw cause : Step α) >>= next) w post := by
  intro before b w' notices hrun
  cases hrun

theorem ensures_set_bind {next : PUnit → Step β} {post : β → Workspace → Prop}
    (h : Ensures (next ⟨⟩) w' post) : Ensures (set w' >>= next) w post := by
  intro before b after notices hrun
  exact h before b after notices hrun

theorem ensures_bind {s : Step α} {next : α → Step β} {mid : α → Workspace → Prop}
    {post : β → Workspace → Prop} (hs : Ensures s w mid)
    (hnext : ∀ a w', mid a w' → Ensures (next a) w' post) : Ensures (s >>= next) w post := by
  intro before b w' notices hrun
  rw [perform_bind] at hrun
  rcases hfirst : s.perform w before with ⟨cause | ⟨a, w₁⟩, noted⟩
  · rw [hfirst] at hrun
    cases hrun
  · rw [hfirst] at hrun
    exact hnext a w₁ (hs _ _ _ _ hfirst) _ _ _ _ hrun

theorem ensures_get_bind {next : Workspace → Step β} {post : β → Workspace → Prop}
    (h : Ensures (next w) w post) : Ensures (get >>= next) w post := by
  intro before b w' notices hrun
  exact h before b w' notices hrun

theorem ensures_lift_bind {r : Except Fault α} {next : α → Step β} {post : β → Workspace → Prop}
    (h : ∀ a, r = .ok a → Ensures (next a) w post) : Ensures (liftM r >>= next) w post := by
  intro before b w' notices hrun
  rw [perform_bind, perform_lift] at hrun
  cases r with
  | error cause => cases hrun
  | ok a => exact h a rfl _ _ _ _ hrun

theorem perform_liftReporting (r : Reporting α) (w : Workspace) (before : List Notice) :
    (liftM r : Step α).perform w before =
      ((r.run.run before).1.map (·, w), (r.run.run before).2) := by
  change (r >>= fun a => pure (a, w)).run.run before = _
  rw [ExceptT.run_bind, StateT.run_bind]
  rcases r.run.run before with ⟨_ | a, notices⟩ <;> rfl

theorem ensures_lift {r : Except Fault α} {post : α → Workspace → Prop}
    (h : ∀ a, r = .ok a → post a w) : Ensures (liftM r) w post := by
  intro before a w' notices hrun
  rw [perform_lift] at hrun
  cases r with
  | error cause => cases hrun
  | ok b =>
      cases hrun
      exact h a rfl

theorem ensures_source_bind {name : String} {next : Value → Step β} {post : β → Workspace → Prop}
    (h : ∀ v, w.lookUp name = .ok v → Ensures (next v) w post) :
    Ensures (source name >>= next) w post := by
  intro before b w' notices hrun
  rw [perform_bind, perform_source] at hrun
  cases hv : w.lookUp name with
  | error cause => rw [hv] at hrun; cases hrun
  | ok v =>
      rw [hv] at hrun
      exact h v hv _ _ _ _ hrun

theorem ensures_foldlM {f : β → α → Step β} {inv : β → Workspace → Prop} {items : List α}
    (hf : ∀ item ∈ items, ∀ b w', inv b w' → Ensures (f b item) w' inv) {b : β} (hb : inv b w) :
    Ensures (items.foldlM f b) w inv := by
  induction items generalizing b w with
  | nil => exact ensures_pure hb
  | cons item rest ih =>
      obtain ⟨hitem, hrest⟩ := List.forall_mem_cons.mp hf
      rw [List.foldlM_cons]
      exact ensures_bind (hitem b w hb) fun b' w' hb' => ih hrest hb'

theorem ensures_mapM {f : α → Step β} (inv : Workspace → Prop) {items : List α}
    (hf : ∀ item ∈ items, ∀ w', inv w' → Ensures (f item) w' fun _ w'' => inv w'') (hw : inv w) :
    Ensures (items.mapM f) w fun _ w' => inv w' := by
  induction items generalizing w with
  | nil =>
      rw [List.mapM_nil]
      exact ensures_pure hw
  | cons item rest ih =>
      obtain ⟨hitem, hrest⟩ := List.forall_mem_cons.mp hf
      rw [List.mapM_cons]
      refine ensures_bind (hitem w hw) fun _ w₁ h₁ => ensures_bind (ih hrest h₁) fun _ w₂ h₂ => ?_
      exact ensures_pure h₂

/-- Evaluating a term keeps the store. -/
theorem ensures_evaluate (hw : w.Consistent) {t : Term} (ht : t.Permitted w) :
    Ensures (evaluate t) w
      fun v w' => w'.bindings = w.bindings ∧ w'.cells = w.cells ∧ w.Sound v := by
  intro before v w' notices hrun
  rw [perform_evaluate] at hrun
  unfold Workspace.run at hrun
  cases hgiven : (t.evaluate w).run w.tags with
  | error cause => rw [hgiven] at hrun; cases hrun
  | ok outcome =>
      rw [hgiven] at hrun
      cases hrun
      exact ⟨rfl, rfl, Term.gives_evaluate hw t ht _ _ _ hgiven⟩

theorem ensures_evaluate_bind (hw : w.Consistent) {t : Term} (ht : t.Permitted w)
    {next : Value → Step β} {post : β → Workspace → Prop}
    (h : ∀ v w', w.Evolves w' → w'.Sound v → Ensures (next v) w' post) :
    Ensures (evaluate t >>= next) w post := by
  refine ensures_bind (ensures_evaluate hw ht) fun v w' ⟨hbindings, hcells, hv⟩ => ?_
  have hevolves : w.Evolves w' := .of_same hw hbindings hcells
  exact h v w' hevolves (hevolves.grows.sound hv)

theorem ensures_evaluate_all (hw : w.Consistent) {args : List Term}
    (hargs : ∀ t ∈ args, t.Permitted w) :
    Ensures (args.mapM evaluate) w fun values w' => w.Evolves w' ∧ ∀ v ∈ values, w'.Sound v := by
  induction args generalizing w with
  | nil =>
      rw [List.mapM_nil]
      exact ensures_pure ⟨.refl hw, List.forall_mem_nil _⟩
  | cons t rest ih =>
      obtain ⟨ht, hrest⟩ := List.forall_mem_cons.mp hargs
      rw [List.mapM_cons]
      refine ensures_bind (ensures_evaluate hw ht) fun v w₁ ⟨hbindings, hcells, hv⟩ => ?_
      have hfirst : w.Evolves w₁ := .of_same hw hbindings hcells
      have hlater := ih hfirst.consistent fun t ht =>
        (Term.permitted_congr hbindings hcells t).mpr (hrest t ht)
      refine ensures_bind hlater fun values w₂ ⟨hmore, hvalues⟩ => ensures_pure ⟨hfirst.trans hmore, ?_⟩
      exact List.forall_mem_cons.mpr ⟨hmore.grows.sound (hfirst.grows.sound hv), hvalues⟩

theorem ensures_bindValue (hw : w.Consistent) (target : String) {v : Value} (hv : w.Sound v) :
    Ensures (bindValue target v) w fun _ w' => w.Evolves w' := by
  obtain ⟨hstored, hsound⟩ := Evolves.store hw hv
  refine ensures_get_bind (ensures_set_bind (ensures_get_bind (ensures_pure ?_)))
  exact hstored.trans (.bind hstored.consistent target hsound)

theorem ensures_bindBuilder (hw : w.Consistent) (target : String) {b : Builder}
    (hb : b.Refers w.LeadsToBuilder w.Leads) :
    Ensures (bindBuilder target b) w fun _ w' => w.Evolves w' := by
  have hcell : w.SoundCell (.builder b) := hb
  obtain ⟨hadded, hsound⟩ := Evolves.addCell hw (.builder b.kind) hcell
  refine ensures_get_bind (ensures_set_bind (ensures_pure ?_))
  exact hadded.trans (.bind hadded.consistent target hsound)

theorem ensures_pushInto (hw : w.Consistent) (name : String) (key : Option String) {item : Value}
    (hitem : w.Sound item) : Ensures (pushInto name key item) w fun _ w' => w.Evolves w' := by
  unfold pushInto
  refine ensures_source_bind fun v hv => ensures_get_bind ?_
  dsimp only
  have hopened := hw.opened (hw.lookUp hv)
  split
  · next handle entries key hmap =>
      rw [hmap] at hopened
      refine ensures_set_bind (ensures_get_bind (ensures_pure (.setCell hw ?_ fun hb => ?_)))
      · exact Keyed.forall_put (P := w.Sound) hitem (Value.refersEntries_iff.mp hopened)
      · cases hmap.symm.trans (opened_of_builder hb)
  · exact ensures_throw_bind _
  · next handle items _ hlist =>
      rw [hlist] at hopened
      refine ensures_set_bind (ensures_get_bind (ensures_pure (.setCell hw ?_ fun hb => ?_)))
      · refine List.forall_mem_append.mpr ⟨Value.refersItems_iff.mp hopened, ?_⟩
        exact List.forall_mem_singleton.mpr hitem
      · cases hlist.symm.trans (opened_of_builder hb)
  · exact ensures_throw_bind _

theorem ensures_callBuilder (hw : w.Consistent) (name method : String) {args : List Value}
    (hargs : ∀ v ∈ args, w.Sound v) :
    Ensures (callBuilder name method args) w fun _ w' => w.Evolves w' := by
  unfold callBuilder
  refine ensures_source_bind fun v hv => ensures_get_bind ?_
  split
  · next handle b hb =>
      dsimp only
      split
      · exact ensures_throw_bind _
      · refine ensures_lift_bind fun called hcalled => ensures_set_bind (ensures_pure ?_)
        exact .setCell hw (hw.callNow (hw.builder hb) hargs hcalled) fun _ => ⟨called, rfl⟩
  · exact ensures_throw _

theorem ensures_takeSetting (hw : w.Consistent) {b : Builder} {key : Key} {v : Value}
    (hb : b.Refers w.LeadsToBuilder w.Leads) (hv : w.Sound v) :
    Ensures (takeSetting b key v) w fun b' w' => w' = w ∧ b'.Refers w.LeadsToBuilder w.Leads := by
  unfold takeSetting
  refine ensures_get_bind ?_
  dsimp only
  have hopened : (if (b.kind.resolve? key.text).isNone then w.openAdditional b else b).Refers
      w.LeadsToBuilder w.Leads := by
    split
    · exact hw.openAdditional hb
    · exact hb
  intro before b' w' notices hrun
  rw [perform_liftReporting] at hrun
  rcases htake : (Builder.takeSetting _ key v).run.run before with ⟨cause | taken, noted⟩
  · rw [htake] at hrun
    cases hrun
  · rw [htake] at hrun
    cases hrun
    exact ⟨rfl, hopened.takeSetting hv htake⟩

theorem ensures_fillBuilder (hw : w.Consistent) {kind : OptionsKind} {block : Value}
    (hblock : w.Sound block) :
    Ensures (fillBuilder kind block) w fun b' w' => w' = w ∧ b'.Refers w.LeadsToBuilder w.Leads := by
  unfold fillBuilder
  refine ensures_get_bind ?_
  split
  · next entries hentries =>
      have hall := (hw.opened hblock).entries hentries
      refine ensures_lift_bind fun b hb => ensures_foldlM ?_ ⟨rfl, .start hb⟩
      rintro ⟨key, v⟩ hentry b' w' ⟨rfl, hb'⟩
      exact ensures_takeSetting hw hb' (hall _ hentry)
  · next hnone =>
      have hblock' : block.entries? = none := by
        cases block with
        | map | frozen => cases hnone
        | _ => rfl
      intro before b' w' notices hrun
      rw [perform_liftReporting, Builder.ofBlock, hblock'] at hrun
      cases hstart : Builder.start kind <;> rw [hstart] at hrun <;> cases hrun

theorem ensures_sourceView_bind {name : String} {next : Value → Step β}
    {post : β → Workspace → Prop} (h : ∀ v, Ensures (next v) w post) :
    Ensures (sourceView name >>= next) w post := by
  unfold sourceView
  rw [bind_assoc]
  refine ensures_source_bind fun v _ => ?_
  rw [bind_assoc]
  refine ensures_get_bind ?_
  rw [pure_bind]
  exact h _

theorem ensures_evaluateView_bind (hw : w.Consistent) {t : Term} (ht : t.Permitted w)
    {next : Value → Step β} {post : β → Workspace → Prop}
    (h : ∀ v w', w.Evolves w' → Ensures (next v) w' post) :
    Ensures (evaluateView t >>= next) w post := by
  unfold evaluateView
  rw [bind_assoc]
  refine ensures_evaluate_bind hw ht fun v w' hevolves _ => ?_
  rw [bind_assoc]
  refine ensures_get_bind ?_
  rw [pure_bind]
  exact h _ w' hevolves

theorem ensures_memberOf_bind {v : Value} {name : String} {next : Value → Step β}
    {post : β → Workspace → Prop} (hv : w.Sound v) (h : ∀ v, w.Sound v → Ensures (next v) w post) :
    Ensures (memberOf v name >>= next) w post := by
  unfold memberOf
  rw [bind_assoc]
  refine ensures_get_bind ?_
  split
  · split
    · rw [pure_bind]
      exact h _ trivial
    · exact ensures_lift_bind fun member hmember => h member (sound_member hv hmember)
  · exact ensures_lift_bind fun member hmember => h member (sound_member hv hmember)

theorem ensures_changeAttribute (hw : w.Consistent) (name : String) (deleting : Bool)
    (member : String) : Ensures (changeAttribute name deleting member) w fun _ w' => w.Evolves w' := by
  unfold changeAttribute
  refine ensures_source_bind fun v hv => ensures_get_bind ?_
  split
  · dsimp only
    split
    · exact ensures_set_bind (ensures_pure (.of_same hw rfl rfl))
    · split
      · exact ensures_set_bind (ensures_pure (.of_same hw rfl rfl))
      · exact ensures_throw_bind _
  · exact ensures_lift_bind fun _ _ => ensures_pure (.refl hw)

theorem ensures_tellMap (hw : w.Consistent) {v : Value} (hv : w.Sound v) (key : String)
    (deleting : Bool) : Ensures (tellMap v key deleting) w fun _ w' => w.Evolves w' := by
  unfold tellMap
  refine ensures_get_bind ?_
  have hopened := hw.opened hv
  split
  · next handle entries hmap =>
      rw [hmap] at hopened
      have hentries := Value.refersEntries_iff.mp hopened
      have hset (table : Table) (htable : ∀ entry ∈ table, w.Sound entry.2) :
          w.Evolves (w.setCell handle (.map table)) := by
        refine .setCell hw htable fun hb => ?_
        cases hmap.symm.trans (opened_of_builder hb)
      dsimp only
      split
      · exact ensures_set_bind (ensures_pure (hset _ (Keyed.forall_put (P := w.Sound) trivial hentries)))
      · split
        · refine ensures_set_bind (ensures_pure (hset _ fun entry hentry => ?_))
          exact hentries entry (List.mem_of_mem_filter hentry)
        · exact ensures_throw_bind _
  · exact ensures_throw _

/-- A question to a value leaves the store as it is. -/
theorem ensures_asked (hw : w.Consistent) {v : Value} (hv : w.Sound v) {question : MapQuery}
    (hterms : ∀ t, question = .equal t → t.Permitted w) :
    Ensures (match question with
      | .put key => tellMap v key false
      | .delete key => tellMap v key true
      | .equal other => do liftM (question.ask ((← get).view v) (← evaluateView other))
      | question => do liftM (question.ask ((← get).view v) .null)) w fun _ w' => w.Evolves w' := by
  cases question with
  | put key => exact ensures_tellMap hw hv key false
  | delete key => exact ensures_tellMap hw hv key true
  | equal other =>
      refine ensures_get_bind (ensures_evaluateView_bind hw (hterms other rfl) fun _ _ hevolves => ?_)
      exact ensures_lift fun _ _ => hevolves
  | _ => exact ensures_get_bind (ensures_lift fun _ _ => .refl hw)

end Step

end ModelWiring.Workspace
