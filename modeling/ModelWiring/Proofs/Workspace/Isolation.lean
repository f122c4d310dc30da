import ModelWiring.Proofs.Options.Building
import ModelWiring.Proofs.Workspace.Evolution

/-!
Records stand apart from whatever they were made of. In a session in which no
record is made by hand, a record that is built, copied or merged refers to no
list or map, so that it reads the same after all that follows; and a record
that is built holds what the values of its builder were at that moment.
-/

namespace ModelWiring

namespace Command

/-- The terms that a command evaluates. -/
def terms : Command → List Term
  | bind _ value | push _ _ value | ofOptions _ _ value | ofBlock _ _ value | merge _ value _
  | equal _ value | sameHash _ value | query _ _ (.equal value) => [value]
  | call _ _ args => args
  | construct _ _ fields => fields.map (·.2)
  | _ => []

/-- The name that a command binds to the record that it makes of others or of a
builder. -/
def product? : Command → Option String
  | build _ target | copy _ target | merge _ _ target => some target
  | _ => none

end Command

namespace Workspace

/-- A command that makes no record by hand and puts only a text and a number into
a bias. -/
structure Permits (w : Workspace) (c : Command) : Prop where
  terms : ∀ t ∈ c.terms, t.Permitted w
  notByHand : ∀ target kind fields, c ≠ .construct target kind fields

/-- A workspace that commands lead to, whether they succeed or fail. -/
inductive Reaches (w : Workspace) : Workspace → Prop
  | here : w.Reaches w
  | step {w' : Workspace} {c : Command} : w.Reaches w' → w'.Permits c → w.Reaches (w'.step c).1.2

/-- A later store that has a record under a name, one that refers to no list or
map. -/
def Yields (w : Workspace) (target : String) (w' : Workspace) : Prop :=
  w.Evolves w' ∧ ∃ r : Record, w'.lookUp target = .ok r.toValue ∧ r.Refers w'.LeadsToBuilder

/-- A record whose fields are what freezing makes of the values of a builder now. -/
def SnapshotOf (w : Workspace) (source : String) (r : Record) : Prop :=
  ∃ v b, w.lookUp source = .ok v ∧ w.builder? v = some b ∧ r.kind = b.kind ∧
    ∀ field ∈ b.kind.fieldNames, w.Freezes (b.reads field) (r.get field)

variable {w w' w₁ w₂ : Workspace}

theorem Yields.of_evolves {target : String} (h : w₁.Yields target w₂) (hw : w.Evolves w₁) :
    w.Yields target w₂ :=
  ⟨hw.trans h.1, h.2⟩

namespace Step

theorem ensures_bindRecord (hw : w.Consistent) (target : String) {r : Record}
    (hr : r.Refers w.LeadsToBuilder) :
    Ensures (bindRecord target r) w fun _ w' => w.Yields target w' := by
  intro before answer w' notices hrun
  rw [perform_bindRecord] at hrun
  cases hrun
  have hevolves : w.Evolves (w.bind target r.toValue) :=
    .bind hw target (sound_of_refers_builder hr)
  exact ⟨hevolves, r, lookUp_bind _ _, fun v hv => hevolves.grows.settled (hr v hv)⟩

theorem refers_asRecord (hw : w.Consistent) {name method : String} {v : Value} {r : Record}
    (hv : w.lookUp name = .ok v) (hr : v.asRecord method = .ok r) : r.Refers w.LeadsToBuilder := by
  unfold Value.asRecord at hr
  split at hr
  · next found hfound =>
      cases hr
      exact .of_record? (hw.lookUp hv) hfound
  · cases hr

theorem ensures_copy (hw : w.Consistent) (source target : String) :
    Ensures (execute (.copy source target)) w fun _ w' => w.Yields target w' := by
  unfold execute
  refine ensures_source_bind fun v hv => ensures_lift_bind fun r hr => ensures_get_bind ?_
  have hrefers := refers_asRecord hw hv hr
  refine ensures_lift_bind fun copied hcopied => ensures_bindRecord hw target ?_
  unfold copyNow at hcopied
  obtain ⟨b, hb, hbuilt⟩ := bind_ok hcopied
  exact hw.refers_buildNow (sound_of_settled (.ofRecord hrefers hb)) hbuilt

theorem refers_mergeValues (hw : w.Consistent) {lower upper : Value} (hlower : w.Sound lower)
    (hupper : w.Sound upper) {merged : Record} (hmerged : w.mergeValues lower upper = .ok merged) :
    merged.Refers w.LeadsToBuilder := by
  unfold mergeValues at hmerged
  split at hmerged
  · next r hr =>
      obtain ⟨b, hb, hbuilt⟩ := bind_ok hmerged
      have hlaid : b.Refers w.LeadsToBuilder w.LeadsToBuilder :=
        Record.Refers.overlayBuilder (.of_record? hlower hr) (fun u hu => .of_record? hupper hu) hb
      exact hw.refers_buildNow (sound_of_settled hlaid) hbuilt
  · cases hmerged

theorem ensures_merge (hw : w.Consistent) (source target : String) {upper : Term}
    (hupper : upper.Permitted w) :
    Ensures (execute (.merge source upper target)) w fun _ w' => w.Yields target w' := by
  unfold execute
  refine ensures_source_bind fun lower hlower => ?_
  refine ensures_evaluate_bind hw hupper fun above w₁ hevolves habove => ensures_get_bind ?_
  have hsound := hevolves.grows.sound (hw.lookUp hlower)
  refine ensures_lift_bind fun merged hmerged => ?_
  have hrefers := refers_mergeValues hevolves.consistent hsound habove hmerged
  refine ensures_bind (ensures_bindRecord hevolves.consistent target hrefers) ?_
  intro answer w' hyields
  exact ensures_get_bind (ensures_pure (hyields.of_evolves hevolves))

theorem ensures_build (hw : w.Consistent) (source target : String) :
    Ensures (execute (.build source target)) w fun _ w' => w.Yields target w' ∧
      ∀ r : Record, w'.lookUp target = .ok r.toValue → w.SnapshotOf source r := by
  unfold execute
  refine ensures_source_bind fun v hv => ensures_get_bind ?_
  split
  · next b hb =>
      refine ensures_get_bind (ensures_lift_bind fun r hr => ?_)
      have hrefers := hw.refers_buildNow (hw.builder hb) hr
      obtain ⟨hkind, hfields⟩ := freezes_of_buildNow hr
      intro before answer w' notices hrun
      refine ⟨ensures_bindRecord hw target hrefers _ _ _ _ hrun, fun other hother => ?_⟩
      rw [perform_bindRecord] at hrun
      cases hrun
      have hsame : other = r :=
        Record.toValue_injective (Except.ok.inj (hother.symm.trans (lookUp_bind _ _)))
      subst hsame
      exact ⟨v, b, hv, hb, hkind, hfields⟩
  · exact ensures_throw _

/-- Every command that is permitted leads to a later store. -/
theorem ensures_execute (hw : w.Consistent) {c : Command} (hc : w.Permits c) :
    Ensures (execute c) w fun _ w' => w.Evolves w' := by
  have hterm (t : Term) (ht : c.terms = [t]) : t.Permitted w :=
    hc.terms t (by rw [ht]; exact List.mem_singleton_self t)
  cases c with
  | bind target value =>
      exact ensures_evaluate_bind hw (hterm _ rfl) fun v w₁ hfirst hv =>
        (ensures_bindValue hfirst.consistent target hv).mono fun _ _ => hfirst.trans
  | push name key value =>
      refine ensures_source_bind fun _ _ => ensures_evaluate_bind hw (hterm _ rfl) ?_
      exact fun v w₁ hfirst hv =>
        (ensures_pushInto hfirst.consistent name key hv).mono fun _ _ => hfirst.trans
  | display name => exact ensures_sourceView_bind fun _ => ensures_pure (.refl hw)
  | builder target kind => exact ensures_lift_bind fun b hb => ensures_bindBuilder hw target (.start hb)
  | call name method args =>
      refine ensures_source_bind fun _ _ => ensures_bind (ensures_evaluate_all hw hc.terms) ?_
      exact fun values w₁ ⟨hfirst, hvalues⟩ =>
        (ensures_callBuilder hfirst.consistent name method hvalues).mono fun _ _ => hfirst.trans
  | build source target =>
      exact (ensures_build hw source target).mono fun _ _ h => h.1.1
  | construct target kind fields => exact absurd rfl (hc.notByHand target kind fields)
  | ofOptions target kind options =>
      refine ensures_evaluate_bind hw (hterm _ rfl) fun v w₁ hfirst hv => ensures_lift_bind ?_
      intro b hb
      have hsettled := Builder.Refers.ofOptions hv hb
      exact (ensures_bindBuilder hfirst.consistent target (sound_of_settled hsettled)).mono
        fun _ _ => hfirst.trans
  | ofBlock target kind block =>
      refine ensures_evaluate_bind hw (hterm _ rfl) fun v w₁ hfirst hv => ?_
      refine ensures_bind (ensures_fillBuilder hfirst.consistent hv) fun b w₂ ⟨hsame, hb⟩ => ?_
      subst hsame
      exact (ensures_bindBuilder hfirst.consistent target hb).mono fun _ _ => hfirst.trans
  | copy source target => exact (ensures_copy hw source target).mono fun _ _ h => h.1
  | wire name =>
      exact ensures_sourceView_bind fun _ => ensures_lift_bind fun _ _ =>
        ensures_lift_bind fun _ _ => ensures_pure (.refl hw)
  | get name member =>
      exact ensures_source_bind fun v hv => ensures_memberOf_bind (hw.lookUp hv) fun _ _ =>
        ensures_get_bind (ensures_pure (.refl hw))
  | accessors name =>
      refine ensures_sourceView_bind fun v => ensures_bind (ensures_mapM (w.Evolves ·) ?_ (.refl hw)) ?_
      · exact fun accessor _ w' hw' => ensures_lift_bind fun _ _ => ensures_pure hw'
      · exact fun _ _ h => ensures_pure h
  | inspect name => exact ensures_sourceView_bind fun _ => ensures_pure (.refl hw)
  | assign name member => exact ensures_changeAttribute hw name false member
  | delete name member => exact ensures_changeAttribute hw name true member
  | merge source upper target =>
      exact (ensures_merge hw source target (hterm _ rfl)).mono fun _ _ h => h.1
  | equal name other =>
      exact ensures_sourceView_bind fun _ => ensures_evaluateView_bind hw (hterm _ rfl) fun _ _ h =>
        ensures_pure h
  | sameHash name other =>
      exact ensures_sourceView_bind fun _ => ensures_evaluateView_bind hw (hterm _ rfl) fun _ _ h =>
        ensures_lift_bind fun _ _ => ensures_pure h
  | hashable name =>
      exact ensures_sourceView_bind fun _ => ensures_lift_bind fun _ _ => ensures_pure (.refl hw)
  | duplicate name how =>
      exact ensures_sourceView_bind fun _ => ensures_get_bind (ensures_lift_bind fun _ _ =>
        ensures_pure (.refl hw))
  | query name field question =>
      have hterms (t : Term) (ht : question = .equal t) : t.Permitted w := by
        subst ht
        exact hterm t rfl
      refine ensures_source_bind fun v hv => ?_
      cases field with
      | none => exact ensures_asked hw (hw.lookUp hv) hterms
      | some field =>
          exact ensures_memberOf_bind (hw.lookUp hv) fun m hm => ensures_asked hw hm hterms

end Step

theorem evolves_step (hw : w.Consistent) {c : Command} (hc : w.Permits c) :
    w.Evolves (w.step c).1.2 := by
  unfold step
  rcases hrun : ((execute c).run w).run.run [] with ⟨cause | ⟨answer, w'⟩, notices⟩
  · exact .refl hw
  · exact Step.ensures_execute hw hc _ _ _ _ hrun

theorem consistent_empty : ({} : Workspace).Consistent :=
  ⟨List.forall_mem_nil _, List.forall_mem_nil _⟩

theorem Reaches.evolves (hw : w.Consistent) (h : w.Reaches w') : w.Evolves w' := by
  induction h with
  | here => exact .refl hw
  | step _ hc ih => exact ih.trans (evolves_step ih.consistent hc)

theorem answer_step (w : Workspace) (c : Command) :
    (w.step c).1.1 = ((execute c).perform w []).1.map Prod.fst := by
  unfold step Step.perform
  rcases ((execute c).run w).run.run [] with ⟨cause | ⟨answer, w'⟩, notices⟩ <;> rfl

section

variable {name : String} {r : Record} (hname : w.lookUp name = .ok r.toValue)
  (hr : r.Refers w.LeadsToBuilder)

include hname hr

theorem answer_get (field : String) :
    (w.step (.get name field)).1.1 = (r.toValue.member field).map .value := by
  have hview (v : Value) (hv : r.toValue.member field = .ok v) : w.view v = v :=
    Settled.view_eq (hr.member hv)
  rw [answer_step, execute]
  simp only [Step.perform_bind, Step.perform_source, hname, Except.map, memberOf, Step.perform_get,
    Record.toValue, Step.perform_lift, Step.perform_pure]
  cases hmember : r.toValue.member field with
  | error cause => simp only [Record.toValue] at hmember; simp only [hmember]
  | ok v =>
      have hsame := hview v hmember
      simp only [Record.toValue] at hmember
      simp only [hmember, hsame]

theorem answer_inspect :
    (w.step (.inspect name)).1.1 = .ok (.value (.text r.toValue.inspect)) := by
  have hview : w.view r.toValue = r.toValue := Settled.view_eq (Record.refers_toValue.mpr hr)
  rw [answer_step, execute]
  simp only [Step.perform_bind, sourceView, Step.perform_source, hname, Except.map,
    Step.perform_get, Step.perform_pure, hview]

theorem answer_wire : (w.step (.wire name)).1.1 = r.wire.map (.value ∘ .map) := by
  have hview : w.view r.toValue = r.toValue := Settled.view_eq (Record.refers_toValue.mpr hr)
  have hrecord : r.toValue.asRecord "to_dict" = .ok r := rfl
  rw [answer_step, execute]
  simp only [Step.perform_bind, sourceView, Step.perform_source, hname, Except.map,
    Step.perform_get, Step.perform_pure, hview, hrecord, Step.perform_lift]
  cases r.wire <;> rfl

end

/-- What a command that makes a record of others or of a builder leads to. -/
theorem yields_of_step (hw : w.Consistent) {c : Command} (hc : w.Permits c) {target : String}
    (htarget : c.product? = some target) {answer : Answer} {notices : List Notice}
    (hstep : w.step c = ((.ok answer, w₁), notices)) :
    w.Yields target w₁ ∧ ∀ source, c = .build source target →
      ∀ r : Record, w₁.lookUp target = .ok r.toValue → w.SnapshotOf source r := by
  have hrun : (execute c).perform w [] = (.ok (answer, w₁), notices) := by
    unfold step at hstep
    unfold Step.perform
    rcases hperform : ((execute c).run w).run.run [] with ⟨cause | ⟨a, w'⟩, noted⟩ <;>
      rw [hperform] at hstep <;> cases hstep
    rfl
  cases c with
  | build source other =>
      cases htarget
      obtain ⟨hyields, hsnapshot⟩ := Step.ensures_build hw source target _ _ _ _ hrun
      exact ⟨hyields, fun _ heq => by cases heq; exact hsnapshot⟩
  | copy source other =>
      cases htarget
      exact ⟨Step.ensures_copy hw source target _ _ _ _ hrun, nofun⟩
  | merge source upper other =>
      cases htarget
      have hupper := hc.terms upper (List.mem_singleton_self upper)
      exact ⟨Step.ensures_merge hw source target hupper _ _ _ _ hrun, nofun⟩
  | _ => cases htarget

/-- A record that is built, copied or merged reads the same after all that
follows in the session: wherever it is held, each of its fields, its text and
its form on the wire. If it is built, it holds what the values of its builder
were at that moment. -/
theorem record_stands_apart {c : Command} {target : String} {answer : Answer}
    {notices : List Notice} (hrun : ({} : Workspace).Reaches w) (hc : w.Permits c)
    (htarget : c.product? = some target) (hstep : w.step c = ((.ok answer, w₁), notices))
    (hlater : w₁.Reaches w₂) :
    ∃ r : Record, w₁.lookUp target = .ok r.toValue ∧
      (∀ source, c = .build source target → w.SnapshotOf source r) ∧
      w₁.view r.toValue = r.toValue ∧ w₂.view r.toValue = r.toValue ∧
      ∀ name, w₂.lookUp name = .ok r.toValue →
        (∀ field, (w₂.step (.get name field)).1.1 = (w₁.step (.get target field)).1.1) ∧
        (w₂.step (.inspect name)).1.1 = (w₁.step (.inspect target)).1.1 ∧
        (w₂.step (.wire name)).1.1 = (w₁.step (.wire target)).1.1 := by
  have hw := (hrun.evolves consistent_empty).consistent
  obtain ⟨⟨hevolves, r, hbound, hr⟩, hsnapshot⟩ := yields_of_step hw hc htarget hstep
  have hgrows := (hlater.evolves hevolves.consistent).grows
  have hlaterRefers : r.Refers w₂.LeadsToBuilder := fun v hv => hgrows.settled (hr v hv)
  refine ⟨r, hbound, fun source hsource => hsnapshot source hsource r hbound,
    Settled.view_eq (Record.refers_toValue.mpr hr),
    Settled.view_eq (Record.refers_toValue.mpr hlaterRefers), fun name hname => ⟨fun field => ?_, ?_, ?_⟩⟩
  · rw [answer_get hname hlaterRefers, answer_get hbound hr]
  · rw [answer_inspect hname hlaterRefers, answer_inspect hbound hr]
  · rw [answer_wire hname hlaterRefers, answer_wire hbound hr]

/-- A list of the session's that a builder was given inside a map. -/
private def sharedList : Workspace where
  bindings := [("stops", .ref ⟨.list, 0⟩), ("chat", .ref ⟨.builder .watsonxChat, 1⟩)]
  cells := [.list [.text "END"], .builder {
    kind := .watsonxChat
    values := [("additional", .map [("nested", .map [("stops", .ref ⟨.list, 0⟩)])])] }]

/-- The same session once a record is built and the list has grown. -/
private def grownList : Workspace where
  bindings := sharedList.bindings ++ [("first", (Record.ofFields .watsonxChat fun field =>
    if field = "additional" then .frozen [("nested", .frozen [("stops", .tuple [.text "END"])])]
    else .null).toValue)]
  cells := [.list [.text "END", .text "MORE"]] ++ sharedList.cells.tail

private theorem reaches_sharedList : ({} : Workspace).Reaches sharedList := by
  have hbound : ({} : Workspace).Reaches
      (({} : Workspace).step (.bind "stops" (.list [.text "END"]))).1.2 :=
    .step .here ⟨List.forall_mem_singleton.mpr ⟨trivial, trivial⟩, nofun⟩
  have hbuilder := hbound.step (c := .builder "chat" .watsonxChat) ⟨List.forall_mem_nil _, nofun⟩
  exact hbuilder.step (c := .call "chat" "additional_property"
      [.text "nested", .map [("stops", .bound "stops")]])
    ⟨List.forall_mem_cons.mpr ⟨trivial, List.forall_mem_singleton.mpr ⟨trivial, trivial⟩⟩, nofun⟩

theorem record_stands_apart_shared :
    ∃ r : Record, sharedList.SnapshotOf "chat" r ∧ grownList.lookUp "first" = .ok r.toValue ∧
      (grownList.step (.get "first" "additional")).1.1 =
        .ok (.value (.frozen [("nested", .frozen [("stops", .tuple [.text "END"])])])) ∧
      (grownList.step (.display "stops")).1.1 =
        .ok (.value (.list [.text "END", .text "MORE"])) := by
  have hbuild : sharedList.Permits (.build "chat" "first") := ⟨List.forall_mem_nil _, nofun⟩
  have hgrown : (sharedList.step (.build "chat" "first")).1.2.Reaches grownList :=
    .step (c := .push "stops" none (.text "MORE")) .here
      ⟨List.forall_mem_singleton.mpr trivial, nofun⟩
  obtain ⟨r, hbound, hsnapshot, _, _, hreadings⟩ :=
    record_stands_apart reaches_sharedList hbuild rfl rfl hgrown
  have hsame : grownList.lookUp "first" = .ok r.toValue := hbound
  exact ⟨r, hsnapshot "chat" rfl, hsame, ((hreadings "first" hsame).1 "additional").trans rfl, rfl⟩

end Workspace

end ModelWiring
