import ModelWiring.Proofs.Options.Wire
import ModelWiring.Proofs.Workspace.Frozen
import ModelWiring.Proofs.Workspace.Merging

/-!
What a builder accumulates. A run of calls on one builder, with builds among
them, is followed move by move: a call changes what one field will hold, and a
build changes nothing and gives what all of them hold then. So every record
depends on the calls before it alone. Each field has the last value that it was
given, frozen; the further parameters are what replacing them and putting single
keys among them, one after the other, comes to.
-/

namespace ModelWiring

/-- What a call says to a builder: the value of a field, all further parameters
at once, or one of them. -/
inductive Setting where
  | field (name : String) (value : Value)
  | further (value : Value)
  | property (key : Key) (value : Value)

namespace Setting

/-- The method that is called. -/
def method : Setting → String
  | field name _ => name
  | further _ => "additional_properties"
  | property _ _ => "additional_property"

def args : Setting → List Value
  | field _ value | further value => [value]
  | property key value => [.ofKey key, value]

/-- The value for a field, if the setting is for it. -/
def givenTo? (field : String) : Setting → Option Value
  | .field name value => if name = field then some value else none
  | _ => none

end Setting

namespace OptionsKind

theorem ne_of_mem_setters {kind : OptionsKind} {name : String} (h : name ∈ kind.setters) :
    name ∈ kind.fieldNames ∧ name ≠ "additional" ∧ name ≠ "additional_property" := by
  revert name
  cases kind <;> decide

end OptionsKind

namespace Builder

theorem call_setter {b : Builder} {name : String} (h : name ∈ b.kind.setters) (v : Value) :
    b.call name [v] = .ok (b.set name v) := by
  rw [call, if_pos h]
  rfl

theorem call_further {b : Builder} (h : b.kind = .watsonxChat) (v : Value) :
    b.call "additional_properties" [v] = .ok (b.set "additional" v) := by
  have hother : "additional_properties" ∉ b.kind.setters := by rw [h]; decide
  rw [call, if_neg hother, if_pos ⟨h, rfl⟩]
  rfl

theorem call_property {b : Builder} (h : b.kind = .watsonxChat) (key v : Value) :
    b.call "additional_property" [key, v] = b.addProperty key v := by
  have hother : "additional_property" ∉ b.kind.setters := by rw [h]; decide
  rw [call, if_neg hother, if_neg (by simp), if_pos ⟨h, rfl⟩]
  rfl

end Builder

namespace Workspace

/-- What is done with a builder: a method is called, or a record is built and
bound to a name. -/
inductive Move where
  | call (setting : Setting)
  | build (target : String)

/-- Makes the moves, one after the other, with the builder under a name; gives
the records that are built. -/
def play (name : String) : List Move → Step (List Value)
  | [] => return []
  | .call setting :: rest => do
      let _ ← callBuilder name setting.method setting.args
      play name rest
  | .build target :: rest => do
      let _ ← execute (.build name target)
      let built ← source target
      let more ← play name rest
      return built :: more

/-- Where a builder comes from: it is new, or it starts from a record. -/
inductive Start where
  | anew
  | ofRecord (r : Record)

namespace Start

def begin (name : String) (kind : OptionsKind) : Start → Step Answer
  | anew => execute (.builder name kind)
  | ofRecord r => do bindBuilder name (← liftM (Builder.ofOptions kind r.toValue))

/-- What a field holds before any call. -/
def base : Start → String → Value
  | anew, _ => .null
  | ofRecord r, field => r.get field

end Start

/-- What a value freezes to now. -/
def snapshot (w : Workspace) (v : Value) : Value :=
  (w.unfold v).freeze

/-- The further parameters after one more call. -/
def collect (w : Workspace) (before : Value) : Setting → Value
  | .field _ _ => before
  | .further value => w.snapshot value
  | .property key value => .frozen (Keyed.put key (w.snapshot value) before.table)

/-- What a record has in a field after some calls: in order, these replace the
further parameters or put a key among them; another field has the last value that
it was given, or what it held before. -/
def after (w : Workspace) (base : String → Value) (settings : List Setting) (field : String) :
    Value :=
  if field = "additional" then settings.foldl w.collect (base field)
  else ((settings.filterMap (·.givenTo? field)).getLast?.map w.snapshot).getD (base field)

/-- For each build among some moves, the calls before it. -/
def settingsBefore (done : List Setting) : List Move → List (List Setting)
  | [] => []
  | .call setting :: rest => settingsBefore (done ++ [setting]) rest
  | .build _ :: rest => done :: settingsBefore done rest

/-- A call that a kind of builders answers to, with a value that can be frozen. -/
def FitsCall (w : Workspace) (kind : OptionsKind) : Setting → Prop
  | .field name value => name ∈ kind.setters ∧ w.Acyclic value
  | .further value => kind = .watsonxChat ∧ (w.opened value).IsBag ∧ w.Acyclic value
  | .property _ value => kind = .watsonxChat ∧ w.Acyclic value

/-- A move that leaves the builder under its name. -/
def FitsMove (w : Workspace) (kind : OptionsKind) (name : String) : Move → Prop
  | .call setting => w.FitsCall kind setting
  | .build target => target ≠ name

/-- A record as builders make them: it has all fields of its kind, and each of
them is frozen. -/
structure Made (w : Workspace) (kind : OptionsKind) (r : Record) : Prop where
  kind_eq : r.kind = kind
  complete : r.Complete
  frozen : ∀ v ∈ r.values, w.Freezes v v

/-- A builder under a name, which would build a record with certain values now.
The lists and maps are those of an earlier workspace. -/
structure Stands (w₀ : Workspace) (name : String) (kind : OptionsKind) (value : String → Value)
    (w : Workspace) (handle : Handle) (b : Builder) : Prop where
  bound : w.lookUp name = .ok (.ref handle)
  cell : w.cells[handle.index]? = some (.builder b)
  kind_eq : b.kind = kind
  names : b.NamesFields
  contents : ∀ index, w.content? index = w₀.content? index
  unblanked : ∀ member, w.isBlanked handle member = false
  reads : ∀ field, w₀.Freezes (b.reads field) (value field)

variable {w₀ w : Workspace} {name : String} {kind : OptionsKind} {value value' : String → Value}
  {handle : Handle} {b b' : Builder} {setting : Setting}

namespace Stands

theorem builder?_eq (h : Stands w₀ name kind value w handle b) :
    w.builder? (.ref handle) = some b := by
  simp only [builder?, h.cell]

/-- The builder becomes another one; no list or map does. -/
theorem setCell (h : Stands w₀ name kind value w handle b) (hkind : b'.kind = kind)
    (hnames : b'.NamesFields) (hreads : ∀ field, w₀.Freezes (b'.reads field) (value' field)) :
    Stands w₀ name kind value' (w.setCell handle (.builder b')) handle b' := by
  have hplace := (List.getElem?_eq_some_iff.mp h.cell).1
  refine ⟨h.bound, List.getElem?_set_self hplace, hkind, hnames, fun index => ?_, h.unblanked,
    hreads⟩
  rw [← h.contents index]
  unfold content? Workspace.setCell
  by_cases hindex : handle.index = index
  · subst hindex
    simp only [List.getElem?_set_self hplace, h.cell]
  · simp only [List.getElem?_set_ne hindex]

theorem bindOther (h : Stands w₀ name kind value w handle b) {target : String}
    (hother : target ≠ name) (v : Value) :
    Stands w₀ name kind value (w.bind target v) handle b := by
  refine ⟨?_, h.cell, h.kind_eq, h.names, h.contents, h.unblanked, h.reads⟩
  have hbound := h.bound
  simp only [lookUp, bind, Keyed.get?_put, keying_string, if_neg hother] at hbound ⊢
  exact hbound

theorem perform_callBuilder (h : Stands w₀ name kind value w handle b) {method : String}
    {args : List Value}
    (hcall : w.callNow b method args = .ok b') (before : List Notice) :
    (callBuilder name method args).perform w before =
      (.ok (.value (.ref handle), w.setCell handle (.builder b')), before) := by
  unfold callBuilder
  simp only [Step.perform_bind, Step.perform_source, h.bound, Except.map, Step.perform_get,
    h.builder?_eq, h.unblanked, Bool.false_eq_true, if_false, Step.perform_lift, hcall,
    Step.perform_set, Step.perform_pure]

/-- A build gives the record with the values that the builder would have it
have, and leaves the builder as it is. -/
theorem perform_build (h : Stands w₀ name kind value w handle b) {target : String}
    (hother : target ≠ name) (before : List Notice) :
    ∃ answer, (execute (.build name target)).perform w before =
        (.ok (answer, w.bind target (Record.ofFields kind value).toValue), before) ∧
      Stands w₀ name kind value (w.bind target (Record.ofFields kind value).toValue) handle b := by
  have hbuilt : w.buildNow b = .ok (.ofFields kind value) := by
    rw [buildNow_eq h.names fun field _ => (h.reads field).congr h.contents, h.kind_eq]
  have hrun : (execute (.build name target)).perform w before =
      (bindRecord target (.ofFields kind value)).perform w before := by
    unfold execute
    simp only [Step.perform_bind, Step.perform_source, h.bound, Except.map, Step.perform_get,
      h.builder?_eq, Step.perform_lift, hbuilt]
  exact ⟨_, hrun.trans (Step.perform_bindRecord w before target _), h.bindOther hother _⟩

end Stands

/-- What a builder would have a record have after one more call. -/
def told (w : Workspace) (value : String → Value) (setting : Setting) (field : String) : Value :=
  if field = "additional" then w.collect (value field) setting
  else ((setting.givenTo? field).map w.snapshot).getD (value field)

theorem after_append (w : Workspace) (base : String → Value) (settings : List Setting)
    (setting : Setting) :
    w.after base (settings ++ [setting]) = w.told (w.after base settings) setting := by
  funext field
  simp only [after, told]
  split
  · rw [List.foldl_append, List.foldl_cons, List.foldl_nil]
  · rw [List.filterMap_append]
    cases hgiven : setting.givenTo? field <;> simp [hgiven]

/-- Further parameters stay such with every call. -/
theorem isBag_collect {before : Value} (hbag : before.IsBag)
    (hfits : w.FitsCall kind setting) : (w.collect before setting).IsBag := by
  cases setting with
  | field => exact hbag
  | further value => exact hfits.2.2.freezes.isBag hfits.2.1
  | property key value =>
      refine .inr ⟨_, rfl, Keyed.nodup_keys_put key _ ?_⟩
      rcases hbag with rfl | ⟨entries, hentries, hdistinct⟩
      · exact List.nodup_nil
      · rwa [Value.table, hentries]

/-- Further parameters are opened before a key is put among them. -/
theorem openAdditional_cases (b : Builder) (hbag : (w.opened (b.reads "additional")).IsBag) :
    (w.openAdditional b = b ∧ b.reads "additional" = .null) ∨
      w.openAdditional b = b.set "additional" (w.opened (b.reads "additional")) := by
  cases hfound : Keyed.get? "additional" b.values with
  | none => exact .inl ⟨by rw [openAdditional, hfound], by rw [Builder.reads, hfound]; rfl⟩
  | some v =>
      have hv : b.reads "additional" = v := by rw [Builder.reads, hfound]; rfl
      rw [hv] at hbag ⊢
      right
      simp only [openAdditional, hfound]
      congr 1
      rcases hbag with hnull | ⟨entries, hentries, -⟩
      · rw [hnull]
      · split
        · next hlist => rw [hlist] at hentries; cases hentries
        · next htuple => rw [htuple] at hentries; cases hentries
        · rfl

theorem reads_openAdditional (b : Builder) (hbag : (w.opened (b.reads "additional")).IsBag)
    (field : String) :
    (w.openAdditional b).reads field =
      if "additional" = field then w.opened (b.reads "additional") else b.reads field := by
  rcases openAdditional_cases b hbag with ⟨hsame, hnull⟩ | hset
  · rw [hsame]
    split
    · next hfield => rw [← hfield, hnull]; rfl
    · rfl
  · rw [hset, Builder.reads_set]

namespace Stands

/-- A call changes what the builder would have a record have, as it says, and
nothing else. -/
theorem perform_call (h : Stands w₀ name kind value w handle b)
    (hfits : w₀.FitsCall kind setting)
    (hbag : ∀ key v, setting = .property key v → (value "additional").IsBag)
    (before : List Notice) :
    ∃ w' b', (callBuilder name setting.method setting.args).perform w before =
        (.ok (.value (.ref handle), w'), before) ∧
      Stands w₀ name kind (w₀.told value setting) w' handle b' := by
  cases setting with
  | field field v =>
      obtain ⟨hmem, hacyclic⟩ := hfits
      obtain ⟨hfield, hown, hmethod⟩ := OptionsKind.ne_of_mem_setters hmem
      have hcall : w.callNow b field [v] = .ok (b.set field v) := by
        rw [callNow, if_neg hmethod, Builder.call_setter (h.kind_eq ▸ hmem)]
      refine ⟨_, _, h.perform_callBuilder hcall before, h.setCell h.kind_eq
        (h.names.set (h.kind_eq ▸ hfield) v) fun other => ?_⟩
      rw [Builder.reads_set]
      by_cases hother : field = other
      · subst hother
        simp only [told, if_true, if_neg hown, Setting.givenTo?]
        exact hacyclic.freezes
      · have hkept : w₀.told value (.field field v) other = value other := by
          simp only [told, collect, Setting.givenTo?, if_neg hother]
          split <;> rfl
        rw [if_neg hother, hkept]
        exact h.reads other
  | further v =>
      obtain ⟨rfl, -, hacyclic⟩ := hfits
      have hfield : "additional" ∈ b.kind.fieldNames := by rw [h.kind_eq]; decide
      have hcall : w.callNow b "additional_properties" [v] = .ok (b.set "additional" v) :=
        Builder.call_further h.kind_eq v
      refine ⟨_, _, h.perform_callBuilder hcall before,
        h.setCell h.kind_eq (h.names.set hfield v) fun other => ?_⟩
      rw [Builder.reads_set, told]
      by_cases hother : "additional" = other
      · rw [if_pos hother, if_pos hother.symm]
        exact hacyclic.freezes
      · rw [if_neg hother, if_neg (Ne.symm hother)]
        exact h.reads other
  | property key v =>
      obtain ⟨rfl, hacyclic⟩ := hfits
      have hfield : "additional" ∈ b.kind.fieldNames := by rw [h.kind_eq]; decide
      -- The lists and maps are still the same, so what stands there opens as it did.
      obtain ⟨hopened, hentries⟩ := (h.reads "additional").bag (hbag key v rfl)
      rw [← opened_congr h.contents] at hopened hentries
      have hkind : (w.openAdditional b).kind = .watsonxChat := by
        rcases openAdditional_cases b hopened with ⟨hsame, -⟩ | hset
        · rw [hsame, h.kind_eq]
        · rw [hset]
          exact h.kind_eq
      have hnames : (w.openAdditional b).NamesFields := by
        rcases openAdditional_cases b hopened with ⟨hsame, -⟩ | hset
        · rw [hsame]
          exact h.names
        · rw [hset]
          exact h.names.set hfield _
      have hreads := reads_openAdditional b hopened
      have hcall : w.callNow b "additional_property" [.ofKey key, v] =
          .ok ((w.openAdditional b).set "additional"
            (.map (Keyed.put key v (w.opened (b.reads "additional")).table))) := by
        rw [callNow, if_pos rfl, Builder.call_property hkind, Builder.addProperty_ofKey, hreads,
          if_pos rfl, hopened.toTableOrEmpty]
        rfl
      refine ⟨_, _, h.perform_callBuilder hcall before,
        h.setCell hkind (hnames.set (by rw [hkind]; decide) _) fun other => ?_⟩
      rw [Builder.reads_set, told]
      by_cases hother : "additional" = other
      · subst hother
        rw [if_pos rfl, if_pos rfl]
        exact .mapping rfl (hentries.put hacyclic.freezes)
      · rw [if_neg hother, if_neg (Ne.symm hother), hreads, if_neg hother]
        exact h.reads other

/-- A run gives, for each build in it, the record of the calls before that. -/
theorem perform_play {base : String → Value} {done : List Setting} {moves : List Move}
    (h : Stands w₀ name kind (w₀.after base done) w handle b)
    (hmoves : ∀ move ∈ moves, w₀.FitsMove kind name move)
    (hbag : (∃ key v, .call (.property key v) ∈ moves) →
      (w₀.after base done "additional").IsBag) (before : List Notice) :
    ∃ w', (play name moves).perform w before =
        (.ok ((settingsBefore done moves).map fun settings =>
          (Record.ofFields kind (w₀.after base settings)).toValue, w'), before) ∧
      (∀ index, w'.content? index = w₀.content? index) ∧
      ∀ settings ∈ settingsBefore done moves, ∀ field,
        w₀.Freezes (w₀.after base settings field) (w₀.after base settings field) := by
  induction moves generalizing done w b before with
  | nil => exact ⟨w, rfl, h.contents, nofun⟩
  | cons move rest ih =>
      obtain ⟨hmove, hrest⟩ := List.forall_mem_cons.mp hmoves
      have hbagRest : (∃ key v, .call (.property key v) ∈ rest) →
          (w₀.after base done "additional").IsBag := by
        rintro ⟨key, v, hmem⟩
        exact hbag ⟨key, v, List.mem_cons_of_mem _ hmem⟩
      cases move with
      | call setting =>
          obtain ⟨w₁, b₁, hcall, hnext⟩ := h.perform_call hmove (fun key v hsetting =>
            hbag ⟨key, v, hsetting ▸ List.mem_cons_self⟩) before
          have hcollected : (∃ key v, .call (.property key v) ∈ rest) →
              (w₀.after base (done ++ [setting]) "additional").IsBag := by
            intro hproperty
            rw [after_append]
            exact isBag_collect (hbagRest hproperty) hmove
          rw [← after_append] at hnext
          obtain ⟨w', hplay, hkept⟩ := ih hnext hrest hcollected before
          refine ⟨w', ?_, hkept⟩
          rw [play, Step.perform_bind, hcall]
          exact hplay
      | build target =>
          obtain ⟨answer, hbuild, hnext⟩ := h.perform_build hmove before
          obtain ⟨w', hplay, hcontents, hfrozen⟩ := ih hnext hrest hbagRest before
          refine ⟨w', ?_, hcontents, List.forall_mem_cons.mpr
            ⟨fun field => (h.reads field).again, hfrozen⟩⟩
          simp only [play, Step.perform_bind, hbuild, Step.perform_source, lookUp_bind, Except.map,
            hplay, Step.perform_pure, settingsBefore, List.map_cons]

end Stands

/-- The workspace with one more builder, under a name. -/
def withBuilder (w : Workspace) (name : String) (b : Builder) : Workspace :=
  { w with
    bindings := Keyed.put name (.ref ⟨.builder b.kind, w.cells.length⟩) w.bindings
    cells := w.cells ++ [.builder b] }

theorem Step.perform_bindBuilder (w : Workspace) (name : String) (b : Builder)
    (before : List Notice) :
    (bindBuilder name b).perform w before =
      (.ok (.value (.ref ⟨.builder b.kind, w.cells.length⟩), w.withBuilder name b), before) :=
  rfl

theorem content?_withBuilder (w : Workspace) (name : String) (b : Builder) (index : Nat) :
    (w.withBuilder name b).content? index = w.content? index := by
  unfold content? withBuilder
  rcases Nat.lt_trichotomy index w.cells.length with hbelow | rfl | habove
  · simp only [List.getElem?_append_left hbelow]
  · simp
  · have hlonger : (w.cells ++ [Cell.builder b]).length ≤ index := by
      rw [List.length_append, List.length_singleton]
      exact habove
    rw [List.getElem?_eq_none hlonger, List.getElem?_eq_none habove.le]

/-- A builder that is bound stands under its name. -/
theorem stands_withBuilder (hblanked : ∀ entry ∈ w.blanked, entry.1 < w.cells.length)
    (hnames : b.NamesFields) (hreads : ∀ field, w.Freezes (b.reads field) (value field))
    (name : String) :
    Stands w name b.kind value (w.withBuilder name b) ⟨.builder b.kind, w.cells.length⟩ b where
  bound := lookUp_bind name _
  cell := List.getElem?_concat_length
  kind_eq := rfl
  names := hnames
  contents := w.content?_withBuilder name b
  unblanked member := by
    have hnone : (w.cells.length, member) ∉ w.blanked := fun hmem => (hblanked _ hmem).ne rfl
    simpa [isBlanked, withBuilder] using hnone
  reads := hreads

theorem Made.freezes_get {r : Record} (h : w.Made kind r) (field : String) :
    w.Freezes (r.get field) (r.get field) := by
  rcases r.get_null_or_mem field with hnull | hmem
  · rw [hnull]
    exact .kept rfl rfl
  · exact h.frozen _ hmem

/-- A copy of a record that was built is that record again. -/
theorem Made.copy_eq {r : Record} (h : w.Made kind r) (hkind : kind ≠ .common) :
    w.copyNow r = .ok r := by
  obtain rfl := h.kind_eq
  obtain ⟨b, hstart, hsame, hnames, hreads⟩ := Builder.ofOptions_toValue hkind
  have hbuilt : w.buildNow b = .ok (.ofFields b.kind r.get) :=
    buildNow_eq hnames fun field _ => by
      rw [hreads]
      exact h.freezes_get field
  rw [copyNow, hstart, ok_bind, hbuilt, hsame, ← h.complete]

theorem after_nil (w : Workspace) (base : String → Value) : w.after base [] = base := by
  funext field
  unfold after
  split <;> rfl

namespace Start

/-- A start that there is: from a record, one that was built. -/
def Fits (w : Workspace) (kind : OptionsKind) : Start → Prop
  | anew => True
  | ofRecord r => w.Made kind r

theorem perform_begin {start : Start} (hfits : start.Fits w kind) (hkind : kind ≠ .common)
    (hblanked : ∀ entry ∈ w.blanked, entry.1 < w.cells.length) (name : String)
    (before : List Notice) :
    ∃ answer w' handle b, (start.begin name kind).perform w before = (.ok (answer, w'), before) ∧
      Stands w name kind start.base w' handle b := by
  cases start with
  | anew =>
      have hrun : (begin name kind anew).perform w before =
          (bindBuilder name (.fresh kind)).perform w before := by
        unfold begin execute
        simp only [Step.perform_bind, Step.perform_lift, Builder.start, if_neg hkind, Except.map]
        rfl
      have hstands : Stands w name kind anew.base (w.withBuilder name (.fresh kind))
          ⟨.builder kind, w.cells.length⟩ (.fresh kind) :=
        stands_withBuilder hblanked (Builder.namesFields_fresh kind) (fun _ => .kept rfl rfl) name
      exact ⟨_, _, _, _, hrun.trans (Step.perform_bindBuilder w name _ before), hstands⟩
  | ofRecord r =>
      obtain rfl := hfits.kind_eq
      obtain ⟨b, hstart, hsame, hnames, hreads⟩ := Builder.ofOptions_toValue hkind
      have hrun : (begin name r.kind (ofRecord r)).perform w before =
          (bindBuilder name b).perform w before := by
        unfold begin
        simp only [Step.perform_bind, Step.perform_lift, hstart, Except.map]
      have hstands : Stands w name b.kind (ofRecord r).base (w.withBuilder name b)
          ⟨.builder b.kind, w.cells.length⟩ b :=
        stands_withBuilder hblanked hnames
          (fun field => by rw [hreads]; exact hfits.freezes_get field) name
      rw [hsame] at hstands
      exact ⟨_, _, _, _, hrun.trans (Step.perform_bindBuilder w name b before), hstands⟩

end Start

/-- What a run on a new builder, or on one that starts from a record, comes to. -/
structure Accumulates (w : Workspace) (name : String) (kind : OptionsKind) (start : Start)
    (moves : List Move) (before : List Notice) (records : List Record) (w' : Workspace) : Prop where
  perform_eq : (start.begin name kind >>= fun _ => play name moves).perform w before =
    (.ok (records.map Record.toValue, w'), before)
  records_eq : records =
    (settingsBefore [] moves).map fun settings => .ofFields kind (w.after start.base settings)
  made : ∀ r ∈ records, w'.Made kind r

/-- Whatever is called on a builder, and wherever it builds in between, all of it
returns and nothing is reported, and each build gives the record of the calls
before it. Without a call that is the record that the builder started from, and so
is a copy of that. -/
theorem builds_calls_before {start : Start} {moves : List Move}
    (hkind : kind ≠ .common) (hblanked : ∀ entry ∈ w.blanked, entry.1 < w.cells.length)
    (hstart : start.Fits w kind) (hmoves : ∀ move ∈ moves, w.FitsMove kind name move)
    (hbag : (∃ key v, .call (.property key v) ∈ moves) → (start.base "additional").IsBag)
    (before : List Notice) :
    (∃ records w', w.Accumulates name kind start moves before records w') ∧
      ∀ r, start = .ofRecord r →
        .ofFields kind (w.after start.base []) = r ∧ w.copyNow r = .ok r := by
  constructor
  · obtain ⟨answer, w₁, handle, b, hbegin, hstands⟩ :=
      Start.perform_begin hstart hkind hblanked name before
    rw [← after_nil w start.base] at hstands
    rw [← after_nil w start.base] at hbag
    obtain ⟨w', hplay, hcontents, hfrozen⟩ := hstands.perform_play hmoves hbag before
    refine ⟨_, w', ?_, rfl, ?_⟩
    · rw [Step.perform_bind, hbegin, List.map_map]
      exact hplay
    · refine List.forall_mem_map.mpr fun settings hmem =>
        ⟨rfl, Record.complete_ofFields _ _, ?_⟩
      refine List.forall_mem_map.mpr fun field _ => ?_
      exact (hfrozen settings hmem field).congr hcontents
  · rintro r rfl
    refine ⟨?_, hstart.copy_eq hkind⟩
    obtain rfl := hstart.kind_eq
    rw [after_nil]
    exact hstart.complete.symm

/-- A session with a list of stops, and a map that holds the same list. -/
private def sharedSession : Workspace where
  bindings := [("stops", .ref ⟨.list, 0⟩), ("more", .ref ⟨.map, 1⟩)]
  cells := [.list [.text "STOP"], .map [("stops", .ref ⟨.list, 0⟩)]]

private def regional : Record :=
  .ofFields .watsonxChat fun field =>
    match field with
    | "top_k" => .int 50
    | "additional" => .frozen [("region", .text "eu")]
    | _ => .null

/-- Further parameters are extended, replaced by a map of the session, and
extended again. -/
private def regionalMoves : List Move :=
  [.build "same", .call (.property "tier" (.text "gold")), .call (.field "top_k" (.int 5)),
    .build "tiered", .call (.further (.ref ⟨.map, 1⟩)), .call (.field "top_k" .null),
    .call (.property "tier" (.ref ⟨.list, 0⟩)), .build "last"]

theorem builds_calls_before_regional :
    ∃ records w', sharedSession.Accumulates "b" .watsonxChat (.ofRecord regional) regionalMoves []
        records w' ∧
      records.map (·.get "top_k") = [.int 50, .int 5, .null] ∧
      records.map (·.get "additional") =
        [.frozen [("region", .text "eu")],
         .frozen [("region", .text "eu"), ("tier", .text "gold")],
         .frozen [("stops", .tuple [.text "STOP"]), ("tier", .tuple [.text "STOP"])]] := by
  have hlist : sharedSession.Acyclic (.ref ⟨.list, 0⟩) :=
    .of_content rfl (acyclic_of_refs (.list [.text "STOP"]) nofun)
  have hmap : sharedSession.Acyclic (.ref ⟨.map, 1⟩) := by
    refine .of_content rfl (acyclic_of_refs (.map [("stops", .ref ⟨.list, 0⟩)]) ?_)
    intro handle hmem
    cases List.mem_singleton.mp hmem
    exact hlist
  have hmade : sharedSession.Made .watsonxChat regional := by
    refine ⟨rfl, Record.complete_ofFields _ _, fun v hv => ?_⟩
    obtain ⟨field, -, rfl⟩ := List.mem_map.mp hv
    split
    · exact .kept rfl rfl
    · exact .mapping rfl (.cons (.kept rfl rfl) .nil)
    · exact .kept rfl rfl
  have hmoves : ∀ move ∈ regionalMoves, sharedSession.FitsMove .watsonxChat "b" move := by
    have hplain (v : Value) (h : v.refs = []) : sharedSession.Acyclic v :=
      acyclic_of_refs v (by rw [h]; nofun)
    simp only [regionalMoves, List.forall_mem_cons]
    refine ⟨by simp [FitsMove], ⟨rfl, hplain _ rfl⟩, ⟨by decide, hplain _ rfl⟩, by simp [FitsMove],
      ⟨rfl, .inr ⟨_, rfl, by decide⟩, hmap⟩, ⟨by decide, hplain _ rfl⟩, ⟨rfl, hlist⟩,
      by simp [FitsMove], nofun⟩
  obtain ⟨⟨records, w', hrun⟩, -⟩ := @builds_calls_before sharedSession "b" .watsonxChat
    (.ofRecord regional) regionalMoves (by decide) (List.forall_mem_nil _) hmade hmoves
    (fun _ => .inr ⟨_, rfl, by decide⟩) []
  refine ⟨records, w', hrun, ?_, ?_⟩
  · rw [hrun.records_eq]
    rfl
  · rw [hrun.records_eq]
    rfl

end Workspace

end ModelWiring
