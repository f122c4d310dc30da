import ModelWiring.Proofs.Value.Forms
import ModelWiring.Proofs.Workspace.Store

/-!
Evaluating terms. Whatever a term comes to is sound, as long as the biases in
it hold a text and a number. It depends on the names and the objects of a session
alone.
-/

namespace ModelWiring

namespace Evaluation

variable {α β : Type}

/-- Whatever an evaluation comes to satisfies a condition. -/
def Gives (e : Evaluation α) (post : α → Prop) : Prop :=
  ∀ tags a tags', e.run tags = .ok (a, tags') → post a

theorem gives_pure {post : α → Prop} {a : α} (h : post a) : Gives (pure a) post := by
  intro tags b tags' hrun
  cases hrun
  exact h

theorem gives_lift {post : α → Prop} {r : Except Fault α} (h : ∀ a, r = .ok a → post a) :
    Gives (liftM r) post := by
  intro tags a tags' hrun
  cases r with
  | error cause => cases hrun
  | ok b =>
      cases hrun
      exact h a rfl

theorem gives_bind {e : Evaluation α} {next : α → Evaluation β} {mid : α → Prop} {post : β → Prop}
    (he : Gives e mid) (hnext : ∀ a, mid a → Gives (next a) post) : Gives (e >>= next) post := by
  intro tags b tags' hrun
  rw [StateT.run_bind] at hrun
  cases hfirst : e.run tags with
  | error cause => rw [hfirst] at hrun; cases hrun
  | ok outcome =>
      rw [hfirst] at hrun
      exact hnext outcome.1 (he tags _ _ hfirst) _ _ _ hrun

end Evaluation

open Evaluation (Gives gives_pure gives_lift gives_bind)

namespace Value

theorem refers_of_text? {inner outer : Handle → Prop} {v : Value} (h : v.text?.isSome) :
    v.Refers inner outer := by
  cases v with
  | text | choice => trivial
  | _ => cases h

theorem refers_of_isNumber {inner outer : Handle → Prop} {v : Value} (h : v.isNumber) :
    v.Refers inner outer := by
  cases v with
  | bool | int | float => trivial
  | _ => cases h

end Value

namespace Term

mutual

/-- A term in which each bias holds a text and a number. -/
def Permitted (w : Workspace) : Term → Prop
  | bias token weight =>
      Gives (token.evaluate w) (·.text?.isSome) ∧ Gives (weight.evaluate w) (·.isNumber)
  | list items | tuple items => PermittedItems w items
  | map entries | frozen entries => PermittedEntries w entries
  | record _ calls => PermittedCalls w calls
  | _ => True

def PermittedItems (w : Workspace) : List Term → Prop
  | [] => True
  | t :: rest => t.Permitted w ∧ PermittedItems w rest

def PermittedEntries (w : Workspace) : List (String × Term) → Prop
  | [] => True
  | (_, t) :: rest => t.Permitted w ∧ PermittedEntries w rest

def PermittedCalls (w : Workspace) : List (String × List Term) → Prop
  | [] => True
  | (_, args) :: rest => PermittedItems w args ∧ PermittedCalls w rest

end

section

variable {w : Workspace}

mutual

/-- Whatever a term comes to is sound. -/
theorem gives_evaluate (hw : w.Consistent) : ∀ t : Term, t.Permitted w →
    Gives (t.evaluate w) w.Sound
  | null, _ | bool _, _ | int _, _ | text _, _ | choice _, _ => by
      rw [evaluate]
      exact gives_pure trivial
  | float (.nan _), _ => by
      intro tags v tags' hrun
      rw [evaluate] at hrun
      cases hrun
      trivial
  | float (.infinite _), _ | float (.finite _ _ _), _ => gives_pure trivial
  | bias token weight, h => by
      rw [evaluate]
      refine gives_bind h.1 fun token htoken => gives_bind h.2 fun weight hweight => gives_pure ?_
      exact ⟨Value.refers_of_text? htoken, Value.refers_of_isNumber hweight⟩
  | list items, h | tuple items, h => by
      rw [evaluate]
      refine gives_bind (gives_evaluateItems hw items h) fun values hvalues => gives_pure ?_
      exact Value.refersItems_iff.mpr hvalues
  | map entries, h | frozen entries, h => by
      rw [evaluate]
      refine gives_bind (gives_evaluateEntries hw entries h) fun table htable => gives_pure ?_
      exact Value.refersEntries_iff.mpr (Keyed.forall_putAll (List.forall_mem_nil _) htable)
  | record kind calls, h => by
      rw [evaluate]
      have hstart : Gives (liftM (Builder.start kind)) (·.Refers w.LeadsToBuilder w.Leads) :=
        gives_lift fun b hb => .start hb
      refine gives_bind hstart fun b hb => ?_
      refine gives_bind (gives_evaluateCalls hw b hb calls h) fun b hb => ?_
      refine gives_bind (gives_lift fun r hr => hw.refers_buildNow hb hr) fun r hr => gives_pure ?_
      exact Workspace.sound_of_refers_builder hr
  | bound name, _ => by
      rw [evaluate]
      exact gives_lift fun v hv => hw.lookUp hv

theorem gives_evaluateItems (hw : w.Consistent) : ∀ items : List Term, PermittedItems w items →
    Gives (evaluateItems w items) (fun values => ∀ v ∈ values, w.Sound v)
  | [], _ => by
      rw [evaluateItems]
      exact gives_pure (List.forall_mem_nil _)
  | t :: rest, h => by
      rw [evaluateItems]
      refine gives_bind (gives_evaluate hw t h.1) fun v hv => ?_
      refine gives_bind (gives_evaluateItems hw rest h.2) fun more hmore => gives_pure ?_
      exact List.forall_mem_cons.mpr ⟨hv, hmore⟩

theorem gives_evaluateEntries (hw : w.Consistent) :
    ∀ entries : List (String × Term), PermittedEntries w entries →
    Gives (evaluateEntries w entries) (fun table => ∀ entry ∈ table, w.Sound entry.2)
  | [], _ => by
      rw [evaluateEntries]
      exact gives_pure (List.forall_mem_nil _)
  | (key, t) :: rest, h => by
      rw [evaluateEntries]
      refine gives_bind (gives_evaluate hw t h.1) fun v hv => ?_
      refine gives_bind (gives_evaluateEntries hw rest h.2) fun more hmore => gives_pure ?_
      exact List.forall_mem_cons.mpr ⟨hv, hmore⟩

theorem gives_evaluateCalls (hw : w.Consistent) (b : Builder)
    (hb : b.Refers w.LeadsToBuilder w.Leads) :
    ∀ calls : List (String × List Term), PermittedCalls w calls →
    Gives (evaluateCalls w b calls) (·.Refers w.LeadsToBuilder w.Leads)
  | [], _ => by
      rw [evaluateCalls]
      exact gives_pure hb
  | (method, args) :: rest, h => by
      rw [evaluateCalls]
      refine gives_bind (gives_evaluateItems hw args h.1) fun values hvalues => ?_
      refine gives_bind (gives_lift fun b' hb' => hw.callNow hb hvalues hb') fun b' hb' => ?_
      exact gives_evaluateCalls hw b' hb' rest h.2

end

end

section

variable {w w' : Workspace}

mutual

theorem evaluate_congr (hbindings : w'.bindings = w.bindings) (hcells : w'.cells = w.cells) :
    ∀ t : Term, t.evaluate w' = t.evaluate w
  | null | bool _ | int _ | text _ | choice _ => by simp only [evaluate]
  | float x => by cases x <;> simp only [evaluate]
  | bias token weight => by
      simp only [evaluate, evaluate_congr hbindings hcells token,
        evaluate_congr hbindings hcells weight]
  | list items | tuple items => by
      simp only [evaluate, evaluateItems_congr hbindings hcells items]
  | map entries | frozen entries => by
      simp only [evaluate, evaluateEntries_congr hbindings hcells entries]
  | record kind calls => by
      simp only [evaluate, evaluateCalls_congr hbindings hcells calls,
        Workspace.buildNow_congr hcells]
  | bound name => by simp only [evaluate, Workspace.lookUp, hbindings]

theorem evaluateItems_congr (hbindings : w'.bindings = w.bindings) (hcells : w'.cells = w.cells) :
    ∀ items : List Term, evaluateItems w' items = evaluateItems w items
  | [] => by simp only [evaluateItems]
  | t :: rest => by
      simp only [evaluateItems, evaluate_congr hbindings hcells t,
        evaluateItems_congr hbindings hcells rest]

theorem evaluateEntries_congr (hbindings : w'.bindings = w.bindings)
    (hcells : w'.cells = w.cells) : ∀ entries : List (String × Term),
    evaluateEntries w' entries = evaluateEntries w entries
  | [] => by simp only [evaluateEntries]
  | (_, t) :: rest => by
      simp only [evaluateEntries, evaluate_congr hbindings hcells t,
        evaluateEntries_congr hbindings hcells rest]

theorem evaluateCalls_congr (hbindings : w'.bindings = w.bindings) (hcells : w'.cells = w.cells) :
    ∀ (calls : List (String × List Term)) (b : Builder),
    evaluateCalls w' b calls = evaluateCalls w b calls
  | [], b => by simp only [evaluateCalls]
  | (_, args) :: rest, b => by
      simp only [evaluateCalls, evaluateItems_congr hbindings hcells args,
        Workspace.callNow_congr hcells, evaluateCalls_congr hbindings hcells rest]

end

mutual

theorem permitted_congr (hbindings : w'.bindings = w.bindings) (hcells : w'.cells = w.cells) :
    ∀ t : Term, t.Permitted w' ↔ t.Permitted w
  | null | bool _ | int _ | float _ | text _ | choice _ | bound _ => by simp only [Permitted]
  | bias token weight => by simp only [Permitted, evaluate_congr hbindings hcells]
  | list items | tuple items => by
      simp only [Permitted, permittedItems_congr hbindings hcells items]
  | map entries | frozen entries => by
      simp only [Permitted, permittedEntries_congr hbindings hcells entries]
  | record kind calls => by simp only [Permitted, permittedCalls_congr hbindings hcells calls]

theorem permittedItems_congr (hbindings : w'.bindings = w.bindings) (hcells : w'.cells = w.cells) :
    ∀ items : List Term, PermittedItems w' items ↔ PermittedItems w items
  | [] => by simp only [PermittedItems]
  | t :: rest => by
      simp only [PermittedItems, permitted_congr hbindings hcells t,
        permittedItems_congr hbindings hcells rest]

theorem permittedEntries_congr (hbindings : w'.bindings = w.bindings)
    (hcells : w'.cells = w.cells) :
    ∀ entries : List (String × Term), PermittedEntries w' entries ↔ PermittedEntries w entries
  | [] => by simp only [PermittedEntries]
  | (_, t) :: rest => by
      simp only [PermittedEntries, permitted_congr hbindings hcells t,
        permittedEntries_congr hbindings hcells rest]

theorem permittedCalls_congr (hbindings : w'.bindings = w.bindings) (hcells : w'.cells = w.cells) :
    ∀ calls : List (String × List Term), PermittedCalls w' calls ↔ PermittedCalls w calls
  | [] => by simp only [PermittedCalls]
  | (_, args) :: rest => by
      simp only [PermittedCalls, permittedItems_congr hbindings hcells args,
        permittedCalls_congr hbindings hcells rest]

end

end

end Term

end ModelWiring
