import ModelWiring.Workspace.Command

/-!
What the steps of a session do to a workspace, one lemma for each way to build
one. A step that binds another goes on from the workspace that the first one
leaves, unless that fails. What a value reads as, and what freezing sees of it,
depends on the objects alone: not on the names, nor on what was told apart.
-/

namespace ModelWiring.Workspace

section

variable {w w' : Workspace}

theorem viewTo_congr (h : w'.cells = w.cells) (depth : Nat) (v : Value) :
    w'.viewTo depth v = w.viewTo depth v := by
  induction depth generalizing v with
  | zero => rfl
  | succ depth ih => simp only [viewTo, content?, h, ih]

theorem view_congr (h : w'.cells = w.cells) (v : Value) : w'.view v = w.view v := by
  rw [view, view, viewTo_congr h, h]

theorem unfoldTo_congr (h : w'.cells = w.cells) (depth : Nat) (v : Value) :
    w'.unfoldTo depth v = w.unfoldTo depth v := by
  induction depth generalizing v with
  | zero => rfl
  | succ depth ih => simp only [unfoldTo, content?, h, ih]

theorem unfold_congr (h : w'.cells = w.cells) (v : Value) : w'.unfold v = w.unfold v := by
  rw [unfold, unfold, unfoldTo_congr h, h]

theorem endsWithin_congr (h : w'.cells = w.cells) (depth : Nat) (v : Value) :
    w'.endsWithin depth v = w.endsWithin depth v := by
  induction depth generalizing v with
  | zero => rfl
  | succ depth ih => simp only [endsWithin, content?, h, ih]

theorem buildNow_congr (h : w'.cells = w.cells) (b : Builder) : w'.buildNow b = w.buildNow b := by
  have hends : w'.ends = w.ends := by
    funext v
    rw [ends, ends, endsWithin_congr h, h]
  have hunfold : w'.unfold = w.unfold := funext (unfold_congr h)
  rw [buildNow, buildNow, unfoldBuilder, unfoldBuilder, hends, hunfold]

theorem mergeValues_congr (h : w'.cells = w.cells) (lower upper : Value) :
    w'.mergeValues lower upper = w.mergeValues lower upper := by
  have hbuild : w'.buildNow = w.buildNow := funext (buildNow_congr h)
  rw [mergeValues, mergeValues, hbuild]

theorem callNow_congr (h : w'.cells = w.cells) (b : Builder) (method : String)
    (args : List Value) : w'.callNow b method args = w.callNow b method args := by
  have hopened : w'.opened = w.opened := by
    funext v
    cases v <;> simp only [opened, content?, h]
  rw [callNow, callNow, openAdditional, openAdditional, hopened]

@[simp]
theorem view_bind (name : String) (v u : Value) : (w.bind name v).view u = w.view u := by
  have hcells : (w.bind name v).cells = w.cells := rfl
  exact view_congr hcells u

theorem lookUp_bind (name : String) (v : Value) : (w.bind name v).lookUp name = .ok v := by
  simp only [lookUp, bind, Keyed.get?_put, keying_string, if_true]

/-- Evaluating keeps the objects. -/
theorem cells_run {α : Type} {e : Evaluation α} {a : α} (h : w.run e = .ok (a, w')) :
    w'.cells = w.cells := by
  unfold run at h
  cases hrun : e.run w.tags with
  | error cause => rw [hrun] at h; cases h
  | ok outcome => rw [hrun] at h; cases h; rfl

end

namespace Step

variable {α β : Type}

/-- The outcome of a step on a workspace: what it gives with the workspace that
it leaves, or why it fails; and all that was reported. -/
def perform (s : Step α) (w : Workspace) (before : List Notice) :
    Except Fault (α × Workspace) × List Notice :=
  (s.run w).run.run before

variable (w : Workspace) (before : List Notice)

@[simp]
theorem perform_pure (a : α) : (pure a : Step α).perform w before = (.ok (a, w), before) := rfl

@[simp]
theorem perform_get : (get : Step Workspace).perform w before = (.ok (w, w), before) := rfl

@[simp]
theorem perform_set (w' : Workspace) :
    (set w' : Step PUnit).perform w before = (.ok (⟨⟩, w'), before) := rfl

@[simp]
theorem perform_lift (r : Except Fault α) :
    (liftM r : Step α).perform w before = (r.map (·, w), before) := by
  cases r <;> rfl

theorem perform_bind (s : Step α) (next : α → Step β) :
    (s >>= next).perform w before = match s.perform w before with
      | (.ok (a, w'), notices) => (next a).perform w' notices
      | (.error cause, notices) => (.error cause, notices) := by
  simp only [perform, StateT.run_bind, ExceptT.run_bind]
  rcases (s.run w).run.run before with ⟨cause | ⟨a, w'⟩, notices⟩ <;> rfl

theorem perform_source (name : String) :
    (source name).perform w before = ((w.lookUp name).map (·, w), before) := by
  unfold source
  rw [perform_bind, perform_get]
  exact perform_lift w before _

theorem perform_evaluate (t : Term) :
    (evaluate t).perform w before = (w.run (t.evaluate w), before) := by
  unfold evaluate
  simp only [perform_bind, perform_get, perform_lift]
  rcases w.run (t.evaluate w) with cause | ⟨v, w'⟩ <;> rfl

theorem perform_bindRecord (target : String) (r : Record) :
    (bindRecord target r).perform w before =
      (.ok (.value ((w.bind target r.toValue).view r.toValue), w.bind target r.toValue), before) :=
  rfl

end Step

theorem step_of_perform {w w' : Workspace} {c : Command} {answer : Answer}
    {notices : List Notice} (h : (execute c).perform w [] = (.ok (answer, w'), notices)) :
    w.step c = ((.ok answer, w'), notices) := by
  rw [Step.perform] at h
  rw [step, h]

end ModelWiring.Workspace
