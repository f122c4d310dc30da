import ModelWiring.Proofs.Action

/-!
Following paths. A path leads into the package, where it finds a member of one
of the modules or nothing, or to what is installed beside it, of which nothing
is known.
-/

namespace ModelWiring

namespace Implementation

/-- Following a path finds something, reports that nothing is there, or fails. -/
theorem outcome_locate (installed : Installation) (path : String) :
    (locate installed path).outcome = match find installed path with
      | .found found => (.ok (some found), [])
      | .missing reason => (.ok none, [.unavailable path reason])
      | .broken cause => (.error cause, []) := by
  unfold locate
  cases find installed path <;> rfl

end Implementation

theorem Action.perform_locate (path : String) (w : World) :
    (Action.locate path).perform w = match Implementation.find w.installed path with
      | .found found => (.ok (some found), w)
      | .missing reason => (.ok none, w.noted [.unavailable path reason])
      | .broken cause => (.error cause, w) := by
  rw [Action.locate, Action.perform_bind, Action.perform_get]
  simp only [Action.perform_ofReporting, Implementation.outcome_locate]
  cases Implementation.find w.installed path <;> simp

end ModelWiring
