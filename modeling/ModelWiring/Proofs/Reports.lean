import ModelWiring.World

/-!
What is reported, by its level. Most of what a run reports is no error; that a
part of it is quiet in this sense is proved where it is reported, and the parts
are put together.
-/

namespace ModelWiring

/-- The errors among what was reported from one world to another. -/
def ErrorsBetween (w w' : World) (errors : List Notice) : Prop :=
  ∃ more, w'.notices = w.notices ++ more ∧ (more.filter fun n => n.level = .error) = errors

/-- Reports none of which is an error. -/
def Quiet (more : List Notice) : Prop :=
  ∀ n ∈ more, n.level ≠ .error

namespace Quiet

variable {first later : List Notice}

theorem nil : Quiet [] := by
  simp [Quiet]

theorem append (hfirst : Quiet first) (hlater : Quiet later) : Quiet (first ++ later) := by
  intro n hn
  rcases List.mem_append.mp hn with hn | hn
  · exact hfirst n hn
  · exact hlater n hn

end Quiet

namespace Environment

end Environment

end ModelWiring
