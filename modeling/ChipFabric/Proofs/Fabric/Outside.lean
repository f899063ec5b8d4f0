/-
Operations by others. `Session.Truthful` is what the types of handles promise
when nobody makes one up; here nothing is promised of the handles a session
starts with, neither that their ports have their directions nor that there
are such ports. Whatever is done with them, the graph grows.
-/
import ChipFabric.Proofs.Fabric.Bindings

namespace ChipFabric

/-- No operation takes anything from a graph, whatever it is given. -/
theorem Operation.edit_grows (op : Operation) (g : Graph) :
    g.Grows (op.edit.on g).2 :=
  op.edit_does.grows g

namespace Session

variable {s t : Session}

/-- The graph that an operation leaves does not depend on what it hands
out. -/
theorem graph_after (s : Session) (op : Operation) :
    (s.after op).graph = (op.edit.on s.graph).2 := by
  rw [after]
  rcases op.edit.on s.graph with ⟨_ | handles, g'⟩ <;> rfl

/-- A session only gets more, whoever acts in it. -/
theorem Run.grows (h : s.Run t) : s.graph.Grows t.graph := by
  induction h with
  | none => exact .refl _
  | step op _ _ ih =>
    rw [graph_after]
    exact ih.trans (op.edit_grows _)

end Session

end ChipFabric
