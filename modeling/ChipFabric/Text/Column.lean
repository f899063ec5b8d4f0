/-
Columns of a report: a text is set flush left in a field of a given number
of characters, and a text that is too long keeps all of them.
-/
namespace ChipFabric.Text

/-- The text set flush left in a field of `width` characters. -/
def column (width : Nat) (s : String) : String :=
  s ++ String.ofList (List.replicate (width - s.length) ' ')

end ChipFabric.Text
