set_option autoImplicit false

/-!
# Lines of a text
-/
namespace Quota.Lines

/-- The lines of a text. A carriage return before a line feed belongs to the break, and a final break begins no line. -/
def split (s : String) : List String :=
  let pieces := s.splitOn "\n"
  let ended := pieces.dropLast.map fun l => if l.endsWith "\r" then (l.dropEnd 1).toString else l
  match pieces.getLast? with
  | none => ended
  | some "" => ended
  | some l => ended ++ [l]

/-- The text in which a break ends every line. -/
def join (ls : List String) : String := String.join (ls.map fun l => l ++ "\n")

end Quota.Lines
