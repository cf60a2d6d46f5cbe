set_option autoImplicit false

/-!
# Places in a pattern
-/
namespace Quota.Pattern

/-- A place between two characters, by the line and the column of the character after it; both count from one. -/
structure Place where
  line : Nat
  column : Nat
deriving DecidableEq, Repr

namespace Place

def first : Place := ⟨1, 1⟩

/-- The place behind a character that stands here. -/
def after (p : Place) (c : Char) : Place :=
  if c = '\n' then ⟨p.line + 1, 1⟩ else ⟨p.line, p.column + 1⟩

def precedes (p q : Place) : Bool :=
  decide (p.line < q.line) || (p.line == q.line && decide (p.column < q.column))

end Place

structure Extent where
  start : Place
  stop : Place
deriving DecidableEq, Repr

namespace Extent

def onOneLine (e : Extent) : Bool := e.start.line == e.stop.line

/-- Order by the start, then by the stop. -/
def precedes (e f : Extent) : Bool :=
  e.start.precedes f.start || (e.start == f.start && e.stop.precedes f.stop)

/-- From the start of one extent to the stop of another. -/
def through (e f : Extent) : Extent := ⟨e.start, f.stop⟩

end Extent

end Quota.Pattern
