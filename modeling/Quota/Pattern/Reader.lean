import Quota.Pattern.Bracket
import Quota.Pattern.Group
import Quota.Text.Numeral

set_option autoImplicit false

/-!
# Reading a pattern

A pattern is a choice of sequences. Like an escape, a counted repetition needs a closing brace, which no pattern holds,
so a count is always objected to.
-/
namespace Quota.Pattern

/-- The sequence being read, the latest item first. -/
structure Items where
  start : Place
  items : List Expression

namespace Items

def push (s : Items) (x : Expression) : Items := ⟨s.start, x :: s.items⟩

/-- The sequence; one item alone is its own sequence. -/
def expression (s : Items) (stop : Place) : Expression :=
  match s.items with
  | [] => .empty ⟨s.start, stop⟩
  | [x] => x
  | items => .sequence ⟨s.start, stop⟩ items.reverse

end Items

/-- The branches before the sequence being read, the latest first. -/
structure Branches where
  start : Place
  branches : List Expression

namespace Branches

/-- The branches with one more. -/
def add (before : Option Branches) (s : Items) (stop : Place) : Branches :=
  match before with
  | none => ⟨s.start, [s.expression stop]⟩
  | some b => ⟨b.start, s.expression stop :: b.branches⟩

/-- The choice between the branches and a last one; without any it is the last one alone. -/
def expression (before : Option Branches) (s : Items) (stop : Place) : Expression :=
  match before with
  | none => s.expression stop
  | some b => .choice ⟨b.start, stop⟩ (s.expression stop :: b.branches).reverse

end Branches

/-- The operand of a repetition at the cursor, and the items before it. -/
def operand (s : Items) (c : Cursor) : Except Objection (Expression × Items) :=
  match s.items with
  | x :: items => if x.repeatable then .ok (x, ⟨s.start, items⟩) else .error ⟨.nothingRepeated, c.here, none⟩
  | [] => .error ⟨.nothingRepeated, c.here, none⟩

/-- Counts are below this bound. -/
def countBound : Nat := 4294967296

/-- What is wrong with the count that begins at the cursor. -/
def countObjection (c : Cursor) : Objection :=
  let inner := c.advance.past Blank.contains
  let (digits, after) := inner.span Char.isDigit
  let behind := (after.span Blank.contains).2
  if behind.ended then ⟨.countUnclosed, behind.since c.place, none⟩
  else
    match Numeral.digits? countBound digits with
    | none => ⟨.countMissing, after.since inner.place, none⟩
    | some n =>
      if n < countBound then ⟨.countUnclosed, behind.since c.place, none⟩
      else ⟨.countTooLarge, after.since inner.place, none⟩

def atom (c : Cursor) : AtomReading :=
  match c.next? with
  | some '\\' => escape c
  | some '.' => .ok (.anyCharacter c.letter, c.bump)
  | some '^' | some '$' => .ok (.condition c.letter false, c.bump)
  | some ch => .ok (.literal (.plain c.letter ch), c.bump)
  | none => .error ⟨.escapeUnfinished, c.here, none⟩

/-- The rest of a choice, which ends with the group opened at an extent, or else with the pattern. -/
def choiceRest : Nat → Option Extent → Names → Option Branches → Items → Cursor →
    Except Objection (Expression × Names × Cursor)
  | 0, _, _, _, _, c => .error ⟨.groupUnclosed, c.here, none⟩
  | fuel + 1, opened, names, before, items, c => do
    let c := c.settle
    match c.next? with
    | none =>
      match opened with
      | some extent => throw ⟨.groupUnclosed, extent, none⟩
      | none => return (Branches.expression before items c.place, names, c)
    | some ')' =>
      if opened.isSome then
        return (Branches.expression before items c.place, names, c.bump)
      else
        throw ⟨.groupUnopened, c.letter, none⟩
    | some '|' =>
      choiceRest fuel opened names (some (.add before items c.place)) ⟨c.bump.place, []⟩ c.bump
    | some '(' =>
      match ← opening names c with
      | (.settings s, names, after) =>
        let item : Expression := .settings (after.since c.place) s
        choiceRest fuel opened names before (items.push item) { after with loose := s.state .loose c.loose }
      | (.group s, names, inner) =>
        let (x, names, after) ←
          choiceRest fuel (some c.letter) names none ⟨inner.place, []⟩ { inner with loose := s.state .loose c.loose }
        let item : Expression := .group (after.since c.place) s x
        choiceRest fuel opened names before (items.push item) { after with loose := c.loose }
    | some '[' =>
      let (x, after) ← bracket fuel c
      choiceRest fuel opened names before (items.push x) after
    | some '?' | some '*' | some '+' =>
      let (x, items) ← operand items c
      let after := (c.bump.behind? "?").getD c.bump
      choiceRest fuel opened names before (items.push (.repetition ⟨x.extent.start, after.place⟩ x)) after
    | some '\x7b' =>
      let _ ← operand items c
      throw (countObjection c)
    | some _ =>
      let (a, after) ← atom c
      choiceRest fuel opened names before (items.push (.atom a)) after

/-- The expression that a pattern writes. Each step passes a character, so the length is fuel enough. -/
def read (pattern : String) : Except Objection Expression := do
  let c := Cursor.ofString pattern
  let (x, _, _) ← choiceRest (pattern.length + 1) none [] none ⟨c.place, []⟩ c
  return x

end Quota.Pattern
