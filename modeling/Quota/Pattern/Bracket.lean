import Quota.Pattern.Escape

set_option autoImplicit false

/-!
# Brackets

A class of characters in brackets: characters, ranges, escapes, named classes, classes within, and combinations of two
sets by `&&`, `--` or `~~`, of which the first is made first.
-/
namespace Quota.Pattern

/-- Parts of a union, the latest first, and the extent from the first to the latest. -/
structure Parts where
  extent : Extent
  items : List CharacterSet

namespace Parts

def start (place : Place) : Parts := ⟨⟨place, place⟩, []⟩

def push (p : Parts) (s : CharacterSet) : Parts :=
  ⟨⟨if p.items.isEmpty then s.start else p.extent.start, s.stop⟩, s :: p.items⟩

/-- The union of the parts; one part alone is its own union. -/
def union (p : Parts) : CharacterSet :=
  match p.items with
  | [] => .empty p.extent
  | [s] => s
  | items => .union p.extent items.reverse

/-- The union, combined with the set to its left. -/
def combined (p : Parts) : Option CharacterSet → CharacterSet
  | none => p.union
  | some left => .combined left p.union

end Parts

/-- The start of a bracket: its extent, whether it is negated, and the parts that can only stand here. -/
structure BracketHead where
  extent : Extent
  negated : Bool
  parts : Parts

/-- Hyphens, each a part that stands for itself. -/
def hyphens : Nat → Parts → Cursor → Parts × Cursor
  | 0, parts, c => (parts, c)
  | fuel + 1, parts, c =>
    if c.next? = some '-' then hyphens fuel (parts.push (.literal (.plain c.letter '-'))) c.advance else (parts, c)

/-- The start of the bracket at the cursor: a circumflex negates it, and then come hyphens, or a closing bracket that
stands for itself. -/
def bracketHead (fuel : Nat) (c : Cursor) : Except Objection (BracketHead × Cursor) :=
  let start := c.place
  let negated := c.advance.next? = some '^'
  let inner := if negated then c.advance.advance else c.advance
  if inner.ended then .error ⟨.classUnclosed, inner.since start, none⟩
  else
    let (parts, after) := hyphens fuel (.start inner.place) inner
    if after.ended then .error ⟨.classUnclosed, c.here, none⟩
    else if parts.items.isEmpty && after.next? = some ']' then
      let behind := after.advance
      if behind.ended then .error ⟨.classUnclosed, behind.since start, none⟩
      else .ok (⟨behind.since start, negated, parts.push (.literal (.plain after.letter ']'))⟩, behind)
    else .ok (⟨after.since start, negated, parts⟩, after)

def classNames : List String :=
  ["alnum", "alpha", "ascii", "blank", "cntrl", "digit", "graph", "lower", "print", "punct", "space", "upper", "word",
    "xdigit"]

/-- The named class at the cursor, as in `[:alpha:]`, if there is one. -/
def namedClass? (c : Cursor) : Option (CharacterSet × Cursor) :=
  match c.behind? "[:" with
  | none => none
  | some inner =>
    let negated := inner.next? = some '^'
    let name := if negated then inner.bump else inner
    let after := name.past fun ch => ch != ':'
    match after.behind? ":]" with
    | none => none
    | some behind =>
      if classNames.contains (String.ofList (name.rest.takeWhile fun ch => ch != ':')) then
        some (.named (behind.since c.place) negated, behind)
      else none

/-- An escape, or a character that stands for itself. -/
def member (c : Cursor) : AtomReading :=
  match c.next? with
  | some '\\' => escape c
  | some ch => .ok (.literal (.plain c.letter ch), c.bump)
  | none => .error ⟨.classUnclosed, c.here, none⟩

/-- The set that an atom stands for in a bracket. -/
def Atom.toSet : Atom → Except Objection CharacterSet
  | .literal l => .ok (.literal l)
  | .shorthand e negated => .ok (.shorthand e negated)
  | .property e => .ok (.property e)
  | a => .error ⟨.classEscape, a.extent, none⟩

/-- The literal that an atom is at an end of a range. -/
def Atom.toBoundary : Atom → Except Objection Literal
  | .literal l => .ok l
  | a => .error ⟨.rangeBoundary, a.extent, none⟩

/-- The range or the single set at the cursor, in a bracket with the given head. A hyphen before a closing bracket or
another hyphen makes no range. -/
def rangeOrSet (head : Extent) (c : Cursor) : Except Objection (CharacterSet × Cursor) := do
  let (a, behind) ← member c
  let after := behind.settle
  if after.ended then
    throw ⟨.classUnclosed, head, none⟩
  else if after.next? ≠ some '-' ∨ after.look? = some ']' ∨ after.look? = some '-' then
    return (← a.toSet, after)
  else if after.advance.ended then
    throw ⟨.classUnclosed, head, none⟩
  else
    let (b, beyond) ← member after.advance
    let first ← a.toBoundary
    let last ← b.toBoundary
    if first.char ≤ last.char then
      return (.range first last, beyond)
    else
      throw ⟨.rangeOrder, first.extent.through last.extent, none⟩

/-- Behind an operator between two sets. -/
def operator? (c : Cursor) : Option Cursor := c.behind? "&&" <|> c.behind? "--" <|> c.behind? "~~"

/-- The rest of a bracket that began at a place: the set to the left of the last operator, if there was one, and the
parts since then. -/
def bracketRest : Nat → Place → BracketHead → Option CharacterSet → Parts → Cursor →
    Except Objection (Extent × CharacterSet × Cursor)
  | 0, _, head, _, _, _ => .error ⟨.classUnclosed, head.extent, none⟩
  | fuel + 1, start, head, left, parts, c => do
    let c := c.settle
    match c.next? with
    | none => throw ⟨.classUnclosed, head.extent, none⟩
    | some '[' =>
      match namedClass? c with
      | some (s, after) => bracketRest fuel start head left (parts.push s) after
      | none =>
        let (within, inner) ← bracketHead fuel c
        let (extent, s, after) ← bracketRest fuel c.place within none within.parts inner
        bracketRest fuel start head left (parts.push (.bracketed extent within.negated s)) after
    | some ']' => return (c.bump.since start, parts.combined left, c.bump)
    | some _ =>
      match operator? c with
      | some after => bracketRest fuel start head (some (parts.combined left)) (.start after.place) after
      | none =>
        let (s, after) ← rangeOrSet head.extent c
        bracketRest fuel start head left (parts.push s) after

/-- The class in brackets at the cursor. Each step passes a character, so the length of the rest is fuel enough. -/
def bracket (fuel : Nat) (c : Cursor) : Except Objection (Expression × Cursor) := do
  let (head, inner) ← bracketHead fuel c
  let (extent, s, after) ← bracketRest fuel c.place head none head.parts inner
  return (.bracket extent head.negated s, after)

end Quota.Pattern
