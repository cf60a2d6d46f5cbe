import Quota.Pattern.Cursor
import Quota.Pattern.Expression
import Quota.Pattern.Objection
import Quota.Text.Alphanumeric

set_option autoImplicit false

/-!
# Openings of groups

A parenthesis opens a group, which can have a name or flags of its own, or it holds flags for the rest of the group that
it stands in. Looking around is not supported.
-/
namespace Quota.Pattern

/-- The names of groups so far, and where they stand. -/
abbrev Names := List (String × Extent)

inductive Opening where
  | settings (s : Settings)
  | group (s : Settings)
deriving DecidableEq, Repr

/-- A letter between the question mark and the end of the flags: a flag, or what negates the flags behind it. -/
inductive FlagMark where
  | negation
  | flag (f : Flag)
deriving DecidableEq, Repr

namespace FlagMark

def ofChar? : Char → Option FlagMark
  | '-' => some .negation
  | 'i' => some (.flag .ignoreCase)
  | 'm' => some (.flag .multiLine)
  | 's' => some (.flag .dotMatchesBreak)
  | 'U' => some (.flag .swapGreed)
  | 'u' => some (.flag .unicode)
  | 'R' => some (.flag .returnBreaks)
  | 'x' => some (.flag .loose)
  | _ => none

/-- The complaint about a mark that stands a second time. -/
def twice : FlagMark → Complaint
  | .negation => .negationTwice
  | .flag _ => .flagTwice

/-- What the marks set, and clear behind a negation. -/
def settings (value : Bool) : List FlagMark → List (Flag × Bool)
  | [] => []
  | .negation :: rest => settings false rest
  | .flag f :: rest => (f, value) :: settings value rest

end FlagMark

/-- The marks up to a colon or a closing parenthesis, with those before them, the latest first. -/
def flagMarks (seen : List (FlagMark × Extent)) : List Char → Place → Except Objection (List FlagMark)
  | [], place => .error ⟨.flagMissing, ⟨place, place⟩, none⟩
  | ch :: rest, place =>
    if ch == ':' || ch == ')' then
      match seen with
      | (.negation, e) :: _ => .error ⟨.negationDangling, e, none⟩
      | _ => .ok (seen.reverse.map Prod.fst)
    else
      let extent : Extent := ⟨place, place.after ch⟩
      match FlagMark.ofChar? ch with
      | none => .error ⟨.flagUnknown, extent, none⟩
      | some mark =>
        match seen.lookup mark with
        | some first => .error ⟨mark.twice, extent, some first⟩
        | none => flagMarks ((mark, extent) :: seen) rest (place.after ch)

/-- Whether a character can stand in the name of a group. -/
def inName (first : Bool) (c : Char) : Bool :=
  c == '_' || Alphabetic.contains c ||
    (!first && (c == '.' || c == '[' || c == ']' || Numeric.contains c))

/-- The name at the cursor, which ends before a closing angle bracket. -/
def groupName (names : Names) (c : Cursor) : Except Objection (Names × Cursor) :=
  let name := if c.next?.any (inName true) then c.rest.takeWhile (inName false) else []
  let after := c.bumps name.length
  let extent := after.since c.place
  match after.next? with
  | none => .error ⟨.nameUnclosed, after.here, none⟩
  | some '>' =>
    if name.isEmpty then .error ⟨.nameEmpty, extent, none⟩
    else
      match names.lookup (String.ofList name) with
      | some earlier => .error ⟨.nameTwice, extent, some earlier⟩
      | none => .ok ((String.ofList name, extent) :: names, after.bump)
  | some _ => .error ⟨.nameCharacter, after.letter, none⟩

/-- Behind what looks around. -/
def lookAround? (c : Cursor) : Option Cursor :=
  c.behind? "?=" <|> c.behind? "?!" <|> c.behind? "?<=" <|> c.behind? "?<!"

/-- The opening at the cursor. Flags without any mark repeat nothing. -/
def opening (names : Names) (c : Cursor) : Except Objection (Opening × Names × Cursor) := do
  let inner := c.advance
  if let some after := lookAround? inner then
    throw ⟨.lookAround, after.since c.place, none⟩
  if let some after := inner.behind? "?P<" <|> inner.behind? "?<" then
    let (names, behind) ← groupName names after
    return (.group .unchanged, names, behind)
  let some after := inner.behind? "?"
    | return (.group .unchanged, names, inner)
  if after.ended then
    throw ⟨.groupUnclosed, c.letter, none⟩
  let marks ← flagMarks [] after.rest after.place
  let behind := after.bumps marks.length
  let s : Settings := ⟨FlagMark.settings true marks⟩
  if behind.next? = some ':' then
    return (.group s, names, behind.bump)
  else if marks.isEmpty then
    throw ⟨.nothingRepeated, inner.here, none⟩
  else
    return (.settings s, names, behind.bump)

end Quota.Pattern
