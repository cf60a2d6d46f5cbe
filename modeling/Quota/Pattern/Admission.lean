import Quota.Pattern.Expression
import Quota.Pattern.Objection

set_option autoImplicit false

/-!
# Admission of expressions

An expression that has been read can still be refused: when it is nested too deeply, when it asks for tables of Unicode
that are not there, or when it matches octets that are no text.
-/
namespace Quota.Pattern

/-- The number of expressions and sets that can stand within each other. -/
def nestLimit : Nat := 250

/-- What an extent takes of the room for nesting; it is in the way if there is none. -/
def within (room : Nat) (extent : Extent) (inner : Nat → Option Extent) : Option Extent :=
  match room with
  | 0 => some extent
  | room + 1 => inner room

namespace CharacterSet

mutual

/-- The first set for which there is no room. -/
def tooDeep? (room : Nat) : CharacterSet → Option Extent
  | .bracketed e _ inner => within room e fun r => tooDeep? r inner
  | .union e parts => within room e fun r => anyTooDeep? r parts
  | .combined left right =>
    within room ⟨left.start, right.stop⟩ fun r => tooDeep? r left <|> tooDeep? r right
  | _ => none

def anyTooDeep? (room : Nat) : List CharacterSet → Option Extent
  | [] => none
  | s :: rest => tooDeep? room s <|> anyTooDeep? room rest

end

end CharacterSet

namespace Expression

mutual

/-- The first expression or set for which there is no room. -/
def tooDeep? (room : Nat) : Expression → Option Extent
  | .bracket e _ set => within room e fun r => set.tooDeep? r
  | .repetition e operand => within room e fun r => tooDeep? r operand
  | .group e _ inner => within room e fun r => tooDeep? r inner
  | .choice e branches => within room e fun r => anyTooDeep? r branches
  | .sequence e items => within room e fun r => anyTooDeep? r items
  | _ => none

def anyTooDeep? (room : Nat) : List Expression → Option Extent
  | [] => none
  | x :: rest => tooDeep? room x <|> anyTooDeep? room rest

end

end Expression

/-- How characters are understood. -/
structure Mode where
  unicode : Bool
  ignoreCase : Bool
deriving DecidableEq, Repr

namespace Mode

def initial : Mode := ⟨true, false⟩

def change (m : Mode) (s : Settings) : Mode := ⟨s.state .unicode m.unicode, s.state .ignoreCase m.ignoreCase⟩

/-- Whether cases would have to be folded by tables that are not there. -/
def folds (m : Mode) : Bool := m.unicode && m.ignoreCase

end Mode

def object (complaint : Complaint) (extent : Extent) : Except Objection Unit := .error ⟨complaint, extent, none⟩

/-- A complaint, if there is reason for it. -/
def objectIf (reason : Bool) (complaint : Complaint) (extent : Extent) : Except Objection Unit :=
  if reason then object complaint extent else .ok ()

namespace Literal

/-- Without Unicode an octet above the ASCII range is no text. -/
def isRaw (l : Literal) (m : Mode) : Bool := !m.unicode && l.octet && decide (127 < l.char.toNat)

def examine (m : Mode) (l : Literal) : Except Objection Unit := do
  objectIf (l.isRaw m) .invalidText l.extent
  objectIf m.folds .caseFolding l.extent

/-- In a bracket cases are folded for the whole set, and without Unicode only ASCII is allowed. -/
def examineMember (m : Mode) (l : Literal) : Except Objection Unit := do
  objectIf (l.isRaw m) .invalidText l.extent
  objectIf (!m.unicode && decide (127 < l.char.toNat)) .unicodeForbidden l.extent

end Literal

def examineShorthand (m : Mode) (extent : Extent) (negated : Bool) : Except Objection Unit :=
  if m.unicode then object .shorthand extent else objectIf negated .invalidText extent

def examineProperty (m : Mode) (extent : Extent) : Except Objection Unit :=
  object (if m.unicode then .property else .unicodeForbidden) extent

namespace CharacterSet

mutual

/-- Examines a set and says whether it holds characters whose case is not folded yet. -/
def examine (m : Mode) : CharacterSet → Except Objection Bool
  | .empty _ => .ok false
  | .literal l => do
    l.examineMember m
    return true
  | .range first last => do
    first.examineMember m
    last.examineMember m
    return true
  | .named e negated => do
    objectIf m.folds .caseFolding e
    objectIf (!m.unicode && negated) .invalidText e
    return true
  | .shorthand e negated => do
    examineShorthand m e negated
    return true
  | .property e => do
    examineProperty m e
    return true
  | .bracketed e negated inner => do
    let unfolded ← examine m inner
    objectIf (m.folds && unfolded) .caseFolding e
    objectIf (!m.unicode && negated) .invalidText e
    return !m.folds
  | .union _ parts => examineAll m parts
  | .combined left right => do
    let unfoldedLeft ← examine m left
    let unfoldedRight ← examine m right
    objectIf (m.folds && unfoldedRight) .caseFolding right.extent
    objectIf (m.folds && unfoldedLeft) .caseFolding left.extent
    return !m.folds

def examineAll (m : Mode) : List CharacterSet → Except Objection Bool
  | [] => .ok false
  | s :: rest => do
    let unfolded ← examine m s
    let others ← examineAll m rest
    return unfolded || others

end

end CharacterSet

/-- What is known behind an expression: the mode that holds there, and whether a word boundary of Unicode was met. -/
structure Survey where
  mode : Mode
  boundary : Bool
deriving DecidableEq, Repr

namespace Atom

def examine (v : Survey) : Atom → Except Objection Survey
  | .literal l => do
    l.examine v.mode
    return v
  | .anyCharacter e => do
    objectIf (!v.mode.unicode) .invalidText e
    return v
  | .shorthand e negated => do
    examineShorthand v.mode e negated
    return v
  | .property e => do
    examineProperty v.mode e
    return v
  | .condition _ wordBoundary => .ok { v with boundary := v.boundary || (wordBoundary && v.mode.unicode) }

end Atom

namespace Expression

mutual

/-- Examines an expression from left to right. Settings hold until the group ends that they stand in, also in the
branches to their right. -/
def examine (v : Survey) : Expression → Except Objection Survey
  | .empty _ => .ok v
  | .atom a => a.examine v
  | .settings _ s => .ok { v with mode := v.mode.change s }
  | .bracket e negated set => do
    let _ ← CharacterSet.examine v.mode (.bracketed e negated set)
    return v
  | .repetition _ operand => examine v operand
  | .group _ s inner => do
    let after ← examine { v with mode := v.mode.change s } inner
    return { after with mode := v.mode }
  | .choice _ branches => examineAll v branches
  | .sequence _ items => examineAll v items

def examineAll (v : Survey) : List Expression → Except Objection Survey
  | [] => .ok v
  | x :: rest => do
    let after ← examine v x
    examineAll after rest

end

/-- Examines a whole expression and says whether it asks for word boundaries of Unicode. -/
def survey (x : Expression) : Except Objection Bool := do
  if let some e := x.tooDeep? nestLimit then
    object .nesting e
  let v ← x.examine ⟨.initial, false⟩
  return v.boundary

end Expression

end Quota.Pattern
