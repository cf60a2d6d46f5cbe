import Quota.Pattern.Cursor
import Quota.Pattern.Expression
import Quota.Pattern.Objection

set_option autoImplicit false

/-!
# Escapes

A backslash and what follows it. A pattern is written between braces and so holds no closing brace: an escape with an
opening brace is never finished.
-/
namespace Quota.Pattern

/-- An atom and what is left behind it, or why there is none. -/
abbrev AtomReading := Except Objection (Atom × Cursor)

/-- The characters that have a meaning in some part of a pattern. -/
def special : List Char :=
  ['\\', '.', '+', '*', '?', '(', ')', '|', '[', ']', '\x7b', '\x7d', '^', '$', '#', '&', '-', '~']

/-- Whether a backslash makes the character stand for itself. -/
def escapable (c : Char) : Bool :=
  special.contains c || (decide (c.toNat < 128) && !c.isAlphanum && c != '<' && c != '>')

/-- The control character that a letter writes. -/
def control? : Char → Option Char
  | 'a' => some '\x07'
  | 'f' => some '\x0c'
  | 't' => some '\t'
  | 'n' => some '\n'
  | 'r' => some '\r'
  | 'v' => some '\x0b'
  | _ => none

def hexDigit? (c : Char) : Option Nat :=
  if c.isDigit then some (c.toNat - '0'.toNat)
  else if 'a' ≤ c ∧ c ≤ 'f' then some (c.toNat - 'a'.toNat + 10)
  else if 'A' ≤ c ∧ c ≤ 'F' then some (c.toNat - 'A'.toNat + 10)
  else none

/-- The value of a number of hexadecimal digits, appended to those before. -/
def hexDigits : Nat → Nat → Cursor → Except Objection (Nat × Cursor)
  | 0, value, c => .ok (value, c)
  | n + 1, value, c =>
    match c.next? with
    | none => .error ⟨.escapeUnfinished, c.here, none⟩
    | some ch =>
      match hexDigit? ch with
      | none => .error ⟨.hexDigit, c.letter, none⟩
      | some d => hexDigits n (16 * value + d) c.advance

/-- A character by its number, of so many hexadecimal digits; the cursor is behind the letter that says how many. -/
def hexEscape (start : Place) (digits : Nat) (c : Cursor) : AtomReading :=
  match c.next? with
  | none => .error ⟨.escapeUnfinished, c.here, none⟩
  | some '\x7b' =>
    let after := (c.advance.span fun ch => (hexDigit? ch).isSome).2
    if after.ended then .error ⟨.escapeUnfinished, after.since c.place, none⟩
    else .error ⟨.hexDigit, after.letter, none⟩
  | some _ =>
    match hexDigits digits 0 c with
    | .error o => .error o
    | .ok (value, after) =>
      if value.isValidChar then .ok (.literal ⟨after.since start, Char.ofNat value, digits == 2⟩, after)
      else .error ⟨.hexValue, after.since c.place, none⟩

/-- A class of characters by a property, named by one letter; the cursor is at the letter. -/
def propertyEscape (start : Place) (c : Cursor) : AtomReading :=
  match c.next? with
  | none => .error ⟨.escapeUnfinished, c.here, none⟩
  | some '\x7b' => .error ⟨.escapeUnfinished, (c.past fun _ => true).here, none⟩
  | some '\\' => .error ⟨.propertyName, c.letter, none⟩
  | some _ => .ok (.property (c.advance.since start), c.advance)

/-- A word boundary; the cursor is behind it. A brace with a letter behind it names a kind of boundary, any other brace
belongs to a repetition. -/
def boundaryEscape (start : Place) (c : Cursor) : AtomReading :=
  let boundary : Atom := .condition (c.since start) true
  match c.next? with
  | some '\x7b' =>
    let inner := c.advance
    match inner.span fun ch => ch.isAlpha || ch == '-' with
    | ([], _) =>
      if inner.ended then .error ⟨.boundaryUnfinished, inner.since start, none⟩ else .ok (boundary, c)
    | (_, after) => .error ⟨.boundaryName, after.since c.place, none⟩
  | _ => .ok (boundary, c)

/-- What an escape stands for; the cursor is at the backslash. -/
def escape (c : Cursor) : AtomReading :=
  let start := c.place
  let body := c.bump
  match body.next? with
  | none => .error ⟨.escapeUnfinished, body.since start, none⟩
  | some ch =>
    let after := body.bump
    let extent := after.since start
    if ch.isDigit then .error ⟨.backreference, extent, none⟩
    else if escapable ch then .ok (.literal (.plain extent ch), after)
    else
      match ch with
      | 'x' => hexEscape start 2 body.advance
      | 'u' => hexEscape start 4 body.advance
      | 'U' => hexEscape start 8 body.advance
      | 'p' | 'P' => propertyEscape start body.advance
      | 'd' | 's' | 'w' => .ok (.shorthand extent false, after)
      | 'D' | 'S' | 'W' => .ok (.shorthand extent true, after)
      | 'A' | 'z' => .ok (.condition extent false, after)
      | 'b' => boundaryEscape start after
      | 'B' | '<' | '>' => .ok (.condition extent true, after)
      | _ =>
        match control? ch with
        | some written => .ok (.literal (.plain extent written), after)
        | none => .error ⟨.escapeUnknown, extent, none⟩

end Quota.Pattern
