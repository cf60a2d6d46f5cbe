import Quota.Journal.Event
import Quota.Pattern.Basic
import Quota.Text.Alphanumeric
import Quota.Text.Blank
import Quota.Text.Numeral
import Quota.Text.Utf8

set_option autoImplicit false

/-!
# Directives

A directive sets how deep the journal is shown, for all events or for those of a target, those with a field, or those
within a span. It is written `level`, `target` or `target[span{field=value}]=level`, where each part can be left
out. Blanks around a directive do not belong to its form, but its parts are cut from the text with the blanks, at the
offsets that they have without them.
-/
namespace Quota

structure Directive where
  /-- The start of the paths concerned; empty for all. -/
  target : String
  /-- The field that an event needs to be concerned. -/
  field : Option String
  /-- Whether a span or the value of a field is asked for. Events stand in no span, so none is concerned. -/
  spanBound : Bool
  depth : Nat
deriving DecidableEq, Repr

inductive DirectiveFault where
  | malformed
  | level
  /-- The value of a field is a pattern that cannot be used. -/
  | field (r : Pattern.Refusal)
deriving DecidableEq, Repr

namespace DirectiveFault

def message : DirectiveFault → String
  | .malformed => "invalid filter directive"
  | .level =>
    "error parsing level filter: expected one of \"off\", \"error\", \"warn\", \"info\", \"debug\", \"trace\", " ++
      "or a number 0-5"
  | .field r => "invalid field filter: " ++ r.message

/-- The fault and what is beneath it. A level that cannot be read is its own cause. -/
def chain : DirectiveFault → List String
  | .malformed => [message .malformed]
  | .level => [message .level, message .level]
  | .field r => message (.field r) :: r.chain

end DirectiveFault

namespace Directive

/-- The depth without a level: everything is shown. -/
def everything : Nat := 5

/-- The depth of a level name in any case, or of a number up to five. -/
def depth? (s : String) : Option Nat :=
  match s.toLower with
  | "off" => some 0
  | "error" => some 1
  | "warn" => some 2
  | "info" => some 3
  | "debug" => some 4
  | "trace" => some 5
  | _ => (Numeral.natural? (everything + 1) s).filter fun n => decide (n ≤ everything)

/-- Where a part stands: the offsets of its first octet and of the octet after its last. -/
structure Slice where
  start : Nat
  stop : Nat
deriving DecidableEq, Repr

def cut (octets : List UInt8) (e : Slice) : Except DirectiveFault String :=
  match Utf8.decode? ((octets.drop e.start).take (e.stop - e.start)) with
  | some text => .ok text
  | none => .error .malformed

/-- A field that is asked for, with the value that it is to have. -/
structure FieldMatch where
  name : String
  value : Option String
deriving DecidableEq, Repr

namespace FieldMatch

/-- The name ends with the first equality sign and the value with the second. -/
def ofString (s : String) : FieldMatch :=
  match s.splitOn "=" with
  | name :: value :: _ => ⟨name, some value⟩
  | _ => ⟨s, none⟩

/-- Whether a value is a truth value or a number; any other is a pattern. -/
def isPlain (value : String) : Bool :=
  value == "true" || value == "false" || Numeral.isReal value.toList || Numeral.isUnbounded value.toList

/-- Refuses a value that is a pattern that cannot be used. -/
def check (m : FieldMatch) : Except DirectiveFault Unit :=
  match m.value with
  | none => .ok ()
  | some value =>
    if isPlain value then .ok ()
    else
      match Pattern.check value with
      | .ok _ => .ok ()
      | .error r => .error (.field r)

end FieldMatch

/-- The form of a directive. A level reaches from its offset to the end. -/
inductive Form where
  | word
  | parts (target : Nat) (span : Option Slice) (field : Option FieldMatch) (level : Option Nat)
deriving DecidableEq, Repr

/-- How many octets the characters take. -/
def width (cs : List Char) : Nat := (Utf8.encode (String.ofList cs)).length

/-- What follows the bracket: nothing, or a level. -/
def levelForm (offset : Nat) : List Char → Except DirectiveFault (Option Nat)
  | [] => .ok none
  | '=' :: _ => .ok (some (offset + 1))
  | _ => .error .malformed

/-- What follows the opening bracket: a span, a field in braces, or both. A field is not empty, and it is checked before
what stands behind it is looked at. -/
def bracketForm (octets : List UInt8) (target : Nat) (cs : List Char) : Except DirectiveFault Form := do
  let name := cs.takeWhile fun c => c != ']' && c != '\x7b'
  let span : Slice := ⟨target + 1, target + 1 + width name⟩
  match cs.drop name.length with
  | ']' :: rest =>
    let level ← levelForm (span.stop + 1) rest
    return .parts target (some span) none level
  | '\x7b' :: inner =>
    let text := inner.takeWhile fun c => c != '\x7d'
    let place : Slice := ⟨span.stop + 1, span.stop + 1 + width text⟩
    match inner.drop text.length with
    | '\x7d' :: behind =>
      if text.isEmpty then
        throw .malformed
      let field := FieldMatch.ofString (← cut octets place)
      field.check
      match behind with
      | ']' :: rest =>
        let level ← levelForm (place.stop + 2) rest
        return .parts target (if name.isEmpty then none else some span) (some field) level
      | _ => throw .malformed
    | _ => throw .malformed
  | _ => throw .malformed

/-- Whether a character can begin a target or a level. -/
def begins (c : Char) : Bool := c == '-' || c == ':' || c == '_' || Alphanumeric.contains c

/-- The form of a text without blanks around it, whose parts are cut from the octets. -/
def form (octets : List UInt8) (cs : List Char) : Except DirectiveFault Form :=
  match cs with
  | [] => .error .malformed
  | c :: _ =>
    if c == '[' || begins c then
      let head := cs.takeWhile fun c => c != '=' && c != '['
      match cs.drop head.length with
      | [] => .ok .word
      | '=' :: _ => .ok (.parts (width head) none none (some (width head + 1)))
      | _ :: rest => bracketForm octets (width head) rest
    else .error .malformed

/-- The depth of the level that begins at an offset; without a level everything is shown. -/
def levelDepth (octets : List UInt8) : Option Nat → Except DirectiveFault Nat
  | none => .ok everything
  | some offset =>
    match Utf8.decode? (octets.drop offset) with
    | none => .error .malformed
    | some "" => .ok everything
    | some level =>
      match depth? level with
      | some d => .ok d
      | none => .error .level

/-- The directive that a text writes. A word is a level, or else a target of which everything is shown. -/
def parse (s : String) : Except DirectiveFault Directive := do
  let octets := Utf8.encode s
  match ← form octets (Blank.trim s.toList) with
  | .word =>
    match depth? s with
    | some d => return ⟨"", none, false, d⟩
    | none => return ⟨s, none, false, everything⟩
  | .parts target span field level =>
    let path ← cut octets ⟨0, target⟩
    let depth ← levelDepth octets level
    return ⟨path, field.map FieldMatch.name, span.isSome || field.any fun m => m.value.isSome, depth⟩

def concerns (d : Directive) (s : Shape) : Bool :=
  !d.spanBound && d.target.toList.isPrefixOf s.component.path.toList && d.field.all s.hasField

/-- Whether the second of two directives that concern an event goes before the first: it has the longer target, or the
same and a field, or a field that is not before the other's. -/
def yields (a b : Directive) : Bool :=
  if a.target.length = b.target.length then
    match a.field, b.field with
    | none, _ => true
    | some _, none => false
    | some f, some g => !decide (g < f)
  else decide (a.target.length < b.target.length)

end Directive

end Quota
