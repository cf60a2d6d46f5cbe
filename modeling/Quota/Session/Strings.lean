import Quota.ByteString.Integer
import Quota.ByteString.Transform
import Quota.Session.Basic

set_option autoImplicit false

/-!
# String operations of a session

Making strings, transforming them, reading them and deleting them. An operation on a name that no string has is
rejected.
-/
namespace Quota.Session

def answerString {ε : Type} (s : Session) (escalate : Bool) (set : FaultSet) (toFault : ε → Fault) (out : String) :
    Except ε ByteString × Books → Reply × Session
  | (.ok t, books) => (.answer (.string t), s.keepString out t books)
  | (.error e, books) => (refusal escalate set (toFault e), { s with books := books })

def stringArray? (a : FixedArray Cell) : Option (FixedArray ByteString) :=
  if a.element = .string then some (a.map fun c => c.string?.getD .empty) else none

def stringStep (alloc : Allocator) (s : Session) (source : Source) (escalate : Bool) :
    StringOperation → Option (Reply × Session)
  | .literal out bytes =>
    let t := ByteString.literal source bytes
    some (.answer (.string t), s.keepString out t s.books)
  | .ofBytes out bytes =>
    some (s.answerString escalate (.single .alloc) StorageFault.fault out
      (ByteString.ofBytes alloc source bytes s.books))
  | .ofInt out v =>
    some (s.answerString escalate (.single .alloc) StorageFault.fault out
      (ByteString.ofInt alloc source v s.books))
  | .ofByte out b =>
    some (s.answerString escalate (.single .alloc) StorageFault.fault out
      (ByteString.ofByte alloc source b s.books))
  | .substring out n start stop => do
    let t ← s.strings.get? n
    some (s.answerString escalate .substring SubstringFault.fault out (t.substring alloc start stop s.books))
  | .concat out n m => do
    let t ← s.strings.get? n
    let u ← s.strings.get? m
    match t.concat alloc u s.books with
    | (.ok r, books) => some (.answer (.string r), s.keepString out r books)
    | (.error stop, books) => some (.abort stop.fragments, { s with books := books })
  | .replace out n needle insert limit => do
    let t ← s.strings.get? n
    let needle ← s.strings.get? needle
    let insert ← s.strings.get? insert
    some (s.answerString escalate (.single .alloc) StorageFault.fault out
      (t.replace alloc needle insert limit s.books))
  | .clone out n => do
    let t ← s.strings.get? n
    some (s.answerString escalate (.single .alloc) StorageFault.fault out (t.clone alloc s.books))
  | .format out n args => do
    let t ← s.strings.get? n
    let array ← s.arrays.get? args
    let args ← stringArray? array
    some (s.answerString escalate .formatting FormatFault.fault out (t.format alloc args s.books))
  | .toWord n => do
    let t ← s.strings.get? n
    match t.toWord with
    | .ok w => some (.answer (.number w.toInt), s)
    | .error f => some (refusal escalate (.single .conversion) f.fault, s)
  | .find n m => do
    let t ← s.strings.get? n
    let u ← s.strings.get? m
    some (.answer (.number (t.find u)), s)
  | .contains n m => do
    let t ← s.strings.get? n
    let u ← s.strings.get? m
    some (.answer (.flag (t.contains u)), s)
  | .same n m => do
    let t ← s.strings.get? n
    let u ← s.strings.get? m
    some (.answer (.flag (t.same u)), s)
  | .describe n => do
    let t ← s.strings.get? n
    some (.answer (.description t), s)
  | .delete n => do
    let t ← s.strings.get? n
    some (.answer .nothing, { s with books := t.release s.books, strings := s.strings.erase n })

end Quota.Session
