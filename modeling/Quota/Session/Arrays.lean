import Quota.Session.Basic

set_option autoImplicit false

/-!
# Array operations of a session

Making arrays, reading and writing their elements, and deleting them. Writing releases the element that is replaced,
or, where the index is bad, the value that was to replace it.
-/
namespace Quota.Session

def arrayStep (alloc : Allocator) (s : Session) (source : Source) (escalate : Bool) :
    ArrayOperation → Option (Reply × Session)
  | .zeros element out capacity =>
    match FixedArray.zeros alloc source element (Cell.zero element) capacity s.books with
    | (.ok a, books) => some (.answer (.number a.length), s.keepArray out a books)
    | (.error f, books) => some (refusal escalate (.single .alloc) f.fault, { s with books := books })
  | .ofValues element out values => do
    let (cells, strings) ← takeOperands element s.strings values
    match FixedArray.ofList alloc source element cells s.books with
    | (.ok a, books) =>
      some (.answer (.number a.length), { s with strings := strings }.keepArray out a books)
    | (.error f, books) =>
      some (refusal escalate (.single .alloc) f.fault,
        { s with strings := strings, books := releaseCells cells books })
  | .get n index => do
    let a ← s.arrays.get? n
    match a.get index with
    | .ok c => some (.answer (.cell c), s)
    | .error f => some (refusal escalate (.single .index) f.fault, s)
  | .set n index operand => do
    let a ← s.arrays.get? n
    let (c, strings) ← takeOperand a.element s.strings operand
    match a.set index c with
    | .ok (b, old) =>
      some (.answer .nothing,
        { s with strings := strings, arrays := s.arrays.put n b, books := releaseCells old.toList s.books })
    | .error f =>
      some (refusal escalate (.single .index) f.fault, { s with strings := strings, books := c.release s.books })
  | .describe n => do
    let a ← s.arrays.get? n
    some (.answer (.array a), s)
  | .delete n => do
    let a ← s.arrays.get? n
    some (.answer .nothing, { s with books := a.release Cell.release s.books, arrays := s.arrays.erase n })

end Quota.Session
