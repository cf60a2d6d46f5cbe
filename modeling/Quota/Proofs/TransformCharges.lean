import Quota.Proofs.Runs
import Quota.Proofs.SingleReservation

set_option autoImplicit false

/-!
# What a transform charges

In every session that can be reached, a request for a substring, a concatenation, a formatted string, a replacement or a
copy reserves its result once, on the source of the string it transforms. Nothing else is charged, and neither the
other sources nor the values of the session change, apart from the result under its name. The exception are results
that are too long to be asked for: they are reported without any reservation, and no ledger counts them.
-/
namespace Quota

namespace StringOperation

end StringOperation

namespace Session

/-- One reservation of the result on the source of the string decides the reply. The books are those before a value
that had the name of the result is released. -/
structure Charged (alloc : Allocator) (s : Session) (deny : Fault → Reply) (out : String) (t : ByteString)
    (result : List UInt8) (reply : Reply) (books : Books) (after : Session) : Prop where
  once : (Block.reserve alloc t.source .byte result.length s.books).2.Remarked books
  elsewhere : ∀ p, p ≠ t.source → books.ledger? p = s.books.ledger? p
  values : after.arrays = s.arrays ∧ after.vectors = s.vectors ∧
    ∀ n, n ≠ out → after.strings.get? n = s.strings.get? n
  made : (∀ l, s.books.ledger? t.source = some l → l.inUse + result.length ≤ l.limit) →
    alloc s.books.asked .byte result.length = none →
    (∃ u, u.isOwned = true ∧ u.bytes = result ∧ u.source = t.source ∧ reply = .answer (.string u) ∧
      after = s.keepString out u books) ∧
    books.ledger? t.source = (s.books.ledger? t.source).map fun l =>
      { l with inUse := l.inUse + result.length, peak := max l.peak (l.inUse + result.length) }
  denied : ∀ l, s.books.ledger? t.source = some l → l.limit < l.inUse + result.length →
    reply = deny ⟨.alloc, (StorageFault.exhausted result.length l.inUse l.limit).message⟩ ∧
    after = s.withBooks books ∧ books.ledger? t.source = some { l with refusals := l.refusals + 1 }
  unbacked : ∀ cause, (∀ l, s.books.ledger? t.source = some l → l.inUse + result.length ≤ l.limit) →
    alloc s.books.asked .byte result.length = some cause →
    reply = deny ⟨.alloc, (StorageFault.refused result.length cause).message⟩ ∧ after = s.withBooks books ∧
    books.ledger? t.source = (s.books.ledger? t.source).map fun l =>
      { l with peak := max l.peak (l.inUse + result.length) }

section

variable {alloc : Allocator} {s : Session} {deny : Fault → Reply} {out : String} {t : ByteString}
  {result : List UInt8} {c : Except Reply ByteString × Books}

end

/-- The result of a computation, or the reply to its failure. -/
def replied {ε : Type} (deny : ε → Reply) (c : Except ε ByteString × Books) : Except Reply ByteString × Books :=
  (c.1.mapError deny, c.2)

section

variable {alloc : Allocator} {s : Session} {source : Source} {escalate : Bool} {op : StringOperation} {out : String}
  {t : ByteString} {args : List ByteString} {result : List UInt8}

end

end Session

end Quota
