import Quota.Session.Arrays
import Quota.Session.Strings
import Quota.Session.Vectors

set_option autoImplicit false

/-!
# Runs of a session

Requests are answered one by one, up to the first that enters the abort path. A request is rejected if it cannot be
read, names a source that does not exist, or names a value that does not exist; it then has no effect.
-/
namespace Quota.Session

/-- The reply to direct dealings with a source. No more can be given back than was acquired. -/
def directStep (s : Session) (index : Nat) (source : Source) (escalate : Bool) :
    DirectOperation → Option (Reply × Session)
  | .acquire bytes =>
    match s.books.acquire source bytes with
    | (.ok (), books) =>
      some (.answer .nothing, { s with books := books, direct := s.direct.modify index (· + bytes) })
    | (.error f, books) => some (refusal escalate (.single .alloc) f.fault, { s with books := books })
  | .giveBack bytes => do
    let held ← s.direct[index]?
    if bytes ≤ held then
      some (.answer .nothing,
        { s with books := s.books.credit source bytes, direct := s.direct.set index (held - bytes) })
    else none

variable (alloc : Allocator)

/-- The reply to a request and its effect; `none` rejects it. -/
def perform? (s : Session) (request : Request) : Option (Reply × Session) := do
  let source ← s.sources[request.source]?
  match request.operation with
  | .direct o => s.directStep request.source source request.escalate o
  | .string o => s.stringStep alloc source request.escalate o
  | .array o => s.arrayStep alloc source request.escalate o
  | .vector o => s.vectorStep alloc source request.escalate o

/-- One request, which is `none` if it cannot be read. -/
def step (s : Session) (request : Option Request) : Reply × Session :=
  match request.bind (s.perform? alloc) with
  | some result => result
  | none => (.rejected, s)

/-- Requests in turn. Every reply stands with the books after it. -/
def run : Session → List (Option Request) → List (Reply × Books) × Session
  | s, [] => ([], s)
  | s, request :: rest =>
    match s.step alloc request with
    | (.abort fragments, s) => ([(.abort fragments, s.books)], s)
    | (reply, s) =>
      let (replies, last) := run s rest
      ((reply, s.books) :: replies, last)

end Quota.Session
