import Quota.Pattern.Admission
import Quota.Pattern.Drawing
import Quota.Pattern.Reader

set_option autoImplicit false

/-!
# Patterns

A pattern is asked for as the value of a field. Whether a pattern matches is never asked, since no event has values that
are compared, but a pattern that cannot be used is refused.
-/
namespace Quota.Pattern

inductive Refusal where
  | objection (o : Objection) (pattern : String)
  | wordBoundary
deriving DecidableEq, Repr

namespace Refusal

/-- The refusal and what is beneath it. -/
def chain : Refusal → List String
  | .objection o pattern => ["error building NFA", "error parsing regex", o.drawing pattern]
  | .wordBoundary =>
    ["unsupported regex feature for DFAs: cannot build DFAs for regexes with Unicode word boundaries; switch to " ++
      "ASCII word boundaries, or heuristically enable Unicode word boundaries or use a different regex engine"]

/-- What the refusal says without its causes. -/
def message (r : Refusal) : String := r.chain.headD ""

end Refusal

def check (pattern : String) : Except Refusal Unit :=
  match read pattern >>= Expression.survey with
  | .error o => .error (.objection o pattern)
  | .ok true => .error .wordBoundary
  | .ok false => .ok ()

end Quota.Pattern
