import Quota.Pattern.Place

set_option autoImplicit false

/-!
# Objections to a pattern
-/
namespace Quota.Pattern

inductive Complaint where
  | groupUnclosed
  | groupUnopened
  | lookAround
  | nameUnclosed
  | nameEmpty
  | nameCharacter
  | nameTwice
  | flagMissing
  | flagUnknown
  | flagTwice
  | negationTwice
  | negationDangling
  | nothingRepeated
  | countUnclosed
  | countMissing
  | countTooLarge
  | escapeUnfinished
  | escapeUnknown
  | backreference
  | hexDigit
  | hexValue
  | propertyName
  | boundaryUnfinished
  | boundaryName
  | classUnclosed
  | classEscape
  | rangeBoundary
  | rangeOrder
  | nesting
  | caseFolding
  | shorthand
  | property
  | unicodeForbidden
  | invalidText
deriving DecidableEq, Repr

namespace Complaint

def message : Complaint → String
  | .groupUnclosed => "unclosed group"
  | .groupUnopened => "unopened group"
  | .lookAround => "look-around, including look-ahead and look-behind, is not supported"
  | .nameUnclosed => "unclosed capture group name"
  | .nameEmpty => "empty capture group name"
  | .nameCharacter => "invalid capture group character"
  | .nameTwice => "duplicate capture group name"
  | .flagMissing => "expected flag but got end of regex"
  | .flagUnknown => "unrecognized flag"
  | .flagTwice => "duplicate flag"
  | .negationTwice => "flag negation operator repeated"
  | .negationDangling => "dangling flag negation operator"
  | .nothingRepeated => "repetition operator missing expression"
  | .countUnclosed => "unclosed counted repetition"
  | .countMissing => "repetition quantifier expects a valid decimal"
  | .countTooLarge => "decimal literal invalid"
  | .escapeUnfinished => "incomplete escape sequence, reached end of pattern prematurely"
  | .escapeUnknown => "unrecognized escape sequence"
  | .backreference => "backreferences are not supported"
  | .hexDigit => "invalid hexadecimal digit"
  | .hexValue => "hexadecimal literal is not a Unicode scalar value"
  | .propertyName => "invalid Unicode character class"
  | .boundaryUnfinished =>
    "found either the beginning of a special word boundary or a bounded repetition on a \\b with an opening brace, " ++
      "but no closing brace"
  | .boundaryName => "special word boundary assertion is either unclosed or contains an invalid character"
  | .classUnclosed => "unclosed character class"
  | .classEscape => "invalid escape sequence found in character class"
  | .rangeBoundary => "invalid range boundary, must be a literal"
  | .rangeOrder => "invalid character class range, the start must be <= the end"
  | .nesting => "exceed the maximum number of nested parentheses/brackets (250)"
  | .caseFolding =>
    "Unicode-aware case insensitivity matching is not available (make sure the unicode-case feature is enabled)"
  | .shorthand => "Unicode-aware Perl class not found (make sure the unicode-perl feature is enabled)"
  | .property => "Unicode property not found"
  | .unicodeForbidden => "Unicode not allowed here"
  | .invalidText => "pattern can match invalid UTF-8"

end Complaint

/-- A complaint about an extent of the pattern, with the earlier extent that it clashes with, if there is one. -/
structure Objection where
  complaint : Complaint
  extent : Extent
  earlier : Option Extent := none
deriving DecidableEq, Repr

namespace Objection

/-- The extents to mark, in order. -/
def marked (o : Objection) : List Extent :=
  match o.earlier with
  | none => [o.extent]
  | some e => if e.precedes o.extent then [e, o.extent] else [o.extent, e]

end Objection

end Quota.Pattern
