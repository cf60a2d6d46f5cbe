import Quota.Pattern.Objection
import Quota.Text.Lines

set_option autoImplicit false

/-!
# Objections drawn under the pattern

The pattern is shown with carets below the extents objected to. A pattern of several lines is fenced and its lines are
numbered; an extent over several lines is told in words.
-/
namespace Quota.Pattern

def repeated (n : Nat) (c : Char) : String := String.ofList (List.replicate n c)

/-- Carets below extents on one line, in order. An empty extent has one caret too. -/
def carets (es : List Extent) : String :=
  es.foldl
    (fun drawn e =>
      drawn ++ repeated (e.start.column - 1 - drawn.length) ' ' ++
        repeated (max 1 (e.stop.column - e.start.column)) '^')
    ""

/-- A number in decimal at the end of a field. -/
def aligned (size n : Nat) : String :=
  let digits := toString n
  repeated (size - digits.length) ' ' ++ digits

/-- The lines of the pattern, each with the carets below it. Numbers of lines are as long as the last one. -/
def annotated (size : Nat) (marked : List Extent) : Nat → List String → List String
  | _, [] => []
  | n, line :: rest =>
    let lead := if size = 0 then "    " else aligned size n ++ ": "
    let here := marked.filter fun e => e.onOneLine && e.start.line == n
    let below := if here.isEmpty then [] else [repeated (if size = 0 then 4 else size + 2) ' ' ++ carets here]
    (lead ++ line) :: below ++ annotated size marked (n + 1) rest

/-- An extent over several lines in words, by its first and its last character. -/
def inWords (e : Extent) : String :=
  "on line " ++ toString e.start.line ++ " (column " ++ toString e.start.column ++ ") through line " ++
    toString e.stop.line ++ " (column " ++ toString (e.stop.column - 1) ++ ")"

namespace Objection

def drawing (o : Objection) (pattern : String) : String :=
  let shown :=
    if pattern.contains '\n' then
      let fence := repeated 79 '~'
      let count := (Lines.split pattern).length + (if pattern.endsWith "\n" then 1 else 0)
      [fence] ++ annotated (toString count).length o.marked 1 (Lines.split pattern) ++ [fence] ++
        (o.marked.filter fun e => !e.onOneLine).map inWords
    else annotated 0 o.marked 1 (Lines.split pattern)
  "\n".intercalate (["regex parse error:"] ++ shown ++ ["error: " ++ o.complaint.message])

end Objection

end Quota.Pattern
