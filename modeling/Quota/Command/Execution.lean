import Quota.ByteString.Transform
import Quota.Command.Basic
import Quota.Container.CappedVector
import Quota.Fault.Declared

set_option autoImplicit false

/-!
# Execution of commands

A command takes all its storage from one source and gives everything back before it answers, whether it succeeds,
fails or enters the abort path. Its values are released in the reverse order of their making.
-/
namespace Quota

/-- Why a command has no answer: a chain of messages from the outermost to the root cause, or the abort path. -/
inductive CommandStop where
  | failed (chain : List String)
  | abort (fragments : List String)
deriving DecidableEq, Repr

namespace Execution

abbrev Action (α : Type) := Books → Except CommandStop α × Books

def failure (context : String) (f : Fault) : CommandStop := .failed [context, f.display]

/-- Make a value, go on with it, and release it at the end, however that comes. -/
def holding {α β : Type} (make : Action β) (release : β → Books → Books) (body : β → Action α) : Action α :=
  fun books =>
    match make books with
    | (.error stop, books) => (.error stop, books)
    | (.ok b, books) =>
      match body b books with
      | (r, books) => (r, release b books)

@[inline]
def inContext {α : Type} (context : String) : Except StorageFault α × Books → Except CommandStop α × Books
  | (.error f, books) => (.error (failure context f.fault), books)
  | (.ok a, books) => (.ok a, books)

variable (alloc : Allocator) (source : Source)

def copyArgument (value : String) : Action ByteString := fun books =>
  inContext ("copying argument '" ++ value ++ "' into a runtime string")
    (ByteString.ofBytes alloc source (Utf8.encode value) books)

def releaseAll (strings : List ByteString) (books : Books) : Books :=
  strings.foldl (fun books s => s.release books) books

/-- Copies of further arguments after those in `copied`, of which the latest is first. If one cannot be made, all are
released in the order of the arguments. -/
def copyArguments (copied : List ByteString) : List String → Action (List ByteString)
  | [], books => (.ok copied.reverse, books)
  | value :: rest, books =>
    match copyArgument alloc source value books with
    | (.error stop, books) => (.error stop, releaseAll copied.reverse books)
    | (.ok s, books) => copyArguments (s :: copied) rest books

def gatherArguments (args : List String) : Action (FixedArray ByteString) := fun books =>
  match copyArguments alloc source [] args books with
  | (.error stop, books) => (.error stop, books)
  | (.ok strings, books) =>
    match inContext "allocating argument array" (FixedArray.ofList alloc source .string strings books) with
    | (.error stop, books) => (.error stop, releaseAll strings books)
    | (.ok array, books) => (.ok array, books)

def releaseArray (array : FixedArray ByteString) (books : Books) : Books :=
  array.release ByteString.release books

def format (lead : String) (args : List String) : Action String :=
  holding (copyArgument alloc source lead) ByteString.release fun lead =>
    holding (gatherArguments alloc source args) releaseArray fun args books =>
      match lead.format alloc args books with
      | (.error f, books) =>
        let status := FaultSet.formatting.statusOf f.fault
        (.error (failure s!"format failed with status {status.toNat}" f.fault), books)
      | (.ok r, books) => (.ok r.display, r.release books)

/-- The text with up to `count` leftmost occurrences replaced. The arguments are released before the result. -/
def replace (text needle insert : String) (count : Int) : Action String := fun books =>
  let replaced : Action ByteString :=
    holding (copyArgument alloc source text) ByteString.release fun text =>
      holding (copyArgument alloc source needle) ByteString.release fun needle =>
        holding (copyArgument alloc source insert) ByteString.release fun insert books =>
          inContext "replacen failed with status 1" (text.replace alloc needle insert count books)
  match replaced books with
  | (.error stop, books) => (.error stop, books)
  | (.ok r, books) => (.ok r.display, r.release books)

def substr (text : String) (start stop : Int) : Action String :=
  holding (copyArgument alloc source text) ByteString.release fun text books =>
    match text.substring alloc start stop books with
    | (.error f, books) =>
      let status := FaultSet.substring.statusOf f.fault
      (.error (failure s!"get_substr failed with status {status.toNat}" f.fault), books)
    | (.ok r, books) => (.ok r.display, r.release books)

/-- Push `next`, `next + 1` and so on, `remaining` values in all. The answer is the vector as far as it came, and the
value at which a push was not done. -/
def pushFrom : (remaining next : Nat) → CappedVector Int → Books →
    (CappedVector Int × Option (Nat × PushStop)) × Books
  | 0, _, v, books => ((v, none), books)
  | remaining + 1, next, v, books =>
    match v.push alloc (next : Int) books with
    | (.error stop, v, books) => ((v, some (next, stop)), books)
    | (.ok (), v, books) => pushFrom remaining (next + 1) v books

/-- The shape of a vector: its length, its capacity and its last element, which is read by its index. -/
def shape (v : CappedVector Int) : Except CommandStop String :=
  let described (last : String) : String := s!"len={v.length} capacity={v.capacity} last={last}"
  match v.length with
  | 0 => .ok (described "none")
  | n + 1 =>
    match v.get n with
    | .ok x => .ok (described (toString x))
    | .error f => .error (.failed [f.fault.display])

def releaseVector (v : CappedVector Int) (books : Books) : Books := v.release (fun _ books => books) books

def push (count : Int) : Action String := fun books =>
  if count < 0 then (.error (.failed [s!"count must not be negative, got {count}"]), books)
  else
    match inContext "allocating vector" (CappedVector.create alloc source .word books) with
    | (.error stop, books) => (.error stop, books)
    | (.ok v, books) =>
      match pushFrom alloc count.toNat 0 v books with
      | ((v, none), books) => (shape v, releaseVector v books)
      | ((v, some (next, .storage f)), books) =>
        (.error (failure s!"push {next} failed with status 1" f.fault), releaseVector v books)
      | ((v, some (_, .capped)), books) => (.error (.abort CappedVector.cappedFragments), releaseVector v books)

/-- What comes of a substring request. Only the text is released. -/
def cut (text : String) (start stop : Int) : Action (Except SubstringFault ByteString) :=
  holding (copyArgument alloc source text) ByteString.release fun text books =>
    match text.substring alloc start stop books with
    | (r, books) => (.ok r, books)

def cutStatus : Except SubstringFault ByteString → UInt8
  | .ok _ => success
  | .error f => FaultSet.substring.statusOf f.fault

def releaseCut : Except SubstringFault ByteString → Books → Books
  | .ok r, books => r.release books
  | .error _, books => books

def verdict (name actual expected : String) : Bool × String :=
  if actual = expected then (true, "ok   " ++ name ++ ": " ++ actual)
  else (false, "FAIL " ++ name ++ ": expected " ++ Quoted.text expected ++ ", got " ++ Quoted.text actual)

/-- The scenarios before the empty range, each with its name and the result expected of it. -/
def openingScenarios : List (String × String × Action String) :=
  [("format", "assert failed: x", format alloc source "assert failed: " ["x"]),
    ("substr", "hello", substr alloc source "hello world" 0 5)]

def closingScenarios : List (String × String × Action String) :=
  [("replacen", "bba", replace alloc source "aaa" "a" "b" 2),
    ("vec-push", "len=20 capacity=32 last=19", push alloc source 20)]

def verdicts : List (String × String × Action String) → Action (List (Bool × String))
  | [], books => (.ok [], books)
  | (name, expected, action) :: rest, books =>
    match action books with
    | (.error stop, books) => (.error stop, books)
    | (.ok actual, books) =>
      match verdicts rest books with
      | (.error stop, books) => (.error stop, books)
      | (.ok lines, books) => (.ok (verdict name actual expected :: lines), books)

def report (lines : List (Bool × String)) : Action String := fun books =>
  let passed := (lines.filter Prod.fst).length
  let total := lines.length
  (.ok ("\n".intercalate (lines.map Prod.snd ++ [s!"{passed}/{total} scenarios passed"])),
    books.note (.scenariosFinished passed total))

/-- Run all scenarios. What comes of the empty range is held to the end. -/
def scenarios : Action String := fun books =>
  match verdicts (openingScenarios alloc source) books with
  | (.error stop, books) => (.error stop, books)
  | (.ok first, books) =>
    holding (cut alloc source "hello world" 5 5) releaseCut (fun empty books =>
      let second := verdict "substr-empty" s!"status {(cutStatus empty).toNat}" "status 1"
      match verdicts (closingScenarios alloc source) books with
      | (.error stop, books) => (.error stop, books)
      | (.ok third, books) => report (first ++ second :: third) books) books

def execute (command : Command) : Action String := fun books =>
  let books := books.note (.executing command)
  match command with
  | .scenarios => scenarios alloc source books
  | .format lead args => format alloc source lead args books
  | .replace text needle insert count => replace alloc source text needle insert count books
  | .substr text start stop => substr alloc source text start stop books
  | .push count => push alloc source count books

/-- Execute commands in turn on the same books, up to the first that enters the abort path. Every answer stands with the
books after it. -/
def executeAll : List Command → Books → List (Except CommandStop String × Books)
  | [], _ => []
  | command :: rest, books =>
    match execute alloc source command books with
    | (.error (.abort fragments), books) => [(.error (.abort fragments), books)]
    | (r, books) => (r, books) :: executeAll rest books

end Execution

end Quota
