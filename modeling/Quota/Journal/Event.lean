import Quota.Command.Basic

set_option autoImplicit false

/-!
# Events

What the library notes about its own work: a level, the component concerned, a message and named fields. An event is
written on one line, if a filter shows events of its shape.
-/
namespace Quota

inductive Level where
  | error
  | warn
  | info
  | debug
  | trace
deriving DecidableEq, Repr

namespace Level

/-- One for errors up to five for traces. -/
def depth : Level → Nat
  | .error => 1
  | .warn => 2
  | .info => 3
  | .debug => 4
  | .trace => 5

/-- The name right-aligned to five characters. -/
def label : Level → String
  | .error => "ERROR"
  | .warn => " WARN"
  | .info => " INFO"
  | .debug => "DEBUG"
  | .trace => "TRACE"

end Level

/-- The part of the library that notes an event. -/
inductive Component where
  | block
  | budget
  | vector
  | string
  | abort
  | console
  | program
deriving DecidableEq, Repr

/-- The path by which filters select a component. -/
def Component.path : Component → String
  | .block => "srt_foundation::buffer"
  | .budget => "srt_foundation::provider"
  | .vector => "srt_foundation::vec"
  | .string => "srt_foundation::string"
  | .abort => "srt_panic"
  | .console => "srt_panic::console"
  | .program => "srtd"

structure Shape where
  level : Level
  component : Component
  /-- The names of the fields. -/
  fields : List String
deriving DecidableEq, Repr

/-- Whether there is a field of the given name. The message counts as one. -/
def Shape.hasField (s : Shape) (name : String) : Bool := decide (name = "message") || s.fields.contains name

inductive Event where
  | blockAcquired (slots bytes : Nat)
  | blockReleased (slots bytes : Nat)
  | budgetRefused (bytes inUse limit : Nat)
  | vectorGrown (element : String) (before after : Nat)
  | vectorCapped (capacity : Nat) (report : String)
  | stringFormatted (args bytes : Nat)
  | stringReplaced (replaced bytes : Nat)
  | handlerInstalled (exitCode : Int)
  /-- The abort path is entered. Call sites are not recorded, so their places stay unnamed. -/
  | abortEntered (fragments : Nat)
  | writeFailed (cause : String)
  | flushFailed (cause : String)
  | executing (command : Command)
  | scenariosFinished (passed total : Nat)
  | budgetUsage (limit peak refusals : Nat)
deriving DecidableEq, Repr

namespace Event

def shape : Event → Shape
  | .blockAcquired _ _ => ⟨.trace, .block, ["slots", "bytes"]⟩
  | .blockReleased _ _ => ⟨.trace, .block, ["slots", "bytes"]⟩
  | .budgetRefused _ _ _ => ⟨.debug, .budget, ["bytes", "in_use", "limit"]⟩
  | .vectorGrown _ _ _ => ⟨.debug, .vector, ["element", "from", "to"]⟩
  | .vectorCapped _ _ => ⟨.error, .vector, ["capacity", "error"]⟩
  | .stringFormatted _ _ => ⟨.trace, .string, ["args", "bytes"]⟩
  | .stringReplaced _ _ => ⟨.trace, .string, ["replaced", "bytes"]⟩
  | .handlerInstalled _ => ⟨.debug, .abort, ["exit_code"]⟩
  | .abortEntered _ => ⟨.error, .abort, ["file", "line", "fragments"]⟩
  | .writeFailed _ => ⟨.warn, .console, ["error"]⟩
  | .flushFailed _ => ⟨.warn, .console, ["error"]⟩
  | .executing _ => ⟨.debug, .program, ["command"]⟩
  | .scenariosFinished _ _ => ⟨.info, .program, ["passed", "total"]⟩
  | .budgetUsage _ _ _ => ⟨.debug, .program, ["limit", "peak", "refusals"]⟩

def message : Event → String
  | .blockAcquired _ _ => "buffer acquired"
  | .blockReleased _ _ => "buffer released"
  | .budgetRefused _ _ _ => "budget provider refused allocation"
  | .vectorGrown _ _ _ => "vector grown"
  | .vectorCapped _ _ => "vector capacity cap reached"
  | .stringFormatted _ _ => "string formatted"
  | .stringReplaced _ _ => "string replaced"
  | .handlerInstalled _ => "panic handler initialized"
  | .abortEntered _ => "entering panic path"
  | .writeFailed _ => "panic output could not be written"
  | .flushFailed _ => "panic output could not be flushed"
  | .executing _ => "executing"
  | .scenariosFinished _ _ => "scenarios finished"
  | .budgetUsage _ _ _ => "budget usage"

/-- The values of the fields, in the order of their names. -/
def values : Event → List String
  | .blockAcquired slots bytes => [toString slots, toString bytes]
  | .blockReleased slots bytes => [toString slots, toString bytes]
  | .budgetRefused bytes inUse limit => [toString bytes, toString inUse, toString limit]
  | .vectorGrown element before after => [Quoted.text element, toString before, toString after]
  | .vectorCapped capacity report => [toString capacity, report]
  | .stringFormatted args bytes => [toString args, toString bytes]
  | .stringReplaced replaced bytes => [toString replaced, toString bytes]
  | .handlerInstalled exitCode => [toString exitCode]
  | .abortEntered fragments => ["<file>", "<line>", toString fragments]
  | .writeFailed cause => [cause]
  | .flushFailed cause => [cause]
  | .executing command => [command.debug]
  | .scenariosFinished passed total => [toString passed, toString total]
  | .budgetUsage limit peak refusals => [toString limit, toString peak, toString refusals]

/-- Level, component, message and fields on one line. -/
def line (e : Event) : String :=
  e.shape.level.label ++ " " ++ e.shape.component.path ++ ": " ++ e.message ++
    String.join ((e.shape.fields.zip e.values).map fun f => " " ++ f.1 ++ "=" ++ f.2)

/-- Whether the event is the entry to the abort path. -/
def isAbort : Event → Bool
  | .abortEntered _ => true
  | _ => false

end Event

end Quota
