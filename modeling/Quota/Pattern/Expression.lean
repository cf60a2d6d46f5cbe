import Quota.Pattern.Place

set_option autoImplicit false

/-!
# Expressions

What a pattern is made of, as far as it can be objected to: how often something is repeated, which set a class names and
what a group captures make no difference to that.
-/
namespace Quota.Pattern

/-- A single character. An octet is one that was written with two hexadecimal digits. -/
structure Literal where
  extent : Extent
  char : Char
  octet : Bool
deriving DecidableEq, Repr

namespace Literal

/-- A character that stands for itself. -/
def plain (extent : Extent) (char : Char) : Literal := ⟨extent, char, false⟩

end Literal

/-- What one character or one escape stands for. -/
inductive Atom where
  | literal (l : Literal)
  | anyCharacter (extent : Extent)
  | shorthand (extent : Extent) (negated : Bool)
  | property (extent : Extent)
  /-- A condition on the place in the text; at a word boundary it asks which characters make words. -/
  | condition (extent : Extent) (wordBoundary : Bool)
deriving DecidableEq, Repr

namespace Atom

def extent : Atom → Extent
  | .literal l => l.extent
  | .anyCharacter e => e
  | .shorthand e _ => e
  | .property e => e
  | .condition e _ => e

end Atom

/-- A set of characters, as it is written in brackets. -/
inductive CharacterSet where
  | empty (extent : Extent)
  | literal (l : Literal)
  | range (first last : Literal)
  | named (extent : Extent) (negated : Bool)
  | shorthand (extent : Extent) (negated : Bool)
  | property (extent : Extent)
  | bracketed (extent : Extent) (negated : Bool) (inner : CharacterSet)
  | union (extent : Extent) (parts : List CharacterSet)
  /-- The intersection or a difference of two sets. -/
  | combined (left right : CharacterSet)
deriving Repr

namespace CharacterSet

def start : CharacterSet → Place
  | .empty e => e.start
  | .literal l => l.extent.start
  | .range first _ => first.extent.start
  | .named e _ => e.start
  | .shorthand e _ => e.start
  | .property e => e.start
  | .bracketed e _ _ => e.start
  | .union e _ => e.start
  | .combined left _ => left.start

def stop : CharacterSet → Place
  | .empty e => e.stop
  | .literal l => l.extent.stop
  | .range _ last => last.extent.stop
  | .named e _ => e.stop
  | .shorthand e _ => e.stop
  | .property e => e.stop
  | .bracketed e _ _ => e.stop
  | .union e _ => e.stop
  | .combined _ right => right.stop

def extent (s : CharacterSet) : Extent := ⟨s.start, s.stop⟩

end CharacterSet

inductive Flag where
  | ignoreCase
  | multiLine
  | dotMatchesBreak
  | swapGreed
  | unicode
  | returnBreaks
  /-- Blanks and comments are passed over. -/
  | loose
deriving DecidableEq, Repr

/-- Flags that are set or cleared. -/
structure Settings where
  flags : List (Flag × Bool)
deriving DecidableEq, Repr

namespace Settings

def unchanged : Settings := ⟨[]⟩

/-- The state of a flag under the settings. -/
def state (s : Settings) (flag : Flag) (before : Bool) : Bool := (s.flags.lookup flag).getD before

end Settings

inductive Expression where
  | empty (extent : Extent)
  | atom (a : Atom)
  /-- Settings for the rest of the enclosing group. -/
  | settings (extent : Extent) (s : Settings)
  | bracket (extent : Extent) (negated : Bool) (set : CharacterSet)
  | repetition (extent : Extent) (operand : Expression)
  /-- A group with settings of its own. -/
  | group (extent : Extent) (s : Settings) (inner : Expression)
  | choice (extent : Extent) (branches : List Expression)
  | sequence (extent : Extent) (items : List Expression)
deriving Repr

namespace Expression

def extent : Expression → Extent
  | .empty e => e
  | .atom a => a.extent
  | .settings e _ => e
  | .bracket e _ _ => e
  | .repetition e _ => e
  | .group e _ _ => e
  | .choice e _ => e
  | .sequence e _ => e

/-- Whether a repetition can have the expression as its operand. -/
def repeatable : Expression → Bool
  | .empty _ => false
  | .settings _ _ => false
  | _ => true

end Expression

end Quota.Pattern
