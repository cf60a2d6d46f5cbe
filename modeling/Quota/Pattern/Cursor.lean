import Quota.Pattern.Place
import Quota.Text.Blank

set_option autoImplicit false

/-!
# Cursors

A cursor is what is left of a pattern and the place that it begins at. A loose cursor passes over blanks and over
comments, which reach from a number sign to the end of the line.
-/
namespace Quota.Pattern

structure Cursor where
  rest : List Char
  place : Place
  loose : Bool
deriving DecidableEq, Repr

namespace Cursor

def ofString (s : String) : Cursor := ⟨s.toList, .first, false⟩

def next? (c : Cursor) : Option Char := c.rest.head?

def second? (c : Cursor) : Option Char := (c.rest.drop 1).head?

def ended (c : Cursor) : Bool := c.rest.isEmpty

def bump (c : Cursor) : Cursor :=
  match c.rest with
  | [] => c
  | ch :: rest => { c with rest := rest, place := c.place.after ch }

def bumps (c : Cursor) (n : Nat) : Cursor :=
  { c with rest := c.rest.drop n, place := (c.rest.take n).foldl Place.after c.place }

/-- Behind the characters that begin the rest and have a property. -/
def past (c : Cursor) (p : Char → Bool) : Cursor := c.bumps (c.rest.takeWhile p).length

/-- Behind a word, if the rest begins with it. -/
def behind? (c : Cursor) (word : String) : Option Cursor :=
  if word.toList.isPrefixOf c.rest then some (c.bumps word.length) else none

/-- The number of characters in blanks and comments at the start. -/
def slack (comment : Bool) : List Char → Nat
  | [] => 0
  | ch :: rest =>
    if comment then slack (ch != '\n') rest + 1
    else if ch == '#' then slack true rest + 1
    else if Blank.contains ch then slack false rest + 1
    else 0

/-- A loose cursor goes behind blanks and comments. -/
def settle (c : Cursor) : Cursor := if c.loose then c.bumps (slack false c.rest) else c

/-- Behind the next character, and behind what a loose cursor passes over. -/
def advance (c : Cursor) : Cursor := c.bump.settle

/-- Behind the characters that begin the rest and have a property, passing over what a loose cursor does, with the
characters themselves. -/
def collect (p : Char → Bool) : Nat → Cursor → List Char × Cursor
  | 0, c => ([], c)
  | fuel + 1, c =>
    match c.next? with
    | none => ([], c)
    | some ch =>
      if p ch then
        let (found, after) := collect p fuel c.advance
        (ch :: found, after)
      else ([], c)

/-- The longest run of characters with a property. -/
def span (c : Cursor) (p : Char → Bool) : List Char × Cursor := collect p c.rest.length c

/-- The character that follows the next one. A loose cursor looks past blanks and past one number sign, unless nothing
is behind them. -/
def look? (c : Cursor) : Option Char :=
  if c.loose then
    let bare := (c.rest.drop 1).dropWhile Blank.contains
    let beyond :=
      match bare with
      | '#' :: comment => comment.dropWhile Blank.contains
      | _ => bare
    beyond.head? <|> c.second?
  else c.second?

/-- The empty extent at the cursor. -/
def here (c : Cursor) : Extent := ⟨c.place, c.place⟩

/-- The extent of the next character. -/
def letter (c : Cursor) : Extent := ⟨c.place, c.bump.place⟩

/-- The extent from a place to the cursor. -/
def since (c : Cursor) (start : Place) : Extent := ⟨start, c.place⟩

end Cursor

end Quota.Pattern
