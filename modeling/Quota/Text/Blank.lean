import Quota.Text.CodePoints

set_option autoImplicit false

/-!
# Blanks

The white space of Unicode, and texts without the blanks around them.
-/
namespace Quota.Blank

def set : CodePoints where
  ranges :=
    [(0x9, 0xD), (0x20, 0x20), (0x85, 0x85), (0xA0, 0xA0), (0x1680, 0x1680), (0x2000, 0x200A), (0x2028, 0x2029),
      (0x202F, 0x202F), (0x205F, 0x205F), (0x3000, 0x3000)]

def contains (c : Char) : Bool := set.contains c

/-- A text without the blanks at its start and at its end. -/
def trim (cs : List Char) : List Char :=
  ((cs.dropWhile contains).reverse.dropWhile contains).reverse

end Quota.Blank
