set_option autoImplicit false

/-!
# Sets of code points

A set is a table of ranges, first and last code point of each, in ascending order and apart from each other.
-/
namespace Quota

structure CodePoints where
  ranges : List (Nat × Nat)
deriving DecidableEq, Repr

namespace CodePoints

/-- Whether a number lies in one of the ascending ranges; what begins above it is not looked at. -/
def covers (n : Nat) : List (Nat × Nat) → Bool
  | [] => false
  | r :: rest => if n < r.1 then false else if n ≤ r.2 then true else covers n rest

/-- Where the ranges ascend, looking no further loses none. -/
theorem covers_iff (n : Nat) (rs : List (Nat × Nat)) (ascending : rs.Pairwise fun r s => r.1 ≤ s.1) :
    covers n rs = true ↔ ∃ r ∈ rs, r.1 ≤ n ∧ n ≤ r.2 := by
  induction rs with
  | nil => simp [covers]
  | cons r rest ih =>
    rw [List.pairwise_cons] at ascending
    rw [covers]
    split
    · rename_i below
      constructor
      · intro h
        cases h
      · rintro ⟨s, member, least, _⟩
        rcases List.mem_cons.mp member with rfl | later
        · omega
        · have := ascending.1 s later
          omega
    · split
      · simp
        left
        omega
      · rw [ih ascending.2]
        simp
        omega

/-- Whether a character stands in the set. -/
def contains (s : CodePoints) (c : Char) : Bool := covers c.toNat s.ranges

end CodePoints

end Quota
