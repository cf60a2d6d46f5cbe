import Quota.Proofs.AllOrNothing

set_option autoImplicit false

/-!
# Histories of an array

An array is a map on as many positions as it was made with. Over any accesses, with good indices and bad ones, every
position has what was last written there, or what it was made with if nothing was.
-/
namespace Quota

namespace FixedArray

variable {α : Type}

inductive Access (α : Type) where
  | get (index : Int)
  | set (index : Int) (value : α)

/-- What an access answers, which for a write is no value, and the array after it. -/
def access (a : FixedArray α) : Access α → Except IndexFault (Option α) × FixedArray α
  | .get index => ((a.get index).map some, a)
  | .set index x =>
    match a.set index x with
    | .ok (b, _) => (.ok none, b)
    | .error f => (.error f, a)

def accessAll (a : FixedArray α) : List (Access α) → FixedArray α
  | [] => a
  | c :: later => (a.access c).2.accessAll later

/-- The writes that succeeded, in their order. -/
def writes (a : FixedArray α) : List (Access α) → List (Int × α)
  | [] => []
  | .get _ :: later => a.writes later
  | .set index x :: later =>
    match a.set index x with
    | .ok (b, _) => (index, x) :: b.writes later
    | .error _ => a.writes later

/-- What a position has that started with the given values: what was last written there, else its first value. -/
def latest (initial : List α) (written : List (Int × α)) (i : Nat) : Option α :=
  initial[i]?.map fun x => (written.reverse.lookup (i : Int)).getD x

/-- Writing first is the same as starting with the value that was written. -/
theorem latest_cons (initial : List α) (k : Nat) (x : α) (written : List (Int × α)) (i : Nat) :
    latest initial ((k, x) :: written) i = latest (initial.set k x) written i := by
  unfold latest
  -- the first write is the last to be looked up, where the new start would be
  rw [List.reverse_cons, List.lookup_append, List.lookup_cons, List.lookup_nil, List.getElem?_set']
  by_cases same : k = i
  · subst same
    rw [beq_self_eq_true, if_pos rfl]
    cases initial[k]? with
    | none => rfl
    | some y => cases written.reverse.lookup (k : Int) <;> rfl
  · have other : ((i : Int) == (k : Int)) = false := by
      rw [beq_eq_false_iff_ne]
      omega
    rw [other, if_neg same, Option.or_none]

theorem exists_get_iff (a : FixedArray α) (index : Int) :
    (∃ x, a.get index = .ok x) ↔ 0 ≤ index ∧ index < a.length := by
  have length := a.length_toList
  simp only [get_eq_ok_iff]
  constructor
  · rintro ⟨x, natural, found⟩
    have inside := (List.getElem?_eq_some_iff.mp found).1
    omega
  · rintro ⟨natural, inside⟩
    exact ⟨_, natural, List.getElem?_eq_getElem (by omega)⟩

theorem exists_set_iff (a : FixedArray α) (index : Int) (x : α) :
    (∃ b old, a.set index x = .ok (b, old)) ↔ 0 ≤ index ∧ index < a.length := by
  simp only [set_eq_ok_iff]
  constructor
  · rintro ⟨b, old, i, rfl, inside, _⟩
    omega
  · rintro ⟨natural, inside⟩
    obtain ⟨i, rfl⟩ := Int.eq_ofNat_of_zero_le natural
    exact ⟨_, _, i, rfl, by omega, rfl, rfl⟩

theorem length_access (a : FixedArray α) (c : Access α) : (a.access c).2.length = a.length := by
  cases c with
  | get index => rfl
  | set index x =>
    cases written : a.set index x with
    | error f => simp only [access, written]
    | ok p =>
      obtain ⟨i, _, _, made, _⟩ := (set_eq_ok_iff a p.1 index x p.2).mp written
      simp only [access, written, made]
      rfl

theorem length_accessAll (a : FixedArray α) (history : List (Access α)) : (a.accessAll history).length = a.length := by
  induction history generalizing a with
  | nil => rfl
  | cons c later ih => rw [accessAll, ih, length_access]

theorem getElem?_accessAll (a : FixedArray α) (history : List (Access α)) (i : Nat) :
    (a.accessAll history).toList[i]? = latest a.toList (a.writes history) i := by
  induction history generalizing a with
  | nil => simp [accessAll, writes, latest]
  | cons c later ih =>
    rw [accessAll, ih]
    cases c with
    | get index => rfl
    | set index x =>
      cases written : a.set index x with
      | error f => simp only [access, writes, written]
      | ok p =>
        obtain ⟨k, rfl, _, made, _⟩ := (set_eq_ok_iff a p.1 index x p.2).mp written
        simp only [access, writes, written, latest_cons]
        rw [made, toList_set]

/-- The array is the map of a fixed length that started with the given values and took the given writes. -/
structure Holds (a : FixedArray α) (initial : List α) (written : List (Int × α)) : Prop where
  length : a.length = initial.length
  elements : ∀ i : Nat, a.toList[i]? = latest initial written i
  walked : ∀ (β : Type) (f : β → α → β) (init : β), a.items.foldl f init = a.toList.foldl f init
  readable : ∀ index : Int, (∃ x, a.get index = .ok x) ↔ 0 ≤ index ∧ index < initial.length
  read : ∀ (index : Int) (x : α), a.get index = .ok x ↔ 0 ≤ index ∧ latest initial written index.toNat = some x
  writable : ∀ (index : Int) (x : α), (∃ b old, a.set index x = .ok (b, old)) ↔ 0 ≤ index ∧ index < initial.length

theorem holds_accessAll (a : FixedArray α) (history : List (Access α)) :
    (a.accessAll history).Holds a.toList (a.writes history) := by
  have length := a.length_toList
  have same := length_accessAll a history
  refine ⟨same.trans length.symm, getElem?_accessAll a history, ?_, ?_, ?_, ?_⟩
  · intro β f init
    exact Rows.foldl_eq_foldl_toList f init _
  · intro index
    rw [exists_get_iff, same, length]
  · intro index x
    rw [get_eq_ok_iff, getElem?_accessAll]
  · intro index x
    rw [exists_set_iff, same, length]

end FixedArray

namespace Session

open FixedArray

variable {alloc : Allocator} {s : Session} {n : String} {a : FixedArray Cell}

def accessReply (escalate : Bool) : Except IndexFault (Option Cell) → Reply
  | .ok none => .answer .nothing
  | .ok (some c) => .answer (.cell c)
  | .error f => refusal escalate (.single .index) f.fault

/-- The operation asks for an access to the array with the given name. -/
inductive Asks (n : String) (a : FixedArray Cell) (strings : Shelf ByteString) : ArrayOperation → Access Cell → Prop
  | get (index : Int) : Asks n a strings (.get n index) (.get index)
  | set (index : Int) {operand : Operand} {c : Cell} {rest : Shelf ByteString}
    (read : takeOperand a.element strings operand = some (c, rest)) :
    Asks n a strings (.set n index operand) (.set index c)

theorem arrayStep_of_asks (h : s.arrays.get? n = some a) {o : ArrayOperation} {c : Access Cell}
    (asks : Asks n a s.strings o c) (source : Source) (escalate : Bool) :
    ∃ after, s.arrayStep alloc source escalate o = some (accessReply escalate (a.access c).1, after) ∧
      ∀ m, after.arrays.get? m = if m = n then some (a.access c).2 else s.arrays.get? m := by
  have kept : ∀ m, s.arrays.get? m = if m = n then some a else s.arrays.get? m := by
    intro m
    split
    · rename_i here
      rw [here, h]
    · rfl
  cases asks with
  | get index =>
    refine ⟨s, ?_, kept⟩
    simp only [arrayStep, h, Option.bind_eq_bind, Option.bind_some, access]
    cases a.get index <;> rfl
  | set index read =>
    simp only [arrayStep, h, Option.bind_eq_bind, Option.bind_some, read, access]
    cases a.set index _ with
    | error f => exact ⟨_, rfl, kept⟩
    | ok p => exact ⟨_, rfl, fun m => Shelf.get?_put s.arrays n m p.1⟩

end Session

namespace FixedArray

/-- An array is a map of a fixed length over its whole history. Made of zeros or of given values, and after any accesses,
it holds what was last written at each position, or else what it was made with, and it can be read and written at its
positions and nowhere else. What a session is asked to do with one of its arrays is such an access, and its other arrays
are not touched. -/
theorem holds_latest_writes :
    (∀ (α : Type) (alloc : Allocator) (source : Source) (element : ElementType) (zero : α) (capacity : Int)
      (books after : Books) (a : FixedArray α), zeros alloc source element zero capacity books = (.ok a, after) →
      (a.length : Int) = capacity ∧
      ∀ history, (a.accessAll history).Holds (List.replicate capacity.toNat zero) (a.writes history)) ∧
    (∀ (α : Type) (alloc : Allocator) (source : Source) (element : ElementType) (values : List α)
      (books after : Books) (a : FixedArray α), ofList alloc source element values books = (.ok a, after) →
      ∀ history, (a.accessAll history).Holds values (a.writes history)) ∧
    ∀ (alloc : Allocator) (s : Session) (n : String) (a : FixedArray Cell) (o : ArrayOperation) (c : Access Cell)
      (source : Source) (escalate : Bool), s.arrays.get? n = some a → Session.Asks n a s.strings o c →
      ∃ after, s.arrayStep alloc source escalate o = some (Session.accessReply escalate (a.access c).1, after) ∧
        ∀ m, after.arrays.get? m = if m = n then some (a.access c).2 else s.arrays.get? m := by
  refine ⟨?_, ?_, ?_⟩
  · intro α alloc source element zero capacity books after a made
    obtain ⟨elements, length⟩ := toList_of_zeros made
    rw [← elements]
    exact ⟨length, holds_accessAll a⟩
  · intro α alloc source element values books after a made
    rw [← toList_of_ofList made]
    exact holds_accessAll a
  · intro alloc s n a o c source escalate found asks
    exact Session.arrayStep_of_asks found asks source escalate

/-- Two good writes at one position and two bad ones. -/
def scattered : List (Access Int) := [.set 1 5, .set 3 9, .set 1 7, .set (-1) 4]

theorem scattered_holds :
    ∃ a after, zeros .granting .heap .word (0 : Int) 3 (.ofLimits []) = (.ok a, after) ∧
      (a.accessAll scattered).get 0 = .ok 0 ∧ (a.accessAll scattered).get 1 = .ok 7 ∧
      ¬ ∃ x, (a.accessAll scattered).get 3 = .ok x := by
  have made : zeros .granting .heap .word (0 : Int) 3 (.ofLimits []) = _ := rfl
  have holds := (holds_latest_writes.1 _ _ _ _ _ _ _ _ _ made).2 scattered
  refine ⟨_, _, made, (holds.read 0 0).mpr ?_, (holds.read 1 7).mpr ?_, mt (holds.readable 3).mp ?_⟩
  · decide +kernel
  · decide +kernel
  · decide +kernel

end FixedArray

end Quota
