import Quota.Proofs.ScriptedSession

set_option autoImplicit false

/-!
# Steps and runs

What every request keeps is kept by a whole run, and what a run shows after each request are the books of the session at
that point.
-/
namespace Quota

def Reply.isAbort : Reply → Bool
  | .abort _ => true
  | _ => false

namespace Session

variable (alloc : Allocator)

theorem run_cons (s : Session) (request : Option Request) (rest : List (Option Request)) :
    s.run alloc (request :: rest) =
      if (s.step alloc request).1.isAbort then
        ([((s.step alloc request).1, (s.step alloc request).2.books)], (s.step alloc request).2)
      else
        (((s.step alloc request).1, (s.step alloc request).2.books) :: ((s.step alloc request).2.run alloc rest).1,
          ((s.step alloc request).2.run alloc rest).2) := by
  rw [run]
  rcases s.step alloc request with ⟨reply, after⟩
  cases reply <;> rfl

/-- What every request keeps holds after a run. -/
theorem run_induction {P : Session → Prop} (step : ∀ s request, P s → P (s.step alloc request).2) (s : Session)
    (requests : List (Option Request)) (start : P s) : P (s.run alloc requests).2 := by
  induction requests generalizing s with
  | nil => exact start
  | cons request rest ih =>
    rw [run_cons]
    split
    · exact step s request start
    · exact ih _ (step s request start)

/-- What every admissible request keeps holds after a run of such requests. -/
theorem run_induction_of_mem {P : Session → Prop} {admissible : Option Request → Prop}
    (step : ∀ s request, admissible request → P s → P (s.step alloc request).2) (s : Session)
    (requests : List (Option Request)) (all : ∀ request ∈ requests, admissible request) (start : P s) :
    P (s.run alloc requests).2 := by
  induction requests generalizing s with
  | nil => exact start
  | cons request rest ih =>
    have first := step s request (all request List.mem_cons_self) start
    rw [run_cons]
    split
    · exact first
    · exact ih _ (fun later member => all later (List.mem_cons_of_mem _ member)) first

/-- The books that stand beside a reply are those of the session after the requests up to that one. -/
theorem books_eq_of_getElem? (s : Session) (requests : List (Option Request)) (k : Nat) (p : Reply × Books)
    (h : (s.run alloc requests).1[k]? = some p) : p.2 = (s.run alloc (requests.take (k + 1))).2.books := by
  induction requests generalizing s k with
  | nil => simp [run] at h
  | cons request rest ih =>
    rw [List.take_succ_cons, run_cons]
    rw [run_cons] at h
    split at h
    · rename_i aborted
      rw [if_pos aborted]
      cases k with
      | zero =>
        cases h
        rfl
      | succ k => simp at h
    · rename_i goesOn
      rw [if_neg goesOn]
      cases k with
      | zero =>
        cases h
        rfl
      | succ k => exact ih _ k h

theorem step_related {R : Ledger → Ledger → Prop} (h : Ledger.Persistent R) (s : Session) (request : Option Request) :
    s.books.Related R (s.step alloc request).2.books :=
  (s.scripted_step request).related h alloc s.books

theorem run_related {R : Ledger → Ledger → Prop} (h : Ledger.Persistent R) (s : Session)
    (requests : List (Option Request)) : s.books.Related R (s.run alloc requests).2.books :=
  run_induction alloc (P := fun after => s.books.Related R after.books)
    (fun after request so => so.trans h.trans (after.step_related alloc h request)) s requests (.refl h.refl s.books)

theorem length_ledgers_run (limits : List (Option Nat)) (requests : List (Option Request)) :
    ((start limits).run alloc requests).2.books.ledgers.length = (limits.filterMap id).length := by
  rw [(run_related alloc Ledger.persistent_peak (start limits) requests).length_eq]
  simp [start, Books.ofLimits]

/-- The books after each request are related to those at the end. -/
theorem related_run_of_mem {R : Ledger → Ledger → Prop} (h : Ledger.Persistent R) (s : Session)
    (requests : List (Option Request)) (p : Reply × Books) (member : p ∈ (s.run alloc requests).1) :
    p.2.Related R (s.run alloc requests).2.books := by
  induction requests generalizing s with
  | nil => simp [run] at member
  | cons request rest ih =>
    rw [run_cons] at member ⊢
    split at member
    · rename_i aborted
      rw [if_pos aborted]
      rw [List.mem_singleton.mp member]
      exact .refl h.refl _
    · rename_i goesOn
      rw [if_neg goesOn]
      rcases List.mem_cons.mp member with rfl | later
      · exact run_related alloc h _ rest
      · exact ih _ later

/-- A run ends with the books of its last reply, if it has one. -/
theorem books_run_eq (s : Session) (requests : List (Option Request)) :
    (s.run alloc requests).2.books = s.books ∨
      ∃ p ∈ (s.run alloc requests).1, p.2 = (s.run alloc requests).2.books := by
  induction requests generalizing s with
  | nil => exact .inl rfl
  | cons request rest ih =>
    refine .inr ?_
    rw [run_cons]
    split
    · exact ⟨_, List.mem_singleton.mpr rfl, rfl⟩
    · rcases ih (s.step alloc request).2 with same | ⟨p, member, last⟩
      · exact ⟨_, List.mem_cons_self, same.symm⟩
      · exact ⟨p, List.mem_cons_of_mem _ member, last⟩

end Session

end Quota
