import Quota.Abort.Context

set_option autoImplicit false

/-!
# The exit status of an aborted process

A process may try any number of times to install a context with an exit code. The first code that can be built stays in
force, and without one the default does. The operating system keeps the code modulo 256, so that codes other than zero
may still read as success.
-/
namespace Quota

theorem Halt.code_ofActs_acts (c : AbortContext) (site : CallSite) (fragments : List String) :
    (Halt.ofActs (c.acts site fragments)).code = c.exitCode := by
  have later : ∀ texts : List String,
      (Halt.ofActs (texts.map .write ++ [.write "\n", .flush, .terminate c.exitCode])).code = c.exitCode := by
    intro texts
    induction texts with
    | nil => rfl
    | cons text rest ih => exact ih
  exact later fragments

namespace AbortContext

/-- The context on standard output that an attempt with an optional exit code builds. -/
def attempted (code : Option Int) : Option AbortContext := (build .standard (code.getD defaultExitCode)).toOption

theorem attempted_eq_none_iff (code : Option Int) : attempted code = none ↔ code = some 0 := by
  cases code with
  | none => simp [attempted, build, defaultExitCode, Except.toOption]
  | some c => by_cases zero : c = 0 <;> simp [attempted, build, zero, Except.toOption]

theorem exitCode_of_attempted {code : Option Int} {c : AbortContext} (h : attempted code = some c) :
    c.exitCode = code.getD defaultExitCode := by
  unfold attempted build at h
  split at h
  · cases h
  · cases h
    rfl

end AbortContext

namespace Handler

open AbortContext

/-- Build a context with an optional exit code, and install it if it could be built. -/
def configure (h : Handler) (code : Option Int) : Handler :=
  match build .standard (code.getD defaultExitCode) with
  | .ok c => (h.install c).2
  | .error _ => h

/-- What is installed stays, and otherwise what was built is installed. -/
theorem context_configure (h : Handler) (code : Option Int) :
    (h.configure code).context = h.context.or ((attempted code).map .fresh) := by
  unfold configure attempted
  cases build .standard (code.getD defaultExitCode) with
  | error _ => simp [Except.toOption]
  | ok c =>
    unfold install
    cases installed : h.context with
    | none => rfl
    | some _ => exact installed

theorem context_foldl_configure (h : Handler) (codes : List (Option Int)) :
    (codes.foldl configure h).context = h.context.or ((codes.findSome? attempted).map .fresh) := by
  induction codes generalizing h with
  | nil => simp
  | cons code rest ih =>
    rw [List.foldl_cons, ih, context_configure, List.findSome?_cons, Option.or_assoc]
    cases attempted code <;> rfl

theorem exitStatus_halt (h : Handler) (site : CallSite) (fragments : List String) :
    (h.halt site fragments).exitStatus = (h.inForce.exitCode % 256).toNat := by
  rw [Halt.exitStatus, halt, Halt.code_ofActs_acts]

theorem exitStatus_halt_eq_zero_iff (h : Handler) (site : CallSite) (fragments : List String) :
    (h.halt site fragments).exitStatus = 0 ↔ 256 ∣ h.inForce.exitCode := by
  rw [exitStatus_halt]
  omega

theorem inForce_foldl_configure (codes : List (Option Int)) :
    (codes.foldl configure fresh).inForce = (codes.findSome? attempted).getD .default := by
  rw [inForce, context_foldl_configure]
  cases codes.findSome? attempted with
  | none => rfl
  | some c => exact Locked.recover_acquire (.fresh c)

/-- An aborted process reports success if and only if the first of its exit codes that is not zero is a multiple of 256,
however often it tried to install a context. -/
theorem reports_success_iff (codes : List (Option Int)) (site : CallSite) (fragments : List String) :
    ((codes.foldl configure fresh).halt site fragments).exitStatus = 0 ↔
      ∃ before code after, codes = before ++ some code :: after ∧ (∀ c ∈ before, c = some 0) ∧ code ≠ 0 ∧ 256 ∣ code := by
  rw [exitStatus_halt_eq_zero_iff, inForce_foldl_configure]
  constructor
  · intro divides
    cases found : codes.findSome? attempted with
    | none =>
      rw [found] at divides
      exact absurd divides (by decide)
    | some context =>
      obtain ⟨before, code, after, split, built, earlier⟩ := List.findSome?_eq_some_iff.mp found
      rw [found, Option.getD_some, exitCode_of_attempted built] at divides
      have other : code ≠ some 0 := by
        rw [Ne, ← attempted_eq_none_iff, built]
        exact Option.some_ne_none context
      cases code with
      | none => exact absurd divides (by decide)
      | some code =>
        refine ⟨before, code, after, split, ?_, fun zero => other (congrArg some zero), divides⟩
        intro c member
        exact (attempted_eq_none_iff c).mp (earlier c member)
  · rintro ⟨before, code, after, rfl, earlier, other, divides⟩
    cases built : attempted (some code) with
    | none => exact absurd (Option.some.inj ((attempted_eq_none_iff _).mp built)) other
    | some context =>
      have found : (before ++ some code :: after).findSome? attempted = some context := by
        apply List.findSome?_eq_some_iff.mpr
        exact ⟨before, some code, after, rfl, built, fun c member => (attempted_eq_none_iff c).mpr (earlier c member)⟩
      rw [found, Option.getD_some, exitCode_of_attempted built]
      exact divides

/-- The code 256 is accepted as one of failure, and the process that ends with it reports success. -/
theorem success_reported_with_256 :
    (fresh.configure (some 256)).isInitialized = true ∧
      ((fresh.configure (some 256)).halt ⟨"main", 4, 9⟩ ["out of room"]).exitStatus = 0 := by
  decide

end Handler

end Quota
