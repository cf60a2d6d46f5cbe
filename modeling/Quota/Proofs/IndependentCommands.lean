import Quota.Command.Program
import Quota.Proofs.OrderlyCommands

set_option autoImplicit false

/-!
# Commands do not depend on what was executed before

The answers that a script gets depend on the limits and the bytes in use, and on how often the allocator was asked; they
do not depend on peaks, refusals or the journal. A command restores the former, so it answers as it would on fresh books.
-/
namespace Quota

namespace Allocator

variable {alloc : Allocator}

/-- The allocator as it goes on after so many reservations. -/
def after (alloc : Allocator) (earlier : Nat) : Allocator := fun further => alloc (earlier + further)

/-- The verdict depends on the reservation alone. -/
def Steady (alloc : Allocator) : Prop :=
  ∀ earlier element slots, alloc earlier element slots = alloc 0 element slots

theorem Steady.after_eq (h : alloc.Steady) (earlier : Nat) : alloc.after earlier = alloc := by
  funext further element slots
  rw [after, h, ← h further]

end Allocator

/-- What a request to the ledger is decided by. -/
def Ledger.standing (l : Ledger) : Nat × Nat := (l.limit, l.inUse)

namespace Books

def standing? (books : Books) (source : Source) : Option (Nat × Nat) := (books.ledger? source).map Ledger.standing

/-- The two books differ in what no dealing depends on, and the first has put so many more reservations to the
allocator. -/
structure Alike (earlier : Nat) (books other : Books) : Prop where
  asked : books.asked = earlier + other.asked
  standing : ∀ source, books.standing? source = other.standing? source

@[simp] theorem standing?_note (e : Event) (books : Books) (source : Source) :
    (books.note e).standing? source = books.standing? source := by
  rw [standing?, ledger?_note, standing?]

@[simp] theorem standing?_ask (books : Books) (source : Source) :
    books.ask.standing? source = books.standing? source := by
  rw [standing?, ledger?_ask, standing?]

/-- A change of a ledger that shows in its standing as the given function. -/
theorem standing?_adjust {f : Ledger → Ledger} {g : Nat × Nat → Nat × Nat} (h : ∀ l, (f l).standing = g l.standing)
    (target source : Source) (books : Books) :
    (books.adjust target f).standing? source =
      (books.standing? source).map fun p => if source = target then g p else p := by
  rw [standing?, standing?, ledger?_adjust, Option.map_map, Option.map_map]
  congr 1
  funext l
  by_cases same : source = target
  · simp [same, h]
  · simp [same]

namespace Alike

variable {earlier : Nat} {books other : Books}

theorem note (h : books.Alike earlier other) (e e' : Event) : (books.note e).Alike earlier (other.note e') :=
  ⟨h.asked, by simpa using h.standing⟩

theorem ask (h : books.Alike earlier other) : books.ask.Alike earlier other.ask := by
  refine ⟨?_, by simpa using h.standing⟩
  have asked := h.asked
  simp only [Books.ask]
  omega

theorem adjust (h : books.Alike earlier other) (target : Source) {f : Ledger → Ledger} {g : Nat × Nat → Nat × Nat}
    (hf : ∀ l, (f l).standing = g l.standing) : (books.adjust target f).Alike earlier (other.adjust target f) := by
  refine ⟨by rw [asked_adjust, asked_adjust, h.asked], fun source => ?_⟩
  rw [standing?_adjust hf, standing?_adjust hf, h.standing]

theorem credit (h : books.Alike earlier other) (source : Source) (bytes : Nat) :
    (books.credit source bytes).Alike earlier (other.credit source bytes) := by
  rw [credit_eq, credit_eq]
  exact h.adjust source (g := fun p => (p.1, p.2 - bytes)) fun _ => rfl

/-- A request is answered alike, in the same words if it is refused. -/
theorem acquire (h : books.Alike earlier other) (source : Source) (bytes : Nat) :
    (books.acquire source bytes).1 = (other.acquire source bytes).1 ∧
      (books.acquire source bytes).2.Alike earlier (other.acquire source bytes).2 := by
  have same := h.standing source
  rw [standing?, standing?] at same
  rw [acquire_eq, acquire_eq]
  cases mine : books.ledger? source with
  | none =>
    rw [mine, Option.map_none, eq_comm, Option.map_eq_none_iff] at same
    rw [same]
    exact ⟨rfl, h⟩
  | some l =>
    rw [mine, Option.map_some, eq_comm, Option.map_eq_some_iff] at same
    obtain ⟨l', theirs, equal⟩ := same
    obtain ⟨limit, inUse⟩ := Prod.mk.injEq .. ▸ equal
    have allows : l.Allows bytes ↔ l'.Allows bytes := by rw [Ledger.Allows, Ledger.Allows, limit, inUse]
    rw [theirs]
    by_cases allowed : l.Allows bytes
    · simp only [if_pos allowed, if_pos (allows.mp allowed)]
      exact ⟨trivial, h.adjust source (g := fun p => (p.1, p.2 + bytes)) fun _ => rfl⟩
    · simp only [if_neg allowed, if_neg (mt allows.mpr allowed)]
      exact ⟨by rw [limit, inUse], (h.adjust source (f := Ledger.refuse) (g := id) fun _ => rfl).note _ _⟩

end Alike

end Books

/-- Every dealing of a script is answered alike, so the script takes the same way. -/
theorem Script.exec_alike {α : Type} (alloc : Allocator) (script : Script α) {earlier : Nat} {books other : Books}
    (h : books.Alike earlier other) :
    (script.exec alloc books).1 = (script.exec (alloc.after earlier) other).1 := by
  induction script generalizing books other with
  | done x => rfl
  | note e next ih => exact ih (h.note e e)
  | credit source bytes next ih => exact ih (h.credit source bytes)
  | acquire source bytes next ih =>
    obtain ⟨same, after⟩ := h.acquire source bytes
    rw [exec, exec, same]
    exact ih _ after
  | ask element slots next ih =>
    have same : alloc books.asked element slots = alloc.after earlier other.asked element slots := by
      rw [h.asked, Allocator.after]
    rw [exec, exec, same]
    exact ih _ h.ask

theorem Scripted.eq_of_alike {α : Type} {c : Allocator → Books → α × Books} (hc : Scripted c) (alloc : Allocator)
    {earlier : Nat} {books other : Books} (h : books.Alike earlier other) :
    (c alloc books).1 = (c (alloc.after earlier) other).1 := by
  obtain ⟨script, hscript⟩ := hc
  rw [hscript, hscript]
  exact script.exec_alike alloc h

namespace Books

/-- Nothing is in use, and the limits are those of the fresh books. -/
structure Restored (fresh books : Books) : Prop where
  idle : books.Backs (fun _ => 0) 0
  standing : ∀ source, books.standing? source = fresh.standing? source

theorem idle_ofLimits (limits : List Nat) : (ofLimits limits).Backs (fun _ => 0) 0 := by
  refine ⟨by simp, fun source l found => ?_, fun source l found => ?_⟩
  · obtain ⟨limit, rfl⟩ := eq_empty_of_ofLimits found
    rfl
  · obtain ⟨limit, rfl⟩ := eq_empty_of_ofLimits found
    rfl

/-- Idle books whose limits stayed have the standing that they had. -/
theorem standing?_of_idle {books after : Books} (before : books.Backs (fun _ => 0) 0)
    (idle : after.Backs (fun _ => 0) 0) (limits : books.Related (fun l l' => l'.limit = l.limit) after)
    (source : Source) : after.standing? source = books.standing? source := by
  cases found : books.ledger? source with
  | none => rw [standing?, standing?, found, limits.later_of_none found]
  | some l =>
    obtain ⟨l', later, limit⟩ := limits.later_of_some found
    have inUse : l'.inUse = l.inUse := (idle.inUse source l' later).trans (before.inUse source l found).symm
    rw [standing?, standing?, found, later, Option.map_some, Option.map_some, Ledger.standing, Ledger.standing, limit,
      inUse]

theorem Restored.ledgers_eq {fresh books : Books} (h : fresh.Restored books) :
    books.ledgers.map Ledger.standing = fresh.ledgers.map Ledger.standing := by
  refine List.ext_getElem? fun i => ?_
  rw [List.getElem?_map, List.getElem?_map]
  exact h.standing (.budget i)

end Books

namespace Execution

variable (alloc : Allocator) (source : Source)

theorem restored_execute {fresh books : Books} (h : fresh.Restored books) (command : Command) :
    fresh.Restored (execute alloc source command books).2 := by
  have orderly := orderly_execute source command
  have idle : (execute alloc source command books).2.Backs (fun _ => 0) 0 :=
    orderly.backs alloc books (fun _ => 0) 0 h.idle
  have limits : books.Related (fun l l' => l'.limit = l.limit) (execute alloc source command books).2 :=
    (orderly.scripted.related Ledger.persistent_limit alloc books).imp fun _ _ => And.left
  exact ⟨idle, fun other => (Books.standing?_of_idle h.idle idle limits other).trans (h.standing other)⟩

theorem execute_eq_fresh {fresh books : Books} (unasked : fresh.asked = 0) (h : fresh.Restored books)
    (command : Command) :
    (execute alloc source command books).1 = (execute (alloc.after books.asked) source command fresh).1 :=
  (orderly_execute source command).scripted.eq_of_alike alloc ⟨by rw [unasked, Nat.add_zero], h.standing⟩

def aborted : Except CommandStop String → Bool
  | .error (.abort _) => true
  | _ => false

theorem executeAll_cons (command : Command) (rest : List Command) (books : Books) :
    executeAll alloc source (command :: rest) books =
      execute alloc source command books ::
        if aborted (execute alloc source command books).1 then []
        else executeAll alloc source rest (execute alloc source command books).2 := by
  rw [executeAll]
  rcases execute alloc source command books with ⟨(_ | _) | _, _⟩ <;> rfl

/-- Every command of a run starts on restored books, those that the command before it left. -/
theorem executeAll_restored {fresh books : Books} (h : fresh.Restored books) (commands : List Command) {k : Nat}
    {a : Except CommandStop String × Books} (found : (executeAll alloc source commands books)[k]? = some a) :
    ∃ command before, commands[k]? = some command ∧
      (books :: (executeAll alloc source commands books).map Prod.snd)[k]? = some before ∧ fresh.Restored before ∧
      execute alloc source command before = a := by
  induction commands generalizing books k with
  | nil => cases found
  | cons command rest ih =>
    rw [executeAll_cons] at found ⊢
    cases k with
    | zero => exact ⟨command, books, rfl, rfl, h, Option.some.inj found⟩
    | succ k =>
      rw [List.getElem?_cons_succ] at found
      split at found
      · cases found
      · rename_i further
        rw [if_neg further]
        exact ih (restored_execute alloc source h command) found

theorem length_executeAll (commands : List Command) (books : Books)
    (h : ∀ a ∈ executeAll alloc source commands books, ¬ aborted a.1) :
    (executeAll alloc source commands books).length = commands.length := by
  induction commands generalizing books with
  | nil => rfl
  | cons command rest ih =>
    rw [executeAll_cons] at h ⊢
    have first := h _ List.mem_cons_self
    rw [if_neg first] at h ⊢
    rw [List.length_cons, List.length_cons, ih _ fun a member => h a (List.mem_cons_of_mem _ member)]

end Execution

namespace Program

open Execution

/-- What a command answers on books of its own. -/
def outcome (alloc : Allocator) (budget : Option Nat) (command : Command) : Except CommandStop String :=
  (execute alloc (start budget).1 command (start budget).2).1

theorem restored_start (budget : Option Nat) : (start budget).2.Restored (start budget).2 := by
  refine ⟨?_, fun _ => rfl⟩
  cases budget with
  | none => exact Books.idle_ofLimits []
  | some limit => exact Books.idle_ofLimits [limit]

theorem asked_start (budget : Option Nat) : (start budget).2.asked = 0 := by
  cases budget <;> rfl

theorem standing_start (budget : Option Nat) :
    (start budget).2.ledgers.map Ledger.standing = budget.toList.map fun limit => (limit, 0) := by
  cases budget <;> rfl

/-- After every command nothing is in use, and every command answers as on books of its own, where the allocator goes on
as it would have. If none of them enters the abort path, all of them answer. -/
theorem commands_leave_no_trace (alloc : Allocator) (budget : Option Nat) (commands : List Command)
    (answers : List (Except CommandStop String × Books))
    (h : executeAll alloc (start budget).1 commands (start budget).2 = answers) :
    (∀ a ∈ answers, a.2.ledgers.map Ledger.standing = budget.toList.map fun limit => (limit, 0)) ∧
    (∀ (k : Nat) (a : Except CommandStop String × Books), answers[k]? = some a →
      ∃ (command : Command) (before : Books), commands[k]? = some command ∧
      ((start budget).2 :: answers.map Prod.snd)[k]? = some before ∧
      a.1 = outcome (alloc.after before.asked) budget command) ∧
    ((∀ a ∈ answers, ¬ aborted a.1) → answers.length = commands.length ∧
      (alloc.Steady → answers.map Prod.fst = commands.map (outcome alloc budget))) := by
  subst h
  have run := fun {k a} => executeAll_restored alloc (start budget).1 (restored_start budget) commands (k := k) (a := a)
  have fresh : ∀ (k : Nat) (a : Except CommandStop String × Books),
      (executeAll alloc (start budget).1 commands (start budget).2)[k]? = some a →
      ∃ (command : Command) (before : Books), commands[k]? = some command ∧
        ((start budget).2 :: (executeAll alloc (start budget).1 commands (start budget).2).map Prod.snd)[k]? =
          some before ∧ a.1 = outcome (alloc.after before.asked) budget command := by
    intro k a found
    obtain ⟨command, before, listed, latest, restored, rfl⟩ := run found
    exact ⟨command, before, listed, latest, execute_eq_fresh alloc _ (asked_start budget) restored command⟩
  refine ⟨fun a member => ?_, fresh, fun none => ?_⟩
  · obtain ⟨k, found⟩ := List.getElem?_of_mem member
    obtain ⟨command, before, _, _, restored, rfl⟩ := run found
    rw [(restored_execute alloc _ restored command).ledgers_eq, standing_start]
  · have length := length_executeAll alloc _ commands _ none
    refine ⟨length, fun steady => List.ext_getElem (by simpa using length) fun k inside _ => ?_⟩
    rw [List.length_map] at inside
    obtain ⟨command, before, listed, _, same⟩ := fresh k _ (List.getElem?_eq_getElem inside)
    rw [List.getElem_map, List.getElem_map, same, steady.after_eq, (List.getElem?_eq_some_iff.mp listed).2]

/-- Two commands that fit into 24 bytes, around one that does not. -/
def tight : List Command := [.format "a" ["b"], .push 1, .format "a" ["b"]]

/-- The vector is refused, which leaves the room that the last command needs. -/
theorem tight_leaves_no_trace :
    (∀ a ∈ executeAll (.machine 40) (.budget 0) tight (.ofLimits [24]), a.2.ledgers.map Ledger.standing = [(24, 0)]) ∧
      (executeAll (.machine 40) (.budget 0) tight (.ofLimits [24])).map Prod.fst =
        tight.map (outcome (.machine 40) (some 24)) ∧
      outcome (.machine 40) (some 24) (.format "a" ["b"]) = .ok "ab" := by
  obtain ⟨settled, _, answered⟩ := commands_leave_no_trace (.machine 40) (some 24) tight _ rfl
  obtain ⟨_, same⟩ := answered (by decide +kernel)
  exact ⟨settled, same fun _ _ _ => rfl, by decide +kernel⟩

end Program

end Quota
