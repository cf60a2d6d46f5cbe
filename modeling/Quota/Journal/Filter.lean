import Quota.Journal.Directive

set_option autoImplicit false

/-!
# Filters of the journal

A filter is a list of directives. Of those that concern an event the most specific decides, of equally specific ones the
last; an event that none concerns is not shown.
-/
namespace Quota

structure Filter where
  directives : List Directive
deriving DecidableEq, Repr

namespace Filter

/-- Directives between commas. A filter without any shows nothing. -/
def parse (s : String) : Except DirectiveFault Filter :=
  match ((s.splitOn ",").filter fun p => !p.isEmpty).mapM Directive.parse with
  | .ok directives => .ok ⟨directives⟩
  | .error f => .error f

def warnings : Filter := ⟨[⟨"", none, false, 2⟩]⟩

/-- The directive that decides about events of a shape. -/
def deciding? (f : Filter) (s : Shape) : Option Directive :=
  (f.directives.filter (·.concerns s)).foldl
    (fun best d =>
      match best with
      | none => some d
      | some b => if b.yields d then some d else some b)
    none

def shows (f : Filter) (s : Shape) : Bool :=
  match f.deciding? s with
  | none => false
  | some d => decide (s.level.depth ≤ d.depth)

/-- The events that are shown. The directives are asked once for every shape; `known` holds what they said so far. -/
def selectFrom (f : Filter) (known : List (Shape × Bool)) : List Event → List Event
  | [] => []
  | e :: rest =>
    match known.lookup e.shape with
    | some true => e :: selectFrom f known rest
    | some false => selectFrom f known rest
    | none =>
      let shown := f.shows e.shape
      if shown then e :: selectFrom f ((e.shape, shown) :: known) rest
      else selectFrom f ((e.shape, shown) :: known) rest

def select (f : Filter) (events : List Event) : List Event := f.selectFrom [] events

theorem selectFrom_eq_filter (f : Filter) (known : List (Shape × Bool)) (events : List Event)
    (true_to_f : ∀ s b, known.lookup s = some b → b = f.shows s) :
    f.selectFrom known events = events.filter fun e => f.shows e.shape := by
  induction events generalizing known with
  | nil => rfl
  | cons e rest ih =>
    rw [selectFrom, List.filter_cons]
    split
    · rename_i found
      rw [← true_to_f _ _ found, ih known true_to_f]
      rfl
    · rename_i found
      rw [← true_to_f _ _ found, ih known true_to_f]
      rfl
    · have extended : ∀ s b, ((e.shape, f.shows e.shape) :: known).lookup s = some b → b = f.shows s := by
        intro s b found
        rw [List.lookup_cons] at found
        split at found
        · rename_i same
          rw [eq_of_beq same]
          exact (Option.some.inj found).symm
        · exact true_to_f s b found
      simp only [ih _ extended]

/-- Asking once for every shape selects what asking for every event does. -/
theorem select_eq_filter (f : Filter) (events : List Event) :
    f.select events = events.filter fun e => f.shows e.shape :=
  selectFrom_eq_filter f [] events (by simp)

end Filter

end Quota
