import Mathlib.Data.List.Nodup
import Mathlib.Data.List.Perm.Subperm
import Mathlib.Data.List.Range
import Quota.Fault.Report

set_option autoImplicit false

/-!
# Ordinals and status bytes

The ordinal of a raised fault is the declared position of its entry, counted from one and kept in a byte. A set with at
most 255 entries can be told apart by its ordinals, and none of them is the status of success. With one entry more the
count runs over. An ordinal leads to a declared name, which is the kind's own if the declaration calls the kind by it.
-/
namespace Quota

namespace FaultSet

variable (set : FaultSet)

/-- What callers of status bytes rely on. -/
structure KeepsProtocol : Prop where
  range : ∀ r : Raised set, 1 ≤ r.ordinal.toNat ∧ r.ordinal.toNat ≤ set.count
  place : ∀ r : Raised set, set.entries[r.ordinal.toNat - 1]? = some r.entry
  name : ∀ r : Raised set, set.names[r.ordinal.toNat - 1]? = some r.fault.kind.name
  same : ∀ r r' : Raised set, r.ordinal = r'.ordinal ↔ r.entry = r'.entry
  succeeded : ∀ (α : Type) (result : Except (Raised set) α), status result = success ↔ ∃ a, result = .ok a

variable {set}

theorem findIdx?_label {i : Nat} {e : Entry} (h : set.entries[i]? = some e) :
    (set.entries.findIdx? fun other => other.label == e.label) = some i := by
  obtain ⟨inside, rfl⟩ := List.getElem?_eq_some_iff.mp h
  apply List.findIdx?_eq_some_iff_getElem.mpr
  refine ⟨inside, beq_self_eq_true _, ?_⟩
  intro j before equal
  have inLabels : j < (set.entries.map Entry.label).length := by
    rw [List.length_map]
    omega
  have positions : j = i := by
    apply (List.getElem?_inj inLabels set.labels_nodup).mp
    simpa [inside, Nat.lt_trans before inside] using equal
  omega

/-- A position counted from one, modulo 256. -/
theorem position_eq {i : Nat} {e : Entry} (h : set.entries[i]? = some e) :
    set.position e.label = UInt8.ofNat (i + 1) := by
  rw [position, findIdx?_label h]

theorem toNat_position {i : Nat} {e : Entry} (h : set.entries[i]? = some e) (small : set.count ≤ 255) :
    (set.position e.label).toNat = i + 1 := by
  obtain ⟨inside, _⟩ := List.getElem?_eq_some_iff.mp h
  rw [position_eq h, UInt8.toNat_ofNat']
  rw [count] at small
  omega

end FaultSet

namespace Raised

variable {set : FaultSet}

theorem exists_place (r : Raised set) : ∃ i, i < set.count ∧ set.entries[i]? = some r.entry := by
  obtain ⟨i, inside, found⟩ := List.mem_iff_getElem.mp r.declared
  exact ⟨i, inside, List.getElem?_eq_some_iff.mpr ⟨inside, found⟩⟩

theorem toNat_ordinal (r : Raised set) (small : set.count ≤ 255) :
    ∃ i, i < set.count ∧ set.entries[i]? = some r.entry ∧ r.ordinal.toNat = i + 1 := by
  obtain ⟨i, inside, found⟩ := r.exists_place
  exact ⟨i, inside, found, FaultSet.toNat_position found small⟩

end Raised

namespace FaultSet

variable {set : FaultSet}

theorem keepsProtocol_of_count_le (small : set.count ≤ 255) (named : ∀ e ∈ set.entries, e.token = e.kind.name) :
    set.KeepsProtocol := by
  have range : ∀ r : Raised set, 1 ≤ r.ordinal.toNat ∧ r.ordinal.toNat ≤ set.count := by
    intro r
    obtain ⟨i, inside, _, ordinal⟩ := r.toNat_ordinal small
    omega
  have place : ∀ r : Raised set, set.entries[r.ordinal.toNat - 1]? = some r.entry := by
    intro r
    obtain ⟨i, _, found, ordinal⟩ := r.toNat_ordinal small
    rw [ordinal, Nat.add_sub_cancel, found]
  refine ⟨range, place, ?_, ?_, ?_⟩
  · intro r
    rw [names, List.getElem?_map, place r, Option.map_some, named r.entry r.declared]
    rfl
  · intro r r'
    constructor
    · intro equal
      have found := place r
      rw [equal, place r'] at found
      exact (Option.some.inj found).symm
    · intro equal
      rw [Raised.ordinal, Raised.ordinal, equal]
  · intro α result
    cases result with
    | ok a => simp [status]
    | error r =>
      have positive := (range r).1
      constructor
      · intro zero
        change r.ordinal = 0 at zero
        rw [zero] at positive
        exact absurd positive (by decide)
      · rintro ⟨a, impossible⟩
        cases impossible

theorem exists_ordinal_eq_zero (big : 255 < set.count) : ∃ r : Raised set, r.ordinal = 0 := by
  obtain ⟨e, found⟩ : ∃ e, set.entries[255]? = some e := ⟨_, List.getElem?_eq_getElem big⟩
  refine ⟨⟨e, List.mem_of_getElem? found, ""⟩, ?_⟩
  rw [Raised.ordinal, position_eq found]
  rfl

theorem count_le_of_keepsProtocol (h : set.KeepsProtocol) : set.count ≤ 255 := by
  by_contra big
  obtain ⟨r, zero⟩ := exists_ordinal_eq_zero (Nat.lt_of_not_le big)
  have positive := (h.range r).1
  rw [zero] at positive
  exact absurd positive (by decide)

theorem token_eq_of_keepsProtocol (h : set.KeepsProtocol) {e : Entry} (member : e ∈ set.entries) :
    e.token = e.kind.name := by
  -- any fault of the entry will do: its ordinal leads to the entry and from there to the token
  have place := h.place ⟨e, member, ""⟩
  have name := h.name ⟨e, member, ""⟩
  rw [names, List.getElem?_map, place, Option.map_some] at name
  exact Option.some.inj name

/-- A fault of a declared kind can be raised, and is the same fault afterwards. -/
theorem exists_raise? {f : Fault} (declared : f.kind ∈ set.entries.map Entry.kind) :
    ∃ r, set.raise? f = some r ∧ r.fault = f := by
  obtain ⟨e, member, kind⟩ := List.mem_map.mp declared
  unfold raise?
  split
  · rename_i found
    have same := List.find?_some found
    refine ⟨_, rfl, ?_⟩
    simp only [Raised.fault, eq_of_beq same]
  · rename_i missing
    have other := List.find?_eq_none.mp missing e member
    exact absurd (beq_iff_eq.mpr kind) other

/-- Since its kinds are distinct, a set has at most as many entries as there are kinds to choose from. -/
theorem count_le_of_subset {kinds : List Kind} (known : ∀ e ∈ set.entries, e.kind ∈ kinds) :
    set.count ≤ kinds.length := by
  have subset : set.entries.map Entry.kind ⊆ kinds := by
    intro kind member
    obtain ⟨e, declared, rfl⟩ := List.mem_map.mp member
    exact known e declared
  have length := (List.Nodup.subperm set.kinds_nodup subset).length_le
  rwa [List.length_map] at length

/-- The sets of up to 255 entries that call every kind by its own name, and only these, keep the protocol of status
bytes: ordinals are the declared positions from one up, they lead back to the names of the kinds, they differ where the
entries do, and zero is left to success. All sets that call kinds of the library by their names are among them. A fault
of a declared kind widens to the same report whether or not it was raised under the set. -/
theorem keepsProtocol_iff (set : FaultSet) :
    (set.KeepsProtocol ↔ set.count ≤ 255 ∧ ∀ e ∈ set.entries, e.token = e.kind.name) ∧
      ((∀ e ∈ set.entries, e.kind ∈ Kind.all ∧ e.token = e.kind.name) → set.KeepsProtocol) ∧
      ∀ f : Fault, f.kind ∈ set.entries.map Entry.kind →
        ∃ r, set.raise? f = some r ∧ Report.ofFault r.fault = Report.ofFault f := by
  refine ⟨⟨?_, ?_⟩, ?_, ?_⟩
  · intro kept
    exact ⟨count_le_of_keepsProtocol kept, fun e member => token_eq_of_keepsProtocol kept member⟩
  · rintro ⟨small, named⟩
    exact keepsProtocol_of_count_le small named
  · intro known
    have few : set.count ≤ 5 := count_le_of_subset fun e member => (known e member).1
    exact keepsProtocol_of_count_le (by omega) fun e member => (known e member).2
  · intro f declared
    obtain ⟨r, raised, same⟩ := exists_raise? declared
    exact ⟨r, raised, congrArg Report.ofFault same⟩

theorem formatting_keepsProtocol :
    (∀ e ∈ formatting.entries, e.kind ∈ Kind.all ∧ e.token = e.kind.name) ∧ formatting.KeepsProtocol :=
  ⟨by decide, (keepsProtocol_iff formatting).2.1 (by decide)⟩

/-- A name of so many letters. -/
def longName (n : Nat) : String := String.ofList (List.replicate n 'K')

theorem longName_injective : Function.Injective longName := by
  intro n m equal
  have lists := congrArg (fun s => s.toList.length) equal
  simpa [longName] using lists

/-- A set of 256 kinds, whose names are told apart by their lengths. -/
def crowded : FaultSet where
  entries := (List.range 256).map fun n =>
    ⟨longName (n + 1), longName (n + 1), ⟨longName (n + 1), .unknown, Code.unknown⟩⟩
  nonempty := by decide
  labels_nodup := by
    rw [List.map_map]
    apply List.Nodup.map _ List.nodup_range
    intro n m equal
    exact Nat.succ.inj (longName_injective equal)
  tokens_nodup := by
    rw [List.map_map]
    apply List.Nodup.map _ List.nodup_range
    intro n m equal
    exact Nat.succ.inj (longName_injective equal)
  kinds_nodup := by
    rw [List.map_map]
    apply List.Nodup.map _ List.nodup_range
    intro n m equal
    exact Nat.succ.inj (longName_injective (congrArg Kind.name equal))

/-- A set of one kind, which it calls by another name. -/
def renamed : FaultSet where
  entries := [⟨"Mem", "MemError", .alloc⟩]
  nonempty := by simp
  labels_nodup := by simp
  tokens_nodup := by simp
  kinds_nodup := by simp

/-- The last of 256 kinds has the status of success, though all are called by their names. And under one entry with
another name the ordinal leads to that name. -/
theorem crowded_reports_success :
    (¬ crowded.KeepsProtocol ∧ (∀ e ∈ crowded.entries, e.token = e.kind.name) ∧
      ∃ r : Raised crowded, status (.error r : Except (Raised crowded) Unit) = success) ∧
    ¬ renamed.KeepsProtocol ∧ renamed.names = ["MemError"] ∧ ∀ r : Raised renamed, r.fault.kind.name = "AllocError" := by
  have count : crowded.count = 256 := by
    rw [FaultSet.count, crowded, List.length_map, List.length_range]
  refine ⟨⟨fun kept => ?_, ?_, exists_ordinal_eq_zero (by omega)⟩, fun kept => ?_, rfl, ?_⟩
  · have small := count_le_of_keepsProtocol kept
    omega
  · intro e member
    obtain ⟨n, _, rfl⟩ := List.mem_map.mp member
    rfl
  · have token := token_eq_of_keepsProtocol kept (e := ⟨"Mem", "MemError", .alloc⟩) (by decide)
    exact absurd token (by decide)
  · intro r
    have only := List.mem_singleton.mp r.declared
    rw [Raised.fault, only]
    rfl

end FaultSet

end Quota
