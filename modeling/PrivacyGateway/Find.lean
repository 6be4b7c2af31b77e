import Mathlib.Data.List.Basic

/-!
Finding a word in a text. A search that goes on one position behind each hit finds
every occurrence, those that overlap included (`mem_spansOf`).
-/
namespace PrivacyGateway.Find

variable {α : Type*} [DecidableEq α]

/-- `text.find(value, start)`, or `none` for -1. -/
def find (value text : List α) (start : Nat) : Option Nat :=
  (List.range' start (text.length + 1 - start)).find? fun i => value <+: text.drop i

/-- The value stands in the text behind `i` characters. -/
def OccursAt (value text : List α) (i : Nat) : Prop := ∃ before after, text = before ++ (value ++ after) ∧ before.length = i

variable {value text : List α} {start i : Nat}

omit [DecidableEq α] in
theorem occursAt_iff : OccursAt value text i ↔ i ≤ text.length ∧ value <+: text.drop i := by
  constructor
  · rintro ⟨before,after,rfl,rfl⟩
    rw [List.drop_left]
    exact ⟨by simp,List.prefix_append value after⟩
  · rintro ⟨inside,after,stands⟩
    exact ⟨text.take i,after,by rw [stands,List.take_append_drop],List.length_take_of_le inside⟩

instance : Decidable (OccursAt value text i) := decidable_of_iff _ occursAt_iff.symm

/-- The first occurrence from `start` on. -/
theorem find_eq_some :
    find value text start = some i ↔ start ≤ i ∧ OccursAt value text i ∧ ∀ j, start ≤ j → j < i → ¬ OccursAt value text j := by
  rw [find,List.find?_range'_eq_some,List.mem_range'_1,occursAt_iff,decide_eq_true_iff]
  constructor
  · rintro ⟨stands,⟨low,high⟩,earlier⟩
    refine ⟨low,⟨by omega,stands⟩,fun j from_start before => ?_⟩
    have := earlier j from_start before
    simp only [Bool.not_eq_true',decide_eq_false_iff_not] at this
    exact fun occurs => this (occursAt_iff.mp occurs).2
  · rintro ⟨low,⟨inside,stands⟩,earlier⟩
    refine ⟨stands,⟨low,by omega⟩,fun j from_start before => ?_⟩
    simp only [Bool.not_eq_true',decide_eq_false_iff_not]
    exact fun here => earlier j from_start before (occursAt_iff.mpr ⟨by omega,here⟩)

theorem find_eq_none : find value text start = none ↔ ∀ i, start ≤ i → ¬ OccursAt value text i := by
  rw [find,List.find?_range'_eq_none]
  refine forall_congr' fun i => ?_
  rw [occursAt_iff]
  simp only [Bool.not_eq_true',decide_eq_false_iff_not]
  constructor
  · intro absent low occurs
    exact absent low (by omega) occurs.2
  · intro absent low high stands
    exact absent low ⟨by omega,stands⟩

/-- The loop that searches behind each hit, from `start` on; each span with its end. -/
def spansFrom (value text : List α) (start : Nat) : List (Nat × Nat) :=
  match found : find value text start with
  | none => []
  | some i => (i,i + value.length) :: spansFrom value text (i + 1)
termination_by text.length + 1 - start
decreasing_by
  obtain ⟨low,occurs,_⟩ := find_eq_some.mp found
  have := (occursAt_iff.mp occurs).1
  omega

def spansOf (value text : List α) : List (Nat × Nat) := spansFrom value text 0

theorem mem_spansFrom {span : Nat × Nat} :
    span ∈ spansFrom value text start ↔ ∃ i, start ≤ i ∧ OccursAt value text i ∧ span = (i,i + value.length) := by
  fun_induction spansFrom value text start with
  | case1 start absent =>
    refine iff_of_false List.not_mem_nil ?_
    rintro ⟨i,low,occurs,_⟩
    exact find_eq_none.mp absent i low occurs
  | case2 start i found ih =>
    obtain ⟨low,occurs,first⟩ := find_eq_some.mp found
    rw [List.mem_cons,ih]
    constructor
    · rintro (rfl | ⟨j,later,here,rfl⟩)
      · exact ⟨i,low,occurs,rfl⟩
      · exact ⟨j,by omega,here,rfl⟩
    · rintro ⟨j,from_start,here,rfl⟩
      -- Nothing stands between `start` and the hit.
      rcases Nat.lt_trichotomy j i with before | same | after
      · exact absurd here (first j from_start before)
      · subst same
        exact .inl rfl
      · exact .inr ⟨j,after,here,rfl⟩

/-- The search finds all occurrences. -/
theorem mem_spansOf {span : Nat × Nat} :
    span ∈ spansOf value text ↔ ∃ i, OccursAt value text i ∧ span = (i,i + value.length) := by
  rw [spansOf,mem_spansFrom]
  simp

end PrivacyGateway.Find
