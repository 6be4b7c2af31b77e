import Mathlib.Data.List.Basic
import Mathlib.Data.List.Infix
import Mathlib.Tactic

/-!
Fields joined by a separator, with no escaping. The first and the last separator
split a joined list in one way only as long as the part beyond them is free of
the separator (`split_first`, `split_last`); a field that holds the separator can
be split in another place (`exists_other_split`).
-/
namespace PrivacyGateway.Separated

variable {α : Type*} {sep : α} {a b c d : List α}

/-- The fields in order, with the separator between neighbours. -/
def joined (sep : α) : List (List α) → List α
  | [] => []
  | [field] => field
  | field :: next :: rest => field ++ sep :: joined sep (next :: rest)

theorem infix_joined {field : List α} {fields : List (List α)} (member : field ∈ fields) :
    field <:+: joined sep fields := by
  induction fields with
  | nil => cases member
  | cons head tail ih =>
    cases tail with
    | nil =>
      rw [List.mem_singleton.mp member]
      exact List.infix_rfl
    | cons next rest =>
      rcases List.mem_cons.mp member with rfl | later
      · exact (List.prefix_append _ _).isInfix
      · exact (ih later).trans ((List.suffix_cons sep _).trans (List.suffix_append _ _)).isInfix

/-- The first separator ends the left part. -/
theorem split_first (freeA : sep ∉ a) (freeC : sep ∉ c) (same : a ++ sep :: b = c ++ sep :: d) :
    a = c ∧ b = d := by
  induction a generalizing c with
  | nil =>
    cases c with
    | nil => exact ⟨rfl,(List.cons.inj same).2⟩
    | cons x c' =>
      have head : sep = x := (List.cons.inj same).1
      exact absurd (head ▸ List.mem_cons_self) freeC
  | cons x a' ih =>
    cases c with
    | nil =>
      have head : x = sep := (List.cons.inj same).1
      exact absurd (head ▸ List.mem_cons_self) freeA
    | cons y c' =>
      obtain ⟨rfl,rest⟩ := List.cons.inj same
      obtain ⟨rfl,rfl⟩ := ih (fun m => freeA (List.mem_cons_of_mem _ m))
        (fun m => freeC (List.mem_cons_of_mem _ m)) rest
      exact ⟨rfl,rfl⟩

/-- The last separator begins the right part. -/
theorem split_last (freeB : sep ∉ b) (freeD : sep ∉ d) (same : a ++ sep :: b = c ++ sep :: d) :
    a = c ∧ b = d := by
  have reversed : b.reverse ++ sep :: a.reverse = d.reverse ++ sep :: c.reverse := by
    simpa using congrArg List.reverse same
  obtain ⟨right,left⟩ := split_first (by simpa using freeB) (by simpa using freeD) reversed
  exact ⟨List.reverse_injective left,List.reverse_injective right⟩

/-- A right part that holds the separator can also be cut there. -/
theorem exists_other_split (a : List α) (held : sep ∈ b) :
    ∃ c d, c ≠ a ∧ c ++ sep :: d = a ++ sep :: b := by
  obtain ⟨front,back,rfl⟩ := List.append_of_mem held
  refine ⟨a ++ sep :: front,back,?_,by simp⟩
  intro same
  have := congrArg List.length same
  simp at this

theorem count_joined [DecidableEq α] (first : List α) (fields : List (List α)) :
    (joined sep (first :: fields)).count sep = ((first :: fields).map (List.count sep)).sum + fields.length := by
  induction fields generalizing first with
  | nil => simp [joined]
  | cons next rest ih =>
    rw [joined,List.count_append,List.count_cons_self,ih]
    simp only [List.map_cons,List.sum_cons,List.length_cons]
    omega

/-- As many fields, joined to the same list, are the same fields if these hold no separator. -/
theorem joined_unique [DecidableEq α] {fields others : List (List α)} (size : fields.length = others.length)
    (free : ∀ field ∈ others, sep ∉ field) (same : joined sep fields = joined sep others) : fields = others := by
  have free' : ∀ field ∈ fields, sep ∉ field := by
    cases fields with
    | nil => simp
    | cons first fields =>
      cases others with
      | nil => cases size
      | cons second others =>
        have none : ((second :: others).map (List.count sep)).sum = 0 := by
          refine List.sum_eq_zero fun n member => ?_
          obtain ⟨field,inOthers,rfl⟩ := List.mem_map.mp member
          exact List.count_eq_zero.mpr (free field inOthers)
        have counts := congrArg (List.count sep) same
        simp only [List.length_cons,Nat.add_right_cancel_iff] at size
        rw [count_joined,count_joined,none,size,Nat.add_right_cancel_iff,List.sum_eq_zero_iff] at counts
        exact fun field member => List.count_eq_zero.mp (counts _ (List.mem_map_of_mem member))
  induction fields generalizing others with
  | nil => exact (List.length_eq_zero_iff.mp size.symm).symm
  | cons first fields ih =>
    cases others with
    | nil => cases size
    | cons second others =>
      simp only [List.length_cons,Nat.add_right_cancel_iff] at size
      cases fields with
      | nil =>
        cases others with
        | nil => exact congrArg (fun field => [field]) same
        | cons next rest => cases size
      | cons next rest =>
        cases others with
        | nil => cases size
        | cons next' rest' =>
          obtain ⟨heads,tails⟩ := split_first (free' first List.mem_cons_self) (free second List.mem_cons_self) same
          rw [heads,ih size (fun f member => free f (List.mem_cons_of_mem _ member)) tails
            (fun f member => free' f (List.mem_cons_of_mem _ member))]

end PrivacyGateway.Separated
