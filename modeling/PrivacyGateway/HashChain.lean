import Mathlib.Data.List.Nodup
import Mathlib.Tactic

/-!
Chains of records in which each one states its position, the digest of the record
before it and its own digest. Positions count up from the first one, so a chain
whose records all come from another chain of the same beginning, with the position
fixed by the digest, is a prefix of it (`prefix_of_known`), and with distinct digests
no two records state the same predecessor (`prevs_nodup`).
-/
namespace PrivacyGateway.HashChain

/-- What a record states about its place in the chain. -/
structure Seal (D : Type*) where
  position : Int
  prev : D
  digest : D

variable {D : Type*} {seals written : List (Seal D)} {n : Int} {last : D}

/-- The seals continue a chain whose last digest is `last`, from position `n` on. -/
def Chained : Int → D → List (Seal D) → Prop
  | _, _, [] => True
  | n, last, s :: rest => s.position = n ∧ s.prev = last ∧ Chained (n + 1) s.digest rest

/-- The digest a chain ends with. -/
def lastDigest (last : D) (seals : List (Seal D)) : D := (seals.getLast?.map Seal.digest).getD last

@[simp] theorem lastDigest_cons (s : Seal D) : lastDigest last (s :: seals) = lastDigest s.digest seals := by
  cases seals with
  | nil => rfl
  | cons t rest => simp [lastDigest,List.getLast?_cons]

theorem chained_append {more : List (Seal D)} :
    Chained n last (seals ++ more) ↔
      Chained n last seals ∧ Chained (n + seals.length) (lastDigest last seals) more := by
  induction seals generalizing n last with
  | nil => simp [Chained,lastDigest]
  | cons s rest ih =>
    simp only [List.cons_append,Chained,ih,lastDigest_cons,List.length_cons,Nat.cast_add,Nat.cast_one]
    rw [show n + 1 + (rest.length : Int) = n + (rest.length + 1) by omega]
    tauto

theorem Chained.take (chained : Chained n last seals) (count : Nat) : Chained n last (seals.take count) := by
  rw [← List.take_append_drop count seals,chained_append] at chained
  exact chained.1

theorem Chained.positions (chained : Chained n last seals) :
    seals.map Seal.position = (List.range seals.length).map (fun k : Nat => n + (k : Int)) := by
  induction seals generalizing n last with
  | nil => rfl
  | cons s rest ih =>
    rw [List.map_cons,ih chained.2.2,List.length_cons,List.range_succ_eq_map,List.map_cons,List.map_map,chained.1]
    refine congrArg₂ _ (by simp) (List.map_congr_left fun k _ => ?_)
    simp only [Function.comp_apply,Nat.succ_eq_add_one,Nat.cast_add,Nat.cast_one]
    omega

theorem Chained.position_ge (chained : Chained n last seals) {s : Seal D} (member : s ∈ seals) : n ≤ s.position := by
  have listed := List.mem_map_of_mem (f := Seal.position) member
  rw [chained.positions] at listed
  obtain ⟨k,_,same⟩ := List.mem_map.mp listed
  omega

/-- The predecessors are the genesis value and every digest but the last. -/
theorem Chained.prevs (chained : Chained n last seals) :
    seals.map Seal.prev = (last :: seals.map Seal.digest).take seals.length := by
  induction seals generalizing n last with
  | nil => rfl
  | cons s rest ih =>
    rw [List.map_cons,ih chained.2.2,chained.2.1,List.length_cons,List.take_succ_cons,List.map_cons]

/-- No two records of a chain with distinct digests follow the same record. -/
theorem Chained.prevs_nodup (chained : Chained n last seals) (distinct : (seals.map Seal.digest).Nodup)
    (fresh : last ∉ seals.map Seal.digest) : (seals.map Seal.prev).Nodup := by
  rw [chained.prevs]
  exact (List.nodup_cons.mpr ⟨fresh,distinct⟩).sublist (List.take_sublist _ _)

/-- A chain of known records, whose digests fix their positions, is a prefix of the
    chain that holds them all. -/
theorem prefix_of_known (chainedWritten : Chained n last written) (chained : Chained n last seals)
    (known : ∀ s ∈ seals, ∃ w ∈ written, w.digest = s.digest ∧ w.position = s.position) :
    seals.length ≤ written.length ∧ seals = written.take seals.length := by
  induction seals generalizing n last written with
  | nil => exact ⟨Nat.zero_le _,rfl⟩
  | cons s rest ih =>
    obtain ⟨position,prev,chainedRest⟩ := chained
    obtain ⟨w,member,digest,samePosition⟩ := known s List.mem_cons_self
    cases written with
    | nil => cases member
    | cons first others =>
      obtain ⟨positionFirst,prevFirst,chainedOthers⟩ := chainedWritten
      -- The record at the first position is the first one.
      have isFirst : w = first := by
        rcases List.mem_cons.mp member with same | later
        · exact same
        · have := chainedOthers.position_ge later
          omega
      subst isFirst
      have same : s = w := by
        cases s
        cases w
        simp_all
      subst same
      have knownRest : ∀ t ∈ rest, ∃ w ∈ others, w.digest = t.digest ∧ w.position = t.position := by
        intro t inRest
        obtain ⟨w,inWritten,digest,samePosition⟩ := known t (List.mem_cons_of_mem _ inRest)
        rcases List.mem_cons.mp inWritten with rfl | later
        · have := chainedRest.position_ge inRest
          omega
        · exact ⟨w,later,digest,samePosition⟩
      obtain ⟨size,rest⟩ := ih chainedOthers chainedRest knownRest
      exact ⟨Nat.succ_le_succ size,by rw [List.length_cons,List.take_succ_cons,← rest]⟩

end PrivacyGateway.HashChain
