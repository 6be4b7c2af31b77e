import Mathlib.Algebra.BigOperators.Group.List.Lemmas
import PrivacyGateway.Handler

/-!
What the policy decisions of a request say about its detections: nothing is lost and
nothing counted twice, the bounds enclose every score, and the order and the grouping of
the detections do not matter (`decisions_summarize`).
-/
namespace PrivacyGateway.Summaries
open PrivacyGateway.Strings PrivacyGateway.Errors PrivacyGateway.Decisions PrivacyGateway.Mediator PrivacyGateway.Handler

/-- The policy lists the type. -/
def Listed (policy : Policy) (entityType : PyStr) : Prop := (policy.lookup entityType).isSome = true

instance (policy : Policy) (entityType : PyStr) : Decidable (Listed policy entityType) :=
  inferInstanceAs (Decidable (_ = true))

/-- The type is among the detections. -/
def Occurs (detections : List (PyStr × Rat)) (entityType : PyStr) : Prop := ∃ score, (entityType,score) ∈ detections

/-- One decision about the detections of its type: the policy's action, their number and
    bounds of their rounded scores, both of them attained. -/
structure Reports (detections : List (PyStr × Rat)) (policy : Policy) (d : PolicyDecision) : Prop where
  action : policy.lookup d.entityType = some d.action
  blocked : d.requestBlocked = true ↔ d.action = .block
  reason : d.reasonCode = lit "policy_" ++ d.action.value
  count : d.count = detections.countP (·.1 = d.entityType)
  ordered : d.scoreMin ≤ d.scoreMax
  bounds : ∀ score, (d.entityType,score) ∈ detections → d.scoreMin ≤ round3 score ∧ round3 score ≤ d.scoreMax
  least : ∃ score, (d.entityType,score) ∈ detections ∧ d.scoreMin = round3 score
  greatest : ∃ score, (d.entityType,score) ∈ detections ∧ d.scoreMax = round3 score

/-- The decisions, in order of their types, account for the detections that the policy lists. -/
structure Summarizes (detections : List (PyStr × Rat)) (policy : Policy) (decisions : List PolicyDecision) : Prop where
  sorted : (decisions.map PolicyDecision.entityType).Pairwise (· < ·)
  types : ∀ entityType, entityType ∈ decisions.map PolicyDecision.entityType ↔
    Listed policy entityType ∧ Occurs detections entityType
  reports : ∀ d ∈ decisions, Reports detections policy d
  total : (decisions.map PolicyDecision.count).sum = detections.countP fun d => Listed policy d.1

/-- The types, in order and each once, that occur and that the policy blocks. -/
structure BlockedTypes (detections : List (PyStr × Rat)) (policy : Policy) (types : List PyStr) : Prop where
  sorted : types.Pairwise (· < ·)
  distinct : types.Nodup
  mem : ∀ entityType, entityType ∈ types ↔ policy.lookup entityType = some .block ∧ Occurs detections entityType

section
variable {detections : List (PyStr × Rat)} {policy : Policy}

theorem mem_scoresOf {entityType : PyStr} {score : Rat} :
    score ∈ scoresOf entityType detections ↔ (entityType,score) ∈ detections := by
  simp [scoresOf]

theorem occurs_iff {entityType : PyStr} : Occurs detections entityType ↔ scoresOf entityType detections ≠ [] := by
  constructor
  · rintro ⟨score,member⟩
    exact List.ne_nil_of_mem (mem_scoresOf.mpr member)
  · intro scored
    obtain ⟨score,member⟩ := List.exists_mem_of_ne_nil _ scored
    exact ⟨score,mem_scoresOf.mp member⟩

theorem length_scoresOf (entityType : PyStr) :
    (scoresOf entityType detections).length = detections.countP (·.1 = entityType) := by
  rw [scoresOf,List.length_map,List.countP_eq_length_filter]

/-- A decision is made for each group, from the policy's action and the scores of the group. -/
theorem mem_buildDecisions {d : PolicyDecision} :
    d ∈ buildDecisions detections policy ↔ ∃ entityType action, policy.lookup entityType = some action ∧
      Occurs detections entityType ∧ d = decision entityType action (scoresOf entityType detections) := by
  simp only [buildDecisions,List.mem_filterMap,List.mem_insertionSort,mem_keys_grouped,lookup_grouped,← occurs_iff]
  refine exists_congr fun entityType => ?_
  constructor
  · rintro ⟨⟨listed,occurs⟩,made⟩
    rw [if_pos ⟨listed,occurs_iff.mp occurs⟩,Option.bind_some,Option.map_eq_some_iff] at made
    obtain ⟨action,chosen,rfl⟩ := made
    exact ⟨action,chosen,occurs,rfl⟩
  · rintro ⟨action,chosen,occurs,rfl⟩
    have listed : (policy.lookup entityType).isSome = true := by rw [chosen]; rfl
    rw [if_pos ⟨listed,occurs_iff.mp occurs⟩,Option.bind_some,chosen]
    exact ⟨⟨rfl,occurs⟩,rfl⟩

/-- The decisions are made in the order of the sorted groups. -/
theorem buildDecisions_types :
    (buildDecisions detections policy).map PolicyDecision.entityType =
      (grouped detections policy).keys.insertionSort (· ≤ ·) := by
  rw [buildDecisions,List.map_filterMap]
  refine (List.filterMap_congr fun entityType member => ?_).trans (List.filterMap_some ..)
  obtain ⟨listed,occurs⟩ := (mem_keys_grouped ..).mp (List.mem_insertionSort .. |>.mp member)
  obtain ⟨action,chosen⟩ := Option.isSome_iff_exists.mp listed
  rw [lookup_grouped,if_pos ⟨listed,occurs⟩,Option.bind_some,chosen]
  rfl

theorem types_sorted : ((buildDecisions detections policy).map PolicyDecision.entityType).Pairwise (· < ·) := by
  rw [buildDecisions_types]
  have distinct : ((grouped detections policy).keys.insertionSort (· ≤ ·)).Nodup :=
    (List.perm_insertionSort _ _).nodup_iff.mpr (AList.keys_nodup _)
  exact ((List.pairwise_insertionSort (· ≤ ·) _).and distinct).imp fun both => lt_of_le_of_ne both.1 both.2

theorem mem_types {entityType : PyStr} :
    entityType ∈ (buildDecisions detections policy).map PolicyDecision.entityType ↔
      Listed policy entityType ∧ Occurs detections entityType := by
  rw [buildDecisions_types,List.mem_insertionSort,mem_keys_grouped,occurs_iff,Listed]

theorem decision_reports {entityType : PyStr} {action : PolicyAction} (chosen : policy.lookup entityType = some action)
    (occurs : Occurs detections entityType) :
    Reports detections policy (decision entityType action (scoresOf entityType detections)) := by
  have scored := occurs_iff.mp occurs
  obtain ⟨low,least⟩ := Option.isSome_iff_exists.mp (List.isSome_min?_of_ne_nil scored)
  obtain ⟨high,greatest⟩ := Option.isSome_iff_exists.mp (List.isSome_max?_of_ne_nil scored)
  obtain ⟨lowMember,below⟩ := List.min?_eq_some_iff.mp least
  obtain ⟨highMember,above⟩ := List.max?_eq_some_iff.mp greatest
  have scoreMin : (decision entityType action (scoresOf entityType detections)).scoreMin = round3 low := by
    simp only [decision,least,Option.getD_some]
  have scoreMax : (decision entityType action (scoresOf entityType detections)).scoreMax = round3 high := by
    simp only [decision,greatest,Option.getD_some]
  refine ⟨chosen,decide_eq_true_iff,rfl,length_scoresOf entityType,?_,fun score member => ?_,?_,?_⟩
  · rw [scoreMin,scoreMax]
    exact round3_mono (below high highMember)
  · have scoreIn := mem_scoresOf.mpr member
    rw [scoreMin,scoreMax]
    exact ⟨round3_mono (below score scoreIn),round3_mono (above score scoreIn)⟩
  · exact ⟨low,mem_scoresOf.mp lowMember,scoreMin⟩
  · exact ⟨high,mem_scoresOf.mp highMember,scoreMax⟩

/-- Each listed detection is counted by the one decision on its type. -/
theorem count_total :
    ((buildDecisions detections policy).map PolicyDecision.count).sum = detections.countP fun d => Listed policy d.1 := by
  let all := detections.map Prod.fst
  have counted : (buildDecisions detections policy).map PolicyDecision.count =
      ((buildDecisions detections policy).map PolicyDecision.entityType).map fun t => all.countP (· = t) := by
    rw [List.map_map]
    refine List.map_congr_left fun d member => ?_
    obtain ⟨entityType,action,_,_,rfl⟩ := mem_buildDecisions.mp member
    show (scoresOf entityType detections).length = all.countP (· = entityType)
    rw [length_scoresOf,List.countP_map]
    rfl
  have types : ((buildDecisions detections policy).map PolicyDecision.entityType).Perm
      (all.dedup.filter fun entityType => Listed policy entityType) := by
    refine (List.perm_ext_iff_of_nodup (types_sorted.imp fun below => below.ne) (all.nodup_dedup.filter _)).mpr ?_
    intro entityType
    rw [mem_types,List.mem_filter,List.mem_dedup,decide_eq_true_iff,and_comm]
    simp [all,Occurs]
  have summed : ((all.dedup.filter fun t => Listed policy t).map fun t => all.countP (· = t)).sum =
      all.countP fun t => Listed policy t := List.sum_map_count_dedup_filter_eq_countP _ all
  rw [counted,(types.map _).sum_eq,summed,List.countP_map]
  rfl

theorem buildDecisions_summarizes : Summarizes detections policy (buildDecisions detections policy) where
  sorted := types_sorted
  types := fun _ => mem_types
  reports := fun d member => by
    obtain ⟨entityType,action,chosen,occurs,rfl⟩ := mem_buildDecisions.mp member
    exact decision_reports chosen occurs
  total := count_total

theorem blocked_types : BlockedTypes detections policy (blockedEntityTypes (buildDecisions detections policy)) := by
  have sorted : (blockedEntityTypes (buildDecisions detections policy)).Pairwise (· < ·) :=
    types_sorted.sublist (List.filter_sublist.map _)
  exact ⟨sorted,sorted.imp fun below => below.ne,fun entityType => mem_blockedEntityTypes⟩

/-- Sorting and removing duplicates changes nothing in a list that is in order. -/
theorem sortedSet_of_sorted {values : List PyStr} (sorted : values.Pairwise (· < ·)) : sortedSet values = values := by
  have distinct : values.Nodup := sorted.imp fun below => below.ne
  rw [sortedSet,distinct.dedup]
  exact (sorted.imp fun below => below.le).insertionSort_eq

end

/-- `build_decisions` summarizes the detections, in whatever order and messages they come,
    and the blocked types are those that `PolicyBlockedError` reports. -/
theorem decisions_summarize (detections : List (PyStr × Rat)) (policy : Policy) :
    Summarizes detections policy (buildDecisions detections policy) ∧
    (∀ perMessage : List (List RecognizerResult), (Handler.detections perMessage).Perm detections →
      buildDecisions (Handler.detections perMessage) policy = buildDecisions detections policy) ∧
    BlockedTypes detections policy (blockedEntityTypes (buildDecisions detections policy)) ∧
    (policyBlockedError (blockedEntityTypes (buildDecisions detections policy))).blockedEntityTypes =
      some (blockedEntityTypes (buildDecisions detections policy)) := by
  refine ⟨buildDecisions_summarizes,fun perMessage same => buildDecisions_perm same policy,blocked_types,?_⟩
  show some (sortedSet _) = _
  rw [sortedSet_of_sorted blocked_types.sorted]

end PrivacyGateway.Summaries
