import Mathlib.Data.List.AList
import Mathlib.Data.List.Sort
import Mathlib.Data.Rat.Floor
import PrivacyGateway.JsonText

/-!
The privacy policy and the summary of a request's detections, one decision per
entity type. The summary groups the detections in a dictionary and sorts its keys,
so it depends on the detections only as a multiset (`buildDecisions_perm`).
-/
namespace PrivacyGateway.Decisions
open PrivacyGateway.Strings PrivacyGateway.StdLib PrivacyGateway.JsonText

inductive PolicyAction where
  | allow | tokenize | redact | block
  deriving DecidableEq, Repr

def PolicyAction.value : PolicyAction → PyStr
  | .allow => lit "allow"
  | .tokenize => lit "tokenize"
  | .redact => lit "redact"
  | .block => lit "block"

/-- `dict[str, PolicyAction]` -/
abbrev Policy := AList fun _ : PyStr => PolicyAction

/-- `DEFAULT_POLICY` -/
def defaultPolicy : Policy := List.toAList [
  ⟨lit "PERSON",.tokenize⟩,
  ⟨lit "EMAIL_ADDRESS",.tokenize⟩,
  ⟨lit "PHONE_NUMBER",.tokenize⟩,
  ⟨lit "LOCATION",.tokenize⟩,
  ⟨lit "IP_ADDRESS",.tokenize⟩,
  ⟨lit "UK_NINO",.redact⟩,
  ⟨lit "IBAN_CODE",.redact⟩,
  ⟨lit "CREDIT_CARD",.block⟩,
  ⟨lit "US_SSN",.block⟩,
  ⟨lit "DATE_TIME",.allow⟩]

/-- One decision per detected entity type; scores are exact. -/
structure PolicyDecision where
  entityType : PyStr
  action : PolicyAction
  count : Nat
  scoreMin : Rat
  scoreMax : Rat
  requestBlocked : Bool
  reasonCode : PyStr
  deriving DecidableEq

/-- `d.model_dump()` -/
def PolicyDecision.modelDump (d : PolicyDecision) : Json := .obj [
  field "entity_type" (.str d.entityType),
  field "action" (.str d.action.value),
  field "count" (.int d.count),
  field "score_min" (.float (.finite d.scoreMin)),
  field "score_max" (.float (.finite d.scoreMax)),
  field "request_blocked" (.bool d.requestBlocked),
  field "reason_code" (.str d.reasonCode)]

/-- The nearest integer, an even one when two are equally near. -/
def roundHalfEven (x : Rat) : Int :=
  let low := ⌊x⌋
  if x - low < 1 / 2 then low
  else if x - low > 1 / 2 then low + 1
  else if low % 2 = 0 then low else low + 1

/-- `round(x, 3)` -/
def round3 (x : Rat) : Rat := roundHalfEven (x * 1000) / 1000

theorem roundHalfEven_near (x : Rat) : x - 1 / 2 ≤ roundHalfEven x ∧ roundHalfEven x ≤ x + 1 / 2 := by
  have low := Int.floor_le x
  have high := Int.lt_floor_add_one x
  unfold roundHalfEven
  dsimp only
  split_ifs <;> push_cast <;> constructor <;> linarith

/-- Two numbers that round the other way round are equally near to both, so they are one number. -/
theorem roundHalfEven_mono {x y : Rat} (le : x ≤ y) : roundHalfEven x ≤ roundHalfEven y := by
  by_contra above
  have next : roundHalfEven y + 1 ≤ roundHalfEven x := by omega
  have apart : (roundHalfEven y : Rat) + 1 ≤ roundHalfEven x := by exact_mod_cast next
  have first := (roundHalfEven_near x).2
  have second := (roundHalfEven_near y).1
  have same : x = y := by linarith
  exact above (by rw [same])

theorem round3_mono {x y : Rat} (le : x ≤ y) : round3 x ≤ round3 y := by
  have scaled : x * 1000 ≤ y * 1000 := by linarith
  have rounded : (roundHalfEven (x * 1000) : Rat) ≤ roundHalfEven (y * 1000) := by exact_mod_cast roundHalfEven_mono scaled
  unfold round3
  linarith

abbrev Groups := AList fun _ : PyStr => List Rat

/-- One turn of the grouping loop: `grouped.setdefault(entity_type, []).append(score)`
    for a type of the policy. -/
def addScore (policy : Policy) (groups : Groups) (detection : PyStr × Rat) : Groups :=
  if (policy.lookup detection.1).isSome then
    groups.insert detection.1 ((groups.lookup detection.1).getD [] ++ [detection.2])
  else groups

def grouped (detections : List (PyStr × Rat)) (policy : Policy) : Groups :=
  detections.foldl (addScore policy) ∅

def decision (entityType : PyStr) (action : PolicyAction) (scores : List Rat) : PolicyDecision where
  entityType := entityType
  action := action
  count := scores.length
  scoreMin := round3 (scores.min?.getD 0)
  scoreMax := round3 (scores.max?.getD 0)
  requestBlocked := action = .block
  reasonCode := lit "policy_" ++ action.value

/-- `build_decisions(detections, policy)` -/
def buildDecisions (detections : List (PyStr × Rat)) (policy : Policy) : List PolicyDecision :=
  let groups := grouped detections policy
  (groups.keys.insertionSort (· ≤ ·)).filterMap fun entityType =>
    (groups.lookup entityType).bind fun scores =>
      (policy.lookup entityType).map fun action => decision entityType action scores

/-- `blocked_entity_types(decisions)` -/
def blockedEntityTypes (decisions : List PolicyDecision) : List PyStr :=
  (decisions.filter (·.requestBlocked)).map (·.entityType)

/-- The scores of a type, in the order of detection. -/
def scoresOf (entityType : PyStr) (detections : List (PyStr × Rat)) : List Rat :=
  (detections.filter (·.1 = entityType)).map (·.2)

theorem scoresOf_append (entityType : PyStr) (a b : List (PyStr × Rat)) :
    scoresOf entityType (a ++ b) = scoresOf entityType a ++ scoresOf entityType b := by
  simp [scoresOf]

/-- The group of a type holds its scores; there is one for each type of the policy that occurs. -/
theorem lookup_grouped (detections : List (PyStr × Rat)) (policy : Policy) (entityType : PyStr) :
    (grouped detections policy).lookup entityType =
      if (policy.lookup entityType).isSome ∧ scoresOf entityType detections ≠ [] then
        some (scoresOf entityType detections)
      else none := by
  induction detections using List.reverseRecOn with
  | nil => simp [grouped,scoresOf]
  | append_singleton rest detection ih =>
    obtain ⟨type,score⟩ := detection
    have step : grouped (rest ++ [(type,score)]) policy = addScore policy (grouped rest policy) (type,score) := by
      simp [grouped]
    rw [step,scoresOf_append,addScore]
    by_cases same : entityType = type
    · subst same
      have alone : scoresOf entityType [(entityType,score)] = [score] := by simp [scoresOf]
      by_cases listed : (policy.lookup entityType).isSome
      · rw [if_pos listed,AList.lookup_insert,ih,alone]
        by_cases empty : scoresOf entityType rest = [] <;> simp [listed,empty]
      · rw [if_neg listed,ih]
        simp [listed]
    · have other : scoresOf entityType [(type,score)] = [] := by simp [scoresOf,Ne.symm same]
      rw [other,List.append_nil,← ih]
      split_ifs
      · exact AList.lookup_insert_ne same
      · rfl

theorem mem_keys_grouped (detections : List (PyStr × Rat)) (policy : Policy) (entityType : PyStr) :
    entityType ∈ (grouped detections policy).keys ↔
      (policy.lookup entityType).isSome ∧ scoresOf entityType detections ≠ [] := by
  rw [← AList.mem_keys,← AList.lookup_isSome,lookup_grouped]
  split_ifs with listed
  · simp [listed]
  · simpa using listed

theorem decision_perm (entityType : PyStr) (action : PolicyAction) {scores other : List Rat}
    (same : scores.Perm other) : decision entityType action scores = decision entityType action other := by
  have least : scores.min? = other.min? := by
    ext s
    simp only [List.min?_eq_some_iff,same.mem_iff]
  have greatest : scores.max? = other.max? := by
    ext s
    simp only [List.max?_eq_some_iff,same.mem_iff]
  simp only [decision,same.length_eq,least,greatest]

/-- The summary does not depend on the order of the detections. -/
theorem buildDecisions_perm {detections other : List (PyStr × Rat)} (same : detections.Perm other)
    (policy : Policy) : buildDecisions detections policy = buildDecisions other policy := by
  have scores : ∀ t, (scoresOf t detections).Perm (scoresOf t other) := fun t => (same.filter _).map _
  have sameKeys : ∀ t, t ∈ (grouped detections policy).keys ↔ t ∈ (grouped other policy).keys := by
    intro t
    rw [mem_keys_grouped,mem_keys_grouped,ne_eq,ne_eq,← List.length_eq_zero_iff,(scores t).length_eq,
      List.length_eq_zero_iff]
  have keys : (grouped detections policy).keys.Perm (grouped other policy).keys :=
    (List.perm_ext_iff_of_nodup (AList.keys_nodup _) (AList.keys_nodup _)).mpr sameKeys
  have sorted : (grouped detections policy).keys.insertionSort (· ≤ ·) =
      (grouped other policy).keys.insertionSort (· ≤ ·) :=
    List.Perm.eq_of_pairwise' (List.pairwise_insertionSort _ _) (List.pairwise_insertionSort _ _)
      ((List.perm_insertionSort _ _).trans (keys.trans (List.perm_insertionSort _ _).symm))
  simp only [buildDecisions,sorted]
  refine List.filterMap_congr fun t _ => ?_
  rw [lookup_grouped,lookup_grouped]
  have empties : scoresOf t detections = [] ↔ scoresOf t other = [] := by
    rw [← List.length_eq_zero_iff,(scores t).length_eq,List.length_eq_zero_iff]
  by_cases listed : (policy.lookup t).isSome ∧ scoresOf t detections ≠ []
  · have listed' : (policy.lookup t).isSome ∧ scoresOf t other ≠ [] := ⟨listed.1,fun e => listed.2 (empties.mpr e)⟩
    rw [if_pos listed,if_pos listed']
    simp only [Option.bind_some,decision_perm t _ (scores t)]
  · have listed' : ¬ ((policy.lookup t).isSome ∧ scoresOf t other ≠ []) :=
      fun h => listed ⟨h.1,fun e => h.2 (empties.mp e)⟩
    rw [if_neg listed,if_neg listed']

/-- The blocked types are the detected ones whose action is BLOCK. -/
theorem mem_blockedEntityTypes {detections : List (PyStr × Rat)} {policy : Policy} {entityType : PyStr} :
    entityType ∈ blockedEntityTypes (buildDecisions detections policy) ↔
      policy.lookup entityType = some .block ∧ ∃ score, (entityType,score) ∈ detections := by
  have occurs : scoresOf entityType detections ≠ [] ↔ ∃ score, (entityType,score) ∈ detections := by
    rw [scoresOf,ne_eq,List.map_eq_nil_iff,List.filter_eq_nil_iff]
    simp
  rw [← occurs]
  simp only [blockedEntityTypes,buildDecisions,List.mem_map,List.mem_filter,List.mem_filterMap,List.mem_insertionSort]
  constructor
  · rintro ⟨d,⟨⟨type,listed,made⟩,blocks⟩,rfl⟩
    obtain ⟨scores,_,made⟩ := Option.bind_eq_some_iff.mp made
    obtain ⟨action,chosen,rfl⟩ := Option.map_eq_some_iff.mp made
    have block : action = .block := by simpa [decision] using blocks
    exact ⟨block ▸ chosen,((mem_keys_grouped detections policy type).mp listed).2⟩
  · rintro ⟨chosen,found⟩
    have listed : (policy.lookup entityType).isSome ∧ scoresOf entityType detections ≠ [] := ⟨by simp [chosen],found⟩
    refine ⟨decision entityType .block (scoresOf entityType detections),⟨⟨entityType,?_,?_⟩,by simp [decision]⟩,rfl⟩
    · exact (mem_keys_grouped detections policy entityType).mpr listed
    · rw [lookup_grouped,if_pos listed,chosen]
      rfl

end PrivacyGateway.Decisions
