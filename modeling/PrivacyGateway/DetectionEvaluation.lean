import PrivacyGateway.Find
import PrivacyGateway.Handler

/-!
The detection evaluation: true positives, false positives and false negatives of every
entity type on labelled cases (`evaluate`). The labels of a case share one set of matched
detections, and a label's value may occur more than once and overlap itself; the counters
are nevertheless those that the documentation defines (`evaluation_documented`).
-/
namespace PrivacyGateway.DetectionEvaluation
open PrivacyGateway.Strings PrivacyGateway.Errors PrivacyGateway.Decisions PrivacyGateway.Mediator
open PrivacyGateway.Handler PrivacyGateway.Find

/-- An entry of a case's `entities`. -/
structure Label where
  type : PyStr
  value : PyStr
  deriving DecidableEq

structure LabelledCase where
  id : PyStr
  text : PyStr
  entities : List Label

/-- `_overlaps(a, b)` -/
def overlaps (a b : Nat × Nat) : Bool := a.1 < b.2 && b.1 < a.2

/-- The counters of an entity type. -/
structure Counter where
  tp : Nat
  fp : Nat
  fn : Nat
  deriving DecidableEq

inductive Key where
  | tp | fp | fn
  deriving DecidableEq

def Counter.zero : Counter := ⟨0,0,0⟩

/-- `counter[key]` -/
def Counter.get (c : Counter) : Key → Nat
  | .tp => c.tp
  | .fp => c.fp
  | .fn => c.fn

/-- `counter[key] += 1` -/
def Counter.increment (c : Counter) : Key → Counter
  | .tp => { c with tp := c.tp + 1 }
  | .fp => { c with fp := c.fp + 1 }
  | .fn => { c with fn := c.fn + 1 }

/-- One turn of the loop that sums up `overall`. -/
def Counter.add (a b : Counter) : Counter := ⟨a.tp + b.tp,a.fp + b.fp,a.fn + b.fn⟩

abbrev Counters := AList fun _ : PyStr => Counter

/-- `bump(entity_type, key)` -/
def bump (counters : Counters) (entityType : PyStr) (key : Key) : Counters :=
  counters.insert entityType (((counters.lookup entityType).getD .zero).increment key)

/-- The variables of the loop over a case's labels. -/
structure Matching where
  counters : Counters
  matched : Finset Nat
  falseNegatives : List PyStr

/-- One turn of the loop over the detections: `matched_detections` and `hit`. -/
def matchDetection (entity : Label) (spans : List (Nat × Nat)) (found : Finset Nat × Bool)
    (entry : RecognizerResult × Nat) : Finset Nat × Bool :=
  if entry.1.entityType = entity.type ∧ spans.any (overlaps (entry.1.start,entry.1.stop)) then
    (insert entry.2 found.1,true)
  else found

/-- One turn of the loop over the labels. -/
def matchLabel (text : PyStr) (detections : List RecognizerResult) (s : Matching) (entity : Label) : Matching :=
  let found := detections.zipIdx.foldl (matchDetection entity (spansOf entity.value text)) (s.matched,false)
  if found.2 then ⟨bump s.counters entity.type .tp,found.1,s.falseNegatives⟩
  else ⟨bump s.counters entity.type .fn,found.1,s.falseNegatives ++ [entity.type]⟩

/-- One turn of the loop that looks for false positives, with `case_fps`. -/
def countUnmatched (matched : Finset Nat) (s : Counters × List PyStr) (entry : RecognizerResult × Nat) :
    Counters × List PyStr :=
  if entry.2 ∈ matched then s else (bump s.1 entry.1.entityType .fp,s.2 ++ [entry.1.entityType])

structure CaseReport where
  id : PyStr
  falseNegatives : List PyStr
  falsePositives : List PyStr
  deriving DecidableEq

/-- One turn of the loop over the cases. -/
def evaluateCase (case : LabelledCase) (detections : List RecognizerResult) (s : Counters × List CaseReport) :
    Counters × List CaseReport :=
  let labels := case.entities.foldl (matchLabel case.text detections) ⟨s.1,∅,[]⟩
  let rest := detections.zipIdx.foldl (countUnmatched labels.matched) (labels.counters,[])
  (rest.1,s.2 ++ [⟨case.id,labels.falseNegatives,rest.2⟩])

/-- The loop over the cases; `mediator` is told the number of each call. -/
def evaluateCases (mediator : MediatorCalls) :
    Nat → List LabelledCase → Counters × List CaseReport → Except PyException (Counters × List CaseReport)
  | _, [], s => .ok s
  | i, case :: rest, s =>
    (mediator.analyze i case.text).bind fun detections =>
      evaluateCases mediator (i + 1) rest (evaluateCase case detections s)

/-- The rates are exact. -/
structure Scores where
  counter : Counter
  precision : Option Rat
  recallRate : Option Rat
  f1 : Option Rat
  deriving DecidableEq

/-- `round(x, 4)` -/
def round4 (x : Rat) : Rat := roundHalfEven (x * 10000) / 10000

/-- `scores(c)` -/
def scores (c : Counter) : Scores :=
  let precision : Option Rat := if c.tp + c.fp ≠ 0 then some (c.tp / (c.tp + c.fp)) else none
  let recallRate : Option Rat := if c.tp + c.fn ≠ 0 then some (c.tp / (c.tp + c.fn)) else none
  let f1 : Option Rat :=
    match precision,recallRate with
    | some p,some r => if p ≠ 0 ∧ r ≠ 0 ∧ p + r ≠ 0 then some (2 * p * r / (p + r)) else some 0
    | _,_ => none
  ⟨c,precision.map round4,recallRate.map round4,f1.map round4⟩

/-- `sorted(counters.items())` -/
def sortedItems (counters : Counters) : List (Σ _ : PyStr, Counter) :=
  counters.entries.insertionSort fun a b => a.1 ≤ b.1

theorem sortedItems_perm (counters : Counters) : (sortedItems counters).Perm counters.entries :=
  List.perm_insertionSort _ _

/-- The dict that the comprehension over the sorted items makes. -/
def perEntity (counters : Counters) : AList fun _ : PyStr => Scores where
  entries := (sortedItems counters).map fun item => ⟨item.1,scores item.2⟩
  nodupKeys := by
    have keys : ((sortedItems counters).map Sigma.fst).Nodup :=
      ((sortedItems_perm counters).map Sigma.fst).nodup_iff.mpr counters.nodupKeys
    rw [List.NodupKeys,List.keys,List.map_map]
    exact keys

structure Report where
  perEntity : AList fun _ : PyStr => Scores
  overall : Scores
  perCase : List CaseReport

/-- `evaluate(mediator, cases)` -/
def evaluate (mediator : MediatorCalls) (cases : List LabelledCase) : Except PyException Report :=
  (evaluateCases mediator 0 cases (∅,[])).map fun done =>
    ⟨perEntity done.1,scores ((done.1.entries.map Sigma.snd).foldl Counter.add .zero),done.2⟩

/-! ### What the documentation defines -/

/-- The detection has the label's type and overlaps an occurrence of its value. -/
def Finds (text : PyStr) (d : RecognizerResult) (l : Label) : Prop :=
  d.entityType = l.type ∧ ∃ i, OccursAt l.value text i ∧ d.start < i + l.value.length ∧ i < d.stop

/-- What the condition of the inner loop decides. -/
theorem finds_iff {text : PyStr} {d : RecognizerResult} {l : Label} :
    (d.entityType = l.type ∧ (spansOf l.value text).any (overlaps (d.start,d.stop)) = true) ↔ Finds text d l := by
  refine and_congr_right fun _ => ?_
  simp only [List.any_eq_true,mem_spansOf,overlaps,Bool.and_eq_true,decide_eq_true_eq]
  constructor
  · rintro ⟨_,⟨i,occurs,rfl⟩,meets⟩
    exact ⟨i,occurs,meets⟩
  · rintro ⟨i,occurs,meets⟩
    exact ⟨_,⟨i,occurs,rfl⟩,meets⟩

instance (text : PyStr) (d : RecognizerResult) (l : Label) : Decidable (Finds text d l) := decidable_of_iff _ finds_iff

/-- The counters of a type; one that nothing was counted for has none. -/
def Report.counter (report : Report) (entityType : PyStr) : Counter :=
  ((report.perEntity.lookup entityType).map Scores.counter).getD .zero

/-- The labels of a type, those that are found, and the detections of it that find none. -/
def labelsOf (t : PyStr) (case : LabelledCase) : Nat := case.entities.countP (·.type = t)
def foundOf (t : PyStr) (case : LabelledCase) (detections : List RecognizerResult) : Nat :=
  case.entities.countP fun l => l.type = t ∧ ∃ d ∈ detections, Finds case.text d l
def strayOf (t : PyStr) (case : LabelledCase) (detections : List RecognizerResult) : Nat :=
  detections.countP fun d => d.entityType = t ∧ ∀ l ∈ case.entities, ¬ Finds case.text d l

/-- The counters of the report on the given cases and detections are as documented. -/
structure Documented (evaluated : List (LabelledCase × List RecognizerResult)) (report : Report) : Prop where
  labels : ∀ t, (report.counter t).tp + (report.counter t).fn = (evaluated.map fun c => labelsOf t c.1).sum
  found : ∀ t, (report.counter t).tp = (evaluated.map fun c => foundOf t c.1 c.2).sum
  stray : ∀ t, (report.counter t).fp = (evaluated.map fun c => strayOf t c.1 c.2).sum
  types : report.perEntity.keys.Pairwise (· < ·)
  overall : ∀ key, report.overall.counter.get key =
    (report.perEntity.keys.map fun t => (report.counter t).get key).sum

/-! ### The loops -/

section
variable {counters : Counters} {entityType t : PyStr} {key other : Key} {text : PyStr} {detections : List RecognizerResult}

/-- What is counted of a type so far. -/
def counted (counters : Counters) (t : PyStr) (key : Key) : Nat := ((counters.lookup t).getD .zero).get key

theorem counted_empty : counted ∅ t key = 0 := by cases key <;> rfl

theorem get_increment (c : Counter) : (c.increment other).get key = c.get key + if other = key then 1 else 0 := by
  cases other <;> cases key <;> rfl

theorem counted_bump :
    counted (bump counters entityType other) t key = counted counters t key + if entityType = t ∧ other = key then 1 else 0 := by
  unfold counted bump
  by_cases same : entityType = t
  · subst same
    rw [AList.lookup_insert,Option.getD_some,get_increment]
    simp
  · rw [AList.lookup_insert_ne (Ne.symm same)]
    simp [same]

/-- The loop over the detections marks those that find the label. -/
theorem foldl_matchDetection (text : PyStr) (l : Label) (entries : List (RecognizerResult × Nat)) (found : Finset Nat × Bool) :
    (∀ i, i ∈ (entries.foldl (matchDetection l (spansOf l.value text)) found).1 ↔
      i ∈ found.1 ∨ ∃ d, (d,i) ∈ entries ∧ Finds text d l) ∧
    ((entries.foldl (matchDetection l (spansOf l.value text)) found).2 = true ↔
      found.2 = true ∨ ∃ entry ∈ entries, Finds text entry.1 l) := by
  induction entries generalizing found with
  | nil => simp
  | cons entry rest ih =>
    rw [List.foldl_cons]
    obtain ⟨marked,hit⟩ := ih (matchDetection l (spansOf l.value text) found entry)
    by_cases finds : Finds text entry.1 l
    · have step : matchDetection l (spansOf l.value text) found entry = (insert entry.2 found.1,true) :=
        if_pos (finds_iff.mpr finds)
      rw [step] at marked hit
      refine ⟨fun i => ?_,?_⟩
      · rw [step,marked,Finset.mem_insert]
        constructor
        · rintro ((rfl | before) | ⟨d,later,here⟩)
          · exact .inr ⟨entry.1,List.mem_cons_self,finds⟩
          · exact .inl before
          · exact .inr ⟨d,List.mem_cons_of_mem _ later,here⟩
        · rintro (before | ⟨d,member,here⟩)
          · exact .inl (.inr before)
          · rcases List.mem_cons.mp member with rfl | later
            · exact .inl (.inl rfl)
            · exact .inr ⟨d,later,here⟩
      · rw [step,hit]
        exact iff_of_true (.inl rfl) (.inr ⟨entry,List.mem_cons_self,finds⟩)
    · have step : matchDetection l (spansOf l.value text) found entry = found := if_neg (mt finds_iff.mp finds)
      rw [step] at marked hit
      refine ⟨fun i => ?_,?_⟩
      · rw [step,marked]
        refine or_congr_right (exists_congr fun d => ?_)
        rw [List.mem_cons]
        constructor
        · exact fun later => ⟨.inr later.1,later.2⟩
        · rintro ⟨rfl | later,here⟩
          · exact absurd here finds
          · exact ⟨later,here⟩
      · rw [step,hit]
        refine or_congr_right ?_
        simp [finds]

/-- A label counts as found or as missed, and marks the detections that find it. -/
theorem matchLabel_spec (text : PyStr) (detections : List RecognizerResult) (s : Matching) (l : Label) :
    (matchLabel text detections s l).counters =
      bump s.counters l.type (if ∃ d ∈ detections, Finds text d l then .tp else .fn) ∧
    ∀ i, i ∈ (matchLabel text detections s l).matched ↔
      i ∈ s.matched ∨ ∃ d, (d,i) ∈ detections.zipIdx ∧ Finds text d l := by
  obtain ⟨marked,hit⟩ := foldl_matchDetection text l detections.zipIdx (s.matched,false)
  have found : (∃ entry ∈ detections.zipIdx, Finds text entry.1 l) ↔ ∃ d ∈ detections, Finds text d l := by
    constructor
    · rintro ⟨entry,member,finds⟩
      exact ⟨entry.1,List.fst_mem_of_mem_zipIdx member,finds⟩
    · rintro ⟨d,member,finds⟩
      obtain ⟨i,here⟩ := List.getElem?_of_mem member
      exact ⟨(d,i),List.mk_mem_zipIdx_iff_getElem?.mpr here,finds⟩
  unfold matchLabel
  by_cases finds : ∃ d ∈ detections, Finds text d l
  · have isHit := hit.mpr (.inr (found.mpr finds))
    simp only [isHit,if_pos finds,↓reduceIte]
    exact ⟨trivial,marked⟩
  · have noHit : (detections.zipIdx.foldl (matchDetection l (spansOf l.value text)) (s.matched,false)).2 = false := by
      rw [← Bool.not_eq_true,hit]
      rintro (begins | entry)
      · cases begins
      · exact finds (found.mp entry)
    simp only [noHit,if_neg finds,Bool.false_eq_true,↓reduceIte]
    exact ⟨trivial,marked⟩

/-- What the labels of a case add to the counters, and which detections they mark. -/
theorem foldl_matchLabel (t text : PyStr) (detections : List RecognizerResult) (labels : List Label) (s : Matching) :
    (∀ i, i ∈ (labels.foldl (matchLabel text detections) s).matched ↔
      i ∈ s.matched ∨ ∃ l ∈ labels, ∃ d, (d,i) ∈ detections.zipIdx ∧ Finds text d l) ∧
    counted (labels.foldl (matchLabel text detections) s).counters t .tp = counted s.counters t .tp +
      labels.countP (fun l => l.type = t ∧ ∃ d ∈ detections, Finds text d l) ∧
    counted (labels.foldl (matchLabel text detections) s).counters t .fn = counted s.counters t .fn +
      labels.countP (fun l => l.type = t ∧ ¬ ∃ d ∈ detections, Finds text d l) ∧
    counted (labels.foldl (matchLabel text detections) s).counters t .fp = counted s.counters t .fp := by
  induction labels generalizing s with
  | nil => simp
  | cons l rest ih =>
    obtain ⟨counters,marked⟩ := matchLabel_spec text detections s l
    obtain ⟨allMarked,found,missed,stray⟩ := ih (matchLabel text detections s l)
    rw [List.foldl_cons]
    refine ⟨fun i => ?_,?_,?_,?_⟩
    · rw [allMarked,marked,or_assoc]
      refine or_congr_right ?_
      simp [List.mem_cons,or_and_right,exists_or]
    · rw [found,counters,counted_bump,List.countP_cons]
      by_cases finds : ∃ d ∈ detections, Finds text d l
      · simp only [finds,and_true,decide_eq_true_eq,↓reduceIte]
        omega
      · simp only [finds,and_false,decide_false,reduceCtorEq,Bool.false_eq_true,↓reduceIte]
        omega
    · rw [missed,counters,counted_bump,List.countP_cons]
      by_cases finds : ∃ d ∈ detections, Finds text d l
      · simp only [finds,not_true_eq_false,and_false,decide_false,reduceCtorEq,Bool.false_eq_true,↓reduceIte]
        omega
      · simp only [finds,not_false_eq_true,and_true,decide_eq_true_eq,↓reduceIte]
        omega
    · rw [stray,counters,counted_bump]
      have other : (if ∃ d ∈ detections, Finds text d l then Key.tp else Key.fn) ≠ Key.fp := by split_ifs <;> simp
      simp [other]

/-- The second loop over the detections counts those that are not marked. -/
theorem foldl_countUnmatched (matched : Finset Nat) (entries : List (RecognizerResult × Nat)) (s : Counters × List PyStr) :
    counted (entries.foldl (countUnmatched matched) s).1 t key = counted s.1 t key +
      if key = .fp then entries.countP (fun entry => entry.1.entityType = t ∧ entry.2 ∉ matched) else 0 := by
  induction entries generalizing s with
  | nil => simp
  | cons entry rest ih =>
    rw [List.foldl_cons,ih,List.countP_cons]
    by_cases known : entry.2 ∈ matched
    · have step : countUnmatched matched s entry = s := if_pos known
      rw [step]
      simp [known]
    · have step : (countUnmatched matched s entry).1 = bump s.1 entry.1.entityType .fp := by
        rw [countUnmatched,if_neg known]
      rw [step,counted_bump]
      by_cases wrong : key = .fp
      · subst wrong
        simp only [known,not_false_eq_true,and_true,↓reduceIte,decide_eq_true_eq]
        omega
      · simp [wrong,Ne.symm wrong]

/-- What one case adds to a counter. -/
def caseCount (t : PyStr) (case : LabelledCase) (detections : List RecognizerResult) : Key → Nat
  | .tp => foundOf t case detections
  | .fp => strayOf t case detections
  | .fn => case.entities.countP fun l => l.type = t ∧ ¬ ∃ d ∈ detections, Finds case.text d l

/-- Each label is found or missed. -/
theorem found_or_missed {case : LabelledCase} :
    caseCount t case detections .tp + caseCount t case detections .fn = labelsOf t case := by
  rw [labelsOf,List.countP_eq_countP_filter_add _ _ fun l => decide (∃ d ∈ detections, Finds case.text d l),
    List.countP_filter,List.countP_filter]
  refine congrArg₂ (· + ·) (List.countP_congr fun l _ => ?_) (List.countP_congr fun l _ => ?_) <;> simp

theorem evaluateCase_counted (case : LabelledCase) (s : Counters × List CaseReport) :
    counted (evaluateCase case detections s).1 t key = counted s.1 t key + caseCount t case detections key := by
  obtain ⟨marked,found,missed,stray⟩ :=
    foldl_matchLabel t case.text detections case.entities ⟨s.1,∅,[]⟩
  have unmarked : detections.zipIdx.countP (fun entry => entry.1.entityType = t ∧
      entry.2 ∉ (case.entities.foldl (matchLabel case.text detections) ⟨s.1,∅,[]⟩).matched) = strayOf t case detections := by
    -- An index names one detection, so marking an index is marking that detection.
    have same : ∀ entry ∈ detections.zipIdx,
        (entry.2 ∈ (case.entities.foldl (matchLabel case.text detections) ⟨s.1,∅,[]⟩).matched ↔
          ∃ l ∈ case.entities, Finds case.text entry.1 l) := by
      intro entry member
      rw [marked]
      constructor
      · rintro (none | ⟨l,label,d,here,finds⟩)
        · exact absurd none (Finset.notMem_empty _)
        · have position := List.mk_mem_zipIdx_iff_getElem?.mp here
          rw [List.mem_zipIdx_iff_getElem?.mp member,Option.some.injEq] at position
          exact ⟨l,label,position ▸ finds⟩
      · rintro ⟨l,label,finds⟩
        exact .inr ⟨l,label,entry.1,member,finds⟩
    have enumerated : detections = detections.zipIdx.map Prod.fst := (List.zipIdx_map_fst 0 detections).symm
    rw [strayOf]
    conv_rhs => rw [enumerated,List.countP_map]
    refine List.countP_congr fun entry member => ?_
    simp only [decide_eq_true_eq,Function.comp_apply,same entry member]
    simp
  unfold evaluateCase
  rw [foldl_countUnmatched]
  cases key with
  | tp => simp [caseCount,foundOf,found]
  | fn => simp [caseCount,missed]
  | fp => simp only [caseCount,stray,unmarked,↓reduceIte]

/-- A run over cases whose texts the mediator analyzes returns, and every case has added its counts. -/
theorem evaluateCases_counted {mediator : MediatorCalls} {i : Nat} {cases : List LabelledCase}
    {outputs : List (List RecognizerResult)} (analyzed : analyzeAll mediator i (cases.map LabelledCase.text) = .ok outputs)
    (s : Counters × List CaseReport) :
    ∃ done, evaluateCases mediator i cases s = .ok done ∧
      ∀ t key, counted done.1 t key = counted s.1 t key + ((cases.zip outputs).map fun c => caseCount t c.1 c.2 key).sum := by
  induction cases generalizing i outputs s with
  | nil => exact ⟨s,rfl,by simp⟩
  | cons case rest ih =>
    obtain ⟨detections,more,rfl,here,others⟩ := analyzeAll_cons analyzed
    obtain ⟨done,ran,counts⟩ := ih others (evaluateCase case detections s)
    refine ⟨done,?_,fun t key => ?_⟩
    · rw [evaluateCases,here]
      exact ran
    · rw [counts,evaluateCase_counted,List.zip_cons_cons,List.map_cons,List.sum_cons,Nat.add_assoc]

theorem lookup_perEntity : (perEntity counters).lookup t = (counters.lookup t).map scores := by
  have sorted : (sortedItems counters).dlookup t = counters.entries.dlookup t :=
    (List.perm_dlookup t counters.nodupKeys (sortedItems_perm counters).symm).symm
  have mapped := List.dlookup_map₂ (l := sortedItems counters) (f := fun _ => scores) t
  rw [sorted] at mapped
  exact mapped

theorem keys_perEntity : (perEntity counters).keys = (sortedItems counters).map Sigma.fst := by
  show ((sortedItems counters).map _).map Sigma.fst = _
  rw [List.map_map]
  rfl

theorem perEntity_sorted : (perEntity counters).keys.Pairwise (· < ·) := by
  have ordered : ((sortedItems counters).map Sigma.fst).Pairwise (· ≤ ·) :=
    List.pairwise_map.mpr (List.pairwise_insertionSort _ _)
  have distinct : (perEntity counters).keys.Nodup := AList.keys_nodup _
  rw [keys_perEntity] at distinct ⊢
  exact (ordered.and distinct).imp fun both => lt_of_le_of_ne both.1 both.2

theorem foldl_add (items : List Counter) (c : Counter) :
    (items.foldl Counter.add c).get key = c.get key + (items.map (Counter.get · key)).sum := by
  induction items generalizing c with
  | nil => simp
  | cons item rest ih =>
    rw [List.foldl_cons,ih,List.map_cons,List.sum_cons,← Nat.add_assoc]
    cases key <;> rfl

/-- The overall counters are the sums over the types. -/
theorem overall_sum :
    ((counters.entries.map Sigma.snd).foldl Counter.add .zero).get key =
      ((perEntity counters).keys.map fun t => counted counters t key).sum := by
  have zero : Counter.zero.get key = 0 := by cases key <;> rfl
  have own : counters.entries.map (fun item => item.2.get key) =
      counters.entries.map fun item => counted counters item.1 key := by
    refine List.map_congr_left fun item member => ?_
    have held : counters.lookup item.1 = some item.2 := List.mem_dlookup counters.nodupKeys member
    rw [counted,held,Option.getD_some]
  rw [foldl_add,zero,Nat.zero_add,List.map_map,keys_perEntity,List.map_map,((sortedItems_perm counters).map _).sum_eq]
  exact congrArg List.sum own

end

/-- The evaluation returns whenever the mediator does, and its counters are those that the
    documentation defines. -/
theorem evaluation_documented (mediator : MediatorCalls) (cases : List LabelledCase)
    (outputs : List (List RecognizerResult))
    (analyzed : analyzeAll mediator 0 (cases.map LabelledCase.text) = .ok outputs) :
    ∃ report, evaluate mediator cases = .ok report ∧ Documented (cases.zip outputs) report := by
  obtain ⟨⟨counters,perCase⟩,ran,counts⟩ := evaluateCases_counted analyzed (∅,[])
  refine ⟨⟨perEntity counters,scores ((counters.entries.map Sigma.snd).foldl Counter.add .zero),perCase⟩,?_,?_⟩
  · rw [evaluate,ran]
    rfl
  have total : ∀ t key, counted counters t key = ((cases.zip outputs).map fun c => caseCount t c.1 c.2 key).sum := by
    intro t key
    rw [counts,counted_empty,Nat.zero_add]
  have reported : ∀ t key, (Report.counter
      ⟨perEntity counters,scores ((counters.entries.map Sigma.snd).foldl Counter.add .zero),perCase⟩ t).get key =
        counted counters t key := by
    intro t key
    rw [Report.counter,lookup_perEntity,Option.map_map,counted]
    cases counters.lookup t <;> rfl
  refine ⟨fun t => ?_,fun t => ?_,fun t => ?_,perEntity_sorted,fun key => ?_⟩
  · have found := (reported t .tp).trans (total t .tp)
    have missed := (reported t .fn).trans (total t .fn)
    show Counter.get _ .tp + Counter.get _ .fn = _
    rw [found,missed,← List.sum_map_add]
    exact congrArg List.sum (List.map_congr_left fun c _ => found_or_missed)
  · exact (reported t .tp).trans (total t .tp)
  · exact (reported t .fp).trans (total t .fp)
  · show ((counters.entries.map Sigma.snd).foldl Counter.add .zero).get key = _
    rw [overall_sum]
    exact congrArg List.sum (List.map_congr_left fun t _ => (reported t key).symm)

/-- One label whose value stands at 0 and, overlapping itself, at 1. -/
def selfOverlapping : LabelledCase := ⟨lit "twice",lit "aaa",[⟨lit "NAME",lit "aa"⟩]⟩

/-- A detection that meets the second occurrence only. -/
def lastLetter : RecognizerResult := ⟨lit "NAME",2,3,1⟩

/-- A mediator that detects the last letter. -/
def lastLetterMediator : MediatorCalls where
  policy := ∅
  analyze _ _ := .ok [lastLetter]
  apply _ text _ context := (.ok text,context)
  redactAll _ text _ := .ok text

theorem evaluation_documented_overlapping :
    ∃ report, evaluate lastLetterMediator [selfOverlapping] = .ok report ∧
      Documented [(selfOverlapping,[lastLetter])] report ∧ (report.counter (lit "NAME")).tp = 1 := by
  obtain ⟨report,ran,documented⟩ := evaluation_documented lastLetterMediator [selfOverlapping] [[lastLetter]] rfl
  refine ⟨report,ran,documented,?_⟩
  have finds : Finds (lit "aaa") lastLetter ⟨lit "NAME",lit "aa"⟩ :=
    ⟨rfl,1,⟨lit "a",[],rfl,rfl⟩,by decide,by decide⟩
  have found := documented.found (lit "NAME")
  simpa [foundOf,selfOverlapping,finds] using found

end PrivacyGateway.DetectionEvaluation
