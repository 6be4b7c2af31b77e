import Mathlib.Data.Prod.Lex
import PrivacyGateway.Mediator

/-!
What Presidio's anonymizer makes of overlapping detections. Intersecting detections of
one type are merged (`Merged`), a span inside another one or coinciding with one of a
higher score is dropped, and each of the others is handed to its operator: the resolver
is a parameter for which this is assumed (`Resolves`). Which of two equal spans with
equal scores is kept is left open, so that every span that does not lose is kept by
some resolver (`exists_resolver`).
-/
namespace PrivacyGateway.Conflicts
open PrivacyGateway.Strings PrivacyGateway.Errors PrivacyGateway.Decisions PrivacyGateway.Spans
  PrivacyGateway.Tokenization PrivacyGateway.Mediator

/-- Two spans share a position. -/
def Meets (a b : RecognizerResult) : Prop := max a.start b.start < min a.stop b.stop

instance : DecidableRel Meets := fun a b => inferInstanceAs (Decidable (max a.start b.start < min a.stop b.stop))

/-- The span of `a` lies in that of `b`. -/
def Within (a b : RecognizerResult) : Prop := b.start ≤ a.start ∧ a.stop ≤ b.stop

/-- The spans of `a` and `b` are the same. -/
def Coincide (a b : RecognizerResult) : Prop := a.start = b.start ∧ a.stop = b.stop

instance : DecidableRel Within := fun a b => inferInstanceAs (Decidable (b.start ≤ a.start ∧ a.stop ≤ b.stop))
instance : DecidableRel Coincide := fun a b => inferInstanceAs (Decidable (a.start = b.start ∧ a.stop = b.stop))

theorem Within.refl (a : RecognizerResult) : Within a a := ⟨le_rfl,le_rfl⟩

theorem Within.trans {a b c : RecognizerResult} (ab : Within a b) (bc : Within b c) : Within a c :=
  ⟨bc.1.trans ab.1,ab.2.trans bc.2⟩

/-- Detections of one type that intersect, directly or through others of the list. -/
def Linked (results : List RecognizerResult) : RecognizerResult → RecognizerResult → Prop :=
  Relation.ReflTransGen fun a b => b ∈ results ∧ a.entityType = b.entityType ∧ Meets a b

/-- `g` is made of the detections linked to `d`: it spans all of them and has their highest score. -/
structure MergedFrom (results : List RecognizerResult) (d g : RecognizerResult) : Prop where
  entityType : g.entityType = d.entityType
  start : IsLeast (Set.image RecognizerResult.start {r | Linked results d r}) g.start
  stop : IsGreatest (Set.image RecognizerResult.stop {r | Linked results d r}) g.stop
  score : IsGreatest (Set.image RecognizerResult.score {r | Linked results d r}) g.score

/-- `g` is one of the spans that merging the detections leaves. -/
def Merged (results : List RecognizerResult) (g : RecognizerResult) : Prop := ∃ d ∈ results, MergedFrom results d g

/-- `g` is dropped for the sake of `other`, whatever the resolver: it is a part of it, or
    the same span with a lower score. -/
def LosesTo (g other : RecognizerResult) : Prop := Within g other ∧ (Coincide g other → g.score < other.score)

/-- No other merged span makes `g` lose. -/
def Unbeaten (results : List RecognizerResult) (g : RecognizerResult) : Prop :=
  ∀ other, Merged results other → ¬ LosesTo g other

/-- What is kept of the detections: merged spans that do not lose, one for each span,
    and whatever is dropped lies in a kept one. -/
structure Resolution (results kept : List RecognizerResult) : Prop where
  merged : ∀ g ∈ kept, Merged results g
  unbeaten : ∀ g ∈ kept, Unbeaten results g
  covered : ∀ g, Merged results g → ∃ k ∈ kept, Within g k
  distinct : kept.Pairwise fun a b => ¬ Coincide a b

/-- A conflict resolver as Presidio documents its own. -/
def Resolves (resolve : List RecognizerResult → List RecognizerResult) : Prop :=
  ∀ results, Resolution results (resolve results)

/-- An anonymizer that hands the text of every kept span to its operator, from right to
    left; of two spans that overlap in part the output of each is kept. -/
def resolvedAnonymizer (resolve : List RecognizerResult → List RecognizerResult) : Anonymizer where
  anonymize text results operators s := plainAnonymizer.anonymize text (resolve results) operators s

/-! ### There are resolvers -/

section
variable {results : List RecognizerResult}

theorem linked_mem {d r : RecognizerResult} (member : d ∈ results) (linked : Linked results d r) : r ∈ results := by
  cases linked with
  | refl => exact member
  | tail _ step => exact step.1

theorem MergedFrom.unique {d g g' : RecognizerResult} (merged : MergedFrom results d g)
    (merged' : MergedFrom results d g') : g = g' := by
  obtain ⟨entityType,start,stop,score⟩ := g
  obtain ⟨entityType',start',stop',score'⟩ := g'
  obtain rfl : entityType = entityType' := merged.entityType.trans merged'.entityType.symm
  obtain rfl : start = start' := merged.start.unique merged'.start
  obtain rfl : stop = stop' := merged.stop.unique merged'.stop
  obtain rfl : score = score' := merged.score.unique merged'.score
  rfl

/-- Every detection lies in the span that it is merged into. -/
theorem exists_mergedFrom {d : RecognizerResult} (member : d ∈ results) : ∃ g, MergedFrom results d g ∧ Within d g := by
  have finite : {r | Linked results d r}.Finite :=
    (List.finite_toSet results).subset fun r linked => linked_mem member linked
  have nonempty : {r | Linked results d r}.Nonempty := ⟨d,.refl⟩
  obtain ⟨first,inFirst,least⟩ := Set.exists_min_image _ RecognizerResult.start finite nonempty
  obtain ⟨last,inLast,greatest⟩ := Set.exists_max_image _ RecognizerResult.stop finite nonempty
  obtain ⟨best,inBest,highest⟩ := Set.exists_max_image _ RecognizerResult.score finite nonempty
  refine ⟨⟨d.entityType,first.start,last.stop,best.score⟩,⟨rfl,⟨⟨first,inFirst,rfl⟩,?_⟩,⟨⟨last,inLast,rfl⟩,?_⟩,
    ⟨⟨best,inBest,rfl⟩,?_⟩⟩,least d .refl,greatest d .refl⟩
  · rintro _ ⟨r,linked,rfl⟩
    exact least r linked
  · rintro _ ⟨r,linked,rfl⟩
    exact greatest r linked
  · rintro _ ⟨r,linked,rfl⟩
    exact highest r linked

theorem Merged.entityType_mem {g : RecognizerResult} (merged : Merged results g) :
    g.entityType ∈ results.map RecognizerResult.entityType := by
  obtain ⟨d,member,made⟩ := merged
  rw [made.entityType]
  exact List.mem_map_of_mem member

theorem merged_finite (results : List RecognizerResult) : {g | Merged results g}.Finite := by
  have bounded : {g | Merged results g} ⊆ ⋃ d ∈ {d | d ∈ results}, {g | MergedFrom results d g} := by
    rintro g ⟨d,member,merged⟩
    exact Set.mem_biUnion member merged
  refine Set.Finite.subset (Set.Finite.biUnion (List.finite_toSet results) fun d _ => ?_) bounded
  exact Set.Subsingleton.finite fun g merged g' merged' => MergedFrom.unique merged merged'

/-- Longer spans first, of equal ones that with the higher score. -/
private def strength (g : RecognizerResult) : ℤ ×ₗ ℚ := toLex ((g.stop : ℤ) - g.start,g.score)

private theorem strength_lt {g other : RecognizerResult} (loses : LosesTo g other) : strength g < strength other := by
  obtain ⟨within,coinciding⟩ := loses
  unfold Within at within
  rw [strength,strength,Prod.Lex.toLex_lt_toLex]
  by_cases same : Coincide g other
  · have scores := coinciding same
    unfold Coincide at same
    exact .inr ⟨by omega,scores⟩
  · unfold Coincide at same
    exact .inl (by omega)

/-- What is dropped lies in a span that does not lose. -/
theorem exists_unbeaten {g : RecognizerResult} (merged : Merged results g) :
    ∃ k, Merged results k ∧ Unbeaten results k ∧ Within g k := by
  obtain ⟨k,⟨mergedK,within⟩,strongest⟩ := Set.exists_max_image {k | Merged results k ∧ Within g k} strength
    ((merged_finite results).subset fun k chosen => chosen.1) ⟨g,merged,.refl g⟩
  refine ⟨k,mergedK,fun other mergedOther loses => ?_,within⟩
  exact (strength_lt loses).not_ge (strongest other ⟨mergedOther,within.trans loses.1⟩)

/-- One span of each place among those that do not lose, a given one before the others. -/
theorem exists_resolution (results : List RecognizerResult) (g : RecognizerResult) :
    ∃ kept, Resolution results kept ∧ (Merged results g → Unbeaten results g → g ∈ kept) := by
  classical
  let place : RecognizerResult → Nat × Nat := fun r => (r.start,r.stop)
  let candidates : Set RecognizerResult := {k | Merged results k ∧ Unbeaten results k}
  have finite : candidates.Finite := (merged_finite results).subset fun k candidate => candidate.1
  have places : ∀ p ∈ place '' candidates, ∃ k ∈ candidates, place k = p ∧ (g ∈ candidates → place g = p → k = g) := by
    rintro p ⟨k,candidate,rfl⟩
    by_cases preferred : g ∈ candidates ∧ place g = place k
    · exact ⟨g,preferred.1,preferred.2,fun _ _ => rfl⟩
    · exact ⟨k,candidate,rfl,fun inside same => absurd ⟨inside,same⟩ preferred⟩
  have : Nonempty RecognizerResult := ⟨g⟩
  choose! pick chosen placed prefers using places
  have listed : ∀ p, p ∈ (finite.image place).toFinset.toList ↔ p ∈ place '' candidates := by
    intro p
    rw [Finset.mem_toList,Set.Finite.mem_toFinset]
  refine ⟨(finite.image place).toFinset.toList.map pick,⟨?_,?_,?_,?_⟩,?_⟩
  · intro k member
    obtain ⟨p,inside,rfl⟩ := List.mem_map.mp member
    exact (chosen p ((listed p).mp inside)).1
  · intro k member
    obtain ⟨p,inside,rfl⟩ := List.mem_map.mp member
    exact (chosen p ((listed p).mp inside)).2
  · intro r merged
    obtain ⟨k,mergedK,unbeaten,within⟩ := exists_unbeaten merged
    have inside : place k ∈ place '' candidates := ⟨k,⟨mergedK,unbeaten⟩,rfl⟩
    refine ⟨pick (place k),List.mem_map_of_mem ((listed _).mpr inside),within.trans ?_⟩
    obtain ⟨starts,stops⟩ := Prod.mk.inj (placed _ inside)
    exact ⟨starts.le,stops.ge⟩
  · refine List.pairwise_map.mpr (List.Pairwise.imp_of_mem ?_ (Finset.nodup_toList _))
    intro p q inP inQ differ same
    refine differ ?_
    rw [← placed p ((listed p).mp inP),← placed q ((listed q).mp inQ)]
    exact Prod.ext same.1 same.2
  · intro merged unbeaten
    have inside : place g ∈ place '' candidates := ⟨g,⟨merged,unbeaten⟩,rfl⟩
    rw [← prefers _ inside ⟨merged,unbeaten⟩ rfl]
    exact List.mem_map_of_mem ((listed _).mpr inside)

/-- Some resolver keeps `g` wherever it does not lose. -/
theorem exists_resolver (g : RecognizerResult) :
    ∃ resolve, Resolves resolve ∧ ∀ results, Merged results g → Unbeaten results g → g ∈ resolve results := by
  choose resolve resolution prefers using fun results => exists_resolution results g
  exact ⟨resolve,resolution,prefers⟩

/-- A merged span reaches into a stretch just when one of its detections does. -/
theorem merged_touches {g : RecognizerResult} (merged : Merged results g) {low high : Nat} (ordered : low ≤ high)
    (touches : g.start < high ∧ low < g.stop) : ∃ d ∈ results, d.start < high ∧ low < d.stop := by
  obtain ⟨d,member,made⟩ := merged
  by_contra clear
  push Not at clear
  have apart : ∀ r ∈ results, r.stop ≤ low ∨ high ≤ r.start := fun r listed => by
    have := clear r listed
    omega
  -- Linked detections that keep clear of the stretch lie on one side of it.
  obtain ⟨first,linkedFirst,starts⟩ := made.start.1
  obtain ⟨last,linkedLast,stops⟩ := made.stop.1
  rcases apart d member with left | right
  · have side : ∀ r, Linked results d r → r.stop ≤ low := by
      intro r linked
      induction linked with
      | refl => exact left
      | @tail a b chain step ih =>
        have meets := step.2.2
        unfold Meets at meets
        have := apart b step.1
        omega
    have := side last linkedLast
    omega
  · have side : ∀ r, Linked results d r → high ≤ r.start := by
      intro r linked
      induction linked with
      | refl => exact right
      | @tail a b chain step ih =>
        have meets := step.2.2
        unfold Meets at meets
        have := apart b step.1
        omega
    have := side first linkedFirst
    omega

theorem Merged.formed (formed : ∀ d ∈ results, d.start ≤ d.stop) {g : RecognizerResult} (merged : Merged results g) :
    g.start ≤ g.stop := by
  obtain ⟨d,member,made⟩ := merged
  exact (made.start.2 ⟨d,.refl,rfl⟩).trans ((formed d member).trans (made.stop.2 ⟨d,.refl,rfl⟩))

/-- What is kept reaches into a stretch just when a detection does. -/
theorem kept_touches_iff {kept : List RecognizerResult} (resolution : Resolution results kept) {low high : Nat}
    (ordered : low ≤ high) :
    (∃ k ∈ kept, k.start < high ∧ low < k.stop) ↔ ∃ d ∈ results, d.start < high ∧ low < d.stop := by
  constructor
  · rintro ⟨k,member,touches⟩
    exact merged_touches (resolution.merged k member) ordered touches
  · rintro ⟨d,member,begins,ends⟩
    obtain ⟨g,made,within⟩ := exists_mergedFrom member
    obtain ⟨k,inKept,inside⟩ := resolution.covered g ⟨d,member,made⟩
    have whole := within.trans inside
    exact ⟨k,inKept,whole.1.trans_lt begins,ends.trans_le whole.2⟩

/-- From left to right the kept spans also end one after the other. -/
theorem Resolution.ordered {kept : List RecognizerResult} (resolution : Resolution results kept) :
    (arranged kept).Pairwise fun a b => a.start ≤ b.start ∧ a.stop ≤ b.stop := by
  refine (List.pairwise_insertionSort Before kept).imp_of_mem fun {a b} inA inB before => ?_
  have keptA := mem_arranged.mp inA
  have keptB := mem_arranged.mp inB
  have order : a.start < b.start ∨ a.start = b.start ∧ a.stop ≤ b.stop := before
  refine ⟨by omega,?_⟩
  by_contra shorter
  refine resolution.unbeaten b keptB a (resolution.merged a keptA) ⟨⟨by omega,by omega⟩,fun same => ?_⟩
  have ends := same.2
  omega

/-- Nothing is kept of an empty list. -/
theorem resolve_nil {resolve : List RecognizerResult → List RecognizerResult} (resolves : Resolves resolve) :
    resolve [] = [] := by
  refine List.eq_nil_iff_forall_not_mem.mpr fun g member => ?_
  obtain ⟨d,absent,_⟩ := (resolves []).merged g member
  cases absent

end

/-- A mediator that resolves conflicts by `resolve`. -/
def resolving (policy : Policy) (detect : List PyStr → PyStr → Except PyException (List RecognizerResult))
    (resolve : List RecognizerResult → List RecognizerResult) : PIIMediator :=
  ⟨policy,detect,resolvedAnonymizer resolve⟩

/-- The kept spans of the detections that `apply` hands on. -/
def kept (policy : Policy) (resolve : List RecognizerResult → List RecognizerResult) (results : List RecognizerResult) :
    List RecognizerResult := resolve (results.filter (mediated policy))

section
variable {policy : Policy} {detect : List PyStr → PyStr → Except PyException (List RecognizerResult)}
variable {resolve : List RecognizerResult → List RecognizerResult}

theorem anonymize_redacting (resolves : Resolves resolve) (text : PyStr) (chosen : List RecognizerResult) :
    (resolvedAnonymizer resolve).anonymize text chosen (redactOperators chosen) () =
      (.ok (splice text 0 ((arranged (resolve chosen)).map fun g => (g,redactionMarker g.entityType))),()) := by
  have typed : ∀ r ∈ (arranged (resolve chosen)).reverse, r.entityType ∈ chosen.map RecognizerResult.entityType :=
    fun r member => ((resolves chosen).merged r (by simpa using member)).entityType_mem
  simp only [resolvedAnonymizer,plainAnonymizer,runOperators_redact typed,List.map_reverse,List.reverse_reverse]

end

end PrivacyGateway.Conflicts
