import Mathlib.Data.List.Sort
import Mathlib.Tactic

/-!
Disjoint spans of a list and their replacement. `arranged` puts spans in their
order of position; pairwise disjoint spans then form a `Ladder`. `splice` writes a
replacement in the place of each span and keeps what lies outside, so the result
depends on the list only through its `gaps` (`splice_eq_weave`), and a span whose
replacement is its own content need not be given (`splice_filter`).
-/
namespace PrivacyGateway.Spans

/-- A span covers the positions from `start` up to `stop`. -/
class Spanned (S : Type*) where
  start : S → Nat
  stop : S → Nat

open Spanned
variable {α S : Type*} [Spanned S]

/-- `text[low:high]` -/
def slice (text : List α) (low high : Nat) : List α := (text.take high).drop low

/-- The order of position. -/
def Before (a b : S) : Prop := start a < start b ∨ start a = start b ∧ stop a ≤ stop b

instance : DecidableRel (@Before S _) := fun _ _ => inferInstanceAs (Decidable (_ ∨ _))
instance : Std.Total (@Before S _) := ⟨fun a b => by unfold Before; omega⟩
instance : IsTrans S Before := ⟨fun a b c => by unfold Before; omega⟩

/-- The spans from left to right. -/
def arranged (spans : List S) : List S := spans.insertionSort Before

/-- Spans inside a list of the given size, no two of which overlap. -/
structure Separate (size : Nat) (spans : List S) : Prop where
  inside : ∀ s ∈ spans, start s ≤ stop s ∧ stop s ≤ size
  disjoint : spans.Pairwise (fun a b => stop a ≤ start b ∨ stop b ≤ start a)

/-- Each span begins where the one before it has ended. -/
def Ladder (size : Nat) : Nat → List S → Prop
  | pos, [] => pos ≤ size
  | pos, s :: rest => pos ≤ start s ∧ start s ≤ stop s ∧ Ladder size (stop s) rest

/-- `text` from `pos` on, each span replaced by what stands beside it. -/
def splice (text : List α) : Nat → List (S × List α) → List α
  | pos, [] => text.drop pos
  | pos, (s,out) :: rest => slice text pos (start s) ++ (out ++ splice text (stop s) rest)

/-- What lies outside the spans, from `pos` on. -/
def gaps (text : List α) : Nat → List S → List (List α)
  | pos, [] => [text.drop pos]
  | pos, s :: rest => slice text pos (start s) :: gaps text (stop s) rest

/-- Gaps and replacements in turn. -/
def weave : List (List α) → List (List α) → List α
  | gap :: gaps, out :: outs => gap ++ (out ++ weave gaps outs)
  | gaps, _ => gaps.flatten

theorem arranged_perm (spans : List S) : (arranged spans).Perm spans := List.perm_insertionSort _ _

@[simp] theorem mem_arranged {s : S} {spans : List S} : s ∈ arranged spans ↔ s ∈ spans :=
  (arranged_perm spans).mem_iff

private theorem filter_orderedInsert (keep : S → Bool) (s : S) {spans : List S} (sorted : spans.Pairwise Before) :
    (spans.orderedInsert Before s).filter keep =
      if keep s then (spans.filter keep).orderedInsert Before s else spans.filter keep := by
  induction spans with
  | nil => cases kept : keep s <;> simp [kept]
  | cons t rest ih =>
    obtain ⟨first,sorted⟩ := List.pairwise_cons.mp sorted
    rw [List.orderedInsert_cons]
    by_cases before : Before s t
    · rw [if_pos before]
      cases kept : keep s with
      | false => simp [kept]
      | true =>
        -- Everything kept comes after `s`, since it is sorted after `t`.
        have leads : ∀ u ∈ (t :: rest).filter keep, Before s u := by
          intro u member
          rcases List.mem_cons.mp (List.mem_filter.mp member).1 with rfl | later
          · exact before
          · exact IsTrans.trans _ _ _ before (first u later)
        rw [List.filter_cons_of_pos kept,if_pos rfl]
        cases others : (t :: rest).filter keep with
        | nil => rfl
        | cons u more =>
          rw [List.orderedInsert_cons,if_pos (leads u (by rw [others]; exact List.mem_cons_self))]
    · rw [if_neg before]
      cases keptT : keep t with
      | false => simp [keptT,ih sorted]
      | true =>
        rw [List.filter_cons_of_pos keptT,List.filter_cons_of_pos keptT,ih sorted]
        cases kept : keep s with
        | false => simp
        | true => simp [List.orderedInsert_cons,before]

/-- Arranging commutes with choosing some of the spans. -/
theorem filter_arranged (keep : S → Bool) (spans : List S) :
    (arranged spans).filter keep = arranged (spans.filter keep) := by
  induction spans with
  | nil => rfl
  | cons s rest ih =>
    unfold arranged at ih ⊢
    rw [List.insertionSort_cons,filter_orderedInsert keep s (List.pairwise_insertionSort Before rest),ih]
    cases kept : keep s with
    | false => simp [kept]
    | true => simp [kept]

theorem Separate.filter {size : Nat} {spans : List S} (separate : Separate size spans) (keep : S → Bool) :
    Separate size (spans.filter keep) :=
  ⟨fun s member => separate.inside s (List.mem_filter.mp member).1,separate.disjoint.filter keep⟩

private theorem ladder_of_sorted {size pos : Nat} {spans : List S} (sorted : spans.Pairwise Before)
    (separate : Separate size spans) (fits : pos ≤ size) (after : ∀ s ∈ spans, pos ≤ start s) :
    Ladder size pos spans := by
  induction spans generalizing pos with
  | nil => exact fits
  | cons s rest ih =>
    obtain ⟨first,sorted⟩ := List.pairwise_cons.mp sorted
    obtain ⟨apart,disjoint⟩ := List.pairwise_cons.mp separate.disjoint
    obtain ⟨ordered,inside⟩ := separate.inside s List.mem_cons_self
    have insideRest : ∀ t ∈ rest, start t ≤ stop t ∧ stop t ≤ size :=
      fun t member => separate.inside t (List.mem_cons_of_mem s member)
    refine ⟨after s List.mem_cons_self,ordered,ih sorted ⟨insideRest,disjoint⟩ inside ?_⟩
    intro t member
    have order := first t member
    have gap := apart t member
    have := (insideRest t member).1
    unfold Before at order
    omega

theorem ladder_arranged {size : Nat} {spans : List S} (separate : Separate size spans) :
    Ladder size 0 (arranged spans) := by
  have disjoint := (arranged_perm spans).symm.pairwise separate.disjoint (fun apart => apart.symm)
  exact ladder_of_sorted (List.pairwise_insertionSort Before spans)
    ⟨fun s member => separate.inside s (mem_arranged.mp member),disjoint⟩ (Nat.zero_le _) (fun _ _ => Nat.zero_le _)

theorem ladder_mono {size pos low : Nat} {spans : List S} (le : low ≤ pos) (ladder : Ladder size pos spans) :
    Ladder size low spans := by
  cases spans with
  | nil => exact le.trans ladder
  | cons s rest => exact ⟨le.trans ladder.1,ladder.2⟩

theorem ladder_sublist {size pos : Nat} {spans chosen : List S} (ladder : Ladder size pos spans)
    (sub : chosen.Sublist spans) : Ladder size pos chosen := by
  induction sub generalizing pos with
  | slnil => exact ladder
  | cons s _ ih => exact ladder_mono (ladder.1.trans ladder.2.1) (ih ladder.2.2)
  | cons_cons s _ ih => exact ⟨ladder.1,ladder.2.1,ih ladder.2.2⟩

theorem slice_drop (text : List α) {a b : Nat} (ab : a ≤ b) : slice text a b ++ text.drop b = text.drop a := by
  unfold slice
  conv_rhs => rw [← List.take_append_drop b text]
  rw [List.drop_append]
  rcases Nat.le_total b text.length with inside | outside
  · simp [Nat.min_eq_left inside,Nat.sub_eq_zero_of_le ab]
  · simp [List.drop_eq_nil_iff.mpr outside]

theorem slice_append (text : List α) {a b c : Nat} (ab : a ≤ b) (bc : b ≤ c) :
    slice text a b ++ slice text b c = slice text a c := by
  have inner : slice text a b = slice (text.take c) a b := by
    rw [slice,slice,List.take_take,Nat.min_eq_left bc]
  rw [inner]
  exact slice_drop (text.take c) ab

/-- A splice begins with the text up to where the ladder begins. -/
theorem splice_advance (text : List α) {pos next : Nat} {placed : List (S × List α)} (le : pos ≤ next)
    (ladder : Ladder text.length next (placed.map Prod.fst)) :
    splice text pos placed = slice text pos next ++ splice text next placed := by
  cases placed with
  | nil => exact (slice_drop text le).symm
  | cons p rest =>
    obtain ⟨s,out⟩ := p
    rw [splice,splice,← List.append_assoc (slice text pos next),slice_append text le ladder.1]

/-- A span that is replaced by what it covers may be left out. -/
theorem splice_filter (text : List α) (keep : S × List α → Bool) {pos : Nat} {placed : List (S × List α)}
    (ladder : Ladder text.length pos (placed.map Prod.fst))
    (same : ∀ p ∈ placed, keep p = false → p.2 = slice text (start p.1) (stop p.1)) :
    splice text pos (placed.filter keep) = splice text pos placed := by
  induction placed generalizing pos with
  | nil => rfl
  | cons p rest ih =>
    obtain ⟨s,out⟩ := p
    obtain ⟨low,ordered,ladder⟩ := ladder
    have tail := ih ladder (fun q member => same q (List.mem_cons_of_mem _ member))
    cases kept : keep (s,out) with
    | true => rw [List.filter_cons_of_pos kept,splice,splice,tail]
    | false =>
      have content : out = slice text (start s) (stop s) := same (s,out) List.mem_cons_self kept
      have ladder' : Ladder text.length (stop s) ((rest.filter keep).map Prod.fst) :=
        ladder_sublist ladder (List.filter_sublist.map _)
      rw [List.filter_cons_of_neg (by simp [kept]),splice_advance text (low.trans ordered) ladder',tail,splice,
        content,← List.append_assoc,slice_append text low ordered]

theorem splice_eq_weave (text : List α) (pos : Nat) (placed : List (S × List α)) :
    splice text pos placed = weave (gaps text pos (placed.map Prod.fst)) (placed.map Prod.snd) := by
  induction placed generalizing pos with
  | nil => simp [splice,gaps,weave]
  | cons p rest ih =>
    obtain ⟨s,out⟩ := p
    rw [splice,ih]
    rfl

/-- The first gap begins where it is asked to, further left than the spans require. -/
theorem gaps_advance (text : List α) {pos next : Nat} {spans : List S} (le : pos ≤ next)
    (ladder : Ladder text.length next spans) :
    gaps text pos spans = (gaps text next spans).modifyHead (slice text pos next ++ ·) := by
  cases spans with
  | nil => simp [gaps,slice_drop text le]
  | cons s rest => simp [gaps,slice_append text le ladder.1]

/-- Two lists with the same gaps keep them when spans of the same content are left out. -/
theorem gaps_filter_congr {text other : List α} (keep : S → Bool) {pos pos' : Nat} {spans spans' : List S}
    (ladder : Ladder text.length pos spans) (ladder' : Ladder other.length pos' spans')
    (same : List.Forall₂ (fun a b => keep a = keep b ∧
      (keep a = false → slice text (start a) (stop a) = slice other (start b) (stop b))) spans spans')
    (outside : gaps text pos spans = gaps other pos' spans') :
    gaps text pos (spans.filter keep) = gaps other pos' (spans'.filter keep) := by
  induction same generalizing pos pos' with
  | nil => exact outside
  | @cons a b rest rest' here _ ih =>
    obtain ⟨first,others⟩ := List.cons.inj outside
    have tail := ih ladder.2.2 ladder'.2.2 others
    cases kept : keep a with
    | true =>
      rw [List.filter_cons_of_pos kept,List.filter_cons_of_pos (here.1 ▸ kept),gaps,gaps,first,tail]
    | false =>
      have content := here.2 kept
      rw [List.filter_cons_of_neg (by simp [kept]),List.filter_cons_of_neg (by simp [← here.1,kept]),
        gaps_advance text (ladder.1.trans ladder.2.1) (ladder_sublist ladder.2.2 List.filter_sublist),
        gaps_advance other (ladder'.1.trans ladder'.2.1) (ladder_sublist ladder'.2.2 List.filter_sublist),tail,
        ← slice_append text ladder.1 ladder.2.1,← slice_append other ladder'.1 ladder'.2.1,first,content]

end PrivacyGateway.Spans
