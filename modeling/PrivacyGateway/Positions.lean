import Mathlib.Data.Finset.Card
import PrivacyGateway.Spans

/-!
Where a word stands in a list (`positions`), and what is left of its occurrences when
spans of the list are replaced. When no occurrence reaches into a replacement
(`Barrier`), those that remain are the ones no span touches (`card_positions_splice`).
-/
namespace PrivacyGateway.Positions
open PrivacyGateway.Spans Spanned

variable {α S : Type*} [DecidableEq α] [Spanned S]

/-- The positions at which the word begins. -/
def positions (word text : List α) : Finset Nat := (Finset.range text.length).filter fun i => word <+: text.drop i

/-- The word at `i` is clear of the span: it ends before it, or begins after it. -/
def Clear (word : List α) (i : Nat) (s : S) : Prop := stop s ≤ i ∨ i + word.length ≤ start s

instance (word : List α) (i : Nat) (s : S) : Decidable (Clear word i s) :=
  inferInstanceAs (Decidable (stop s ≤ i ∨ i + word.length ≤ start s))

/-- Wherever `out` is put, no occurrence of the word reaches into it. -/
def Barrier (word out : List α) : Prop :=
  ∀ (before after : List α) (i : Nat), word <+: (before ++ (out ++ after)).drop i →
    i + word.length ≤ before.length ∨ before.length + out.length ≤ i

section
variable {word : List α}

theorem mem_positions (filled : word ≠ []) {text : List α} {i : Nat} : i ∈ positions word text ↔ word <+: text.drop i := by
  rw [positions,Finset.mem_filter,Finset.mem_range,and_iff_right_iff_imp]
  intro stands
  by_contra beyond
  rw [List.drop_eq_nil_iff.mpr (Nat.not_lt.mp beyond),List.prefix_nil] at stands
  exact filled stands

omit [DecidableEq α] in
theorem prefix_drop_slice (filled : word ≠ []) {text : List α} {low high i : Nat} :
    word <+: (slice text low high).drop i ↔ word <+: text.drop (low + i) ∧ low + i + word.length ≤ high := by
  have size : 0 < word.length := List.length_pos_iff.mpr filled
  rw [slice,List.drop_drop,List.drop_take,List.prefix_take_iff]
  exact and_congr_right fun _ => by omega

/-- The occurrences in a slice are those in the text that lie in it. -/
theorem card_positions_slice (filled : word ≠ []) (text : List α) (low high : Nat) :
    (positions word (slice text low high)).card =
      ((positions word text).filter fun i => low ≤ i ∧ i + word.length ≤ high).card := by
  rw [← Finset.card_map (addLeftEmbedding low)]
  congr 1
  ext i
  simp only [Finset.mem_map,mem_positions filled,prefix_drop_slice filled,addLeftEmbedding_apply,Finset.mem_filter]
  constructor
  · rintro ⟨k,⟨stands,ends⟩,rfl⟩
    exact ⟨stands,Nat.le_add_right low k,ends⟩
  · rintro ⟨stands,begins,ends⟩
    refine ⟨i - low,?_⟩
    rw [Nat.add_sub_cancel' begins]
    exact ⟨⟨stands,ends⟩,rfl⟩

theorem card_positions_drop (filled : word ≠ []) (text : List α) (low : Nat) :
    (positions word (text.drop low)).card = ((positions word text).filter fun i => low ≤ i).card := by
  have whole : text.drop low = slice text low text.length := by rw [slice,List.take_length]
  rw [whole,card_positions_slice filled]
  congr 1
  refine Finset.filter_congr fun i member => and_iff_left_of_imp fun _ => ?_
  have size := ((mem_positions filled).mp member).length_le
  have inside := Finset.mem_range.mp (Finset.mem_filter.mp member).1
  rw [List.length_drop] at size
  omega

/-- A barrier separates the occurrences before it from those after it. -/
theorem card_positions_barrier (filled : word ≠ []) {out : List α} (barrier : Barrier word out) (before after : List α) :
    (positions word (before ++ (out ++ after))).card = (positions word before).card + (positions word after).card := by
  have split : positions word (before ++ (out ++ after)) =
      positions word before ∪ (positions word after).map (addLeftEmbedding (before.length + out.length)) := by
    ext i
    simp only [Finset.mem_union,Finset.mem_map,mem_positions filled,addLeftEmbedding_apply]
    constructor
    · intro stands
      rcases barrier before after i stands with within | beyond
      · refine .inl ?_
        rw [List.drop_append_of_le_length (by omega)] at stands
        exact List.prefix_of_prefix_length_le stands (List.prefix_append _ _) (by rw [List.length_drop]; omega)
      · refine .inr ⟨i - (before.length + out.length),?_,Nat.add_sub_cancel' beyond⟩
        rwa [← List.append_assoc,List.drop_append,List.drop_eq_nil_iff.mpr (by simpa using beyond),List.nil_append,
          List.length_append] at stands
    · rintro (stands | ⟨k,stands,rfl⟩)
      · have inside : i < before.length := by
          by_contra beyond
          rw [List.drop_eq_nil_iff.mpr (Nat.not_lt.mp beyond),List.prefix_nil] at stands
          exact filled stands
        rw [List.drop_append_of_le_length inside.le]
        exact stands.trans (List.prefix_append _ _)
      · rw [← List.append_assoc,← List.length_append,List.drop_append,List.drop_eq_nil_iff.mpr (by omega),
          List.nil_append,Nat.add_sub_cancel_left]
        exact stands
  have apart : Disjoint (positions word before) ((positions word after).map (addLeftEmbedding (before.length + out.length))) := by
    refine Finset.disjoint_left.mpr fun i early late => ?_
    obtain ⟨k,_,rfl⟩ := Finset.mem_map.mp late
    have inside := Finset.mem_range.mp (Finset.mem_filter.mp early).1
    rw [addLeftEmbedding_apply] at inside
    omega
  rw [split,Finset.card_union_of_disjoint apart,Finset.card_map]

/-- After the replacement of spans that follow each other, though they may overlap, the
    word stands as often as no span touches it. -/
theorem card_positions_splice (filled : word ≠ []) (text : List α) {pos : Nat} {placed : List (S × List α)}
    (barriers : ∀ p ∈ placed, Barrier word p.2) (formed : ∀ p ∈ placed, start p.1 ≤ stop p.1)
    (ordered : placed.Pairwise fun p q => start p.1 ≤ start q.1 ∧ stop p.1 ≤ stop q.1)
    (after : ∀ p ∈ placed, pos ≤ stop p.1) :
    (positions word (splice text pos placed)).card =
      ((positions word text).filter fun i => pos ≤ i ∧ ∀ p ∈ placed, Clear word i p.1).card := by
  have size : 0 < word.length := List.length_pos_iff.mpr filled
  induction placed generalizing pos with
  | nil =>
    rw [splice,card_positions_drop filled]
    simp
  | cons p rest ih =>
    obtain ⟨s,out⟩ := p
    obtain ⟨first,ordered⟩ := List.pairwise_cons.mp ordered
    have here := formed (s,out) List.mem_cons_self
    have low := after (s,out) List.mem_cons_self
    rw [splice,card_positions_barrier filled (barriers (s,out) List.mem_cons_self),card_positions_slice filled,
      ih (fun p member => barriers p (List.mem_cons_of_mem _ member))
        (fun p member => formed p (List.mem_cons_of_mem _ member)) ordered (fun p member => (first p member).2),
      ← Finset.card_union_of_disjoint]
    · congr 1
      ext i
      rw [Finset.mem_union,Finset.mem_filter,Finset.mem_filter,Finset.mem_filter,List.forall_mem_cons]
      -- Either before the first span, and so before the others, or after it.
      constructor
      · rintro (⟨stands,begins,ends⟩ | ⟨stands,begins,clear⟩)
        · exact ⟨stands,begins,Or.inr ends,fun p member => Or.inr (ends.trans (first p member).1)⟩
        · exact ⟨stands,low.trans begins,Or.inl begins,clear⟩
      · rintro ⟨stands,begins,later | ends,clear⟩
        · exact .inr ⟨stands,later,clear⟩
        · exact .inl ⟨stands,begins,ends⟩
    · refine Finset.disjoint_left.mpr fun i early late => ?_
      have ends : i + word.length ≤ start s := (Finset.mem_filter.mp early).2.2
      have begins : stop s ≤ i := (Finset.mem_filter.mp late).2.1
      dsimp only at here
      omega

/-- The replacement leaves all occurrences of the word just when no span touches one. -/
theorem positions_kept_iff (filled : word ≠ []) (text : List α) {placed : List (S × List α)}
    (barriers : ∀ p ∈ placed, Barrier word p.2) (formed : ∀ p ∈ placed, start p.1 ≤ stop p.1)
    (ordered : placed.Pairwise fun p q => start p.1 ≤ start q.1 ∧ stop p.1 ≤ stop q.1) :
    (positions word text).card ≤ (positions word (splice text 0 placed)).card ↔
      ∀ i ∈ positions word text, ∀ p ∈ placed, Clear word i p.1 := by
  rw [card_positions_splice filled text barriers formed ordered fun _ _ => Nat.zero_le _]
  simp only [Nat.zero_le,true_and]
  constructor
  · intro enough
    exact Finset.filter_eq_self.mp (Finset.eq_of_subset_of_card_le (Finset.filter_subset _ _) enough)
  · exact fun clear => (Finset.filter_eq_self.mpr clear).symm ▸ le_rfl

end

end PrivacyGateway.Positions
