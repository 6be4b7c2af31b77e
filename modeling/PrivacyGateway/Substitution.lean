import PrivacyGateway.Scan
import PrivacyGateway.Spans

/-!
Replacing every occurrence of every word of a table at once (`substituteAll`): the
occurrences are taken from the text as it is, so what is inserted is not looked at.
For words of a prefix-free pattern that cannot overlap the occurrences lie apart, and
a left-to-right scan replaces the same ones (`sub_eq_substituteAll`).
-/
namespace PrivacyGateway.Substitution
open PrivacyGateway.Scan PrivacyGateway.Spans

/-- A word of the table stands at `text[start:stop]`. -/
structure Occurrence where
  start : Nat
  stop : Nat
  deriving DecidableEq

instance : Spanned Occurrence := ⟨Occurrence.start,Occurrence.stop⟩

section
variable {α : Type*} {items : List (Item α)} {replace : List α → List α} {table : List (List α × List α)} {text : List α}

/-- The table lists words of the pattern, each once, and `replace` does what the table
    says and nothing else. -/
structure Tabulates (items : List (Item α)) (replace : List α → List α) (table : List (List α × List α)) : Prop where
  spelled : ∀ entry ∈ table, Spells items entry.1
  distinct : (table.map Prod.fst).Nodup
  listed : ∀ entry ∈ table, replace entry.1 = entry.2
  unlisted : ∀ word, word ∉ table.map Prod.fst → replace word = word

/-- What stands at the position of a match is the match. -/
private theorem word_at (free : PrefixFree items) (tabulates : Tabulates items replace table) {word left stretch : List α}
    (same : stretch = word ++ left) (spelled : Spells items word) :
    ∀ entry ∈ table, entry.1 <+: stretch → entry.1 = word := by
  intro entry listed here
  have stands : word <+: stretch := same ▸ List.prefix_append word left
  rcases List.prefix_or_prefix_of_prefix here stands with shorter | longer
  · exact free.unique (tabulates.spelled entry listed) spelled shorter
  · exact (free.unique spelled (tabulates.spelled entry listed) longer).symm

/-- No word of the table begins inside a match. -/
private theorem none_inside (apart : Apart items) (tabulates : Tabulates items replace table) {pos i : Nat}
    {word left : List α} (same : text.drop pos = word ++ left) (spelled : Spells items word) (after : pos < i)
    (inside : i < pos + word.length) (within : pos + word.length ≤ text.length) :
    ∀ entry ∈ table, ¬ entry.1 <+: text.drop i := by
  rintro entry listed ⟨rest,here⟩
  have cut : text.take pos ++ word ++ left = text.take i ++ entry.1 ++ rest := by
    rw [List.append_assoc,List.append_assoc,← same,here,List.take_append_drop,List.take_append_drop]
  have beyond := apart cut spelled (tabulates.spelled entry listed) (by simp only [List.length_take]; omega)
  simp only [List.length_append,List.length_take] at beyond
  omega

private theorem slice_of_drop {pos : Nat} {word left : List α} (same : text.drop pos = word ++ left) :
    slice text pos (pos + word.length) = word := by
  rw [slice,List.drop_take,same,Nat.add_sub_cancel_left,List.take_left]

end

variable {α : Type*} [DecidableEq α]

/-- The words of the table that stand at a position, with what replaces them. -/
def occurrencesAt (table : List (List α × List α)) (text : List α) (i : Nat) : List (Occurrence × List α) :=
  table.filterMap fun entry =>
    if entry.1 <+: text.drop i then some (⟨i,i + entry.1.length⟩,entry.2) else none

/-- The occurrences at `count` positions from `low` on. -/
def occurrencesFrom (table : List (List α × List α)) (text : List α) (low count : Nat) : List (Occurrence × List α) :=
  (List.range' low count).flatMap (occurrencesAt table text)

/-- Every occurrence of every word of the table, from left to right. -/
def occurrences (table : List (List α × List α)) (text : List α) : List (Occurrence × List α) :=
  occurrencesFrom table text 0 text.length

/-- The text with all of them replaced. -/
def substituteAll (table : List (List α × List α)) (text : List α) : List α := splice text 0 (occurrences table text)

variable {table : List (List α × List α)} {text : List α}

theorem mem_occurrencesAt {i : Nat} {o : Occurrence × List α} :
    o ∈ occurrencesAt table text i ↔
      ∃ entry ∈ table, entry.1 <+: text.drop i ∧ o = (⟨i,i + entry.1.length⟩,entry.2) := by
  simp only [occurrencesAt,List.mem_filterMap]
  refine exists_congr fun entry => and_congr_right fun _ => ?_
  split_ifs with here
  · simp [here,eq_comm]
  · simp [here]

theorem occurrencesAt_nil {i : Nat} (missing : ∀ entry ∈ table, ¬ entry.1 <+: text.drop i) :
    occurrencesAt table text i = [] := by
  refine List.eq_nil_iff_forall_not_mem.mpr fun o member => ?_
  obtain ⟨entry,listed,here,_⟩ := mem_occurrencesAt.mp member
  exact missing entry listed here

theorem occurrencesAt_single {i : Nat} {word value : List α} (distinct : (table.map Prod.fst).Nodup)
    (listed : (word,value) ∈ table) (here : word <+: text.drop i)
    (only : ∀ entry ∈ table, entry.1 <+: text.drop i → entry.1 = word) :
    occurrencesAt table text i = [(⟨i,i + word.length⟩,value)] := by
  induction table with
  | nil => cases listed
  | cons entry rest ih =>
    rw [List.map_cons,List.nodup_cons] at distinct
    rcases List.mem_cons.mp listed with rfl | later
    · have others : occurrencesAt rest text i = [] := by
        refine occurrencesAt_nil fun other member stands => distinct.1 ?_
        have same : other.1 = word := only other (List.mem_cons_of_mem _ member) stands
        exact List.mem_map.mpr ⟨other,member,same⟩
      simp only [occurrencesAt,List.filterMap_cons,if_pos here]
      exact congrArg _ others
    · have absent : ¬ entry.1 <+: text.drop i := by
        intro stands
        rw [only entry List.mem_cons_self stands] at distinct
        exact distinct.1 (List.mem_map_of_mem later)
      simp only [occurrencesAt,List.filterMap_cons,if_neg absent]
      exact ih distinct.2 later fun other member => only other (List.mem_cons_of_mem _ member)

theorem occurrencesFrom_nil {low count : Nat}
    (missing : ∀ i, low ≤ i → i < low + count → ∀ entry ∈ table, ¬ entry.1 <+: text.drop i) :
    occurrencesFrom table text low count = [] := by
  refine List.flatMap_eq_nil_iff.mpr fun i member => occurrencesAt_nil ?_
  obtain ⟨above,below⟩ := List.mem_range'_1.mp member
  exact missing i above below

theorem occurrencesFrom_append (table : List (List α × List α)) (text : List α) (low first second : Nat) :
    occurrencesFrom table text low (first + second) =
      occurrencesFrom table text low first ++ occurrencesFrom table text (low + first) second := by
  rw [occurrencesFrom,← List.range'_append_1,List.flatMap_append]
  rfl

theorem occurrencesFrom_succ (table : List (List α × List α)) (text : List α) (low count : Nat) :
    occurrencesFrom table text low (count + 1) =
      occurrencesAt table text low ++ occurrencesFrom table text (low + 1) count := by
  rw [occurrencesFrom,List.range'_succ,List.flatMap_cons]
  rfl

/-- A text in which no word of the table stands is left alone. -/
theorem substituteAll_self (missing : ∀ entry ∈ table, ¬ entry.1 <:+: text) : substituteAll table text = text := by
  have nowhere : occurrences table text = [] :=
    occurrencesFrom_nil fun i _ _ entry listed here =>
      missing entry listed (here.isInfix.trans (List.drop_suffix i text).isInfix)
  rw [substituteAll,nowhere,splice,List.drop_zero]

section
variable {items : List (Item α)} {replace : List α → List α}

/-- From any position on, the scan replaces the occurrences that begin there or later,
    and these lie apart. -/
private theorem sub_drop (free : PrefixFree items) (apart : Apart items) (tabulates : Tabulates items replace table)
    {count pos : Nat} (whole : pos + count = text.length) :
    Ladder text.length pos ((occurrencesFrom table text pos count).map Prod.fst) ∧
      sub items replace (text.drop pos) = splice text pos (occurrencesFrom table text pos count) := by
  induction count using Nat.strong_induction_on generalizing pos with
  | _ count ih =>
    cases count with
    | zero =>
      have done : text.drop pos = [] := List.drop_eq_nil_iff.mpr (by omega)
      exact ⟨whole.le,by rw [done,sub_nil,occurrencesFrom,List.range'_zero,List.flatMap_nil,splice,done]⟩
    | succ count =>
      have more : text.drop pos = text[pos] :: text.drop (pos + 1) := List.drop_eq_getElem_cons (by omega)
      cases found : matchRest items (text.drop pos) with
      | none =>
        have missing : occurrencesAt table text pos = [] := by
          refine occurrencesAt_nil ?_
          rintro entry listed ⟨rest,here⟩
          rw [← here,matchRest_of_spells free (tabulates.spelled entry listed)] at found
          cases found
        obtain ⟨ladder,scanned⟩ := ih count (by omega) (by omega : pos + 1 + count = text.length)
        rw [occurrencesFrom_succ,missing,List.nil_append]
        refine ⟨ladder_mono (by omega) ladder,?_⟩
        have skipped : slice text pos (pos + 1) = [text[pos]] :=
          slice_of_drop (show text.drop pos = [text[pos]] ++ text.drop (pos + 1) from more)
        rw [splice_advance text (by omega) ladder,← scanned,skipped]
        rw [more] at found ⊢
        rw [sub_skip free found,List.singleton_append]
      | some left =>
        obtain ⟨word,same,spelled⟩ := matchRest_sound found
        have size : 0 < word.length := List.length_pos_iff.mpr fun empty => free.nonempty (empty ▸ spelled)
        have within : pos + word.length ≤ text.length := by
          have := congrArg List.length same
          simp only [List.length_drop,List.length_append] at this
          omega
        have rest : left = text.drop (pos + word.length) := by rw [← List.drop_drop,same,List.drop_left]
        obtain ⟨later,counted⟩ := Nat.exists_eq_add_of_le (show word.length ≤ count + 1 by omega)
        obtain ⟨inner,sized⟩ := Nat.exists_eq_add_of_le' size
        obtain ⟨ladder,scanned⟩ := ih later (by omega) (by omega : pos + word.length + later = text.length)
        have inside : occurrencesFrom table text (pos + 1) inner = [] :=
          occurrencesFrom_nil fun i above below => none_inside apart tabulates same spelled (by omega) (by omega) within
        have here : occurrencesFrom table text pos (count + 1) =
            occurrencesAt table text pos ++ occurrencesFrom table text (pos + word.length) later := by
          rw [counted,occurrencesFrom_append,sized,occurrencesFrom_succ,inside,List.append_nil]
        rw [here,same,sub_word free spelled,rest,scanned]
        by_cases listed : word ∈ table.map Prod.fst
        · obtain ⟨⟨_,value⟩,member,rfl⟩ := List.mem_map.mp listed
          rw [occurrencesAt_single tabulates.distinct member (same ▸ List.prefix_append _ _)
            (word_at free tabulates same spelled),tabulates.listed _ member]
          have nothing : slice text pos pos = [] := by rw [slice,List.drop_take,Nat.sub_self,List.take_zero]
          exact ⟨⟨le_rfl,Nat.le_add_right _ _,ladder⟩,(congrArg (· ++ _) nothing).symm⟩
        · have missing : occurrencesAt table text pos = [] := by
            refine occurrencesAt_nil fun entry member stands => listed ?_
            rw [← word_at free tabulates same spelled entry member stands]
            exact List.mem_map_of_mem member
          rw [missing,List.nil_append,tabulates.unlisted word listed]
          refine ⟨ladder_mono (by omega) ladder,?_⟩
          rw [splice_advance text (Nat.le_add_right pos word.length) ladder,slice_of_drop same]

/-- No two occurrences of words of the table overlap. -/
theorem ladder_occurrences (free : PrefixFree items) (apart : Apart items) (tabulates : Tabulates items replace table)
    (text : List α) : Ladder text.length 0 ((occurrences table text).map Prod.fst) :=
  (sub_drop free apart tabulates (Nat.zero_add _)).1

/-- The scan from left to right replaces every occurrence, and nothing else. -/
theorem sub_eq_substituteAll (free : PrefixFree items) (apart : Apart items) (tabulates : Tabulates items replace table)
    (text : List α) : sub items replace text = substituteAll table text :=
  (sub_drop free apart tabulates (Nat.zero_add _)).2

end

end PrivacyGateway.Substitution
