import Mathlib.Data.List.Basic
import Mathlib.Tactic

/-!
Patterns and substitution over lists, as a backtracking regular-expression engine
computes them. A pattern is a sequence of single characters and of runs, each of
a class; runs are greedy and give characters back (`matchRest`). `sub` replaces
the matches from left to right, without looking at what it has inserted. For a
pattern whose words are prefix-free the match is the word itself, whatever
follows it (`matchRest_of_spells`), and a stretch of text that no match leaves is
scanned alone (`sub_append`).
-/
namespace PrivacyGateway.Scan

variable {α : Type*}

/-- One character of a class, or a run of any length of it. -/
inductive Item (α : Type*) where
  | one (cls : α → Bool)
  | many (cls : α → Bool)

/-- The words of a pattern. -/
def Spells : List (Item α) → List α → Prop
  | [], word => word = []
  | .one cls :: items, word => ∃ c rest, word = c :: rest ∧ cls c = true ∧ Spells items rest
  | .many cls :: items, word =>
    ∃ run rest, word = run ++ rest ∧ (∀ c ∈ run, cls c = true) ∧ Spells items rest

/-- The characters of a word, one after the other. -/
def literal [DecidableEq α] (word : List α) : List (Item α) := word.map (fun c => .one (· = c))

theorem spells_append {first second : List (Item α)} {word : List α} :
    Spells (first ++ second) word ↔ ∃ a b, word = a ++ b ∧ Spells first a ∧ Spells second b := by
  induction first generalizing word with
  | nil =>
    constructor
    · intro spelled
      exact ⟨[],word,rfl,rfl,spelled⟩
    · rintro ⟨_,b,rfl,rfl,spelled⟩
      exact spelled
  | cons item first ih =>
    cases item with
    | one cls =>
      constructor
      · rintro ⟨c,rest,rfl,inside,spelled⟩
        obtain ⟨a,b,rfl,left,right⟩ := ih.mp spelled
        exact ⟨c :: a,b,rfl,⟨c,a,rfl,inside,left⟩,right⟩
      · rintro ⟨_,b,rfl,⟨c,a,rfl,inside,left⟩,right⟩
        exact ⟨c,a ++ b,rfl,inside,ih.mpr ⟨a,b,rfl,left,right⟩⟩
    | many cls =>
      constructor
      · rintro ⟨run,rest,rfl,all,spelled⟩
        obtain ⟨a,b,rfl,left,right⟩ := ih.mp spelled
        exact ⟨run ++ a,b,by simp,⟨run,a,rfl,all,left⟩,right⟩
      · rintro ⟨_,b,rfl,⟨run,a,rfl,all,left⟩,right⟩
        exact ⟨run,a ++ b,by simp,all,ih.mpr ⟨a,b,rfl,left,right⟩⟩

theorem spells_literal [DecidableEq α] {word other : List α} : Spells (literal word) other ↔ other = word := by
  induction word generalizing other with
  | nil => exact Iff.rfl
  | cons c word ih =>
    constructor
    · rintro ⟨d,rest,rfl,inside,spelled⟩
      rw [ih.mp spelled,of_decide_eq_true inside]
    · rintro rfl
      exact ⟨c,word,rfl,decide_eq_true rfl,ih.mpr rfl⟩

theorem spells_replicate {cls : α → Bool} {n : Nat} {word : List α} :
    Spells (List.replicate n (.one cls)) word ↔ word.length = n ∧ ∀ c ∈ word, cls c = true := by
  induction n generalizing word with
  | zero =>
    constructor
    · rintro rfl
      exact ⟨rfl,by simp⟩
    · rintro ⟨empty,_⟩
      exact List.length_eq_zero_iff.mp empty
  | succ n ih =>
    constructor
    · rintro ⟨c,rest,rfl,inside,spelled⟩
      obtain ⟨size,all⟩ := ih.mp spelled
      exact ⟨by simp [size],by simpa [inside] using all⟩
    · rintro ⟨size,all⟩
      cases word with
      | nil => simp at size
      | cons c rest =>
        refine ⟨c,rest,rfl,all c List.mem_cons_self,ih.mpr ⟨by simpa using size,?_⟩⟩
        exact fun d member => all d (List.mem_cons_of_mem c member)

/-- One character of a class and then a run of another. -/
theorem spells_name {head tail : α → Bool} {word : List α} :
    Spells [.one head,.many tail] word ↔
      ∃ c run, word = c :: run ∧ head c = true ∧ ∀ d ∈ run, tail d = true := by
  constructor
  · rintro ⟨c,_,rfl,inside,run,rest,rfl,all,rfl⟩
    exact ⟨c,run,by simp,inside,all⟩
  · rintro ⟨c,run,rfl,inside,all⟩
    exact ⟨c,run,rfl,inside,run,[],by simp,all,rfl⟩

/-- The longest run first, then shorter ones. -/
def manyThen (cls : α → Bool) (next : List α → Option (List α)) : List α → Option (List α)
  | [] => next []
  | c :: rest => if cls c then (manyThen cls next rest).or (next (c :: rest)) else next (c :: rest)

/-- What follows the preferred match at the start of the text. -/
def matchRest : List (Item α) → List α → Option (List α)
  | [], text => some text
  | .one _ :: _, [] => none
  | .one cls :: items, c :: rest => if cls c then matchRest items rest else none
  | .many cls :: items, text => manyThen cls (matchRest items) text

/-- Scanning from left to right; `fuel` bounds the number of matches and skips. -/
def subWithin (items : List (Item α)) (replace : List α → List α) : Nat → List α → List α
  | 0, text => text
  | _ + 1, [] => []
  | fuel + 1, c :: text =>
    match matchRest items (c :: text) with
    | some rest =>
      replace ((c :: text).take ((c :: text).length - rest.length)) ++ subWithin items replace fuel rest
    | none => c :: subWithin items replace fuel text

/-- Every match replaced, for a pattern that does not match the empty word. -/
def sub (items : List (Item α)) (replace : List α → List α) (text : List α) : List α :=
  subWithin items replace text.length text

private theorem manyThen_sound {cls : α → Bool} {next : List α → Option (List α)} {text rest : List α}
    (found : manyThen cls next text = some rest) :
    ∃ run tail, text = run ++ tail ∧ (∀ c ∈ run, cls c = true) ∧ next tail = some rest := by
  induction text with
  | nil => exact ⟨[],[],rfl,by simp,found⟩
  | cons c text ih =>
    rw [manyThen] at found
    by_cases inside : cls c = true
    · simp only [inside,↓reduceIte,Option.or_eq_some_iff] at found
      rcases found with longer | ⟨_,here⟩
      · obtain ⟨run,tail,rfl,all,reached⟩ := ih longer
        refine ⟨c :: run,tail,rfl,?_,reached⟩
        intro d member
        rcases List.mem_cons.mp member with rfl | later
        · exact inside
        · exact all d later
      · exact ⟨[],c :: text,rfl,by simp,here⟩
    · simp only [inside,Bool.false_eq_true,↓reduceIte] at found
      exact ⟨[],c :: text,rfl,by simp,found⟩

/-- A match is a word of the pattern. -/
theorem matchRest_sound {items : List (Item α)} {text rest : List α} (found : matchRest items text = some rest) :
    ∃ word, text = word ++ rest ∧ Spells items word := by
  induction items generalizing text with
  | nil =>
    cases found
    exact ⟨[],rfl,rfl⟩
  | cons item items ih =>
    cases item with
    | one cls =>
      cases text with
      | nil => cases found
      | cons c text =>
        rw [matchRest] at found
        by_cases inside : cls c = true
        · simp only [inside,↓reduceIte] at found
          obtain ⟨word,rfl,spelled⟩ := ih found
          exact ⟨c :: word,rfl,c,word,rfl,inside,spelled⟩
        · simp only [inside,Bool.false_eq_true,↓reduceIte] at found
          cases found
    | many cls =>
      obtain ⟨run,tail,rfl,all,reached⟩ := manyThen_sound found
      obtain ⟨word,rfl,spelled⟩ := ih reached
      exact ⟨run ++ word,by simp,run,word,rfl,all,spelled⟩

private theorem manyThen_complete {cls : α → Bool} {next : List α → Option (List α)} {run tail : List α}
    (all : ∀ c ∈ run, cls c = true) (reached : (next tail).isSome) :
    (manyThen cls next (run ++ tail)).isSome := by
  induction run with
  | nil =>
    cases tail with
    | nil => exact reached
    | cons c tail =>
      rw [List.nil_append,manyThen]
      split
      · simp [Option.isSome_or,reached]
      · exact reached
  | cons c run ih =>
    have inside : cls c = true := all c List.mem_cons_self
    have rest := ih (fun d member => all d (List.mem_cons_of_mem c member))
    simp [manyThen,inside,rest]

/-- A text that begins with a word of the pattern matches. -/
theorem matchRest_complete {items : List (Item α)} {word : List α} (spelled : Spells items word) (rest : List α) :
    (matchRest items (word ++ rest)).isSome := by
  induction items generalizing word with
  | nil =>
    cases spelled
    rfl
  | cons item items ih =>
    cases item with
    | one cls =>
      obtain ⟨c,tail,rfl,inside,spelled⟩ := spelled
      simpa [matchRest,inside] using ih spelled
    | many cls =>
      obtain ⟨run,tail,rfl,all,spelled⟩ := spelled
      rw [matchRest,List.append_assoc]
      exact manyThen_complete all (ih spelled)

section
variable {items : List (Item α)} {replace : List α → List α}

/-- No word of the pattern properly begins another one, and none is empty. -/
structure PrefixFree (items : List (Item α)) : Prop where
  nonempty : ¬ Spells items []
  unique : ∀ {word longer}, Spells items word → Spells items longer → word <+: longer → word = longer

/-- The match at a word of a prefix-free pattern is that word. -/
theorem matchRest_of_spells (free : PrefixFree items) {word : List α} (spelled : Spells items word)
    (rest : List α) : matchRest items (word ++ rest) = some rest := by
  obtain ⟨left,found⟩ := Option.isSome_iff_exists.mp (matchRest_complete spelled rest)
  obtain ⟨other,same,otherSpelled⟩ := matchRest_sound found
  have equal : word = other := by
    rcases List.prefix_or_prefix_of_prefix (List.prefix_append word rest) (same ▸ List.prefix_append other left)
      with shorter | longer
    · exact free.unique spelled otherSpelled shorter
    · exact (free.unique otherSpelled spelled longer).symm
  subst equal
  rw [found,List.append_cancel_left same]

/-- A match leaves less than it was given. -/
theorem matchRest_shorter (free : PrefixFree items) {text rest : List α} (found : matchRest items text = some rest) :
    rest.length < text.length := by
  obtain ⟨word,rfl,spelled⟩ := matchRest_sound found
  cases word with
  | nil => exact absurd spelled free.nonempty
  | cons c word => simp

private theorem subWithin_fuel (free : PrefixFree items) {fuel : Nat} {text : List α} (enough : text.length ≤ fuel) :
    subWithin items replace fuel text = sub items replace text := by
  unfold sub
  induction fuel using Nat.strong_induction_on generalizing text with
  | _ fuel ih =>
    cases fuel with
    | zero =>
      have empty : text = [] := List.length_eq_zero_iff.mp (Nat.le_zero.mp enough)
      rw [empty]
      rfl
    | succ fuel =>
      cases text with
      | nil => rfl
      | cons c text =>
        have bound : text.length ≤ fuel := by simpa using enough
        rw [List.length_cons,subWithin,subWithin]
        cases found : matchRest items (c :: text) with
        | none =>
          simp only
          rw [ih fuel (by omega) bound]
        | some rest =>
          have shorter := matchRest_shorter free found
          simp only [List.length_cons] at shorter
          simp only
          rw [ih fuel (by omega) (by omega : rest.length ≤ fuel)]
          rcases Nat.lt_or_ge text.length fuel with less | same
          · rw [ih text.length (by omega) (by omega : rest.length ≤ text.length)]
          · rw [Nat.le_antisymm bound same,ih fuel (by omega) (by omega : rest.length ≤ fuel)]

@[simp] theorem sub_nil : sub items replace [] = [] := rfl

theorem sub_skip (free : PrefixFree items) {c : α} {text : List α} (missed : matchRest items (c :: text) = none) :
    sub items replace (c :: text) = c :: sub items replace text := by
  rw [sub,List.length_cons,subWithin]
  simp only [missed]
  rw [subWithin_fuel free le_rfl]

theorem sub_match (free : PrefixFree items) {word rest : List α} (found : matchRest items (word ++ rest) = some rest) :
    sub items replace (word ++ rest) = replace word ++ sub items replace rest := by
  have shorter := matchRest_shorter free found
  cases word with
  | nil => simp at shorter
  | cons c word =>
    rw [sub,List.cons_append,List.length_cons,subWithin]
    rw [List.cons_append] at found
    simp only [found]
    rw [subWithin_fuel free (by simp)]
    congr 2
    have size : (c :: (word ++ rest)).length - rest.length = (c :: word).length := by simp; omega
    rw [size,← List.cons_append,List.take_left]

/-- Replacing a word of the pattern. -/
theorem sub_word (free : PrefixFree items) {word : List α} (spelled : Spells items word) (rest : List α) :
    sub items replace (word ++ rest) = replace word ++ sub items replace rest :=
  sub_match free (matchRest_of_spells free spelled rest)

/-- A stretch of text is scanned alone when every match that begins in it also ends in it. -/
theorem sub_split (free : PrefixFree items) (stretch rest : List α)
    (contained : ∀ before word after, stretch ++ rest = before ++ word ++ after → Spells items word →
      before.length < stretch.length → (before ++ word).length ≤ stretch.length) :
    sub items replace (stretch ++ rest) = sub items replace stretch ++ sub items replace rest := by
  generalize size : stretch.length = n
  induction n using Nat.strong_induction_on generalizing stretch with
  | _ n ih =>
    cases stretch with
    | nil => rfl
    | cons c tail =>
      cases found : matchRest items (c :: tail ++ rest) with
      | none =>
        -- What does not match with the rest behind it does not match without it either.
        have alone : matchRest items (c :: tail) = none := by
          by_contra matched
          obtain ⟨left,found'⟩ := Option.ne_none_iff_exists'.mp matched
          obtain ⟨word,same,spelled⟩ := matchRest_sound found'
          rw [same,List.append_assoc,matchRest_of_spells free spelled] at found
          cases found
        rw [List.cons_append] at found ⊢
        rw [sub_skip free found,sub_skip free alone,ih tail.length (by simp [← size]) tail ?_ rfl,List.cons_append]
        intro before word after same spelled inside
        have shifted := contained (c :: before) word after (by simp [same]) spelled (by simpa using inside)
        simpa [Nat.succ_le_succ_iff,Nat.add_right_comm] using shifted
      | some left =>
        obtain ⟨word,same,spelled⟩ := matchRest_sound found
        have inside := contained [] word left (by simpa using same) spelled (by simp)
        -- The match is a prefix of the stretch; the rest of the stretch is scanned next.
        obtain ⟨others,split⟩ : ∃ others, c :: tail = word ++ others := by
          have pre : word <+: c :: tail ++ rest := same ▸ List.prefix_append word left
          obtain ⟨others,joined⟩ := List.prefix_of_prefix_length_le pre (List.prefix_append _ _) (by simpa using inside)
          exact ⟨others,joined.symm⟩
        have wordSize : 0 < word.length := by
          cases word with
          | nil => exact absurd spelled free.nonempty
          | cons d word => simp
        have smaller : others.length < n := by
          rw [← size,split,List.length_append]
          omega
        rw [split,List.append_assoc,sub_word free spelled,sub_word free spelled,ih others.length smaller others ?_ rfl,
          List.append_assoc]
        intro before inner after cut innerSpelled within
        have shifted := contained (word ++ before) inner after (by rw [split]; simp [cut]) innerSpelled
          (by rw [split]; simpa using within)
        rw [split] at shifted
        simp only [List.length_append] at shifted ⊢
        omega

/-- A text whose words of the pattern are replaced by themselves stays as it is. -/
theorem sub_self (free : PrefixFree items) (text : List α)
    (kept : ∀ word, word <:+: text → Spells items word → replace word = word) : sub items replace text = text := by
  generalize size : text.length = n
  induction n using Nat.strong_induction_on generalizing text with
  | _ n ih =>
    cases text with
    | nil => rfl
    | cons c tail =>
      cases found : matchRest items (c :: tail) with
      | none =>
        rw [sub_skip free found,ih tail.length (by simp [← size]) tail ?_ rfl]
        exact fun word within => kept word (within.trans (List.suffix_cons c tail).isInfix)
      | some left =>
        have shorter := matchRest_shorter free found
        obtain ⟨word,same,spelled⟩ := matchRest_sound found
        rw [same,sub_word free spelled,kept word (same ▸ (List.prefix_append word left).isInfix) spelled,
          ih left.length (by omega) left ?_ rfl]
        exact fun inner within => kept inner (same ▸ within.trans (List.suffix_append word left).isInfix)

/-- A stretch of text is scanned alone, and stays as it is, when every match that
    begins in it also ends in it and replaces a word by itself. -/
theorem sub_append (free : PrefixFree items) (stretch rest : List α)
    (contained : ∀ before word after, stretch ++ rest = before ++ word ++ after → Spells items word →
      before.length < stretch.length → (before ++ word).length ≤ stretch.length ∧ replace word = word) :
    sub items replace (stretch ++ rest) = stretch ++ sub items replace rest := by
  rw [sub_split free stretch rest fun before word after same spelled inside =>
    (contained before word after same spelled inside).1]
  refine congrArg (· ++ sub items replace rest) (sub_self free stretch fun word within spelled => ?_)
  obtain ⟨before,after,same⟩ := within
  have wordSize : 0 < word.length := by
    cases word with
    | nil => exact absurd spelled free.nonempty
    | cons d word => simp
  have inside : before.length < stretch.length := by
    rw [← same]
    simp only [List.length_append]
    omega
  exact (contained before word (after ++ rest) (by simp [← same]) spelled inside).2

/-- Two words of the pattern overlap in no text: one that begins after another one also
    begins after its end. -/
def Apart (items : List (Item α)) : Prop :=
  ∀ {before word after before' word' after' : List α}, before ++ word ++ after = before' ++ word' ++ after' →
    Spells items word → Spells items word' → before.length < before'.length → (before ++ word).length ≤ before'.length

/-- Where words cannot overlap, an occurrence is replaced whatever surrounds it. -/
theorem sub_around (free : PrefixFree items) (apart : Apart items) (before : List α) {word : List α}
    (spelled : Spells items word) (after : List α) :
    sub items replace (before ++ word ++ after) =
      sub items replace before ++ (replace word ++ sub items replace after) := by
  rw [List.append_assoc,sub_split free before (word ++ after) ?_,sub_word free spelled]
  intro earlier inner later same innerSpelled inside
  exact apart (by rw [← same,List.append_assoc]) innerSpelled spelled inside

end

end PrivacyGateway.Scan
