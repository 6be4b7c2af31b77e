import Mathlib.Data.List.Forall2

/-!
Computations that return or raise. A step that can only raise certain exceptions
(`Only`) leaves any other to the steps after it, which is how an exception is traced
back to the one step that raises it (`bind_raises`); `converting` is an `except` clause
that raises another exception in its place.
-/
namespace PrivacyGateway.Raising

variable {ε α β γ : Type}

/-- Every exception that is raised satisfies `P`. -/
def Only (P : ε → Prop) (m : Except ε α) : Prop := ∀ e, m = .error e → P e

theorem only_ok {P : ε → Prop} {a : α} : Only P (.ok a) := fun _ raised => by cases raised

theorem only_error {P : ε → Prop} {e : ε} (here : P e) : Only P (.error e : Except ε α) := by
  rintro _ ⟨⟩
  exact here

theorem Only.mono {P Q : ε → Prop} {m : Except ε α} (only : Only P m) (weaker : ∀ e, P e → Q e) : Only Q m :=
  fun e raised => weaker e (only e raised)

theorem ok_bind (a : α) (f : α → Except ε β) : (Except.ok a >>= f) = f a := rfl

theorem error_bind (e : ε) (f : α → Except ε β) : (Except.error e >>= f) = .error e := rfl

theorem map_bind (m : Except ε α) (change : α → β) (f : β → Except ε γ) :
    m.map change >>= f = m >>= fun a => f (change a) := by
  cases m <;> rfl

theorem bind_eq_ok {m : Except ε α} {f : α → Except ε β} {b : β} :
    m >>= f = .ok b ↔ ∃ a, m = .ok a ∧ f a = .ok b := by
  cases m <;> simp [bind,Except.bind]

theorem bind_eq_error {m : Except ε α} {f : α → Except ε β} {e : ε} :
    m >>= f = .error e ↔ m = .error e ∨ ∃ a, m = .ok a ∧ f a = .error e := by
  cases m <;> simp [bind,Except.bind]

theorem map_map (m : Except ε α) (change : α → β) (next : β → γ) :
    (m.map change).map next = m.map fun a => next (change a) := by
  cases m <;> rfl

theorem map_eq_ok {m : Except ε α} {change : α → β} {b : β} : m.map change = .ok b ↔ ∃ a, m = .ok a ∧ change a = b := by
  cases m <;> simp [Except.map]

theorem Only.map {P : ε → Prop} {m : Except ε α} (only : Only P m) (change : α → β) : Only P (m.map change) := by
  intro e raised
  cases m with
  | ok a => cases raised
  | error e' => exact only e (congrArg Except.error (Except.error.inj raised))

theorem Only.bind {P : ε → Prop} {m : Except ε α} {f : α → Except ε β} (first : Only P m)
    (next : ∀ a, m = .ok a → Only P (f a)) : Only P (m >>= f) := by
  intro e raised
  rcases bind_eq_error.mp raised with here | ⟨a,made,later⟩
  · exact first e here
  · exact next a made e later

/-- An exception that the first step cannot raise comes from the steps after it. -/
theorem bind_raises {m : Except ε α} {f : α → Except ε β} {e : ε} (never : Only (· ≠ e) m) :
    m >>= f = .error e ↔ ∃ a, m = .ok a ∧ f a = .error e := by
  rw [bind_eq_error]
  exact ⟨fun raised => raised.resolve_left fun here => never e here rfl,.inr⟩

theorem map_eq_error {m : Except ε α} {change : α → β} {e : ε} : m.map change = .error e ↔ m = .error e := by
  cases m <;> simp [Except.map]

theorem map_ok (a : α) (change : α → β) : (Except.ok a : Except ε α).map change = .ok (change a) := rfl

/-- A comprehension whose every item is converted. -/
theorem mapM_ok {f : α → Except ε β} {g : α → β} {items : List α} (each : ∀ a ∈ items, f a = .ok (g a)) :
    items.mapM f = .ok (items.map g) := by
  induction items with
  | nil => rfl
  | cons a rest ih =>
    obtain ⟨head,tail⟩ := List.forall_mem_cons.mp each
    rw [List.mapM_cons,head,ok_bind,ih tail]
    rfl

/-- A comprehension returns when each of its items does. -/
theorem mapM_eq_ok {f : α → Except ε β} {items : List α} (each : ∀ a ∈ items, ∃ b, f a = .ok b) :
    ∃ found, items.mapM f = .ok found ∧ found.length = items.length := by
  induction items with
  | nil => exact ⟨[],rfl,rfl⟩
  | cons a rest ih =>
    obtain ⟨⟨b,head⟩,tail⟩ := List.forall_mem_cons.mp each
    obtain ⟨others,made,same⟩ := ih tail
    exact ⟨b :: others,by rw [List.mapM_cons,head,ok_bind,made]; rfl,by rw [List.length_cons,List.length_cons,same]⟩

theorem mapM_eq_ok_iff {f : α → Except ε β} {items : List α} {found : List β} :
    items.mapM f = .ok found ↔ List.Forall₂ (fun a b => f a = .ok b) items found := by
  induction items generalizing found with
  | nil =>
    constructor
    · intro made
      cases made
      exact .nil
    · intro none
      cases none
      rfl
  | cons a rest ih =>
    rw [List.mapM_cons,bind_eq_ok,List.forall₂_cons_left_iff]
    constructor
    · rintro ⟨b,head,made⟩
      obtain ⟨others,later,same⟩ := bind_eq_ok.mp made
      cases same
      exact ⟨b,others,head,ih.mp later,rfl⟩
    · rintro ⟨b,others,head,later,rfl⟩
      exact ⟨b,head,bind_eq_ok.mpr ⟨others,ih.mpr later,rfl⟩⟩

/-- A comprehension raises what one of its conversions does. -/
theorem mapM_eq_error {f : α → Except ε β} {items : List α} {e : ε} (raised : items.mapM f = .error e) :
    ∃ a ∈ items, f a = .error e := by
  induction items with
  | nil => cases raised
  | cons a rest ih =>
    rw [List.mapM_cons,bind_eq_error] at raised
    rcases raised with here | ⟨b,_,later⟩
    · exact ⟨a,List.mem_cons_self,here⟩
    · rcases bind_eq_error.mp later with inRest | ⟨others,_,returned⟩
      · obtain ⟨c,member,raised⟩ := ih inRest
        exact ⟨c,List.mem_cons_of_mem _ member,raised⟩
      · cases returned

/-- Each item of what a comprehension returns comes from one it was given. -/
theorem mem_mapM {f : α → Except ε β} {items : List α} {found : List β} (made : items.mapM f = .ok found) :
    ∀ b ∈ found, ∃ a ∈ items, f a = .ok b := by
  induction items generalizing found with
  | nil =>
    cases made
    exact fun b inside => absurd inside List.not_mem_nil
  | cons a rest ih =>
    rw [List.mapM_cons] at made
    obtain ⟨first,head,made⟩ := bind_eq_ok.mp made
    obtain ⟨others,later,same⟩ := bind_eq_ok.mp made
    cases same
    intro b inside
    rcases List.mem_cons.mp inside with rfl | inRest
    · exact ⟨a,List.mem_cons_self,head⟩
    · obtain ⟨c,member,made⟩ := ih later b inRest
      exact ⟨c,List.mem_cons_of_mem _ member,made⟩

/-- `except caught: raise replacement` -/
def converting (caught : ε → Bool) (replacement : ε) : Except ε α → Except ε α
  | .ok a => .ok a
  | .error e => if caught e then .error replacement else .error e

/-- A clause returns nothing by itself. -/
theorem converting_eq_ok {caught : ε → Bool} {replacement : ε} {m : Except ε α} {a : α} :
    converting caught replacement m = .ok a ↔ m = .ok a := by
  cases m with
  | ok b => exact Iff.rfl
  | error e =>
    rw [converting]
    split <;> simp

/-- What the clause does with a step that raises nothing else but `e` beside what is caught. -/
theorem converting_cases {caught : ε → Bool} {e : ε} {m : Except ε α} (only : Only (fun x => caught x = true ∨ x = e) m)
    (replacement : ε) :
    (∃ a, m = .ok a ∧ converting caught replacement m = .ok a) ∨
      (∃ x, m = .error x ∧ caught x = true ∧ converting caught replacement m = .error replacement) ∨
      (m = .error e ∧ caught e = false ∧ converting caught replacement m = .error e) := by
  cases m with
  | ok a => exact .inl ⟨a,rfl,rfl⟩
  | error x =>
    rw [converting]
    cases kind : caught x with
    | true => exact .inr (.inl ⟨x,rfl,kind,by simp⟩)
    | false =>
      have same := (only x rfl).resolve_left (by simp [kind])
      subst same
      exact .inr (.inr ⟨rfl,kind,by simp⟩)

end PrivacyGateway.Raising
