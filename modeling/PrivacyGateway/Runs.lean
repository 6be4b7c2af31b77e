import Mathlib.Tactic

/-!
Runs of a system whose step takes a state and an action and may refuse. An
invariant that every step keeps holds in every reachable state; a condition can be
asked of every step of a run (`Along`), and an invariant that steps of this kind
keep holds at the end of such a run. Where the runs of a second system match each
step, every reachable state is related to one that the second system reaches
(`Reachable.simulated`).
-/
namespace PrivacyGateway.Runs

variable {σ α : Type*} {step : σ → α → Option σ}

/-- The state after the actions, if each of them is accepted. -/
def run (step : σ → α → Option σ) : σ → List α → Option σ
  | s, [] => some s
  | s, a :: rest => (step s a).bind fun next => run step next rest

/-- The states that some run from `start` ends in. -/
def Reachable (step : σ → α → Option σ) (start s : σ) : Prop := ∃ actions, run step start actions = some s

/-- Every step of the run is of the given kind. -/
def Along (step : σ → α → Option σ) (kind : σ → α → σ → Prop) : σ → List α → Prop
  | _, [] => True
  | s, a :: rest => ∀ next, step s a = some next → kind s a next ∧ Along step kind next rest

theorem run_append {s : σ} {first second : List α} :
    run step s (first ++ second) = (run step s first).bind fun t => run step t second := by
  induction first generalizing s with
  | nil => rfl
  | cons a rest ih =>
    rw [List.cons_append,run,run]
    cases step s a with
    | none => rfl
    | some next => exact ih

theorem run_snoc {s t : σ} {actions : List α} {a : α} :
    run step s (actions ++ [a]) = some t ↔ ∃ u, run step s actions = some u ∧ step u a = some t := by
  rw [run_append,Option.bind_eq_some_iff]
  refine exists_congr fun u => and_congr_right fun _ => ?_
  rw [run]
  cases step u a with
  | none => simp
  | some next => simp [run]

/-- An invariant that steps of the kind keep holds after a run of such steps. -/
theorem invariant_along {kind : σ → α → σ → Prop} {Inv : σ → Prop}
    (keeps : ∀ {s a t}, Inv s → step s a = some t → kind s a t → Inv t) {s t : σ} {actions : List α} (start : Inv s)
    (along : Along step kind s actions) (ran : run step s actions = some t) : Inv t := by
  induction actions generalizing s with
  | nil =>
    cases ran
    exact start
  | cons a rest ih =>
    obtain ⟨next,stepped,ran⟩ := Option.bind_eq_some_iff.mp ran
    obtain ⟨here,later⟩ := along next stepped
    exact ih (keeps start stepped here) later ran

theorem along_of_forall {p : α → Prop} {s : σ} {actions : List α} (all : ∀ a ∈ actions, p a) :
    Along step (fun _ a _ => p a) s actions := by
  induction actions generalizing s with
  | nil => trivial
  | cons a rest ih =>
    exact fun next _ => ⟨all a List.mem_cons_self,ih fun b member => all b (List.mem_cons_of_mem _ member)⟩

/-- An invariant that every step keeps holds in every reachable state. -/
theorem Reachable.invariant {Inv : σ → Prop} {start s : σ} (reached : Reachable step start s) (begins : Inv start)
    (keeps : ∀ {s a t}, Inv s → step s a = some t → Inv t) : Inv s := by
  obtain ⟨actions,ran⟩ := reached
  have any : Along step (fun _ _ _ => True) start actions := along_of_forall fun _ _ => trivial
  exact invariant_along (fun inv stepped _ => keeps inv stepped) begins any ran

theorem along_append {kind : σ → α → σ → Prop} {s : σ} {first second : List α} :
    Along step kind s (first ++ second) ↔
      Along step kind s first ∧ ∀ t, run step s first = some t → Along step kind t second := by
  induction first generalizing s with
  | nil => simp [Along,run]
  | cons a rest ih =>
    simp only [List.cons_append,Along,ih,run,Option.bind_eq_some_iff]
    constructor
    · intro all
      refine ⟨fun next stepped => ⟨(all next stepped).1,(all next stepped).2.1⟩,?_⟩
      rintro t ⟨next,stepped,ran⟩
      exact (all next stepped).2.2 t ran
    · rintro ⟨all,later⟩ next stepped
      exact ⟨(all next stepped).1,(all next stepped).2,fun t ran => later t ⟨next,stepped,ran⟩⟩

theorem Along.and {kind other : σ → α → σ → Prop} {s : σ} {actions : List α} (first : Along step kind s actions)
    (second : Along step other s actions) : Along step (fun s a t => kind s a t ∧ other s a t) s actions := by
  induction actions generalizing s with
  | nil => trivial
  | cons a rest ih =>
    intro next stepped
    obtain ⟨here,later⟩ := first next stepped
    obtain ⟨here',later'⟩ := second next stepped
    exact ⟨⟨here,here'⟩,ih later later'⟩

/-- A kind of step may be weakened with what holds along the run. -/
theorem Along.imp {kind other : σ → α → σ → Prop} {Inv : σ → Prop}
    (keeps : ∀ {s a t}, Inv s → step s a = some t → kind s a t → Inv t)
    (weaken : ∀ {s a t}, Inv s → step s a = some t → kind s a t → other s a t) {s : σ} {actions : List α} (start : Inv s)
    (along : Along step kind s actions) : Along step other s actions := by
  induction actions generalizing s with
  | nil => trivial
  | cons a rest ih =>
    intro next stepped
    obtain ⟨here,later⟩ := along next stepped
    exact ⟨weaken start stepped here,ih (keeps start stepped here) later⟩

/-- If runs of a second system match every step from related states, every reachable state
    is related to one that the second system reaches. -/
theorem Reachable.simulated {σ' α' : Type*} {abstract : σ' → α' → Option σ'} {related : σ → σ' → Prop} {start s : σ}
    {start' : σ'} (reached : Reachable step start s) (begins : related start start')
    (matched : ∀ {s a t s'}, related s s' → step s a = some t →
      ∃ actions t', run abstract s' actions = some t' ∧ related t t') :
    ∃ s', Reachable abstract start' s' ∧ related s s' := by
  have keeps : ∀ {s a t}, (∃ s', Reachable abstract start' s' ∧ related s s') → step s a = some t →
      ∃ t', Reachable abstract start' t' ∧ related t t' := by
    rintro s a t ⟨s',⟨before,ran⟩,holds⟩ stepped
    obtain ⟨actions,t',ran',holds'⟩ := matched holds stepped
    exact ⟨t',⟨before ++ actions,by rw [run_append,ran,Option.bind_some,ran']⟩,holds'⟩
  exact @Reachable.invariant σ α step (fun s => ∃ s', Reachable abstract start' s' ∧ related s s') start s reached
    ⟨start',⟨[],rfl⟩,begins⟩ keeps

/-- If a second system matches every step from related states, it matches every run with the
    same actions. -/
theorem run_matched {σ' : Type*} {other : σ' → α → Option σ'} {related : σ → σ' → Prop}
    (matched : ∀ {s a t s'}, related s s' → step s a = some t → ∃ t', other s' a = some t' ∧ related t t') {s t : σ} {s' : σ'}
    {actions : List α} (start : related s s') (ran : run step s actions = some t) :
    ∃ t', run other s' actions = some t' ∧ related t t' := by
  induction actions generalizing s s' with
  | nil =>
    cases ran
    exact ⟨s',rfl,start⟩
  | cons a rest ih =>
    obtain ⟨next,stepped,ran⟩ := Option.bind_eq_some_iff.mp ran
    obtain ⟨next',stepped',here⟩ := matched start stepped
    obtain ⟨t',ran',holds⟩ := ih here ran
    exact ⟨t',Option.bind_eq_some_iff.mpr ⟨next',stepped',ran'⟩,holds⟩

end PrivacyGateway.Runs
