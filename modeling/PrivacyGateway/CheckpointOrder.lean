import PrivacyGateway.Writers

/-!
The order of the checkpoint saves. A call saves its checkpoint after it has released
the write lock, so a later call can commit and save first, and the earlier save then
takes the store back. In runs without a crash or a failed save, the store never goes
back and the tail is verified at rest exactly when no call saves after one with a
newer record (`checkpoint_kept_iff`).
-/
namespace PrivacyGateway.CheckpointOrder
open PrivacyGateway.Errors PrivacyGateway.StdLib PrivacyGateway.AuditLog PrivacyGateway.Verification
open PrivacyGateway.Tampering PrivacyGateway.Runs PrivacyGateway.Writers

/-- The row that the call has committed. -/
def committedRow : Phase → Option Row
  | .committed row | .saved row | .returned row => some row
  | _ => none

/-- The row whose checkpoint the call has saved. -/
def savedRow : Phase → Option Row
  | .saved row | .returned row => some row
  | _ => none

/-- The step is neither a crash nor a failed save. -/
def Quiet : Event → Prop
  | .crash _ | .saveFails _ _ => False
  | _ => True

/-- A call saves its checkpoint before any call with a newer record has saved one. -/
def InOrder (s : State) (e : Event) (_ : State) : Prop :=
  match e with
  | .save w _ => ∀ row, s.writers w = .committed row → ∀ other saved, savedRow (s.writers other) = some saved →
      saved.id < row.id
  | _ => True

/-- The id that the store holds does not decrease. -/
def NeverBack (s t : State) : Prop :=
  ∀ c, s.store = some c → ∃ d, t.store = some d ∧ c.lastRecordId ≤ d.lastRecordId

/-- A call has returned and none is in flight. -/
def AtRest (s : State) : Prop := (∀ w, (s.writers w).inFlight = false) ∧ ∃ w row, s.writers w = .returned row

def TailVerified (rt : Runtime) (s : State) : Prop :=
  ∃ result, verifyWithStore rt s.table (some s.store) = .ok result ∧ result.status = .valid ∧ result.tailVerified = true

section
variable {rt : Runtime} {calls : Nat → AppendCall} {s t : State} {e : Event}

/-- What a step without failures does: it saves a checkpoint, commits a row, or leaves the
    store, the history and what every call has committed and saved as they are. -/
inductive Effect (rt : Runtime) (s : State) : Event → State → Prop
  | save {w : Nat} {now : UtcTime} {row : Row} : s.writers w = .committed row →
      Effect rt s (.save w now) { s.move w (.saved row) s.lock with store := some (checkpointOf rt row now) }
  | commit {e : Event} {t : State} {w : Nat} {row : Row} : (∀ v now, e ≠ .save v now) →
      committedRow (s.writers w) = none → t.writers = Function.update s.writers w (.committed row) → t.store = s.store →
      t.history = s.history ++ [(w,row)] → Effect rt s e t
  | other {e : Event} {t : State} : (∀ v now, e ≠ .save v now) →
      (∀ w, committedRow (t.writers w) = committedRow (s.writers w) ∧ savedRow (t.writers w) = savedRow (s.writers w)) →
      t.store = s.store → t.history = s.history → Effect rt s e t

private theorem effect_move {w : Nat} {phase : Phase} {lock : Option Nat} (noSave : ∀ v now, e ≠ .save v now)
    (committed : committedRow phase = committedRow (s.writers w)) (saved : savedRow phase = savedRow (s.writers w)) :
    Effect rt s e (s.move w phase lock) := by
  refine .other noSave (fun other => ?_) rfl rfl
  by_cases same : other = w
  · subst same
    simp only [State.move,Function.update_self,committed,saved,and_self]
  · simp only [State.move,Function.update_of_ne same,and_self]

private theorem afterFault_rows (attempt : Nat) (e : PyException) :
    committedRow (afterFault attempt e) = none ∧ savedRow (afterFault attempt e) = none := by
  unfold afterFault
  split
  · split <;> exact ⟨rfl,rfl⟩
  · exact ⟨rfl,rfl⟩

private theorem attempt_rows {phase : Phase} {attempt : Nat} (running : phase.attempt = some attempt) :
    committedRow phase = none ∧ savedRow phase = none := by
  cases phase <;> cases running <;> exact ⟨rfl,rfl⟩

theorem step_effect (checkpointing : ∀ w, (calls w).checkpointing = true) (quiet : Quiet e)
    (stepped : step rt calls s e = some t) : Effect rt s e t := by
  cases step_cases stepped with
  | call phase | stamp phase | begin phase _ | fetch phase | insert phase _ | finishSaved phase =>
    exact effect_move (by simp) (by rw [phase]; rfl) (by rw [phase]; rfl)
  | insertFails phase _ =>
    obtain ⟨committed,saved⟩ := afterFault_rows _ _
    exact effect_move (by simp) (by rw [phase,committed]; rfl) (by rw [phase,saved]; rfl)
  | commit phase => exact .commit (by simp) (by rw [phase]; rfl) rfl rfl rfl
  | fail running =>
    obtain ⟨committed,saved⟩ := afterFault_rows _ _
    obtain ⟨committed',saved'⟩ := attempt_rows running
    exact effect_move (by simp) (committed.trans committed'.symm) (saved.trans saved'.symm)
  | save phase _ => exact .save phase
  | @finishUnsaved w _ _ unsaved =>
    rw [checkpointing w] at unsaved
    cases unsaved
  | load _ | verify _ _ => exact .other (by simp) (fun w => ⟨rfl,rfl⟩) rfl rfl
  | saveFails _ _ => exact quiet.elim
  | crash _ => exact quiet.elim

/-- What holds in runs without failures whose store never goes back: every record's call
    is still alive, and the store holds the newest of the saved checkpoints. -/
structure Live (s : State) : Prop where
  alive : ∀ entry ∈ s.history, committedRow (s.writers entry.1) = some entry.2
  held : ∀ c, s.store = some c → ∃ w row, savedRow (s.writers w) = some row ∧ c.lastRecordId = row.id
  top : ∀ w row, savedRow (s.writers w) = some row → ∃ c, s.store = some c ∧ row.id ≤ c.lastRecordId

theorem live_start : Live .start where
  alive := fun _ member => absurd member List.not_mem_nil
  held := fun _ held => by cases held
  top := fun _ _ saved => by cases saved

theorem committedRow_of_savedRow {phase : Phase} {row : Row} (saved : savedRow phase = some row) :
    committedRow phase = some row := by
  cases phase <;> cases saved <;> rfl

theorem committed_mem (inv : Inv rt calls s) {w : Nat} {row : Row} (committed : committedRow (s.writers w) = some row) :
    (w,row) ∈ s.history := by
  have ok := inv.writers w
  cases phase : s.writers w with
  | committed r | saved r | returned r =>
    rw [phase] at ok committed
    cases committed
    exact ok.1
  | _ =>
    rw [phase] at committed
    cases committed

/-- The store goes back just when a save comes after that of a newer record. -/
theorem neverBack_iff_inOrder (inv : Inv rt calls s) (live : Live s) (effect : Effect rt s e t) :
    NeverBack s t ↔ InOrder s e t := by
  cases effect with
  | @save w now row phase =>
    constructor
    · intro kept row' phase' other saved isSaved
      cases phase.symm.trans phase'
      obtain ⟨c,held,below⟩ := live.top other saved isSaved
      obtain ⟨d,same,above⟩ := kept c held
      cases same
      have least : saved.id ≤ row.id := below.trans above
      have differ : saved.id ≠ row.id := by
        intro same
        have mine : (w,row) ∈ s.history := committed_mem inv (by rw [phase]; rfl)
        have theirs := committed_mem inv (committedRow_of_savedRow isSaved)
        rw [(author_of_id inv theirs mine same).1,phase] at isSaved
        cases isSaved
      omega
    · intro inOrder c held
      obtain ⟨other,saved,isSaved,same⟩ := live.held c held
      have := inOrder row phase other saved isSaved
      exact ⟨_,rfl,by rw [same]; exact this.le⟩
  | commit noSave _ _ store _ =>
    refine iff_of_true (fun c held => ⟨c,store ▸ held,le_rfl⟩) ?_
    cases e <;> first | trivial | exact absurd rfl (noSave _ _)
  | other noSave _ store _ =>
    refine iff_of_true (fun c held => ⟨c,store ▸ held,le_rfl⟩) ?_
    cases e <;> first | trivial | exact absurd rfl (noSave _ _)

theorem live_step (live : Live s) (effect : Effect rt s e t) (kept : NeverBack s t) : Live t := by
  cases effect with
  | @save w now row phase =>
    refine ⟨fun entry member => ?_,fun c held => ?_,fun other saved isSaved => ?_⟩
    · by_cases same : entry.1 = w
      · have alive := live.alive entry member
        rw [same,phase] at alive
        simp only [State.move,same,Function.update_self]
        exact alive
      · simpa only [State.move,Function.update_of_ne same] using live.alive entry member
    · cases held
      exact ⟨w,row,by simp only [State.move,Function.update_self,savedRow],rfl⟩
    · by_cases same : other = w
      · subst same
        simp only [State.move,Function.update_self,savedRow,Option.some.injEq] at isSaved
        subst isSaved
        exact ⟨_,rfl,le_rfl⟩
      · simp only [State.move,Function.update_of_ne same] at isSaved
        obtain ⟨c,held,below⟩ := live.top other saved isSaved
        obtain ⟨d,store,above⟩ := kept c held
        exact ⟨d,store,below.trans above⟩
  | @commit _ _ w row _ fresh writers store history =>
    have unsaved : savedRow (s.writers w) = none := by
      cases saved : savedRow (s.writers w) with
      | none => rfl
      | some r =>
        rw [committedRow_of_savedRow saved] at fresh
        cases fresh
    have savedSame : ∀ other, savedRow (t.writers other) = savedRow (s.writers other) := by
      intro other
      rw [writers]
      by_cases same : other = w
      · rw [same,Function.update_self,unsaved]
        rfl
      · rw [Function.update_of_ne same]
    refine ⟨fun entry member => ?_,fun c held => ?_,fun other saved isSaved => ?_⟩
    · rw [history] at member
      rcases List.mem_append.mp member with earlier | last
      · have alive := live.alive entry earlier
        have differ : entry.1 ≠ w := by
          intro same
          rw [same,fresh] at alive
          cases alive
        rw [writers,Function.update_of_ne differ,alive]
      · rw [List.mem_singleton.mp last,writers,Function.update_self]
        rfl
    · obtain ⟨other,saved,isSaved,same⟩ := live.held c (store ▸ held)
      exact ⟨other,saved,(savedSame other).trans isSaved,same⟩
    · rw [savedSame] at isSaved
      rw [store]
      exact live.top other saved isSaved
  | other _ rows store history =>
    refine ⟨fun entry member => ?_,fun c held => ?_,fun other saved isSaved => ?_⟩
    · rw [(rows entry.1).1]
      exact live.alive entry (history ▸ member)
    · obtain ⟨other,saved,isSaved,same⟩ := live.held c (store ▸ held)
      exact ⟨other,saved,(rows other).2.trans isSaved,same⟩
    · rw [(rows other).2] at isSaved
      rw [store]
      exact live.top other saved isSaved

/-- At rest the newest record's call has returned, so the store names its record. -/
theorem tail_verified (inv : Inv rt calls s) (live : Live s) (rest : AtRest s) : TailVerified rt s := by
  obtain ⟨still,w,row,returned⟩ := rest
  have member : (w,row) ∈ s.history := committed_mem inv (by rw [returned]; rfl)
  have records : s.history ≠ [] := List.ne_nil_of_mem member
  obtain ⟨⟨author,last⟩,isLast⟩ : ∃ entry, s.history.getLast? = some entry :=
    ⟨_,List.getLast?_eq_some_getLast records⟩
  have alive := live.alive _ (List.mem_of_getLast? isLast)
  have saved : savedRow (s.writers author) = some last := by
    have ended := still author
    cases phase : s.writers author with
    | returned r => rw [phase] at alive; exact alive
    | committed r | saved r =>
      rw [phase] at ended
      cases ended
    | _ =>
      rw [phase] at alive
      cases alive
  have newest : s.table.rows.getLast? = some last := by rw [inv.rows,List.getLast?_map,isLast]; rfl
  have position := inv.valid.last_id newest
  obtain ⟨c,held,below⟩ := live.top author last saved
  obtain ⟨named,inTable,names⟩ := inv.stored c held
  have isNewest : named.id = s.table.rows.length := by
    obtain ⟨i,found⟩ := List.getElem?_of_mem inTable
    have := inv.valid.id_getElem found
    have := (List.getElem?_eq_some_iff.mp found).1
    have := names.1
    omega
  have verified := verify_named inv.valid inTable names
  rw [if_pos isNewest] at verified
  rw [TailVerified,held]
  exact ⟨_,verified,rfl,rfl⟩

end

/-- In runs without a crash or a failed save, the store never goes back and every state at
    rest has its tail verified exactly when no call saves its checkpoint after one with a
    newer record has. -/
theorem checkpoint_kept_iff (rt : Runtime) (calls : Nat → AppendCall) (checkpointing : ∀ w, (calls w).checkpointing = true)
    (events : List Event) (quiet : ∀ e ∈ events, Quiet e) :
    Along (step rt calls) (fun s _ t => NeverBack s t ∧ (AtRest t → TailVerified rt t)) .start events ↔
      Along (step rt calls) InOrder .start events := by
  have begins : Inv rt calls .start ∧ Live .start := ⟨inv_start,live_start⟩
  have next : ∀ {s e t}, Inv rt calls s ∧ Live s → step rt calls s e = some t → Quiet e → NeverBack s t →
      Inv rt calls t ∧ Live t := fun both stepped isQuiet kept =>
    ⟨inv_step both.1 stepped,live_step both.2 (step_effect checkpointing isQuiet stepped) kept⟩
  have quietly : Along (step rt calls) (fun _ e _ => Quiet e) .start events := along_of_forall quiet
  constructor
  · intro kept
    refine (quietly.and kept).imp (fun both stepped kind => next both stepped kind.1 kind.2.1) ?_ begins
    intro s e t both stepped kind
    exact (neverBack_iff_inOrder both.1 both.2 (step_effect checkpointing kind.1 stepped)).mp kind.2.1
  · intro ordered
    have back : ∀ {s e t}, Inv rt calls s ∧ Live s → step rt calls s e = some t → Quiet e ∧ InOrder s e t →
        NeverBack s t := fun both stepped kind =>
      (neverBack_iff_inOrder both.1 both.2 (step_effect checkpointing kind.1 stepped)).mpr kind.2
    refine (quietly.and ordered).imp (fun both stepped kind => next both stepped kind.1 (back both stepped kind)) ?_ begins
    intro s e t both stepped kind
    have kept := back both stepped kind
    obtain ⟨inv,live⟩ := next both stepped kind.1 kept
    exact ⟨kept,tail_verified inv live⟩

theorem inOrder_save {rt : Runtime} {calls : Nat → AppendCall} {s t : State} {w : Nat} {now : UtcTime} {row : Row}
    (inv : Inv rt calls s) (phase : s.writers w = .committed row)
    (older : ∀ entry ∈ s.history, savedRow (s.writers entry.1) = some entry.2 → entry.2.id < row.id) :
    InOrder s (.save w now) t := by
  intro own phase' other saved isSaved
  cases phase.symm.trans phase'
  exact older (other,saved) (committed_mem inv (committedRow_of_savedRow isSaved)) isSaved

/-- The second call commits before the first has saved, but saves after it. -/
def timelySave : List Event :=
  committing 0 ++ committing 1 ++ [.save 0 sampleTime,.finish 0] ++ [.save 1 sampleTime,.finish 1]

theorem checkpoint_kept_iff_timely :
    Along (step sampleRuntime sampleCalls) (fun s _ t => NeverBack s t ∧ (AtRest t → TailVerified sampleRuntime t)) .start
      timelySave := by
  refine (checkpoint_kept_iff sampleRuntime sampleCalls (fun _ => rfl) _ (by simp [timelySave,committing,Quiet])).mpr ?_
  refine along_append.mpr ⟨along_append.mpr ⟨by simp [committing,Along,InOrder],fun s ran => ?_⟩,fun s ran => ?_⟩
  · have seen : (run (step sampleRuntime sampleCalls) .start (committing 0 ++ committing 1)).map
        (fun s => (s.history,s.writers 0,s.writers 1)) =
        some ([(0,firstRow),(1,secondRow)],.committed firstRow,.committed secondRow) := by decide +kernel
    rw [ran] at seen
    obtain ⟨history,phases⟩ := Prod.mk.inj (Option.some.inj seen)
    obtain ⟨first,second⟩ := Prod.mk.inj phases
    refine fun next _ =>
      ⟨inOrder_save (reachable_inv ⟨_,ran⟩) first fun entry member saved => ?_,fun _ _ => ⟨trivial,trivial⟩⟩
    rw [history] at member
    simp only [List.mem_cons,List.not_mem_nil,or_false] at member
    rcases member with rfl | rfl
    · rw [first] at saved
      cases saved
    · rw [second] at saved
      cases saved
  · have seen : (run (step sampleRuntime sampleCalls) .start
        (committing 0 ++ committing 1 ++ [.save 0 sampleTime,.finish 0])).map
        (fun s => (s.history,s.writers 1)) =
        some ([(0,firstRow),(1,secondRow)],.committed secondRow) := by decide +kernel
    rw [ran] at seen
    obtain ⟨history,second⟩ := Prod.mk.inj (Option.some.inj seen)
    refine fun next _ =>
      ⟨inOrder_save (reachable_inv ⟨_,ran⟩) second fun entry member saved => ?_,fun _ _ => ⟨trivial,trivial⟩⟩
    rw [history] at member
    simp only [List.mem_cons,List.not_mem_nil,or_false] at member
    rcases member with rfl | rfl
    · decide
    · rw [second] at saved
      cases saved

/-- The second call commits and saves between the commit and the save of the first. -/
def lateSave : List Event :=
  committing 0 ++ committing 1 ++ [.save 1 sampleTime,.finish 1] ++ [.save 0 sampleTime,.finish 0]

/-- The store goes from record 2 back to record 1, and with both calls returned the tail is
    not verified. -/
theorem late_save_goes_back :
    (∀ e ∈ lateSave, Quiet e) ∧
    (run (step sampleRuntime sampleCalls) .start (lateSave.take 14)).map (fun s => s.store.map (·.lastRecordId)) =
      some (some 2) ∧
    (run (step sampleRuntime sampleCalls) .start lateSave).map
        (fun s => (s.store.map (·.lastRecordId),s.writers 0,s.writers 1,verifyWithStore sampleRuntime s.table (some s.store))) =
      some (some 1,.returned firstRow,.returned secondRow,.ok ⟨.valid,2,none,some (staleReason 1 2),false⟩) ∧
    ¬ Along (step sampleRuntime sampleCalls) (fun s _ t => NeverBack s t ∧ (AtRest t → TailVerified sampleRuntime t)) .start
      lateSave := by
  have before : (run (step sampleRuntime sampleCalls) .start (lateSave.take 14)).map
      (fun s => s.store.map (·.lastRecordId)) = some (some 2) := by decide +kernel
  have after : (run (step sampleRuntime sampleCalls) .start (lateSave.take 14 ++ [.save 0 sampleTime])).map
      (fun s => s.store.map (·.lastRecordId)) = some (some 1) := by decide +kernel
  refine ⟨by simp [lateSave,committing,Quiet],before,by decide +kernel,fun kept => ?_⟩
  obtain ⟨t,ran,back⟩ := Option.map_eq_some_iff.mp after
  obtain ⟨s,front,saved⟩ := run_snoc.mp ran
  rw [front] at before
  obtain ⟨c,held,two⟩ := Option.map_eq_some_iff.mp (Option.some.inj before)
  obtain ⟨d,holds,above⟩ := (((along_append.mp kept).2 s front) t saved).1.1 c held
  rw [holds] at back
  have one : d.lastRecordId = 1 := Option.some.inj back
  omega

end PrivacyGateway.CheckpointOrder
