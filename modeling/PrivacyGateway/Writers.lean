import PrivacyGateway.Runs
import PrivacyGateway.Tampering

/-!
Any number of append calls and verifiers on one database and one checkpoint store,
interleaved step by step. A call takes its timestamp, takes the write lock, reads the
last row, inserts, commits, and only then, without the lock, saves its checkpoint; it
can fail or crash between any two steps. A verifier loads the checkpoint in one step
and reads the table in another.
-/
namespace PrivacyGateway.Writers
open PrivacyGateway.Strings PrivacyGateway.Errors PrivacyGateway.StdLib PrivacyGateway.SqlValues
open PrivacyGateway.HashChain PrivacyGateway.JsonText PrivacyGateway.AuditLog PrivacyGateway.Verification
open PrivacyGateway.Tampering PrivacyGateway.Runs

/-- A call of `append`: its payload, and whether its logger has the checkpoint store. -/
structure AppendCall where
  payload : Json
  checkpointing : Bool

/-- How far a call has come; an attempt carries its number. -/
inductive Phase where
  | idle
  | ready (attempt : Nat)
  | stamped (attempt : Nat) (timestamp : UtcTime)
  | locked (attempt : Nat) (timestamp : UtcTime)
  | fetched (attempt : Nat) (timestamp : UtcTime) (last : Option Row)
  | inserted (attempt : Nat) (row : Row) (after : AuditTable)
  | committed (row : Row)
  | saved (row : Row)
  | returned (row : Row)
  | raised (e : PyException)
  | crashed
  deriving DecidableEq

/-- The attempt that an exception would end. -/
def Phase.attempt : Phase → Option Nat
  | .stamped attempt _ | .locked attempt _ | .fetched attempt _ _ | .inserted attempt _ _ => some attempt
  | _ => none

/-- The call has begun and not ended. -/
def Phase.inFlight : Phase → Bool
  | .idle | .returned _ | .raised _ | .crashed => false
  | _ => true

/-- A call of `verify_with_store` with what it has loaded, and with what it has read and found. -/
inductive Check where
  | idle
  | loaded (checkpoint : Option AuditCheckpoint)
  | verified (checkpoint : Option AuditCheckpoint) (snapshot : AuditTable) (outcome : Except PyException Verification)
  deriving DecidableEq

/-- The committed table, the holder of the write lock, the content of the store, the
    calls, and which call committed which row. -/
structure State where
  table : AuditTable
  lock : Option Nat
  store : Option AuditCheckpoint
  writers : Nat → Phase
  verifiers : Nat → Check
  history : List (Nat × Row)

def State.start : State := ⟨.empty,none,none,fun _ => .idle,fun _ => .idle,[]⟩

/-- One step of a call of `append` (`w`) or of `verify_with_store` (`v`). -/
inductive Event where
  | call (w : Nat)
  | stamp (w : Nat) (now : UtcTime)
  | begin (w : Nat)
  | fetch (w : Nat)
  | insert (w : Nat)
  | commit (w : Nat)
  | fail (w : Nat) (e : PyException)
  | save (w : Nat) (now : UtcTime)
  | saveFails (w : Nat) (e : PyException)
  | finish (w : Nat)
  | crash (w : Nat)
  | load (v : Nat) (readable : Bool)
  | verify (v : Nat)

/-- The state with a call moved to another phase. -/
def State.move (s : State) (w : Nat) (phase : Phase) (lock : Option Nat) : State :=
  { s with writers := Function.update s.writers w phase, lock := lock }

/-- The lock after a commit, a rollback or a crash of the call. -/
def State.freed (s : State) (w : Nat) : Option Nat := if s.lock = some w then none else s.lock

/-- Where a call stands after an exception has ended an attempt: an `OperationalError` is
    retried, anything else is raised. -/
def afterFault (attempt : Nat) : PyException → Phase
  | .sqlite .operational =>
    if attempt + 1 < appendRetries then .ready (attempt + 1) else .raised (.gateway auditWriteError)
  | e => .raised e

/-- What `append` raises when the save of its checkpoint does. -/
def afterSaveFault : PyException → Phase
  | .osError => .raised (.gateway auditWriteError)
  | e => .raised e

section
variable (rt : Runtime) (calls : Nat → AppendCall)

/-- One step, or `none` where the call or the verifier is not at it. -/
def step (s : State) : Event → Option State
  | .call w =>
    match s.writers w with
    | .idle => some (s.move w (.ready 0) s.lock)
    | _ => none
  | .stamp w now =>
    match s.writers w with
    | .ready attempt => some (s.move w (.stamped attempt now) s.lock)
    | _ => none
  | .begin w =>
    match s.writers w,s.lock with
    | .stamped attempt timestamp,none => some (s.move w (.locked attempt timestamp) (some w))
    | _,_ => none
  | .fetch w =>
    match s.writers w with
    | .locked attempt timestamp => some (s.move w (.fetched attempt timestamp s.table.last) s.lock)
    | _ => none
  | .insert w =>
    match s.writers w with
    | .fetched attempt timestamp last =>
      match insertNext rt s.table last timestamp (canonicalJson rt (calls w).payload) with
      | .ok (row,after) => some (s.move w (.inserted attempt row after) s.lock)
      | .error e => some (s.move w (afterFault attempt e) (s.freed w))
    | _ => none
  | .commit w =>
    match s.writers w with
    | .inserted _ row after =>
      some { s.move w (.committed row) (s.freed w) with table := after, history := s.history ++ [(w,row)] }
    | _ => none
  | .fail w e => (s.writers w).attempt.map fun attempt => s.move w (afterFault attempt e) (s.freed w)
  | .save w now =>
    match s.writers w,(calls w).checkpointing with
    | .committed row,true => some { s.move w (.saved row) s.lock with store := some (checkpointOf rt row now) }
    | _,_ => none
  | .saveFails w e =>
    match s.writers w,(calls w).checkpointing with
    | .committed _,true => some (s.move w (afterSaveFault e) s.lock)
    | _,_ => none
  | .finish w =>
    match s.writers w,(calls w).checkpointing with
    | .saved row,_ => some (s.move w (.returned row) s.lock)
    | .committed row,false => some (s.move w (.returned row) s.lock)
    | _,_ => none
  | .crash w => if (s.writers w).inFlight then some (s.move w .crashed (s.freed w)) else none
  | .load v readable =>
    match s.verifiers v with
    | .idle => some { s with verifiers := Function.update s.verifiers v (.loaded (if readable then s.store else none)) }
    | _ => none
  | .verify v =>
    match s.verifiers v with
    | .loaded checkpoint =>
      let outcome := verifyWithStore rt s.table (some checkpoint)
      some { s with verifiers := Function.update s.verifiers v (.verified checkpoint s.table outcome) }
    | _ => none

/-- What each step does, by the phase it is taken in. -/
inductive Transition (s : State) : Event → State → Prop
  | call {w : Nat} : s.writers w = .idle → Transition s (.call w) (s.move w (.ready 0) s.lock)
  | stamp {w attempt : Nat} {now : UtcTime} : s.writers w = .ready attempt →
      Transition s (.stamp w now) (s.move w (.stamped attempt now) s.lock)
  | begin {w attempt : Nat} {timestamp : UtcTime} : s.writers w = .stamped attempt timestamp → s.lock = none →
      Transition s (.begin w) (s.move w (.locked attempt timestamp) (some w))
  | fetch {w attempt : Nat} {timestamp : UtcTime} : s.writers w = .locked attempt timestamp →
      Transition s (.fetch w) (s.move w (.fetched attempt timestamp s.table.last) s.lock)
  | insert {w attempt : Nat} {timestamp : UtcTime} {last : Option Row} {row : Row} {after : AuditTable} :
      s.writers w = .fetched attempt timestamp last →
      insertNext rt s.table last timestamp (canonicalJson rt (calls w).payload) = .ok (row,after) →
      Transition s (.insert w) (s.move w (.inserted attempt row after) s.lock)
  | insertFails {w attempt : Nat} {timestamp : UtcTime} {last : Option Row} {e : PyException} :
      s.writers w = .fetched attempt timestamp last →
      insertNext rt s.table last timestamp (canonicalJson rt (calls w).payload) = .error e →
      Transition s (.insert w) (s.move w (afterFault attempt e) (s.freed w))
  | commit {w attempt : Nat} {row : Row} {after : AuditTable} : s.writers w = .inserted attempt row after →
      Transition s (.commit w)
        { s.move w (.committed row) (s.freed w) with table := after, history := s.history ++ [(w,row)] }
  | fail {w attempt : Nat} {e : PyException} : (s.writers w).attempt = some attempt →
      Transition s (.fail w e) (s.move w (afterFault attempt e) (s.freed w))
  | save {w : Nat} {row : Row} {now : UtcTime} : s.writers w = .committed row → (calls w).checkpointing = true →
      Transition s (.save w now) { s.move w (.saved row) s.lock with store := some (checkpointOf rt row now) }
  | saveFails {w : Nat} {row : Row} {e : PyException} : s.writers w = .committed row → (calls w).checkpointing = true →
      Transition s (.saveFails w e) (s.move w (afterSaveFault e) s.lock)
  | finishSaved {w : Nat} {row : Row} : s.writers w = .saved row →
      Transition s (.finish w) (s.move w (.returned row) s.lock)
  | finishUnsaved {w : Nat} {row : Row} : s.writers w = .committed row → (calls w).checkpointing = false →
      Transition s (.finish w) (s.move w (.returned row) s.lock)
  | crash {w : Nat} : (s.writers w).inFlight = true → Transition s (.crash w) (s.move w .crashed (s.freed w))
  | load {v : Nat} {readable : Bool} : s.verifiers v = .idle → Transition s (.load v readable)
      { s with verifiers := Function.update s.verifiers v (.loaded (if readable then s.store else none)) }
  | verify {v : Nat} {checkpoint : Option AuditCheckpoint} {outcome : Except PyException Verification} :
      s.verifiers v = .loaded checkpoint → outcome = verifyWithStore rt s.table (some checkpoint) → Transition s (.verify v)
        { s with verifiers := Function.update s.verifiers v (.verified checkpoint s.table outcome) }

theorem step_cases {rt : Runtime} {calls : Nat → AppendCall} {s t : State} {e : Event}
    (stepped : step rt calls s e = some t) : Transition rt calls s e t := by
  cases e with
  | fail w e =>
    obtain ⟨attempt,running,rfl⟩ := Option.map_eq_some_iff.mp stepped
    exact .fail running
  | insert w =>
    simp only [step] at stepped
    split at stepped
    · next phase =>
      split at stepped
      · next inserted =>
        cases stepped
        exact .insert phase inserted
      · next failed =>
        cases stepped
        exact .insertFails phase failed
    · cases stepped
  | finish w =>
    simp only [step] at stepped
    split at stepped
    · next phase =>
      cases stepped
      exact .finishSaved phase
    · next phase unsaved =>
      cases stepped
      exact .finishUnsaved phase unsaved
    · cases stepped
  | _ =>
    simp only [step] at stepped
    split at stepped
    · cases stepped
      constructor <;> first | assumption | rfl
    · cases stepped

/-! ### The invariant -/

/-- The rows hold the payload of the call. -/
def Carries (w : Nat) (row : Row) : Prop :=
  ∃ payload, canonicalJson rt (calls w).payload = str payload ∧ row.payload = .text payload

/-- What holds of a call in a phase: until its commit it has committed nothing, it holds
    the lock exactly from `BEGIN` to the end of its transaction, and under the lock what
    it has read and inserted is what one transaction on the present table gives. -/
def WriterOk (s : State) (w : Nat) : Phase → Prop
  | .idle | .ready _ | .stamped _ _ => w ∉ s.history.map Prod.fst ∧ s.lock ≠ some w
  | .locked _ _ => w ∉ s.history.map Prod.fst ∧ s.lock = some w
  | .fetched _ _ last => w ∉ s.history.map Prod.fst ∧ s.lock = some w ∧ last = s.table.last
  | .inserted _ row after => w ∉ s.history.map Prod.fst ∧ s.lock = some w ∧
      ∃ timestamp, appendOnce rt s.table timestamp (canonicalJson rt (calls w).payload) = .ok (row,after)
  | .committed row | .saved row | .returned row => (w,row) ∈ s.history ∧ s.lock ≠ some w
  | .raised _ | .crashed => s.lock ≠ some w

/-- What holds of a verifier: its checkpoint names a record of the table, and its verdict
    is what the names demand. -/
def CheckOk (s : State) : Check → Prop
  | .idle => True
  | .loaded checkpoint => ∀ c, checkpoint = some c → ∃ row ∈ s.table.rows, Names rt c row
  | .verified checkpoint snapshot outcome => ∃ result, outcome = .ok result ∧ result.status ≠ .invalid ∧
      (result.tailVerified = true ↔ ∃ c row, checkpoint = some c ∧ snapshot.last = some row ∧ Names rt c row)

structure Inv (s : State) : Prop where
  rows : s.table.rows = s.history.map Prod.snd
  authors : (s.history.map Prod.fst).Nodup
  carried : ∀ entry ∈ s.history, Carries rt calls entry.1 entry.2
  log : Written rt s.table
  writers : ∀ w, WriterOk rt calls s w (s.writers w)
  stored : ∀ c, s.store = some c → ∃ row ∈ s.table.rows, Names rt c row
  verifiers : ∀ v, CheckOk rt s (s.verifiers v)

variable {rt calls} {s t : State}

theorem Inv.valid (inv : Inv rt calls s) : ValidChain rt s.table.rows := inv.log.validChain

theorem inv_start : Inv rt calls .start where
  rows := rfl
  authors := .nil
  carried := fun _ member => absurd member List.not_mem_nil
  log := .empty
  writers := fun _ => ⟨List.not_mem_nil,by simp [State.start]⟩
  stored := fun _ held => by cases held
  verifiers := fun _ => trivial

/-- A step of another call that leaves table and history alone leaves the call as it was. -/
theorem writer_frame {w : Nat} {phase : Phase} (ok : WriterOk rt calls s w phase) (table : t.table = s.table)
    (history : t.history = s.history) (lock : t.lock = some w ↔ s.lock = some w) : WriterOk rt calls t w phase := by
  cases phase <;> simp only [WriterOk,table,history,lock,ne_eq] at ok ⊢ <;> exact ok

theorem freed_other {w other : Nat} (differ : other ≠ w) : s.freed w = some other ↔ s.lock = some other := by
  unfold State.freed
  split_ifs with holds
  · simp [holds,Ne.symm differ]
  · exact Iff.rfl

theorem freed_self {w : Nat} : s.freed w ≠ some w := by
  unfold State.freed
  split_ifs with holds
  · simp
  · exact holds

/-- A step of one call that leaves table, store and history alone keeps the invariant if
    it keeps what holds of this call. -/
theorem inv_move (inv : Inv rt calls s) {w : Nat} {phase : Phase} {lock : Option Nat}
    (others : ∀ other, other ≠ w → (lock = some other ↔ s.lock = some other))
    (ok : WriterOk rt calls (s.move w phase lock) w phase) : Inv rt calls (s.move w phase lock) where
  rows := inv.rows
  authors := inv.authors
  carried := inv.carried
  log := inv.log
  stored := inv.stored
  verifiers := inv.verifiers
  writers := fun other => by
    by_cases same : other = w
    · subst same
      simpa only [State.move,Function.update_self] using ok
    · have kept := writer_frame (t := s.move w phase lock) (inv.writers other) rfl rfl (others other same)
      simpa only [State.move,Function.update_of_ne same] using kept

theorem ok_afterFault {w attempt : Nat} (ok : w ∉ s.history.map Prod.fst) (e : PyException) :
    WriterOk rt calls (s.move w (afterFault attempt e) (s.freed w)) w (afterFault attempt e) := by
  have free : (s.move w (afterFault attempt e) (s.freed w)).lock ≠ some w := freed_self
  unfold afterFault at free ⊢
  split
  · split
    · exact ⟨ok,free⟩
    · exact free
  · exact free

/-- A call in an attempt has committed nothing. -/
theorem attempt_fresh {w attempt : Nat} {phase : Phase} (ok : WriterOk rt calls s w phase)
    (running : phase.attempt = some attempt) : w ∉ s.history.map Prod.fst := by
  cases phase <;> cases running <;> exact ok.1

theorem inv_insert (inv : Inv rt calls s) {w attempt : Nat} {timestamp : UtcTime} {last : Option Row}
    (phase : s.writers w = .fetched attempt timestamp last) {row : Row} {after : AuditTable}
    (inserted : insertNext rt s.table last timestamp (canonicalJson rt (calls w).payload) = .ok (row,after)) :
    Inv rt calls (s.move w (.inserted attempt row after) s.lock) := by
  have ok := inv.writers w
  rw [phase] at ok
  obtain ⟨fresh,holds,rfl⟩ := ok
  exact inv_move inv (fun _ _ => Iff.rfl) ⟨fresh,holds,timestamp,inserted⟩

/-- A commit leaves every other call as it was: this one held the lock, so they are in no
    transaction. -/
theorem writer_commit {w other : Nat} {row : Row} {phase : Phase} (ok : WriterOk rt calls s other phase) (differ : other ≠ w)
    (holds : s.lock = some w) (history : t.history = s.history ++ [(w,row)]) (lock : t.lock = s.freed w) :
    WriterOk rt calls t other phase := by
  have unlocked : s.lock ≠ some other := by simp [holds,Ne.symm differ]
  have free : t.lock ≠ some other := fun held => unlocked ((freed_other differ).mp (lock ▸ held))
  cases phase with
  | idle | ready attempt | stamped attempt timestamp => exact ⟨by simpa [history,differ] using ok.1,free⟩
  | locked attempt timestamp => exact absurd ok.2 unlocked
  | fetched attempt timestamp last => exact absurd ok.2.1 unlocked
  | inserted attempt row after => exact absurd ok.2.1 unlocked
  | committed row | saved row | returned row => exact ⟨history ▸ List.mem_append_left _ ok.1,free⟩
  | raised e => exact free
  | crashed => exact free

/-- A loaded checkpoint still names a record when the table has grown. -/
theorem check_grown {check : Check} (ok : CheckOk rt s check) (grown : ∀ r ∈ s.table.rows, r ∈ t.table.rows) :
    CheckOk rt t check := by
  cases check with
  | idle => trivial
  | loaded checkpoint =>
    intro c held
    obtain ⟨r,member,named⟩ := ok c held
    exact ⟨r,grown r member,named⟩
  | verified checkpoint snapshot outcome => exact ok

theorem inv_commit (inv : Inv rt calls s) {w attempt : Nat} {row : Row} {after : AuditTable}
    (phase : s.writers w = .inserted attempt row after) :
    Inv rt calls { s.move w (.committed row) (s.freed w) with table := after, history := s.history ++ [(w,row)] } := by
  have ok := inv.writers w
  rw [phase] at ok
  obtain ⟨fresh,holds,timestamp,appended⟩ := ok
  obtain ⟨payload,encoded,made,_,rows⟩ := appendOnce_ok appended
  have grown : ∀ r ∈ s.table.rows, r ∈ after.rows := fun r member => rows ▸ List.mem_append_left _ member
  refine ⟨?_,?_,?_,?_,fun other => ?_,?_,fun v => ?_⟩
  · simp [rows,inv.rows]
  · simp only [List.map_append,List.map_singleton]
    exact List.nodup_append.mpr ⟨inv.authors,List.nodup_singleton _,by
      intro a member b last same
      rw [List.mem_singleton.mp last] at same
      exact fresh (same ▸ member)⟩
  · intro entry member
    rcases List.mem_append.mp member with earlier | last
    · exact inv.carried entry earlier
    · rw [List.mem_singleton.mp last]
      exact ⟨payload,encoded,by rw [made]; rfl⟩
  · exact .append inv.log appended
  · by_cases same : other = w
    · subst same
      simp only [State.move,Function.update_self]
      exact ⟨by simp,freed_self⟩
    · simp only [State.move,Function.update_of_ne same]
      exact writer_commit (inv.writers other) same holds rfl rfl
  · intro c held
    obtain ⟨r,member,named⟩ := inv.stored c held
    exact ⟨r,grown r member,named⟩
  · exact check_grown (inv.verifiers v) grown

theorem inv_save (inv : Inv rt calls s) {w : Nat} {row : Row} {now : UtcTime} (phase : s.writers w = .committed row) :
    Inv rt calls { s.move w (.saved row) s.lock with store := some (checkpointOf rt row now) } := by
  have ok := inv.writers w
  rw [phase] at ok
  have moved : Inv rt calls (s.move w (.saved row) s.lock) := inv_move inv (fun _ _ => Iff.rfl) ok
  refine ⟨moved.rows,moved.authors,moved.carried,moved.log,moved.writers,fun c held => ?_,moved.verifiers⟩
  cases held
  refine ⟨row,?_,checkpointOf_names ..⟩
  change row ∈ s.table.rows
  rw [inv.rows]
  exact List.mem_map_of_mem ok.1

/-- A step of a verifier keeps the invariant if it keeps what holds of this verifier. -/
theorem inv_check (inv : Inv rt calls s) {v : Nat} {check : Check} (ok : CheckOk rt s check) :
    Inv rt calls { s with verifiers := Function.update s.verifiers v check } := by
  refine ⟨inv.rows,inv.authors,inv.carried,inv.log,inv.writers,inv.stored,fun other => ?_⟩
  by_cases same : other = v
  · subst same
    simp only [Function.update_self]
    exact ok
  · simp only [Function.update_of_ne same]
    exact inv.verifiers other

theorem inv_step {e : Event} (inv : Inv rt calls s) (stepped : step rt calls s e = some t) : Inv rt calls t := by
  cases step_cases stepped with
  | @call w phase | @stamp w _ _ phase | @fetch w _ _ phase | @finishSaved w _ phase | @finishUnsaved w _ phase _ =>
    have ok := inv.writers w
    rw [phase] at ok
    refine inv_move inv (fun _ _ => Iff.rfl) ?_
    first | exact ok | exact ⟨ok.1,ok.2,rfl⟩
  | @begin w _ _ phase free =>
    have ok := inv.writers w
    rw [phase] at ok
    refine inv_move inv (fun other differ => ?_) ⟨ok.1,rfl⟩
    rw [free]
    simp [Ne.symm differ]
  | insert phase inserted => exact inv_insert inv phase inserted
  | @insertFails w _ _ _ e phase _ =>
    have ok := inv.writers w
    rw [phase] at ok
    exact inv_move inv (fun _ differ => freed_other differ) (ok_afterFault ok.1 e)
  | commit phase => exact inv_commit inv phase
  | @fail w _ e running =>
    exact inv_move inv (fun _ differ => freed_other differ) (ok_afterFault (attempt_fresh (inv.writers w) running) e)
  | save phase _ => exact inv_save inv phase
  | @saveFails w row e phase _ =>
    have ok := inv.writers w
    rw [phase] at ok
    refine inv_move inv (fun _ _ => Iff.rfl) ?_
    cases e <;> exact ok.2
  | crash _ => exact inv_move inv (fun _ differ => freed_other differ) freed_self
  | @load v readable _ =>
    refine inv_check inv fun c held => ?_
    cases readable with
    | true => exact inv.stored c held
    | false => cases held
  | @verify v checkpoint _ phase made =>
    have check := inv.verifiers v
    rw [phase] at check
    subst made
    exact inv_check inv (verifyWithStore_consistent inv.valid check)

theorem reachable_inv (reached : Reachable (step rt calls) .start s) : Inv rt calls s :=
  reached.invariant inv_start inv_step

/-- Whatever the interleaving, the table is one that transactions one after another have made. -/
theorem reachable_written (reached : Reachable (step rt calls) .start s) : Written rt s.table := (reachable_inv reached).log

/-- Two calls have not committed rows with one id. -/
theorem author_of_id (inv : Inv rt calls s) {w w' : Nat} {row row' : Row} (committed : (w,row) ∈ s.history)
    (committed' : (w',row') ∈ s.history) (same : row.id = row'.id) : w = w' ∧ row = row' := by
  have distinct := inv.valid.ids_nodup
  rw [inv.rows,List.map_map] at distinct
  exact Prod.mk.inj (List.inj_on_of_nodup_map distinct committed committed' same)

variable (rt calls s)

/-- The log that the calls have built so far. -/
structure Unforked : Prop where
  ids : s.table.rows.map Row.id = (List.range s.table.count).map (fun i : Nat => 1 + (i : Int))
  verdict : verifyChain rt s.table none =
    .ok (if s.table.count = 0 then ⟨.empty,0,none,none,false⟩ else ⟨.valid,s.table.count,none,none,false⟩)
  prevs : CollisionFree rt → (∀ t, (rt.sha256 t).text ≠ genesisHash) → (s.table.rows.map Row.prevHash).Nodup
  returned : ∀ w row, s.writers w = .returned row → row ∈ s.table.rows ∧ Carries rt calls w row
  distinct : ∀ w w' row row', s.writers w = .returned row → s.writers w' = .returned row' → row.id = row'.id → w = w'
  once : s.table.rows = s.history.map Prod.snd ∧ (s.history.map Prod.fst).Nodup

/-- Concurrent appends never fork the log and never lose, repeat or renumber a record. -/
theorem concurrent_appends_unforked (reached : Reachable (step rt calls) .start s) : Unforked rt calls s := by
  have inv := reachable_inv reached
  have committed : ∀ w row, s.writers w = .returned row → (w,row) ∈ s.history := by
    intro w row phase
    have ok := inv.writers w
    rw [phase] at ok
    exact ok.1
  refine ⟨inv.valid.ids,?_,fun collisionFree fresh => prevs_nodup collisionFree fresh inv.valid,?_,?_,inv.rows,inv.authors⟩
  · rw [AuditTable.count]
    by_cases records : s.table.rows = []
    · simp [verifyChain_empty records,records]
    · simp [verify_valid inv.valid records,records]
  · intro w row phase
    have member := committed w row phase
    exact ⟨inv.rows ▸ List.mem_map_of_mem member,inv.carried _ member⟩
  · intro w w' row row' phase phase' same
    exact (author_of_id inv (committed w row phase) (committed w' row' phase') same).1

end

def sampleCalls : Nat → AppendCall := fun _ => ⟨.obj [],true⟩

/-- The steps of a call up to its commit. -/
def committing (w : Nat) : List Event := [.call w,.stamp w sampleTime,.begin w,.fetch w,.insert w,.commit w]

/-- One call returns, and another one crashes while it holds the lock. -/
theorem concurrent_appends_unforked_crash :
    ∃ s, run (step sampleRuntime sampleCalls) .start
        (committing 0 ++ [.save 0 sampleTime,.finish 0,.call 1,.stamp 1 sampleTime,.begin 1,.fetch 1,.crash 1]) = some s ∧
      (s.table,s.writers 0,s.writers 1) = (oneRecord,.returned firstRow,.crashed) ∧ Unforked sampleRuntime sampleCalls s := by
  have ran : (run (step sampleRuntime sampleCalls) .start
      (committing 0 ++ [.save 0 sampleTime,.finish 0,.call 1,.stamp 1 sampleTime,.begin 1,.fetch 1,.crash 1])).map
        (fun s => (s.table,s.writers 0,s.writers 1)) = some (oneRecord,.returned firstRow,.crashed) := by decide +kernel
  obtain ⟨s,ran,seen⟩ := Option.map_eq_some_iff.mp ran
  exact ⟨s,ran,seen,concurrent_appends_unforked sampleRuntime sampleCalls s ⟨_,ran⟩⟩

section
variable (rt : Runtime) (calls : Nat → AppendCall) (s : State)

/-- No interleaving, failure or crash makes a verification say INVALID, and the tail is
    verified just when the loaded checkpoint names the newest record of the table read. -/
theorem no_false_alarm (reached : Reachable (step rt calls) .start s) (v : Nat) (checkpoint : Option AuditCheckpoint)
    (snapshot : AuditTable) (outcome : Except PyException Verification)
    (verified : s.verifiers v = .verified checkpoint snapshot outcome) :
    ∃ result, outcome = .ok result ∧ result.status ≠ .invalid ∧
      (result.tailVerified = true ↔ ∃ c row, checkpoint = some c ∧ snapshot.last = some row ∧ Names rt c row) := by
  have check := (reachable_inv reached).verifiers v
  rw [verified] at check
  exact check

end

/-- The checkpoint is loaded before the second commit, and the table read after it. -/
theorem no_false_alarm_stale :
    ∃ s result, run (step sampleRuntime sampleCalls) .start
        (committing 0 ++ [.save 0 sampleTime,.load 0 true] ++ committing 1 ++ [.verify 0]) = some s ∧
      s.verifiers 0 = .verified (some (checkpointOf sampleRuntime firstRow sampleTime)) twoRecords (.ok result) ∧
      result.status ≠ .invalid ∧ (result.tailVerified = true ↔ ∃ c row,
        some (checkpointOf sampleRuntime firstRow sampleTime) = some c ∧ twoRecords.last = some row ∧ Names sampleRuntime c row) := by
  have ran : (run (step sampleRuntime sampleCalls) .start
      (committing 0 ++ [.save 0 sampleTime,.load 0 true] ++ committing 1 ++ [.verify 0])).map (fun s => s.verifiers 0) =
        some (.verified (some (checkpointOf sampleRuntime firstRow sampleTime)) twoRecords
          (.ok ⟨.valid,2,none,some (staleReason 1 2),false⟩)) := by decide +kernel
  obtain ⟨s,ran,seen⟩ := Option.map_eq_some_iff.mp ran
  obtain ⟨result,same,sound⟩ := no_false_alarm sampleRuntime sampleCalls s ⟨_,ran⟩ 0 _ _ _ seen
  cases same
  exact ⟨s,_,ran,seen,sound⟩

end PrivacyGateway.Writers
