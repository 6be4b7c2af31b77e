import PrivacyGateway.Timestamps
import PrivacyGateway.Writers

/-!
Record order and time order. An attempt reads the clock before it waits for the write
lock, so attempts can commit in another order than they have read the clock in, also
when the clock never goes back. The stored timestamps are in order just as far as the
readings are (`records_follow_readings`).
-/
namespace PrivacyGateway.RecordOrder
open PrivacyGateway.SqlValues PrivacyGateway.StdLib PrivacyGateway.AuditLog PrivacyGateway.Verification
open PrivacyGateway.Runs PrivacyGateway.Writers PrivacyGateway.Timestamps

/-- A reading of the clock by an attempt: how many there were before it, and what the clock showed. -/
structure Reading where
  number : Nat
  time : UtcTime

/-- The writers with their shared clock: what it has shown last, how many attempts have
    read it, and each call's last reading. -/
structure Clocked where
  system : State
  now : UtcTime
  count : Nat
  readings : Nat → Option Reading

def Clocked.start (now : UtcTime) : Clocked := ⟨.start,now,0,fun _ => none⟩

/-- The clock at a step that reads it. -/
def shown : Event → Option UtcTime
  | .stamp _ now | .save _ now => some now
  | _ => none

/-- The step does not take the clock back. -/
def Forward (s : Clocked) (e : Event) : Prop := ∀ now ∈ shown e, s.now ≤ now

instance (s : Clocked) (e : Event) : Decidable (Forward s e) := inferInstanceAs (Decidable (∀ now ∈ shown e, s.now ≤ now))

/-- The clock after a step to a state of the writers. -/
def Clocked.after (s : Clocked) (t : State) : Event → Clocked
  | .stamp w now => ⟨t,now,s.count + 1,Function.update s.readings w (some ⟨s.count,now⟩)⟩
  | .save _ now => { s with system := t, now := now }
  | _ => { s with system := t }

/-- The first record's timestamp is no later than the second's. -/
def NotAfter (a b : Row) : Prop :=
  match a.timestamp,b.timestamp with
  | .text s,.text t => s ≤ t
  | _,_ => False

/-- The stored timestamps do not decrease with the ids. -/
def TimeOrdered (table : AuditTable) : Prop := table.rows.Pairwise NotAfter

/-- The first call's attempt has read the clock first, or both were shown the same time. -/
def ReadInOrder (s : Clocked) (w w' : Nat) : Prop :=
  ∃ r r', s.readings w = some r ∧ s.readings w' = some r' ∧ (r.number < r'.number ∨ r.time = r'.time)

section
variable (rt : Runtime) (calls : Nat → AppendCall)

/-- A step of the writers under a clock that never goes back. -/
def clockStep (s : Clocked) (e : Event) : Option Clocked :=
  if Forward s e then (step rt calls s.system e).map fun t => s.after t e else none

variable {rt calls} {s t : Clocked} {e : Event}

theorem clockStep_eq_some :
    clockStep rt calls s e = some t ↔ Forward s e ∧ ∃ next, step rt calls s.system e = some next ∧ t = s.after next e := by
  unfold clockStep
  split_ifs with forward
  · simp [forward,eq_comm]
  · simp [forward]

theorem after_system (next : State) : (s.after next e).system = next := by cases e <;> rfl

/-- The writers do under the clock what they do anyway. -/
theorem reachable_system {begins : UtcTime} (reached : Reachable (clockStep rt calls) (.start begins) s) :
    Reachable (step rt calls) .start s.system := by
  let Behaves : Clocked → Prop := fun c => Reachable (step rt calls) .start c.system
  have begun : Behaves (.start begins) := ⟨[],rfl⟩
  refine reached.invariant begun ?_
  rintro s e t ⟨events,ran⟩ stepped
  obtain ⟨_,next,moved,rfl⟩ := clockStep_eq_some.mp stepped
  exact ⟨events ++ [e],run_snoc.mpr ⟨s.system,ran,by rw [after_system,moved]⟩⟩

/-- In an attempt the timestamp is the call's last reading. -/
def PhaseOk (reading : Option Reading) : Phase → Prop
  | .stamped _ timestamp | .locked _ timestamp | .fetched _ timestamp _ => ∃ r, reading = some r ∧ r.time = timestamp
  | .inserted _ row _ => ∃ r, reading = some r ∧ row.timestamp = .text r.time.isoformat
  | _ => True

structure Timed (s : Clocked) : Prop where
  past : ∀ w r, s.readings w = some r → r.number < s.count ∧ r.time ≤ s.now
  forward : ∀ w w' r r', s.readings w = some r → s.readings w' = some r' → r.number < r'.number → r.time ≤ r'.time
  own : ∀ w w' r r', s.readings w = some r → s.readings w' = some r' → r.number = r'.number → r.time = r'.time
  phases : ∀ w, PhaseOk (s.readings w) (s.system.writers w)
  stamped : ∀ entry ∈ s.system.history, ∃ r, s.readings entry.1 = some r ∧ entry.2.timestamp = .text r.time.isoformat

theorem timed_start (begins : UtcTime) : Timed (.start begins) where
  past := fun _ _ absent => by cases absent
  forward := fun _ _ _ _ absent => by cases absent
  own := fun _ _ _ _ absent => by cases absent
  phases := fun _ => trivial
  stamped := fun _ member => absurd member List.not_mem_nil

/-- A step of one call that is no reading and commits nothing. -/
theorem timed_move (timed : Timed s) {w : Nat} {phase : Phase} {lock : Option Nat} (ok : PhaseOk (s.readings w) phase) :
    Timed { s with system := s.system.move w phase lock } where
  past := timed.past
  forward := timed.forward
  own := timed.own
  stamped := timed.stamped
  phases := fun other => by
    by_cases same : other = w
    · subst same
      simpa only [State.move,Function.update_self] using ok
    · simpa only [State.move,Function.update_of_ne same] using timed.phases other

/-- The clock may go on, and the store and the verifiers may change. -/
theorem timed_frame (timed : Timed s) {next : State} {now : UtcTime} (later : s.now ≤ now)
    (writers : next.writers = s.system.writers) (history : next.history = s.system.history) :
    Timed { s with system := next, now := now } where
  past := fun w r read => ⟨(timed.past w r read).1,(timed.past w r read).2.trans later⟩
  forward := timed.forward
  own := timed.own
  phases := fun w => by
    show PhaseOk (s.readings w) (next.writers w)
    rw [writers]
    exact timed.phases w
  stamped := fun entry member => timed.stamped entry (history ▸ member)

theorem timed_stamp (timed : Timed s) {w attempt : Nat} {now : UtcTime} {lock : Option Nat} (later : s.now ≤ now)
    (fresh : w ∉ s.system.history.map Prod.fst) :
    Timed ⟨s.system.move w (.stamped attempt now) lock,now,s.count + 1,Function.update s.readings w (some ⟨s.count,now⟩)⟩ := by
  -- A reading is the new one, or one from before.
  have origin : ∀ v r, Function.update s.readings w (some ⟨s.count,now⟩) v = some r →
      r = ⟨s.count,now⟩ ∨ s.readings v = some r := by
    intro v r read
    by_cases same : v = w
    · subst same
      rw [Function.update_self] at read
      exact .inl (Option.some.inj read).symm
    · rw [Function.update_of_ne same] at read
      exact .inr read
  refine ⟨fun v r read => ?_,fun v v' r r' read read' before => ?_,fun v v' r r' read read' same => ?_,fun v => ?_,?_⟩
  · rcases origin v r read with rfl | old
    · exact ⟨Nat.lt_succ_self _,le_rfl⟩
    · have past := timed.past v r old
      exact ⟨Nat.lt_succ_of_lt past.1,past.2.trans later⟩
  · rcases origin v r read with rfl | old
    · rcases origin v' r' read' with rfl | old'
      · exact le_rfl
      · have := (timed.past v' r' old').1
        dsimp only at before
        omega
    · rcases origin v' r' read' with rfl | old'
      · exact (timed.past v r old).2.trans later
      · exact timed.forward v v' r r' old old' before
  · rcases origin v r read with rfl | old
    · rcases origin v' r' read' with rfl | old'
      · rfl
      · have := (timed.past v' r' old').1
        dsimp only at same
        omega
    · rcases origin v' r' read' with rfl | old'
      · have := (timed.past v r old).1
        dsimp only at same
        omega
      · exact timed.own v v' r r' old old' same
  · by_cases same : v = w
    · subst same
      simp only [State.move,Function.update_self]
      exact ⟨_,rfl,rfl⟩
    · simpa only [State.move,Function.update_of_ne same] using timed.phases v
  · intro entry member
    have differ : entry.1 ≠ w := by
      rintro rfl
      exact fresh (List.mem_map_of_mem member)
    simpa only [Function.update_of_ne differ] using timed.stamped entry member

theorem timed_step (inv : Inv rt calls s.system) (timed : Timed s) (stepped : clockStep rt calls s e = some t) : Timed t := by
  obtain ⟨forward,next,moved,rfl⟩ := clockStep_eq_some.mp stepped
  cases step_cases moved with
  | call phase | finishSaved phase | finishUnsaved phase _ | crash _ => exact timed_move timed trivial
  | @stamp w _ now phase =>
    have ok := inv.writers w
    rw [phase] at ok
    exact timed_stamp timed (forward now rfl) ok.1
  | @begin w _ _ phase _ | @fetch w _ _ phase =>
    have ok := timed.phases w
    rw [phase] at ok
    exact timed_move timed ok
  | @insert w _ timestamp last row after phase inserted =>
    have ok := timed.phases w
    have read := inv.writers w
    rw [phase] at ok read
    obtain ⟨r,reading,rfl⟩ := ok
    obtain ⟨_,_,rfl⟩ := read
    have appended : appendOnce rt s.system.table r.time _ = .ok (row,after) := inserted
    obtain ⟨payload,_,rfl,_,_⟩ := appendOnce_ok appended
    exact timed_move timed ⟨r,reading,rfl⟩
  | insertFails _ _ | fail _ =>
    refine timed_move timed ?_
    unfold afterFault
    split
    · split <;> trivial
    · trivial
  | @commit w _ row _ phase =>
    have ok := timed.phases w
    rw [phase] at ok
    have moved : Timed { s with system := s.system.move w (.committed row) (s.system.freed w) } := timed_move timed trivial
    refine ⟨moved.past,moved.forward,moved.own,moved.phases,fun entry member => ?_⟩
    rcases List.mem_append.mp member with earlier | last
    · exact timed.stamped entry earlier
    · rw [List.mem_singleton.mp last]
      exact ok
  | @save w row now phase _ =>
    have moved : Timed { s with system := s.system.move w (.saved row) s.system.lock } := timed_move timed trivial
    exact timed_frame moved (forward now rfl) rfl rfl
  | saveFails _ _ =>
    refine timed_move timed ?_
    unfold afterSaveFault
    split <;> trivial
  | load _ | verify _ _ => exact timed_frame timed le_rfl rfl rfl

theorem reachable_timed {begins : UtcTime} (reached : Reachable (clockStep rt calls) (.start begins) s) : Timed s := by
  let Both : Clocked → Prop := fun c => Inv rt calls c.system ∧ Timed c
  have begun : Both (.start begins) := ⟨inv_start,timed_start begins⟩
  refine (show Both s from reached.invariant begun ?_).2
  rintro s e t ⟨inv,timed⟩ stepped
  have kept := timed_step inv timed stepped
  obtain ⟨_,next,moved,rfl⟩ := clockStep_eq_some.mp stepped
  refine ⟨?_,kept⟩
  show Inv rt calls (s.after next e).system
  rw [after_system]
  exact inv_step inv moved

theorem notAfter_iff {a b : Row} {x y : UtcTime} (first : a.timestamp = .text x.isoformat)
    (second : b.timestamp = .text y.isoformat) : NotAfter a b ↔ x ≤ y := by
  unfold NotAfter
  rw [first,second]
  exact isoformat_le_iff

/-- Two records are in time order just when their attempts have read the clock in that
    order, or at one time. -/
theorem notAfter_iff_readInOrder (timed : Timed s) {a b : Nat × Row} (first : a ∈ s.system.history)
    (second : b ∈ s.system.history) : NotAfter a.2 b.2 ↔ ReadInOrder s a.1 b.1 := by
  obtain ⟨r,read,stamp⟩ := timed.stamped a first
  obtain ⟨r',read',stamp'⟩ := timed.stamped b second
  rw [notAfter_iff stamp stamp']
  constructor
  · intro le
    refine ⟨r,r',read,read',?_⟩
    rcases Nat.lt_trichotomy r.number r'.number with before | same | after
    · exact .inl before
    · exact .inr (timed.own _ _ r r' read read' same)
    · exact .inr (le_antisymm le (timed.forward _ _ r' r read' read after))
  · rintro ⟨q,q',is,is',order⟩
    cases read.symm.trans is
    cases read'.symm.trans is'
    rcases order with before | same
    · exact timed.forward _ _ r r' read read' before
    · exact same.le

variable (rt calls s)

/-- What the timestamps of the log are. -/
structure FollowsReadings : Prop where
  rows : s.system.table.rows = s.system.history.map Prod.snd
  stamped : ∀ entry ∈ s.system.history, ∃ r, s.readings entry.1 = some r ∧ entry.2.timestamp = .text r.time.isoformat
  unlocked : ∀ w now t, clockStep rt calls s (.stamp w now) = some t → s.system.lock ≠ some w
  ordered : TimeOrdered s.system.table ↔
    s.system.history.Pairwise fun earlier later => ReadInOrder s earlier.1 later.1
  later : ∀ w now t, clockStep rt calls s (.stamp w now) = some t → ∀ row ∈ s.system.table.rows,
    ∃ text, row.timestamp = .text text ∧ text ≤ now.isoformat

/-- Whatever the interleaving, each record holds the clock reading of the attempt that has
    committed it, and no call reads the clock while it has the write lock. The timestamps are
    in the order of the ids exactly when the readings are, and no attempt reads an earlier
    time than a record that is there already. -/
theorem records_follow_readings (begins : UtcTime) (reached : Reachable (clockStep rt calls) (.start begins) s) :
    FollowsReadings rt calls s := by
  have inv := reachable_inv (reachable_system reached)
  have timed := reachable_timed reached
  refine ⟨inv.rows,timed.stamped,fun w now t stepped => ?_,?_,fun w now t stepped row member => ?_⟩
  · obtain ⟨_,next,moved,_⟩ := clockStep_eq_some.mp stepped
    cases step_cases moved with
    | stamp phase =>
      have ok := inv.writers w
      rw [phase] at ok
      exact ok.2
  · rw [TimeOrdered,inv.rows,List.pairwise_map]
    exact List.Pairwise.iff_of_mem fun first second => notAfter_iff_readInOrder timed first second
  · rw [inv.rows] at member
    obtain ⟨entry,inHistory,rfl⟩ := List.mem_map.mp member
    obtain ⟨r,read,stamp⟩ := timed.stamped entry inHistory
    have forward := (clockStep_eq_some.mp stepped).1
    exact ⟨_,stamp,isoformat_le_iff.mpr ((timed.past _ r read).2.trans (forward now rfl))⟩

end

/-- One microsecond before `sampleTime`. -/
def earlierTime : UtcTime := ⟨2026,1,2,3,4,5,5,by decide⟩

/-- The first call reads the clock first and gets the write lock after the second has committed. -/
def lateCommit : List Event :=
  [.call 0,.stamp 0 earlierTime] ++ committing 1 ++ [.begin 0,.fetch 0,.insert 0,.commit 0]

theorem records_follow_readings_late :
    ∃ s, run (clockStep sampleRuntime sampleCalls) (.start earlierTime) lateCommit = some s ∧
      FollowsReadings sampleRuntime sampleCalls s := by
  have ran : (run (clockStep sampleRuntime sampleCalls) (.start earlierTime) lateCommit).isSome = true := by decide +kernel
  obtain ⟨s,ran⟩ := Option.isSome_iff_exists.mp ran
  exact ⟨s,ran,records_follow_readings sampleRuntime sampleCalls s earlierTime ⟨_,ran⟩⟩

/-- The clock does not go back, and the second record has the earlier timestamp. -/
theorem late_commit_out_of_order :
    ∃ s, run (clockStep sampleRuntime sampleCalls) (.start earlierTime) lateCommit = some s ∧
      s.system.table.rows.map (fun row => (row.id,row.timestamp)) =
        [(1,.text sampleTime.isoformat),(2,.text earlierTime.isoformat)] ∧
      ¬ TimeOrdered s.system.table := by
  have ran : (run (clockStep sampleRuntime sampleCalls) (.start earlierTime) lateCommit).map
      (fun s => s.system.table.rows.map (fun row => (row.id,row.timestamp))) =
        some [(1,.text sampleTime.isoformat),(2,.text earlierTime.isoformat)] := by decide +kernel
  obtain ⟨s,ran,seen⟩ := Option.map_eq_some_iff.mp ran
  refine ⟨s,ran,seen,fun ordered => ?_⟩
  obtain ⟨first,rest,rows,head,others⟩ := List.map_eq_cons_iff.mp seen
  obtain ⟨second,none,rfl,last,_⟩ := List.map_eq_cons_iff.mp others
  rw [TimeOrdered,rows] at ordered
  have notAfter := (List.pairwise_cons.mp ordered).1 second List.mem_cons_self
  rw [notAfter_iff (Prod.mk.inj head).2 (Prod.mk.inj last).2] at notAfter
  exact absurd notAfter (by decide)

end PrivacyGateway.RecordOrder
