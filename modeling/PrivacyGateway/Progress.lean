import PrivacyGateway.Application

/-!
No interleaving, failure or crash keeps a request from its answer for good. A call that holds
the write lock can go on to its end, and so can, once the lock is free, every other call
(`call_ends`); none of these steps fails. So every request that has not crashed can still be
answered, and what can be written is recorded (`request_answerable`).
-/
namespace PrivacyGateway.Progress
open PrivacyGateway.Strings PrivacyGateway.Errors PrivacyGateway.StdLib PrivacyGateway.JsonText PrivacyGateway.AuditLog
open PrivacyGateway.Verification PrivacyGateway.Runs PrivacyGateway.Requests
open PrivacyGateway.Writers (AppendCall Phase State Event Inv afterFault inv_step reachable_inv step)
open PrivacyGateway.Application (greetings greetings_handed greetingInterpreter)

/-- The call that takes the step. -/
def caller : Event → Option Nat
  | .call w | .stamp w _ | .begin w | .fetch w | .insert w | .commit w | .fail w _ | .save w _ | .saveFails w _ | .finish w
  | .crash w => some w
  | .load .. | .verify .. => none

/-- The step is no failure. -/
def Faultless : Event → Prop
  | .fail .. | .saveFails .. | .crash .. => False
  | _ => True

/-- How many steps a call has to go at most. -/
def remaining : Phase → Nat
  | .idle => 8
  | .ready _ => 7
  | .stamped .. => 6
  | .locked .. => 5
  | .fetched .. => 4
  | .inserted .. => 3
  | .committed _ => 2
  | .saved _ => 1
  | .returned _ | .raised _ | .crashed => 0

/-- How many rows a call has to commit. -/
def pending : Phase → Nat
  | .idle | .ready _ | .stamped .. | .locked .. | .fetched .. | .inserted .. => 1
  | _ => 0

section
variable (rt : Runtime) (calls : Nat → AppendCall)

/-- The payload can be encoded and its row has an id. -/
structure Writable (u : State) (w : Nat) : Prop where
  encodable : Utf8Encodable (canonicalJson rt (calls w).payload)
  room : ((u.table.count + pending (u.writers w) : Nat) : Int) ≤ maxRowId
  going : ∀ e, u.writers w ≠ .raised e

/-- The call has come on, with the others where they were. -/
structure Advanced (w : Nat) (u v : State) : Prop where
  inv : Inv rt calls v
  others : ∀ other, other ≠ w → v.writers other = u.writers other
  turn : v.lock = none ∨ v.lock = some w
  alive : u.writers w ≠ .crashed → v.writers w ≠ .crashed
  rows : v.table.count + pending (v.writers w) ≤ u.table.count + pending (u.writers w)
  writable : Writable rt calls u w → Writable rt calls v w

end

section
variable {rt : Runtime} {calls : Nat → AppendCall} {u v : State} {w : Nat}

theorem Advanced.trans {t : State} (first : Advanced rt calls w u v) (second : Advanced rt calls w v t) :
    Advanced rt calls w u t where
  inv := second.inv
  others := fun other differ => (second.others other differ).trans (first.others other differ)
  turn := second.turn
  alive := fun alive => second.alive (first.alive alive)
  rows := second.rows.trans first.rows
  writable := fun writable => second.writable (first.writable writable)

/-- What a step does that takes the call alone to its next phase. -/
theorem advanced_of {next : Phase} (inv : Inv rt calls v) (moved : v.writers = Function.update u.writers w next)
    (turn : v.lock = none ∨ v.lock = some w) (rows : v.table.count + pending next ≤ u.table.count + pending (u.writers w))
    (alive : next ≠ .crashed) (sound : Writable rt calls u w → ∀ e, next ≠ .raised e) : Advanced rt calls w u v := by
  have here : v.writers w = next := by rw [moved,Function.update_self]
  refine ⟨inv,fun other differ => by rw [moved,Function.update_of_ne differ],turn,fun _ => ?_,?_,fun writable => ?_⟩
  · rw [here]
    exact alive
  · rw [here]
    exact rows
  · refine ⟨writable.encodable,?_,?_⟩
    · rw [here]
      exact le_trans (by exact_mod_cast rows) writable.room
    · rw [here]
      exact sound writable

/-- The next id is one more than there are rows. -/
theorem nextId_count (inv : Inv rt calls u) : nextId u.table.last = u.table.count + 1 := by
  cases latest : u.table.last with
  | none =>
    rw [nextId,AuditTable.count,last_eq_none.mp latest]
    rfl
  | some row => rw [nextId,inv.valid.last_id latest,AuditTable.count]

/-- A transaction fails for good or not at all, and not at all if the call can be written. -/
theorem insert_cases (inv : Inv rt calls u) (uncommitted : pending (u.writers w) = 1) (timestamp : UtcTime) :
    (∃ row after, appendOnce rt u.table timestamp (canonicalJson rt (calls w).payload) = .ok (row,after)) ∨
      ∃ e, appendOnce rt u.table timestamp (canonicalJson rt (calls w).payload) = .error e ∧
        (∀ attempt, afterFault attempt e = .raised e) ∧ ¬ Writable rt calls u w := by
  rcases appendOnce_spec rt u.table timestamp (canonicalJson rt (calls w).payload) with ⟨e,fault,raised⟩ | ⟨_,made⟩
  · refine .inr ⟨e,raised,?_⟩
    unfold unwritable at fault
    split_ifs at fault with unencodable beyond
    · cases fault
      refine ⟨fun _ => rfl,fun writable => ?_⟩
      have encodable := writable.encodable
      rw [Utf8Encodable,unencodable] at encodable
      cases encodable
    · cases fault
      refine ⟨fun _ => rfl,fun writable => ?_⟩
      have room := writable.room
      rw [nextId_count inv] at beyond
      rw [uncommitted] at room
      push_cast at room
      omega
  · exact .inl made

/-- A call that has not ended has a step that does not fail, unless another call holds the lock. -/
theorem call_advances (inv : Inv rt calls u) (turn : u.lock = none ∨ u.lock = some w)
    (running : remaining (u.writers w) ≠ 0) :
    ∃ e v, step rt calls u e = some v ∧ Faultless e ∧ caller e = some w ∧
      remaining (v.writers w) < remaining (u.writers w) ∧ Advanced rt calls w u v := by
  have by_step : ∀ (e : Event) (v : State) (next : Phase), step rt calls u e = some v → Faultless e → caller e = some w →
      v.writers = Function.update u.writers w next → v.lock = none ∨ v.lock = some w →
      v.table.count + pending next ≤ u.table.count + pending (u.writers w) → next ≠ .crashed →
      (Writable rt calls u w → ∀ e, next ≠ .raised e) → remaining next < remaining (u.writers w) →
        ∃ e v, step rt calls u e = some v ∧ Faultless e ∧ caller e = some w ∧
          remaining (v.writers w) < remaining (u.writers w) ∧ Advanced rt calls w u v := by
    intro e v next stepped faultless own moved turn rows alive sound less
    exact ⟨e,v,stepped,faultless,own,by rw [moved,Function.update_self]; exact less,
      advanced_of (inv_step inv stepped) moved turn rows alive sound⟩
  have ok := inv.writers w
  cases phase : u.writers w with
  | idle =>
    rw [phase] at by_step
    refine by_step (.call w) (u.move w (.ready 0) u.lock) (.ready 0) ?_ trivial rfl rfl turn le_rfl ?_ ?_ ?_
    all_goals simp [step,phase,remaining]
  | ready attempt =>
    rw [phase] at by_step
    refine by_step (.stamp w sampleTime) (u.move w (.stamped attempt sampleTime) u.lock) (.stamped attempt sampleTime) ?_
      trivial rfl rfl turn le_rfl ?_ ?_ ?_
    all_goals simp [step,phase,remaining]
  | stamped attempt timestamp =>
    rw [phase] at by_step ok
    have free : u.lock = none := turn.resolve_right ok.2
    refine by_step (.begin w) (u.move w (.locked attempt timestamp) (some w)) (.locked attempt timestamp) ?_ trivial rfl rfl
      (.inr rfl) le_rfl ?_ ?_ ?_
    all_goals simp [step,phase,free,remaining]
  | locked attempt timestamp =>
    rw [phase] at by_step
    refine by_step (.fetch w) (u.move w (.fetched attempt timestamp u.table.last) u.lock)
      (.fetched attempt timestamp u.table.last) ?_ trivial rfl rfl turn le_rfl ?_ ?_ ?_
    all_goals simp [step,phase,remaining]
  | fetched attempt timestamp last =>
    rw [phase] at ok
    obtain ⟨_,holds,rfl⟩ := ok
    have inserting := insert_cases inv (by rw [phase]; rfl) timestamp
    rw [phase] at by_step
    rw [appendOnce] at inserting
    rcases inserting with ⟨row,after,made⟩ | ⟨e,raised,ends,unwritten⟩
    · refine by_step (.insert w) (u.move w (.inserted attempt row after) u.lock) (.inserted attempt row after) ?_ trivial rfl rfl
        turn le_rfl ?_ ?_ ?_
      all_goals simp [step,phase,made,remaining]
    · have freed : u.freed w = none := by rw [Writers.State.freed,if_pos holds]
      refine by_step (.insert w) (u.move w (.raised e) (u.freed w)) (.raised e) ?_ trivial rfl rfl (.inl freed)
        (Nat.add_le_add_left (Nat.zero_le _) _) ?_ (fun writable => absurd writable unwritten) ?_
      all_goals simp [step,phase,raised,ends,remaining]
  | inserted attempt row after =>
    rw [phase] at by_step ok
    obtain ⟨_,holds,timestamp,made⟩ := ok
    obtain ⟨_,_,_,_,rows⟩ := appendOnce_ok made
    have freed : u.freed w = none := by rw [Writers.State.freed,if_pos holds]
    have grown : after.count = u.table.count + 1 := by rw [AuditTable.count,rows,List.length_append]; rfl
    refine by_step (.commit w)
      { u.move w (.committed row) (u.freed w) with table := after, history := u.history ++ [(w,row)] } (.committed row) ?_ trivial
      rfl rfl (.inl freed) grown.le ?_ ?_ ?_
    all_goals simp [step,phase,remaining]
  | committed row =>
    rw [phase] at by_step
    cases checkpointing : (calls w).checkpointing with
    | false =>
      refine by_step (.finish w) (u.move w (.returned row) u.lock) (.returned row) ?_ trivial rfl rfl turn le_rfl ?_ ?_ ?_
      all_goals simp [step,phase,checkpointing,remaining]
    | true =>
      refine by_step (.save w sampleTime)
        { u.move w (.saved row) u.lock with store := some (checkpointOf rt row sampleTime) } (.saved row) ?_ trivial rfl rfl turn
        le_rfl ?_ ?_ ?_
      all_goals simp [step,phase,checkpointing,remaining]
  | saved row =>
    rw [phase] at by_step
    refine by_step (.finish w) (u.move w (.returned row) u.lock) (.returned row) ?_ trivial rfl rfl turn le_rfl ?_ ?_ ?_
    all_goals simp [step,phase,remaining]
  | _ => exact absurd (by rw [phase]; rfl) running

/-- So the call can end, by steps of its own alone. -/
theorem call_ends (inv : Inv rt calls u) (turn : u.lock = none ∨ u.lock = some w) :
    ∃ events v, run (step rt calls) u events = some v ∧ (∀ e ∈ events, Faultless e ∧ caller e = some w) ∧
      remaining (v.writers w) = 0 ∧ Advanced rt calls w u v := by
  induction left : remaining (u.writers w) using Nat.strong_induction_on generalizing u with
  | _ n ih =>
    by_cases ended : remaining (u.writers w) = 0
    · exact ⟨[],u,rfl,fun e member => absurd member List.not_mem_nil,ended,
        ⟨inv,fun _ _ => rfl,turn,id,le_rfl,id⟩⟩
    · obtain ⟨e,next,stepped,faultless,own,less,advanced⟩ := call_advances inv turn ended
      obtain ⟨events,v,ran,each,ends,later⟩ := ih _ (left ▸ less) advanced.inv advanced.turn rfl
      refine ⟨e :: events,v,?_,?_,ends,advanced.trans later⟩
      · rw [run,stepped,Option.bind_some,ran]
      · exact List.forall_mem_cons.mpr ⟨⟨faultless,own⟩,each⟩

theorem pending_le (phase : Phase) : pending phase ≤ 1 := by cases phase <;> simp [pending]

/-- A call that has ended does not hold the lock. -/
theorem ended_free (inv : Inv rt calls u) (ended : remaining (u.writers w) = 0) : u.lock ≠ some w := by
  have ok := inv.writers w
  cases phase : u.writers w with
  | returned row =>
    rw [phase] at ok
    exact ok.2
  | raised e | crashed =>
    rw [phase] at ok
    exact ok
  | _ => simp [phase,remaining] at ended

/-- Every call can end, after that of the holder of the lock, and if there is room for the rows
    of both it is not in vain. -/
theorem write_ends (inv : Inv rt calls u) (w : Nat) :
    ∃ events v, run (step rt calls) u events = some v ∧
      (∀ e ∈ events, Faultless e ∧ (caller e = some w ∨ ∃ holder, u.lock = some holder ∧ caller e = some holder)) ∧
      Inv rt calls v ∧ remaining (v.writers w) = 0 ∧ (u.writers w ≠ .crashed → v.writers w ≠ .crashed) ∧
      (Utf8Encodable (canonicalJson rt (calls w).payload) → (u.table.count : Int) + 2 ≤ maxRowId →
        (∀ e, u.writers w ≠ .raised e) → ∀ e, v.writers w ≠ .raised e) := by
  by_cases turn : u.lock = none ∨ u.lock = some w
  · obtain ⟨events,v,ran,each,ends,advanced⟩ := call_ends inv turn
    refine ⟨events,v,ran,fun e member => ⟨(each e member).1,.inl (each e member).2⟩,advanced.inv,ends,advanced.alive,
      fun encodable room going => (advanced.writable ⟨encodable,?_,going⟩).going⟩
    have few := pending_le (u.writers w)
    omega
  · obtain ⟨free,foreign⟩ := not_or.mp turn
    obtain ⟨holder,holds⟩ := Option.ne_none_iff_exists'.mp free
    have other : w ≠ holder := by
      rintro rfl
      exact foreign holds
    obtain ⟨first,between,ran,each,ends,released⟩ := call_ends inv (.inr holds)
    have waiting : between.writers w = u.writers w := released.others w other
    have unlocked : between.lock = none := released.turn.resolve_right (ended_free released.inv ends)
    obtain ⟨second,v,ran',each',ends',advanced⟩ := call_ends (w := w) released.inv (.inl unlocked)
    refine ⟨first ++ second,v,by rw [run_append,ran,Option.bind_some,ran'],fun e member => ?_,advanced.inv,ends',?_,?_⟩
    · rcases List.mem_append.mp member with earlier | later
      · exact ⟨(each e earlier).1,.inr ⟨holder,holds,(each e earlier).2⟩⟩
      · exact ⟨(each' e later).1,.inl (each' e later).2⟩
    · rw [← waiting]
      exact advanced.alive
    · intro encodable room going
      refine (advanced.writable ⟨encodable,?_,by rw [waiting]; exact going⟩).going
      have rows := released.rows
      have few := pending_le (u.writers holder)
      have few' := pending_le (between.writers w)
      omega

end

section
variable {rt : Runtime} {requests : Nat → Request} {checkpointing : Bool}

/-- Steps of the log are steps of the application. -/
theorem run_log {s : Application.State} {events : List Event} {log : State}
    (admitted : ∀ e ∈ events, Application.admitted rt requests e = true)
    (ran : run (step rt (Application.calls rt requests checkpointing)) s.log events = some log) :
    run (Application.step rt requests checkpointing) s (events.map .log) = some { s with log := log } := by
  induction events generalizing s with
  | nil =>
    cases ran
    rfl
  | cons e rest ih =>
    obtain ⟨next,stepped,ran⟩ := Option.bind_eq_some_iff.mp ran
    obtain ⟨here,later⟩ := List.forall_mem_cons.mp admitted
    have onward := @ih { s with log := next } later ran
    rw [List.map_cons,run,Application.step,if_pos here,stepped]
    exact onward

theorem admitted_caller {e : Event} {w : Nat} (own : caller e = some w) (hands : ((requests w).handed rt).isSome = true) :
    Application.admitted rt requests e = true := by
  cases e with
  | call w' =>
    cases own
    exact hands
  | _ => rfl

end

/-- Steps without a failure, of the request and of the call that holds the lock alone. -/
def Unhindered (s : Application.State) (w : Nat) : Application.Event → Prop
  | .log e => Faultless e ∧ (caller e = some w ∨ ∃ holder, s.log.lock = some holder ∧ caller e = some holder)
  | .answer w' => w' = w

/-- In every state, every request that has not crashed can still be answered without a failure,
    and what can be encoded is recorded as long as there is room. -/
theorem request_answerable (rt : Runtime) (requests : Nat → Request) (checkpointing : Bool) (s : Application.State)
    (reached : Reachable (Application.step rt requests checkpointing) .start s) (w : Nat)
    (alive : s.log.writers w ≠ .crashed) (unanswered : s.answers w = none) :
    ∃ events t, run (Application.step rt requests checkpointing) s events = some t ∧ (∀ e ∈ events, Unhindered s w e) ∧
      (t.answers w).isSome = true ∧
      ∀ payload, (requests w).handed rt = some payload → Utf8Encodable (canonicalJson rt payload) →
        (s.log.table.count : Int) + 2 ≤ maxRowId → (∀ e, s.log.writers w ≠ .raised e) →
          ∃ row, (w,row) ∈ t.log.history := by
  have inv := Application.reachable_accounted reached
  have answered : ∀ {log : State} {result : Except PyException Int},
      Application.resumed rt (requests w) (log.writers w) = some result →
        ∃ t, run (Application.step rt requests checkpointing) { s with log := log } [.answer w] = some t ∧ t.log = log ∧
          (t.answers w).isSome = true := by
    intro log result resumed
    refine ⟨⟨log,Function.update s.answers w (some ((requests w).answer rt result))⟩,?_,rfl,by simp⟩
    simp only [run,Application.step,unanswered,resumed,Option.bind_some]
  cases handed : (requests w).handed rt with
  | none =>
    have resumed : Application.resumed rt (requests w) (s.log.writers w) = some (.ok 0) := by rw [Application.resumed,handed]
    obtain ⟨t,ran,_,given⟩ := answered resumed
    refine ⟨[.answer w],t,ran,fun e member => ?_,given,fun payload hands => by cases hands⟩
    rw [List.mem_singleton.mp member]
    exact rfl
  | some payload =>
    obtain ⟨events,log,ran,each,logged,ends,sound,writes⟩ := write_ends (reachable_inv inv.reached) w
    have admitted : ∀ e ∈ events, Application.admitted rt requests e = true := by
      intro e member
      rcases (each e member).2 with own | ⟨holder,holds,own⟩
      · exact admitted_caller own (by rw [handed]; rfl)
      · refine admitted_caller own (inv.called holder fun idle => ?_)
        have ok := (reachable_inv inv.reached).writers holder
        rw [idle] at ok
        exact ok.2 holds
    have phase : (∃ row, log.writers w = .returned row) ∨ ∃ e, log.writers w = .raised e := by
      cases phase : log.writers w with
      | returned row => exact .inl ⟨row,rfl⟩
      | raised e => exact .inr ⟨e,rfl⟩
      | crashed => exact absurd phase (sound alive)
      | _ => simp [phase,remaining] at ends
    obtain ⟨result,resumed⟩ : ∃ result, Application.resumed rt (requests w) (log.writers w) = some result := by
      rw [Application.resumed,handed]
      rcases phase with ⟨row,same⟩ | ⟨e,same⟩
      · exact ⟨_,by rw [same]; rfl⟩
      · exact ⟨_,by rw [same]; rfl⟩
    obtain ⟨t,replied,kept,given⟩ := answered resumed
    refine ⟨events.map .log ++ [.answer w],t,?_,fun e member => ?_,given,fun payload' hands encodable room going => ?_⟩
    · rw [run_append,run_log admitted ran,Option.bind_some,replied]
    · rcases List.mem_append.mp member with before | last
      · obtain ⟨step,inside,rfl⟩ := List.mem_map.mp before
        exact each step inside
      · rw [List.mem_singleton.mp last]
        exact rfl
    · cases hands
      have same : (Application.calls rt requests checkpointing w).payload = payload := by rw [Application.calls,handed]; rfl
      rw [kept]
      rcases phase with ⟨row,returned⟩ | ⟨e,raised⟩
      · have ok := logged.writers w
        rw [returned] at ok
        exact ⟨row,ok.1⟩
      · exact absurd raised (writes (by rw [same]; exact encodable) room going e)

/-- The first greeting holds the lock while the second one waits for it. -/
def waitingGreetings : List Application.Event :=
  [.call 0,.stamp 0 sampleTime,.begin 0,.fetch 0,.call 1,.stamp 1 sampleTime].map .log

theorem request_answerable_waiting :
    ∃ s, run (Application.step greetingInterpreter.rt greetings false) .start waitingGreetings = some s ∧
      s.log.lock = some 0 ∧ ∃ events t,
        run (Application.step greetingInterpreter.rt greetings false) s events = some t ∧
        (∀ e ∈ events, Unhindered s 1 e) ∧ (t.answers 1).isSome = true ∧ ∃ row, (1,row) ∈ t.log.history := by
  have went : (run (Application.step greetingInterpreter.rt greetings false) .start waitingGreetings).map
      (fun s => (s.log.lock,s.log.writers 1,(s.answers 1).isSome,s.log.table.count)) =
        some (some 0,.stamped 0 sampleTime,false,0) := by decide +kernel
  obtain ⟨s,ran,seen⟩ := Option.map_eq_some_iff.mp went
  simp only [Prod.mk.injEq] at seen
  obtain ⟨lock,phase,unanswered,empty⟩ := seen
  obtain ⟨events,t,later,each,given,writes⟩ := request_answerable greetingInterpreter.rt greetings false s
    ⟨_,ran⟩ 1 (by simp [phase]) (by simpa using unanswered)
  exact ⟨s,ran,lock,events,t,later,each,given,
    writes _ (greetings_handed 1) (by decide +kernel) (by rw [empty]; decide) (by simp [phase])⟩

end PrivacyGateway.Progress
