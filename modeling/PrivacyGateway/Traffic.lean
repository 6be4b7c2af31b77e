import PrivacyGateway.ContentHashes
import PrivacyGateway.Observers

/-!
What the log says of the traffic with a provider that answers as it likes. The requests take no
steps but those they would take if all answers were known beforehand (`answered_beforehand`).
So every record is that of a request which was stopped before the provider, or commits to the
messages that the provider was sent and to what it answered (`traffic_recorded`).
-/
namespace PrivacyGateway.Traffic
open PrivacyGateway.Strings PrivacyGateway.Errors PrivacyGateway.StdLib PrivacyGateway.JsonText
open PrivacyGateway.Mediator PrivacyGateway.Handler PrivacyGateway.Paths PrivacyGateway.AuditLog PrivacyGateway.Runs
open PrivacyGateway.Noninterference PrivacyGateway.Requests PrivacyGateway.ContentHashes PrivacyGateway.Observers
open PrivacyGateway.Writers (AppendCall reachable_inv)

/-- A step of the log depends on the calls that have begun alone. -/
theorem log_congr {rt : Runtime} {calls calls' : Nat → AppendCall} {u : Writers.State}
    (same : ∀ w, u.writers w ≠ .idle → calls w = calls' w) (e : Writers.Event) :
    Writers.step rt calls u e = Writers.step rt calls' u e := by
  cases e with
  | insert w | save w now | saveFails w fault | finish w =>
    by_cases idle : u.writers w = .idle
    · simp only [Writers.step,idle]
    · simp only [Writers.step,same w idle]
  | _ => rfl

/-- So does a step of the application, but for the request that it takes on. -/
theorem application_congr {rt : Runtime} {requests requests' : Nat → Request} {checkpointing : Bool} {u : Application.State}
    {e : Application.Event} (same : ∀ w, u.log.writers w ≠ .idle ∨ resumes e = some w → requests w = requests' w) :
    Application.step rt requests checkpointing u e = Application.step rt requests' checkpointing u e := by
  cases e with
  | log e =>
    have admitted : Application.admitted rt requests e = Application.admitted rt requests' e := by
      cases e with
      | call w => rw [Application.admitted,Application.admitted,same w (.inr rfl)]
      | _ => rfl
    have stepped : Writers.step rt (Application.calls rt requests checkpointing) u.log e =
        Writers.step rt (Application.calls rt requests' checkpointing) u.log e := by
      refine log_congr (fun w begun => ?_) e
      rw [Application.calls,Application.calls,same w (.inl begun)]
    rw [Application.step,Application.step,admitted,stepped]
  | answer w => rw [Application.step,Application.step,same w (.inr rfl)]

section
variable {rt : Runtime} {settings : Settings} {mediator : PIIMediator} {checkpointing : Bool} {sessions : Nat → Session}
variable {s t : State} {e : Event}

/-- Every call is sent once, as its session makes it, and answered only then; and no handler
    goes on that waits for an answer. -/
structure Settled (rt : Runtime) (settings : Settings) (mediator : PIIMediator) (sessions : Nat → Session) (s : State) :
    Prop where
  own : ∀ w call, (w,call) ∈ s.seen → sent rt settings mediator (sessions w) = some call
  once : (s.seen.map Prod.fst).Nodup
  replied : ∀ w, (s.replies w).isSome = true → w ∈ s.seen.map Prod.fst
  begun : ∀ w, s.app.log.writers w ≠ .idle → s.waits rt settings mediator sessions w = false
  answered : ∀ w, (s.app.answers w).isSome = true → s.waits rt settings mediator sessions w = false

theorem settled_start : Settled rt settings mediator sessions .start where
  own := fun _ _ member => absurd member List.not_mem_nil
  once := .nil
  replied := fun _ given => by cases given
  begun := fun _ begun => absurd rfl begun
  answered := fun _ given => by cases given

/-- A handler begins a write or answers only when it does not wait. -/
theorem application_began {requests : Nat → Request} {u v : Application.State} {e : Application.Event}
    (stepped : Application.step rt requests checkpointing u e = some v) (w : Nat) :
    (v.log.writers w ≠ .idle → u.log.writers w ≠ .idle ∨ resumes e = some w) ∧
      ((v.answers w).isSome = true → (u.answers w).isSome = true ∨ resumes e = some w) := by
  cases e with
  | log e =>
    simp only [Application.step] at stepped
    split_ifs at stepped
    obtain ⟨log,made,rfl⟩ := Option.map_eq_some_iff.mp stepped
    refine ⟨fun begun => ?_,.inl⟩
    by_cases idle : u.log.writers w = .idle
    · rcases Application.phase_kept made w with same | ⟨_,own⟩
      · exact absurd (same.trans idle) begun
      · rw [own idle]
        exact .inr rfl
    · exact .inl idle
  | answer other =>
    simp only [Application.step] at stepped
    split at stepped
    · cases stepped
      refine ⟨.inl,fun given => ?_⟩
      by_cases here : w = other
      · exact .inr (congrArg some here.symm)
      · simp only [Function.update_of_ne here] at given
        exact .inl given
    · cases stepped

theorem settled_step (settled : Settled rt settings mediator sessions s)
    (stepped : step rt settings mediator checkpointing sessions s e = some t) : Settled rt settings mediator sessions t := by
  cases e with
  | send w =>
    simp only [step] at stepped
    split at stepped
    · next call calls =>
      split_ifs at stepped with fresh
      cases stepped
      refine ⟨fun other call' member => ?_,?_,fun other given => ?_,settled.begun,settled.answered⟩
      · rcases List.mem_append.mp member with earlier | last
        · exact settled.own other call' earlier
        · cases List.mem_singleton.mp last
          exact calls
      · rw [List.map_append,List.map_singleton,List.nodup_append]
        refine ⟨settled.once,List.nodup_singleton _,fun a earlier b last same => ?_⟩
        have here : a = w := same.trans (List.mem_singleton.mp last)
        exact fresh (here ▸ earlier)
      · rw [List.map_append]
        exact List.mem_append_left _ (settled.replied other given)
    · cases stepped
  | reply w outcome =>
    simp only [step] at stepped
    split_ifs at stepped with waiting
    cases stepped
    have fewer : ∀ other, s.waits rt settings mediator sessions other = false →
        State.waits rt settings mediator sessions { s with replies := Function.update s.replies w (some outcome) } other =
          false := by
      intro other waits
      by_cases here : other = w
      · subst here
        simp [State.waits]
      · simp only [State.waits,Function.update_of_ne here]
        exact waits
    refine ⟨settled.own,settled.once,fun other given => ?_,fun other begun => fewer other (settled.begun other begun),
      fun other given => fewer other (settled.answered other given)⟩
    by_cases here : other = w
    · rw [here]
      exact waiting.1
    · simp only [Function.update_of_ne here] at given
      exact settled.replied other given
  | app e =>
    simp only [step] at stepped
    split_ifs at stepped with waits
    obtain ⟨app,made,rfl⟩ := Option.map_eq_some_iff.mp stepped
    have onward : ∀ w, resumes e = some w → s.waits rt settings mediator sessions w = false := by
      intro w takes
      rw [takes] at waits
      simpa using waits
    refine ⟨settled.own,settled.once,settled.replied,fun w begun => ?_,fun w given => ?_⟩
    · exact ((application_began made w).1 begun).elim (settled.begun w) (onward w)
    · exact ((application_began made w).2 given).elim (settled.answered w) (onward w)

theorem reachable_settled (reached : Reachable (step rt settings mediator checkpointing sessions) .start s) :
    Settled rt settings mediator sessions s := reached.invariant settled_start settled_step

/-- The requests could have come this far if the provider had given its answers beforehand, with
    any answers to those that still wait. -/
def Foreseen (rt : Runtime) (settings : Settings) (mediator : PIIMediator) (checkpointing : Bool) (sessions : Nat → Session)
    (s : State) : Prop :=
  ∀ requests : Nat → Request,
    (∀ w, s.waits rt settings mediator sessions w = false → requests w = s.request settings mediator sessions w) →
      Reachable (Application.step rt requests checkpointing) .start s.app

theorem foreseen_step (settled : Settled rt settings mediator sessions s)
    (foreseen : Foreseen rt settings mediator checkpointing sessions s)
    (stepped : step rt settings mediator checkpointing sessions s e = some t) :
    Foreseen rt settings mediator checkpointing sessions t := by
  intro requests agree
  cases e with
  | send w =>
    simp only [step] at stepped
    split at stepped
    · split_ifs at stepped
      cases stepped
      exact foreseen requests agree
    · cases stepped
  | reply w outcome =>
    simp only [step] at stepped
    split_ifs at stepped with waiting
    cases stepped
    refine foreseen requests fun other waits => ?_
    -- The request that is answered has waited, as its call is among those sent.
    have differ : other ≠ w := by
      rintro rfl
      obtain ⟨⟨_,call⟩,member,rfl⟩ := List.mem_map.mp waiting.1
      rw [State.waits,settled.own _ call member,waiting.2] at waits
      cases waits
    have same := agree other
    simp only [State.waits,State.request,Function.update_of_ne differ] at same
    exact same waits
  | app e =>
    simp only [step] at stepped
    split_ifs at stepped with waits
    obtain ⟨app,made,rfl⟩ := Option.map_eq_some_iff.mp stepped
    obtain ⟨before,ran⟩ := foreseen requests agree
    refine ⟨before ++ [e],run_snoc.mpr ⟨_,ran,?_⟩⟩
    rw [application_congr fun w taken => agree w ?_]
    · exact made
    · rcases taken with begun | takes
      · exact settled.begun w begun
      · change s.waits rt settings mediator sessions w = false
        rw [takes] at waits
        simpa using waits

/-- The system goes only through states of the application whose provider answers each request
    once and for all. -/
theorem answered_beforehand (reached : Reachable (step rt settings mediator checkpointing sessions) .start s) :
    Foreseen rt settings mediator checkpointing sessions s := by
  have both := @Reachable.invariant _ _ _
    (fun s => Settled rt settings mediator sessions s ∧ Foreseen rt settings mediator checkpointing sessions s) _ _ reached
    ⟨settled_start,fun _ _ => ⟨[],rfl⟩⟩
    fun inv stepped => ⟨settled_step inv.1 stepped,foreseen_step inv.1 inv.2 stepped⟩
  exact both.2

/-- Without a call the record is that of a request stopped before the provider; otherwise it
    commits to the call and its answer. -/
theorem handed_accounts (collisionFree : CollisionFree rt) {session : Session}
    {outcome : Except PyException ProviderResponse} {payload : Json}
    (handed : (requestOf settings mediator session outcome).handed rt = some payload) :
    (sent rt settings mediator session = none → StoppedBefore payload) ∧
      ∀ call, sent rt settings mediator session = some call → CommitsTo rt payload call outcome := by
  let r := requestOf settings mediator session outcome
  have calls : (r.exchange rt (.ok 0)).calls = (sent rt settings mediator session).toList := sent_calls session outcome (.ok 0)
  have appended : payload ∈ (r.exchange rt (.ok 0)).appends := by
    rw [Requests.exchange_appends,show r.handed rt = some payload from handed]
    exact List.mem_singleton_self payload
  constructor
  · intro none
    rw [none] at calls
    obtain ⟨path,named,_,goes⟩ := chat_path rt r.gateway r.chance r.body
    have gone := goes fun _ => .ok 0
    change payload ∈ (chatCompletions rt (auditing r.gateway fun _ => .ok 0) r.chance r.body).appends at appended
    change (chatCompletions rt (auditing r.gateway fun _ => .ok 0) r.chance r.body).calls = [] at calls
    rw [gone] at appended calls
    rw [exchange_calls] at calls
    exact (Paths.exchange_appends _ named payload appended).mpr calls
  · intro call sends
    have hashed : Hashed rt (auditing r.gateway fun _ => .ok 0)
      (chatCompletions rt (auditing r.gateway fun _ => .ok 0) r.chance r.body) := chat_hashed
    refine hashed.commits collisionFree ?_ appended
    change call ∈ (r.exchange rt (.ok 0)).calls
    rw [calls,sends]
    exact List.mem_singleton_self call

/-- Only a request that has been replied to completes. -/
theorem completes_replied {session : Session} {outcome : Except PyException ProviderResponse} {payload : Json}
    (handed : (requestOf settings mediator session outcome).handed rt = some payload) (completes : Completes payload) :
    ∃ reply, outcome = .ok reply := by
  let r := requestOf settings mediator session outcome
  have out : WayOut rt (auditing r.gateway fun _ => .ok 0) r.chance r.body
    (chatCompletions rt (auditing r.gateway fun _ => .ok 0) r.chance r.body) := chat_wayOut ..
  change (chatCompletions rt (auditing r.gateway fun _ => .ok 0) r.chance r.body).appends.head? = some payload at handed
  generalize chatCompletions rt (auditing r.gateway fun _ => .ok 0) r.chance r.body = exchange at out handed
  cases out with
  | raised => cases handed
  | refused calls context error refusal =>
    cases handed
    exact absurd completes refusal.not_completes
  | @completed _ _ _ _ _ _ _ _ reply _ _ _ replied => exact ⟨reply,replied⟩

/-- What a record of the log says of the traffic. -/
def Accounts (rt : Runtime) (s : State) (w : Nat) (payload : Json) : Prop :=
  ((∀ call, (w,call) ∉ s.seen) ∧ StoppedBefore payload) ∨
    ∃ call outcome, (w,call) ∈ s.seen ∧ s.replies w = some outcome ∧ CommitsTo rt payload call outcome

theorem accounts_of_handed (collisionFree : CollisionFree rt) (settled : Settled rt settings mediator sessions s) {w : Nat}
    (onward : s.waits rt settings mediator sessions w = false) {payload : Json}
    (handed : (s.request settings mediator sessions w).handed rt = some payload) : Accounts rt s w payload := by
  obtain ⟨stopped,commits⟩ := handed_accounts collisionFree handed
  cases calls : sent rt settings mediator (sessions w) with
  | none =>
    refine .inl ⟨fun call member => ?_,stopped calls⟩
    cases calls.symm.trans (settled.own w call member)
  | some call =>
    cases given : s.replies w with
    | none => simp [State.waits,calls,given] at onward
    | some outcome =>
      obtain ⟨⟨_,call'⟩,member,rfl⟩ := List.mem_map.mp (settled.replied w (by rw [given]; rfl))
      obtain rfl : call = call' := Option.some.inj (calls.symm.trans (settled.own _ call' member))
      have answered := commits call calls
      rw [given] at answered
      exact .inr ⟨call,outcome,member,given,answered⟩

end

/-- What is known of every state: a request reaches the provider once at most and has one record
    at most, the record accounts for the traffic, and who is answered with the id of a record
    has had a reply. -/
structure Recorded (rt : Runtime) (sessions : Nat → Session) (s : State) : Prop where
  once : (s.seen.map Prod.fst).Nodup
  rows : s.app.log.table.rows = s.app.log.history.map Prod.snd
  authors : (s.app.log.history.map Prod.fst).Nodup
  accounts : ∀ w row, (w,row) ∈ s.app.log.history → ∃ payload t, row.payload = .text t ∧ canonicalJson rt payload = str t ∧
    Accounts rt s w payload
  answers : ∀ w response, s.app.answers w = some response → response.headers ≠ [] →
    ∃ row call reply, (w,row) ∈ s.app.log.history ∧ response.headers = completedHeaders (sessions w).chance row.id ∧
      (w,call) ∈ s.seen ∧ s.replies w = some (.ok reply)

/-- However the provider answers, and whatever fails or crashes, the log accounts for the
    traffic with it. -/
theorem traffic_recorded (rt : Runtime) (collisionFree : CollisionFree rt) (settings : Settings) (mediator : PIIMediator)
    (checkpointing : Bool) (sessions : Nat → Session) (s : State)
    (reached : Reachable (step rt settings mediator checkpointing sessions) .start s) : Recorded rt sessions s := by
  have settled := reachable_settled reached
  have inv := Application.reachable_accounted (answered_beforehand reached _ fun _ _ => rfl)
  have logged := reachable_inv inv.reached
  have accounts : ∀ w row payload, (w,row) ∈ s.app.log.history →
      (s.request settings mediator sessions w).handed rt = some payload → Accounts rt s w payload := fun w row payload member =>
    accounts_of_handed collisionFree settled (settled.begun w (Application.committed_begun logged member))
  refine ⟨settled.once,logged.rows,logged.authors,fun w row member => ?_,fun w response given headed => ?_⟩
  · obtain ⟨payload,handed⟩ := Option.isSome_iff_exists.mp (inv.called w (Application.committed_begun logged member))
    obtain ⟨t,encoded,holds⟩ := logged.carried (w,row) member
    rw [Application.calls,handed] at encoded
    exact ⟨payload,t,holds,encoded,accounts w row payload member handed⟩
  · rcases Application.answer_committed inv given with ⟨bare,_⟩ | ⟨row,payload,member,handed,completes,_,headers⟩
    · exact absurd bare headed
    · rcases accounts w row payload member handed with ⟨_,stopped⟩ | ⟨call,outcome,sends,replied,_⟩
      · exact absurd completes stopped.not_completes
      · obtain ⟨reply,answered⟩ := completes_replied handed completes
        rw [replied,Option.getD_some] at answered
        exact ⟨row,call,reply,member,headers,sends,by rw [replied,answered]⟩

/-- Two letters are sent, one of them in vain, and both are recorded. -/
theorem traffic_recorded_letters :
    ∃ s, run (step (plainRuntime [] []) ⟨lit "mock",true,false⟩ mailMediator false (letters "a@b.c")) .start overheard = some s ∧
      s.seen.map Prod.fst = [0,1] ∧ s.app.log.history.map Prod.fst = [0,1] ∧
      Recorded (plainRuntime [] []) (letters "a@b.c") s := by
  have went : (run (step (plainRuntime [] []) ⟨lit "mock",true,false⟩ mailMediator false (letters "a@b.c")) .start
      overheard).map (fun s => (s.seen.map Prod.fst,s.app.log.history.map Prod.fst)) = some ([0,1],[0,1]) := by decide +kernel
  obtain ⟨s,ran,both⟩ := Option.map_eq_some_iff.mp went
  obtain ⟨seen,authors⟩ := Prod.mk.inj both
  have collisionFree : CollisionFree (plainRuntime [] []) := plainRuntime_collisionFree List.nodup_nil (by simp)
  exact ⟨s,ran,seen,authors,traffic_recorded _ collisionFree _ _ _ _ s ⟨overheard,ran⟩⟩

end PrivacyGateway.Traffic
