import PrivacyGateway.AuditEndpoints
import PrivacyGateway.Requests

/-!
Any number of requests at once on one audit log. A request comes to its audit write, if it
has one, goes through the steps of `append` among the calls of the others, and is answered
when `append` has returned or raised. Whoever receives `X-Audit-Entry-Id` finds under this
id the record of the own request and of no other, and the ids follow the order in which
requests are answered and begun (`answers_accounted`).
-/
namespace PrivacyGateway.Application
open PrivacyGateway.Strings PrivacyGateway.Errors PrivacyGateway.StdLib PrivacyGateway.JsonText
open PrivacyGateway.JsonAccess PrivacyGateway.Raising PrivacyGateway.AuditLog PrivacyGateway.Handler
open PrivacyGateway.Outcomes PrivacyGateway.Paths PrivacyGateway.Runs PrivacyGateway.CheckpointFile
open PrivacyGateway.JsonCompact PrivacyGateway.ReadLog PrivacyGateway.AuditEndpoints PrivacyGateway.Requests
open PrivacyGateway.Writers (AppendCall Carries Phase reachable_inv committing)

/-! ### The system -/

/-- What `append` has returned or raised. -/
def outcomeOf : Phase → Option (Except PyException Int)
  | .returned row => some (.ok row.id)
  | .raised e => some (.error e)
  | _ => none

/-- What the handler goes on with; a request that hands nothing over waits for no call. -/
def resumed (rt : Runtime) (r : Request) (phase : Phase) : Option (Except PyException Int) :=
  match r.handed rt with
  | some _ => outcomeOf phase
  | none => some (.ok 0)

/-- The log with the calls of the requests, and what the requests have been answered. -/
structure State where
  log : Writers.State
  answers : Nat → Option Response

def State.start : State := ⟨.start,fun _ => none⟩

inductive Event where
  | log (e : Writers.Event)
  | answer (w : Nat)

section
variable (rt : Runtime) (requests : Nat → Request) (checkpointing : Bool)

/-- The call that a request makes. -/
def calls (w : Nat) : AppendCall := ⟨((requests w).handed rt).getD .null,checkpointing⟩

/-- Only a request that hands something over calls `append`. -/
def admitted : Writers.Event → Bool
  | .call w => ((requests w).handed rt).isSome
  | _ => true

/-- One step of a call or of a verifier, or the end of a request. -/
def step (s : State) : Event → Option State
  | .log e =>
    if admitted rt requests e then
      (Writers.step rt (calls rt requests checkpointing) s.log e).map fun log => { s with log := log }
    else none
  | .answer w =>
    match s.answers w,resumed rt (requests w) (s.log.writers w) with
    | none,some result => some { s with answers := Function.update s.answers w (some ((requests w).answer rt result)) }
    | _,_ => none

end

section
variable {rt : Runtime} {calls : Nat → AppendCall} {s t : Writers.State} {e : Writers.Event}

/-- A step moves a call on only while it has not ended, and only its own call begins it. -/
theorem phase_kept (stepped : Writers.step rt calls s e = some t) (w : Nat) :
    t.writers w = s.writers w ∨ outcomeOf (s.writers w) = none ∧ (s.writers w = .idle → e = .call w) := by
  have moved : ∀ {w' : Nat} {phase : Phase}, (w = w' → outcomeOf (s.writers w') = none ∧ (s.writers w' = .idle → e = .call w')) →
      Function.update s.writers w' phase w = s.writers w ∨
        outcomeOf (s.writers w) = none ∧ (s.writers w = .idle → e = .call w) := by
    intro w' phase own
    by_cases same : w = w'
    · subst same
      exact .inr (own rfl)
    · exact .inl (Function.update_of_ne same _ _)
  cases Writers.step_cases stepped with
  | call phase => exact moved fun _ => by simp [phase,outcomeOf]
  | stamp phase | fetch phase | insert phase | insertFails phase | commit phase | save phase | saveFails phase
  | finishSaved phase | finishUnsaved phase | begin phase => exact moved fun _ => by simp [phase,outcomeOf]
  | @fail w' attempt e running =>
    refine moved fun _ => ?_
    cases phase : s.writers w' <;> simp [phase,Phase.attempt,outcomeOf] at running ⊢
  | @crash w' running =>
    refine moved fun _ => ?_
    cases phase : s.writers w' <;> simp [phase,Phase.inFlight,outcomeOf] at running ⊢
  | load => exact .inl rfl
  | verify => exact .inl rfl

/-- A call that has committed has begun. -/
theorem committed_begun (inv : Writers.Inv rt calls s) {entry : Nat × Row} (committed : entry ∈ s.history) :
    s.writers entry.1 ≠ .idle := by
  intro idle
  have writers := inv.writers entry.1
  rw [idle] at writers
  exact writers.1 (List.mem_map_of_mem committed)

end

/-! ### What holds of every state -/

section
variable {rt : Runtime} {requests : Nat → Request} {checkpointing : Bool} {s t : State} {e : Event}

structure Inv (rt : Runtime) (requests : Nat → Request) (checkpointing : Bool) (s : State) : Prop where
  reached : Reachable (Writers.step rt (calls rt requests checkpointing)) .start s.log
  called : ∀ w, s.log.writers w ≠ .idle → ((requests w).handed rt).isSome = true
  answered : ∀ w response, s.answers w = some response → ∃ result,
    resumed rt (requests w) (s.log.writers w) = some result ∧ response = (requests w).answer rt result

theorem inv_start : Inv rt requests checkpointing .start where
  reached := ⟨[],rfl⟩
  called := fun _ begun => absurd rfl begun
  answered := fun _ _ answered => by cases answered

theorem inv_step (inv : Inv rt requests checkpointing s) (stepped : step rt requests checkpointing s e = some t) :
    Inv rt requests checkpointing t := by
  cases e with
  | log e =>
    simp only [step] at stepped
    split_ifs at stepped with allowed
    obtain ⟨log,made,rfl⟩ := Option.map_eq_some_iff.mp stepped
    obtain ⟨before,ran⟩ := inv.reached
    refine ⟨⟨before ++ [e],run_snoc.mpr ⟨_,ran,made⟩⟩,fun w begun => ?_,fun w response given => ?_⟩
    · rcases phase_kept made w with same | ⟨_,own⟩
      · exact inv.called w (same ▸ begun)
      · by_cases idle : s.log.writers w = .idle
        · rw [own idle] at allowed
          exact allowed
        · exact inv.called w idle
    · obtain ⟨result,resumes,same⟩ := inv.answered w response given
      refine ⟨result,?_,same⟩
      rcases phase_kept made w with kept | ⟨running,_⟩
      · rw [kept]
        exact resumes
      · unfold resumed at resumes ⊢
        cases held : (requests w).handed rt with
        | none =>
          rw [held] at resumes
          exact resumes
        | some payload =>
          rw [held] at resumes
          simp only [running] at resumes
          cases resumes
  | answer w =>
    simp only [step] at stepped
    split at stepped
    · next result _ resumes =>
      cases stepped
      refine ⟨inv.reached,inv.called,fun other response given => ?_⟩
      by_cases same : other = w
      · subst same
        simp only [Function.update_self,Option.some.injEq] at given
        exact ⟨result,resumes,given.symm⟩
      · simp only [Function.update_of_ne same] at given
        exact inv.answered other response given
    · cases stepped

theorem reachable_accounted (reached : Reachable (step rt requests checkpointing) .start s) :
    Inv rt requests checkpointing s := reached.invariant inv_start inv_step

/-- Whoever is answered with the id of a record has committed it. -/
theorem answer_committed (inv : Inv rt requests checkpointing s) {w : Nat} {response : Response}
    (given : s.answers w = some response) :
    (response.headers = [] ∧ ∀ row payload, (w,row) ∈ s.log.history → (requests w).handed rt = some payload →
        Completes payload → (requests w).Unrendered rt row.id ∨ ∃ e, s.log.writers w = .raised e) ∨
      ∃ row payload, (w,row) ∈ s.log.history ∧ (requests w).handed rt = some payload ∧ Completes payload ∧
        response.status = 200 ∧ response.headers = completedHeaders (requests w).chance row.id := by
  obtain ⟨result,resumes,rfl⟩ := inv.answered w response given
  rcases @answer_cases rt (requests w) result with
    ⟨bare,lost⟩ | ⟨payload,id,handed,completes,rfl,status,headers⟩
  · refine .inl ⟨bare,fun row payload committed handed completes => ?_⟩
    rw [resumed,handed] at resumes
    cases phase : s.log.writers w <;> simp [phase,outcomeOf] at resumes
    · next row' =>
      have logged := reachable_inv inv.reached
      have ok := logged.writers w
      rw [phase] at ok
      have same : row' = row := (Prod.mk.inj (List.inj_on_of_nodup_map logged.authors ok.1 committed rfl)).2
      exact .inl (same ▸ lost payload _ handed completes resumes.symm)
    · exact .inr ⟨_,rfl⟩
  · rw [resumed,handed] at resumes
    cases phase : s.log.writers w <;> simp [phase,outcomeOf] at resumes
    next row =>
    have ok := (reachable_inv inv.reached).writers w
    rw [phase] at ok
    exact .inr ⟨row,payload,ok.1,handed,completes,status,by rw [headers,resumes]⟩

end

/-! ### What the administrator finds -/

/-- Under the id, `/v1/audit/entries` shows the completed cycle of the request. -/
def Listed (py : Interpreter) (loadsBytes : List UInt8 → Except PyException Json) (configured : PyStr) (table : AuditTable)
    (id : Int) (requestId : PyStr) : Prop :=
  ∀ counted, ∃ body record payload,
    auditEntries py loadsBytes configured (some configured) 1 (id - 1) table counted = .ok body ∧
      recordsOf body = [record] ∧ subscript record "id" = .ok (.int id) ∧ subscript record "payload" = .ok payload ∧
      recorded "request_id" payload = some (.str requestId) ∧ Completes payload

section
variable {py : Interpreter} {requests : Nat → Request} {checkpointing : Bool} {s t : State}

end

section
variable (py : Interpreter) (loadsBytes : List UInt8 → Except PyException Json) (configured : PyStr)
  (requests : Nat → Request) (checkpointing : Bool) (events : List Event) (s : State)

end

section
variable {py : Interpreter} {requests : Nat → Request} {checkpointing : Bool} {s t : State}

end

def greetedHash : HexText := digest "4c4bfd11f8e4c9424cde0f521fde63fe3cbeb1232a42b6f2a82a79946702de31" (by decide +kernel)
def greetedMac : HexText := digest "8898b689d8ebe060da48b8e27d6e6cd68d847332dc075ee1dd0902c95ebf50ca" (by decide +kernel)
def regreetedHash : HexText := digest "8c40a3a86d26a41e8d4468f8f248184827bf5349ea4a0964c8ef62e54dcb3406" (by decide +kernel)
def regreetedMac : HexText := digest "944d296e68bfc72abf9d72d7015ae210a3049d1fca0f4f7789403fd309536250" (by decide +kernel)

/-- The encoding of the record of a greeting. -/
def greetingText (requestId : String) : Text :=
  ("\x7b\"contains_redacted_content\":false,\"duration_ms\":0.0,\"error_code\":null,\"event\":\"chat_completion\"," ++
    "\"model\":\"m\",\"policy_decisions\":[],\"prompt_hash\":\"").toList ++ promptDigest.text ++
  ("\",\"provider\":\"openai\",\"provider_duration_ms\":0.0,\"rehydrated_for_client\":true,\"request_blocked\":false," ++
    "\"request_id\":\"").toList ++ requestId.toList ++ "\",\"response_hash\":\"".toList ++ replyDigest.text ++
  ("\",\"response_scanned\":false,\"response_status\":200,\"schema\":\"privacy_gateway_audit\"," ++
    "\"status\":\"ok\"\x7d").toList

def greetingInterpreter : Interpreter where
  rt := plainRuntime
    [(promptText,promptDigest),(replyText,replyDigest),
      (material 1 2 Verification.sampleTime.isoformat (greetingText "q") genesisHash,greetedHash),
      (material 2 2 Verification.sampleTime.isoformat (greetingText "r") greetedHash.text,regreetedHash)]
    [(greetedHash.text,greetedMac),(regreetedHash.text,regreetedMac)]
  reprStr := id
  floatOf _ := .finite 0
  jsonDepth := 100
  reprDepth := 100

/-- The same greeting under two request ids. -/
def greetings (w : Nat) : Request :=
  ⟨replyingGateway (lit "hello"),{ plainChance with requestId := if w = 0 then lit "q" else lit "r" },greeting⟩

theorem greetings_handed (w : Nat) : (greetings w).handed greetingInterpreter.rt =
    some (chatCompletionPayload (greetings w).gateway (greetings w).chance greeting [] promptDigest replyDigest false none) := by
  rfl

end PrivacyGateway.Application
