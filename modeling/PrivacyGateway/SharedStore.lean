import PrivacyGateway.CheckpointSaves
import PrivacyGateway.Writers

/-!
The log and its checkpoint file together, under any number of append calls and
verifiers at once. What `Writers` does in one step, a call does here in the steps of
`LocalFileCheckpointStore.save`, while other calls are in theirs and verifiers read the
file. The file behaves as the register of `Writers` all the same
(`shared_store_refines`): each run has a run there with the same log, the same verdicts
and, as the content of the register, what `load` reads.
-/
namespace PrivacyGateway.SharedStore
open PrivacyGateway.Strings PrivacyGateway.Errors PrivacyGateway.StdLib PrivacyGateway.JsonDump
open PrivacyGateway.AuditLog PrivacyGateway.Verification PrivacyGateway.Runs PrivacyGateway.CheckpointFile
open PrivacyGateway.CheckpointSaves (Phase asdict Undone undone_checkpointOf load_dumped)
open PrivacyGateway.Writers (AppendCall sampleCalls committing afterSaveFault)

structure State where
  /-- The log, its calls and its verifiers. The `store` in it is the checkpoint whose rename
      was the last to take effect; no step reads it. -/
  log : Writers.State
  /-- `path.parent` exists. -/
  directory : Bool
  /-- The checkpoint file. -/
  file : Option Text
  /-- The temporary files, those of ended calls among them. -/
  temporary : Nat → Option Text
  /-- Where the save of each call stands. -/
  saves : Nat → Phase

/-- The temporary file of a save. -/
def tmpNameOf : Phase → Option Nat
  | .writing _ tmpName | .closed _ tmpName | .cleaning tmpName => some tmpName
  | _ => none

/-- No call has been made yet. -/
def State.start (directory : Bool) : State := ⟨.start,directory,none,fun _ => none,fun _ => .idle⟩

/-- What `load` finds. -/
def State.stored (s : State) : StoredFile :=
  match s.file with
  | some t => .text t
  | none => .missing

/-- The state with the save of a call moved to another phase. -/
def State.turn (s : State) (w : Nat) (phase : Phase) : State :=
  { s with saves := Function.update s.saves w phase }

/-- The state with the save of a call ended and the call itself where the exception leaves it. -/
def State.failed (s : State) (w : Nat) (fault : PyException) : State :=
  { s.turn w .idle with log := s.log.move w (afterSaveFault fault) s.log.lock }

/-- The content of a temporary file replaced. -/
def State.put (s : State) (tmpName : Nat) (content : Option Text) : State :=
  { s with temporary := Function.update s.temporary tmpName content }

inductive Event where
  /-- A step that has nothing to do with the file. -/
  | log (e : Writers.Event)
  /-- The call of `save` begins, with the checkpoint of the committed record. -/
  | enter (w : Nat) (now : UtcTime)
  | mkdir (w : Nat)
  /-- `mkstemp` picks a name that no file has. -/
  | mkstemp (w tmpName : Nat)
  /-- Some more characters reach the temporary file. -/
  | write (w count : Nat)
  /-- `json.dump` has returned and the handle is closed. -/
  | close (w : Nat)
  | replace (w : Nat)
  /-- The current step of the save raises. -/
  | raise (w : Nat) (fault : PyException)
  /-- `os.unlink`, whose `OSError` is suppressed; the first exception goes on. -/
  | unlink (w : Nat) (removed : Bool)
  /-- The process of the call ends; what is on the disk stays. -/
  | crash (w : Nat)
  /-- A verifier reads the file. -/
  | load (v : Nat) (readable : Bool)

/-- The steps of `Writers` that do not touch the register and end no call. -/
def ofLog : Writers.Event → Bool
  | .save _ _ | .saveFails _ _ | .crash _ | .load _ _ => false
  | _ => true

section
variable (py : Interpreter) (calls : Nat → AppendCall)

/-- One step, or `none` where the event cannot happen. -/
def step (s : State) : Event → Option State
  | .log e => if ofLog e then (Writers.step py.rt calls s.log e).map fun log => { s with log := log } else none
  | .enter w now =>
    match s.log.writers w,(calls w).checkpointing,s.saves w with
    | .committed row,true,.idle => some (s.turn w (.entered (checkpointOf py.rt row now)))
    | _,_,_ => none
  | .mkdir w =>
    match s.saves w with
    | .entered checkpoint => some { s.turn w (.prepared checkpoint) with directory := true }
    | _ => none
  | .mkstemp w tmpName =>
    match s.saves w with
    | .prepared checkpoint =>
      if s.directory ∧ s.temporary tmpName = none then
        some ((s.put tmpName (some [])).turn w (.writing checkpoint tmpName))
      else none
    | _ => none
  | .write w count =>
    match s.saves w with
    | .writing checkpoint tmpName =>
      let written := ((s.temporary tmpName).getD []).length
      some (s.put tmpName (some ((dumpText py.rt (asdict checkpoint)).take (written + count))))
    | _ => none
  | .close w =>
    match s.saves w with
    | .writing checkpoint tmpName =>
      match dump py.rt (asdict checkpoint) with
      | .ok content => some ((s.put tmpName (some content)).turn w (.closed checkpoint tmpName))
      | .error _ => none
    | _ => none
  | .replace w =>
    match s.saves w,s.log.writers w with
    | .closed checkpoint tmpName,.committed row =>
      some { (s.put tmpName none).turn w .idle with
        file := s.temporary tmpName
        log := { s.log.move w (.saved row) s.log.lock with store := some checkpoint } }
    | _,_ => none
  | .raise w fault =>
    match s.saves w with
    | .entered _ => some (s.failed w fault)
    | .prepared _ => some (s.failed w fault)
    | .writing _ tmpName => some (if fault = .osError then s.turn w (.cleaning tmpName) else s.failed w fault)
    | .closed _ tmpName => some (if fault = .osError then s.turn w (.cleaning tmpName) else s.failed w fault)
    | _ => none
  | .unlink w removed =>
    match s.saves w with
    | .cleaning tmpName => some ((if removed then s.put tmpName none else s).failed w .osError)
    | _ => none
  | .crash w => (Writers.step py.rt calls s.log (.crash w)).map fun log => { s.turn w .idle with log := log }
  | .load v readable =>
    match s.log.verifiers v with
    | .idle =>
      let check : Writers.Check :=
        match if readable then load py s.stored else .ok none with
        | .ok checkpoint => .loaded checkpoint
        | .error e => .verified none s.log.table (.error e)
      some { s with log := { s.log with verifiers := Function.update s.log.verifiers v check } }
    | _ => none

/-- What a step can do, by the phase it is taken in. -/
inductive Transition (s : State) : Event → State → Prop
  | log {e : Writers.Event} {log : Writers.State} : ofLog e = true → Writers.step py.rt calls s.log e = some log →
      Transition s (.log e) { s with log := log }
  | enter {w : Nat} {now : UtcTime} {row : Row} : s.log.writers w = .committed row → (calls w).checkpointing = true →
      s.saves w = .idle → Transition s (.enter w now) (s.turn w (.entered (checkpointOf py.rt row now)))
  | mkdir {w : Nat} {checkpoint : AuditCheckpoint} : s.saves w = .entered checkpoint →
      Transition s (.mkdir w) { s.turn w (.prepared checkpoint) with directory := true }
  | mkstemp {w tmpName : Nat} {checkpoint : AuditCheckpoint} : s.saves w = .prepared checkpoint →
      s.temporary tmpName = none →
      Transition s (.mkstemp w tmpName) ((s.put tmpName (some [])).turn w (.writing checkpoint tmpName))
  | write {w tmpName count : Nat} {checkpoint : AuditCheckpoint} {content : Text} :
      s.saves w = .writing checkpoint tmpName → Transition s (.write w count) (s.put tmpName (some content))
  | close {w tmpName : Nat} {checkpoint : AuditCheckpoint} {content : Text} : s.saves w = .writing checkpoint tmpName →
      dump py.rt (asdict checkpoint) = .ok content →
      Transition s (.close w) ((s.put tmpName (some content)).turn w (.closed checkpoint tmpName))
  | replace {w tmpName : Nat} {checkpoint : AuditCheckpoint} {row : Row} : s.saves w = .closed checkpoint tmpName →
      s.log.writers w = .committed row → Transition s (.replace w)
        { (s.put tmpName none).turn w .idle with
          file := s.temporary tmpName
          log := { s.log.move w (.saved row) s.log.lock with store := some checkpoint } }
  | raise {w : Nat} {fault : PyException} : s.saves w ≠ .idle → Transition s (.raise w fault) (s.failed w fault)
  | clean {w tmpName : Nat} {fault : PyException} : tmpNameOf (s.saves w) = some tmpName →
      Transition s (.raise w fault) (s.turn w (.cleaning tmpName))
  | unlink {w tmpName : Nat} {removed : Bool} : s.saves w = .cleaning tmpName →
      Transition s (.unlink w removed) ((if removed then s.put tmpName none else s).failed w .osError)
  | crash {w : Nat} {log : Writers.State} : Writers.step py.rt calls s.log (.crash w) = some log →
      Transition s (.crash w) { s.turn w .idle with log := log }
  | load {v : Nat} {readable : Bool} {check : Writers.Check} : s.log.verifiers v = .idle →
      check = (match if readable then load py s.stored else .ok none with
        | .ok checkpoint => .loaded checkpoint
        | .error e => .verified none s.log.table (.error e)) →
      Transition s (.load v readable)
        { s with log := { s.log with verifiers := Function.update s.log.verifiers v check } }

end

section
variable {py : Interpreter} {calls : Nat → AppendCall} {s t : State} {e : Event}

theorem step_cases (stepped : step py calls s e = some t) : Transition py calls s e t := by
  cases e with
  | log e =>
    simp only [step] at stepped
    split_ifs at stepped with listed
    obtain ⟨log,made,rfl⟩ := Option.map_eq_some_iff.mp stepped
    exact .log listed made
  | crash w =>
    obtain ⟨log,made,rfl⟩ := Option.map_eq_some_iff.mp stepped
    exact .crash made
  | enter w now =>
    simp only [step] at stepped
    split at stepped
    · next committed checkpointing idle =>
      cases stepped
      exact .enter committed checkpointing idle
    · cases stepped
  | mkstemp w tmpName =>
    simp only [step] at stepped
    split at stepped
    · next phase =>
      split_ifs at stepped with free
      cases stepped
      exact .mkstemp phase free.2
    · cases stepped
  | close w =>
    simp only [step] at stepped
    split at stepped
    · next phase =>
      split at stepped
      · next dumped =>
        cases stepped
        exact .close phase dumped
      · cases stepped
    · cases stepped
  | replace w =>
    simp only [step] at stepped
    split at stepped
    · next phase committed =>
      cases stepped
      exact .replace phase committed
    · cases stepped
  | raise w fault =>
    simp only [step] at stepped
    split at stepped
    · next phase =>
      cases stepped
      exact .raise (by simp [phase])
    · next phase =>
      cases stepped
      exact .raise (by simp [phase])
    · next tmpName phase =>
      cases stepped
      split_ifs
      · exact .clean (by rw [phase]; rfl)
      · exact .raise (by simp [phase])
    · next tmpName phase =>
      cases stepped
      split_ifs
      · exact .clean (by rw [phase]; rfl)
      · exact .raise (by simp [phase])
    · cases stepped
  | load v readable =>
    simp only [step] at stepped
    split at stepped
    · next idle =>
      cases stepped
      exact .load idle rfl
    · cases stepped
  | mkdir w | write w count | unlink w removed =>
    simp only [step] at stepped
    split at stepped
    · next phase =>
      cases stepped
      constructor
      exact phase
    · cases stepped

/-! ### The invariant -/

section
variable (py calls s)

/-- The call has committed the record of the checkpoint and goes on to save it. -/
def Saving (w : Nat) (checkpoint : AuditCheckpoint) : Prop :=
  ∃ row now, s.log.writers w = .committed row ∧ (calls w).checkpointing = true ∧ checkpoint = checkpointOf py.rt row now

/-- What holds of a save in a phase: its temporary file exists, and holds the whole
    checkpoint once it is closed. -/
def SaveOk (w : Nat) : Phase → Prop
  | .idle => True
  | .entered checkpoint | .prepared checkpoint => Saving py calls s w checkpoint
  | .writing checkpoint tmpName => Saving py calls s w checkpoint ∧ s.temporary tmpName ≠ none
  | .closed checkpoint tmpName => Saving py calls s w checkpoint ∧
      ∃ t, s.temporary tmpName = some t ∧ load py (.text t) = .ok (some checkpoint)
  | .cleaning tmpName => (∃ checkpoint, Saving py calls s w checkpoint) ∧ s.temporary tmpName ≠ none

/-- The file reads as the register, and no two saves have one temporary file. -/
structure Kept : Prop where
  loads : load py s.stored = .ok s.log.store
  saves : ∀ w, SaveOk py calls s w (s.saves w)
  names : ∀ w w' tmpName, tmpNameOf (s.saves w) = some tmpName → tmpNameOf (s.saves w') = some tmpName → w = w'

end

theorem kept_start (directory : Bool) : Kept py calls (.start directory) :=
  ⟨rfl,fun _ => trivial,fun _ _ _ named => by cases named⟩

theorem SaveOk.saving {w : Nat} {phase : Phase} (ok : SaveOk py calls s w phase) (busy : phase ≠ .idle) :
    ∃ checkpoint, Saving py calls s w checkpoint := by
  cases phase with
  | idle => exact absurd rfl busy
  | entered checkpoint | prepared checkpoint => exact ⟨checkpoint,ok⟩
  | writing checkpoint tmpName | closed checkpoint tmpName => exact ⟨checkpoint,ok.1⟩
  | cleaning tmpName => exact ok.1

theorem SaveOk.held {w tmpName : Nat} {phase : Phase} (ok : SaveOk py calls s w phase)
    (named : tmpNameOf phase = some tmpName) : s.temporary tmpName ≠ none := by
  cases phase with
  | idle | entered checkpoint | prepared checkpoint => cases named
  | writing checkpoint name | cleaning name =>
    cases named
    exact ok.2
  | closed checkpoint name =>
    cases named
    obtain ⟨_,content,held,_⟩ := ok
    simp [held]

/-- Only the phase of the call and its own temporary file matter to its save. -/
theorem save_frame {w : Nat} {phase : Phase} (ok : SaveOk py calls s w phase)
    (writers : ∀ checkpoint, Saving py calls s w checkpoint → Saving py calls t w checkpoint)
    (temporary : ∀ tmpName, tmpNameOf phase = some tmpName → t.temporary tmpName = s.temporary tmpName) :
    SaveOk py calls t w phase := by
  cases phase with
  | idle => trivial
  | entered checkpoint | prepared checkpoint => exact writers checkpoint ok
  | writing checkpoint tmpName => exact ⟨writers checkpoint ok.1,by rw [temporary tmpName rfl]; exact ok.2⟩
  | closed checkpoint tmpName => exact ⟨writers checkpoint ok.1,by rw [temporary tmpName rfl]; exact ok.2⟩
  | cleaning tmpName =>
    obtain ⟨⟨checkpoint,saving⟩,held⟩ := ok
    exact ⟨⟨checkpoint,writers checkpoint saving⟩,by rw [temporary tmpName rfl]; exact held⟩

/-- A step of one call keeps the invariant if it touches no other save: it changes its own
    temporary file alone, or one that nobody has. -/
theorem kept_of {w : Nat} (kept : Kept py calls s) (loads : load py t.stored = .ok t.log.store)
    (own : SaveOk py calls t w (t.saves w)) (saves : ∀ other ≠ w, t.saves other = s.saves other)
    (writers : ∀ other ≠ w, ∀ checkpoint, Saving py calls s other checkpoint → Saving py calls t other checkpoint)
    (name : ∀ tmpName, tmpNameOf (t.saves w) = some tmpName →
      tmpNameOf (s.saves w) = some tmpName ∨ s.temporary tmpName = none)
    (temporary : ∀ tmpName, t.temporary tmpName ≠ s.temporary tmpName →
      tmpNameOf (s.saves w) = some tmpName ∨ s.temporary tmpName = none) :
    Kept py calls t := by
  -- A name of this call, or one that is free, is no name of another save.
  have apart : ∀ other ≠ w, ∀ tmpName, tmpNameOf (s.saves other) = some tmpName →
      ¬ (tmpNameOf (s.saves w) = some tmpName ∨ s.temporary tmpName = none) := by
    rintro other differ tmpName named (mine | free)
    · exact differ (kept.names other w tmpName named mine)
    · exact (kept.saves other).held named free
  refine ⟨loads,fun other => ?_,fun first second tmpName named named' => ?_⟩
  · by_cases same : other = w
    · subst same
      exact own
    · rw [saves other same]
      refine save_frame (kept.saves other) (writers other same) fun tmpName named => ?_
      by_contra changed
      exact apart other same tmpName named (temporary tmpName changed)
  · by_cases isFirst : first = w <;> by_cases isSecond : second = w
    · rw [isFirst,isSecond]
    · rw [isFirst] at named
      rw [saves second isSecond] at named'
      exact absurd (name tmpName named) (apart second isSecond tmpName named')
    · rw [isSecond] at named'
      rw [saves first isFirst] at named
      exact absurd (name tmpName named') (apart first isFirst tmpName named)
    · rw [saves first isFirst] at named
      rw [saves second isSecond] at named'
      exact kept.names first second tmpName named named'

/-- The log's own steps leave the register alone and every call that is about to save. -/
theorem log_step {rt : Runtime} {s t : Writers.State} {e : Writers.Event} (listed : ofLog e = true)
    (stepped : Writers.step rt calls s e = some t) :
    t.store = s.store ∧ ∀ w row, (calls w).checkpointing = true → s.writers w = .committed row →
      t.writers w = .committed row := by
  have moved : ∀ {w : Nat} {phase : Writers.Phase},
      (∀ row, s.writers w = .committed row → (calls w).checkpointing = false) → ∀ other row,
        (calls other).checkpointing = true → s.writers other = .committed row →
          Function.update s.writers w phase other = .committed row := by
    intro w phase elsewhere other row checkpointing committed
    have differ : other ≠ w := by
      rintro rfl
      rw [elsewhere row committed] at checkpointing
      cases checkpointing
    rwa [Function.update_of_ne differ]
  cases Writers.step_cases stepped with
  | save | saveFails | crash | load => cases listed
  | verify => exact ⟨rfl,fun _ _ _ committed => committed⟩
  | finishUnsaved phase unsaved => exact ⟨rfl,moved fun _ _ => unsaved⟩
  | fail running =>
    refine ⟨rfl,moved fun row committed => ?_⟩
    rw [committed] at running
    cases running
  | call phase | stamp phase | begin phase | fetch phase | insert phase | insertFails phase | commit phase
  | finishSaved phase =>
    refine ⟨rfl,moved fun row committed => ?_⟩
    rw [committed] at phase
    cases phase

theorem load_stored (s : State) : load py s.stored = match s.file with
    | some t => load py (.text t)
    | none => .ok none := by
  rw [State.stored]
  cases s.file <;> rfl

theorem saving_frame {w : Nat} {checkpoint : AuditCheckpoint} (saving : Saving py calls s w checkpoint)
    (same : t.log.writers w = s.log.writers w) : Saving py calls t w checkpoint := by
  obtain ⟨row,now,committed,more⟩ := saving
  exact ⟨row,now,same.trans committed,more⟩

/-- A save that ends with an exception. -/
theorem kept_failed {w : Nat} {fault : PyException} (kept : Kept py calls s) : Kept py calls (s.failed w fault) := by
  have idle : (s.failed w fault).saves w = .idle := Function.update_self ..
  refine kept_of (w := w) kept kept.loads ?_ (fun other differ => Function.update_of_ne differ ..)
    (fun other differ _ saving => saving_frame saving (Function.update_of_ne differ ..)) ?_ (fun _ changed => absurd rfl changed)
  · rw [idle]
    trivial
  · rw [idle]
    rintro _ ⟨⟩

/-- A removed temporary file was the save's own. -/
theorem kept_removed {w tmpName : Nat} (kept : Kept py calls s) (phase : s.saves w = .cleaning tmpName) :
    Kept py calls ((s.put tmpName none).failed w .osError) := by
  have idle : ((s.put tmpName none).failed w .osError).saves w = .idle := Function.update_self ..
  refine kept_of (w := w) kept kept.loads ?_ (fun other differ => Function.update_of_ne differ ..)
    (fun other differ _ saving => saving_frame saving (Function.update_of_ne differ ..)) ?_ fun name changed => ?_
  · rw [idle]
    trivial
  · rw [idle]
    rintro _ ⟨⟩
  · obtain rfl : name = tmpName := by
      by_contra differ
      exact changed (Function.update_of_ne differ ..)
    exact .inl (by rw [phase]; rfl)

/-- A save that moves on within the process, writing no file but its own. -/
theorem kept_turn {w : Nat} {phase : Phase} {temporary : Nat → Option Text} {directory : Bool} (kept : Kept py calls s)
    (own : SaveOk py calls { s.turn w phase with temporary := temporary, directory := directory } w phase)
    (name : ∀ tmpName, tmpNameOf phase = some tmpName →
      tmpNameOf (s.saves w) = some tmpName ∨ s.temporary tmpName = none)
    (changes : ∀ tmpName, temporary tmpName ≠ s.temporary tmpName →
      tmpNameOf (s.saves w) = some tmpName ∨ s.temporary tmpName = none) :
    Kept py calls { s.turn w phase with temporary := temporary, directory := directory } := by
  have here : (s.turn w phase).saves w = phase := Function.update_self ..
  refine kept_of (w := w) kept kept.loads ?_ (fun other differ => Function.update_of_ne differ ..)
    (fun _ _ _ saving => saving) ?_ changes
  · change SaveOk py calls _ w ((s.turn w phase).saves w)
    rwa [here]
  · change ∀ tmpName, tmpNameOf ((s.turn w phase).saves w) = some tmpName → _
    rwa [here]

theorem kept_step (deep : 0 < py.jsonDepth) (kept : Kept py calls s) (stepped : step py calls s e = some t) :
    Kept py calls t := by
  -- The only file whose content a save changes is its own.
  have own : ∀ {tmpName : Nat} {content : Option Text} {name : Nat},
      Function.update s.temporary tmpName content name ≠ s.temporary name → name = tmpName := by
    intro tmpName content name changed
    by_contra differ
    exact changed (Function.update_of_ne differ ..)
  cases step_cases stepped with
  | @log e log listed made =>
    obtain ⟨store,committed⟩ := log_step listed made
    refine ⟨?_,fun w => save_frame (kept.saves w) ?_ fun _ _ => rfl,kept.names⟩
    · change load py s.stored = .ok log.store
      rw [store]
      exact kept.loads
    · rintro checkpoint ⟨row,now,phase,checkpointing,same⟩
      exact ⟨row,now,committed w row checkpointing phase,checkpointing,same⟩
  | @enter w now row committed checkpointing idle =>
    exact kept_turn kept ⟨row,now,committed,checkpointing,rfl⟩ (fun _ named => by cases named) fun _ changed => absurd rfl changed
  | @mkdir w checkpoint phase =>
    have ok := kept.saves w
    rw [phase] at ok
    exact kept_turn kept ok (fun _ named => by cases named) fun _ changed => absurd rfl changed
  | @mkstemp w tmpName checkpoint phase free =>
    have ok := kept.saves w
    rw [phase] at ok
    refine kept_turn kept ⟨ok,by simp [State.put]⟩ ?_ fun name changed => ?_
    · rintro _ ⟨⟩
      exact .inr free
    · rw [own changed]
      exact .inr free
  | @write w tmpName count checkpoint content phase =>
    have ok := kept.saves w
    rw [phase] at ok
    have same : s.put tmpName (some content) =
        { s.turn w (.writing checkpoint tmpName) with temporary := (s.put tmpName (some content)).temporary } := by
      simp only [State.put,State.turn,← phase,Function.update_eq_self]
    rw [same]
    refine kept_turn kept ⟨ok.1,by simp [State.put]⟩ ?_ fun name changed => ?_
    · rintro _ ⟨⟩
      exact .inl (by rw [phase]; rfl)
    · rw [own changed]
      exact .inl (by rw [phase]; rfl)
  | @close w tmpName checkpoint content phase dumped =>
    have ok := kept.saves w
    rw [phase] at ok
    obtain ⟨⟨row,now,committed,checkpointing,rfl⟩,_⟩ := ok
    have loaded := load_dumped (undone_checkpointOf deep row now) dumped
    refine kept_turn kept ⟨⟨row,now,committed,checkpointing,rfl⟩,content,by simp [State.put],loaded⟩ ?_ fun name changed => ?_
    · rintro _ ⟨⟩
      exact .inl (by rw [phase]; rfl)
    · rw [own changed]
      exact .inl (by rw [phase]; rfl)
  | @replace w tmpName checkpoint row phase committed =>
    have ok := kept.saves w
    rw [phase] at ok
    obtain ⟨_,content,held,loaded⟩ := ok
    refine kept_of (w := w) kept ?_ ?_ (fun other differ => Function.update_of_ne differ ..)
      (fun other differ _ saving => saving_frame saving (Function.update_of_ne differ ..)) ?_ fun name changed => ?_
    · rw [load_stored]
      simp only [held,loaded]
    · simp only [State.turn,Function.update_self]
      trivial
    · simp only [State.turn,Function.update_self]
      rintro _ ⟨⟩
    · rw [own changed]
      exact .inl (by rw [phase]; rfl)
  | raise _ => exact kept_failed kept
  | @clean w tmpName fault named =>
    have busy : s.saves w ≠ .idle := by
      intro idle
      rw [idle] at named
      cases named
    refine kept_turn kept ⟨(kept.saves w).saving busy,(kept.saves w).held named⟩ ?_ fun _ changed => absurd rfl changed
    rintro _ ⟨⟩
    exact .inl named
  | @unlink w tmpName removed phase =>
    split_ifs
    · exact kept_removed kept phase
    · exact kept_failed kept
  | @crash w log made =>
    have crashed := Writers.step_cases made
    cases crashed with
    | crash _ =>
      have idle : (s.turn w .idle).saves w = .idle := Function.update_self ..
      refine kept_of (w := w) kept kept.loads ?_ (fun other differ => Function.update_of_ne differ ..)
        (fun other differ _ saving => saving_frame saving (Function.update_of_ne differ ..)) ?_ fun _ changed => absurd rfl changed
      · change SaveOk py calls _ w ((s.turn w .idle).saves w)
        rw [idle]
        trivial
      · change ∀ tmpName, tmpNameOf ((s.turn w .idle).saves w) = some tmpName → _
        rw [idle]
        rintro _ ⟨⟩
  | load _ _ => exact ⟨kept.loads,fun w => save_frame (kept.saves w) (fun _ saving => saving) fun _ _ => rfl,kept.names⟩

/-- A step is one of the log's with the register, or none at all. -/
theorem step_matched (kept : Kept py calls s) (stepped : step py calls s e = some t) :
    ∃ events, run (Writers.step py.rt calls) s.log events = some t.log := by
  have silent : ∃ events, run (Writers.step py.rt calls) s.log events = some s.log := ⟨[],rfl⟩
  have single : ∀ {e log}, Writers.step py.rt calls s.log e = some log →
      ∃ events, run (Writers.step py.rt calls) s.log events = some log := by
    intro e log made
    exact ⟨[e],by simp [run,made]⟩
  -- A save that is under way can fail.
  have fails : ∀ {w : Nat} {fault : PyException}, s.saves w ≠ .idle → ∃ events,
      run (Writers.step py.rt calls) s.log events = some (s.log.move w (afterSaveFault fault) s.log.lock) := by
    intro w fault busy
    obtain ⟨_,row,now,committed,checkpointing,_⟩ := (kept.saves w).saving busy
    exact single (e := .saveFails w fault) (by simp [Writers.step,committed,checkpointing])
  cases step_cases stepped with
  | log _ made | crash made => exact single made
  | enter | mkdir | mkstemp | write | close | clean => exact silent
  | raise busy => exact fails busy
  | @unlink w tmpName removed phase =>
    have busy : s.saves w ≠ .idle := by simp [phase]
    cases removed with
    | true => exact fails busy
    | false => exact fails busy
  | @replace w tmpName checkpoint row phase committed =>
    have ok := kept.saves w
    rw [phase] at ok
    obtain ⟨⟨row',now,committed',checkpointing,rfl⟩,_⟩ := ok
    rw [committed] at committed'
    cases committed'
    exact single (e := .save w now) (by simp [Writers.step,committed,checkpointing])
  | @load v readable check idle made =>
    refine single (e := .load v readable) ?_
    subst made
    rw [kept.loads]
    cases readable <;> simp [Writers.step,idle]

/-- Every run is one of `Writers` for the log, and keeps the file. -/
theorem log_reached (deep : 0 < py.jsonDepth) (kept : Kept py calls s) (reached : Reachable (step py calls) s t) :
    Reachable (Writers.step py.rt calls) s.log t.log ∧ Kept py calls t := by
  have matched : ∀ {s e t log}, (s.log = log ∧ Kept py calls s) → step py calls s e = some t →
      ∃ events log', run (Writers.step py.rt calls) log events = some log' ∧ t.log = log' ∧ Kept py calls t := by
    rintro s e t _ ⟨rfl,kept⟩ stepped
    obtain ⟨events,ran⟩ := step_matched kept stepped
    exact ⟨events,_,ran,rfl,kept_step deep kept stepped⟩
  obtain ⟨log,reachedLog,rfl,kept⟩ := reached.simulated ⟨rfl,kept⟩ matched
  exact ⟨reachedLog,kept⟩

/-- Whatever the interleaving of appends, saves, failures, crashes and readers, the log and
    its file have done what a run of `Writers` does with its register: `load` reads the
    register, and no verifier that read the file says INVALID or raises. -/
theorem shared_store_refines (py : Interpreter) (calls : Nat → AppendCall) (deep : 0 < py.jsonDepth) (directory : Bool)
    (s : State) (reached : Reachable (step py calls) (.start directory) s) :
    Reachable (Writers.step py.rt calls) .start s.log ∧ load py s.stored = .ok s.log.store ∧
      ∀ v checkpoint snapshot outcome, s.log.verifiers v = .verified checkpoint snapshot outcome →
        ∃ result, outcome = .ok result ∧ result.status ≠ .invalid := by
  obtain ⟨reachedLog,kept⟩ := log_reached deep (kept_start directory) reached
  refine ⟨reachedLog,kept.loads,fun v checkpoint snapshot outcome verified => ?_⟩
  have check := (Writers.reachable_inv reachedLog).verifiers v
  rw [verified] at check
  obtain ⟨result,same,sound,_⟩ := check
  exact ⟨result,same,sound⟩

end

/-- Two calls commit; the second one saves its checkpoint while the first one is writing,
    whose rename comes last. -/
def overtakenSave : List Event :=
  (committing 0 ++ committing 1).map .log ++
    [.enter 0 sampleTime,.mkdir 0,.mkstemp 0 0,.write 0 12,.enter 1 sampleTime,.mkdir 1,.mkstemp 1 1,.close 1,.replace 1,
      .log (.finish 1),.close 0,.replace 0,.load 0 true,.log (.verify 0)]

theorem shared_store_refines_overtaken :
    ∃ s, run (step sampleInterpreter sampleCalls) (.start true) overtakenSave = some s ∧
      s.log.store = some (checkpointOf sampleRuntime firstRow sampleTime) ∧ s.log.table = twoRecords ∧
      Reachable (Writers.step sampleRuntime sampleCalls) .start s.log ∧
      load sampleInterpreter s.stored = .ok (some (checkpointOf sampleRuntime firstRow sampleTime)) := by
  have seen : (run (step sampleInterpreter sampleCalls) (.start true) overtakenSave).map
      (fun s => (s.log.store,s.log.table)) =
        some (some (checkpointOf sampleRuntime firstRow sampleTime),twoRecords) := by decide +kernel
  obtain ⟨s,ran,held⟩ := Option.map_eq_some_iff.mp seen
  obtain ⟨store,table⟩ := Prod.mk.inj held
  obtain ⟨reached,loaded,_⟩ := shared_store_refines sampleInterpreter sampleCalls (by decide) true s ⟨_,ran⟩
  rw [store] at loaded
  exact ⟨s,ran,store,table,reached,loaded⟩

end PrivacyGateway.SharedStore
