import PrivacyGateway.CheckpointFile
import PrivacyGateway.JsonRoundTrip
import PrivacyGateway.Runs

/-!
Saving the checkpoint, one call after another, each of which may fail or crash at any
point: the checkpoint is written to a temporary file, which takes the place of the
checkpoint file in one step. Only that step changes what `load` returns
(`load_last_renamed`), under the assumption that `json.loads` gives back what
`json.dump` wrote, which holds of every checkpoint that a log makes (`undone_checkpointOf`).
-/
namespace PrivacyGateway.CheckpointSaves
open PrivacyGateway.Strings PrivacyGateway.Errors PrivacyGateway.StdLib PrivacyGateway.JsonText
open PrivacyGateway.Raising PrivacyGateway.JsonDump PrivacyGateway.JsonRoundTrip PrivacyGateway.AuditLog
open PrivacyGateway.Runs PrivacyGateway.CheckpointFile

/-- `asdict(checkpoint)` -/
def asdict (checkpoint : AuditCheckpoint) : Json :=
  .obj [field "last_record_id" (.int checkpoint.lastRecordId),field "last_record_mac" (.str checkpoint.lastRecordMac),
    field "created_at" (.str checkpoint.createdAt),field "version" (.int checkpoint.version)]

/-- Where the call of `save` stands; a temporary file has a number for its name. -/
inductive Phase where
  | idle
  /-- Before `mkdir`. -/
  | entered (checkpoint : AuditCheckpoint)
  /-- Before `mkstemp`. -/
  | prepared (checkpoint : AuditCheckpoint)
  /-- Inside `with os.fdopen`. -/
  | writing (checkpoint : AuditCheckpoint) (tmpName : Nat)
  /-- Before `os.replace`. -/
  | closed (checkpoint : AuditCheckpoint) (tmpName : Nat)
  /-- In `except OSError`. -/
  | cleaning (tmpName : Nat)

structure State where
  /-- `path.parent` exists. -/
  directory : Bool
  /-- The checkpoint file. -/
  file : Option Text
  /-- The temporary files, those of earlier calls among them. -/
  temporary : Nat → Option Text
  phase : Phase
  /-- The checkpoints whose rename took effect, in order. -/
  renamed : List AuditCheckpoint

/-- No call has been made yet. -/
def State.start (directory : Bool) : State := ⟨directory,none,fun _ => none,.idle,[]⟩

/-- What `load` finds. -/
def State.stored (s : State) : StoredFile :=
  match s.file with
  | some t => .text t
  | none => .missing

inductive Event where
  | call (checkpoint : AuditCheckpoint)
  | mkdir
  /-- `mkstemp` picks a name that no file has. -/
  | mkstemp (tmpName : Nat)
  /-- Some more characters reach the temporary file. -/
  | write (count : Nat)
  /-- `json.dump` has returned and the handle is closed. -/
  | close
  | replace
  /-- The current step raises. -/
  | raise (fault : PyException)
  /-- `os.unlink`, whose `OSError` is suppressed. -/
  | unlink (removed : Bool)
  /-- The process ends; what is on the disk stays. -/
  | crash

variable (py : Interpreter)

/-- One step, or `none` where the event cannot happen. -/
def step (s : State) : Event → Option State
  | .call checkpoint =>
    match s.phase with
    | .idle => some { s with phase := .entered checkpoint }
    | _ => none
  | .mkdir =>
    match s.phase with
    | .entered checkpoint => some { s with directory := true, phase := .prepared checkpoint }
    | _ => none
  | .mkstemp tmpName =>
    match s.phase with
    | .prepared checkpoint =>
      if s.directory ∧ s.temporary tmpName = none then
        some { s with temporary := Function.update s.temporary tmpName (some []), phase := .writing checkpoint tmpName }
      else none
    | _ => none
  | .write count =>
    match s.phase with
    | .writing checkpoint tmpName =>
      let written := ((s.temporary tmpName).getD []).length
      let content := (dumpText py.rt (asdict checkpoint)).take (written + count)
      some { s with temporary := Function.update s.temporary tmpName (some content) }
    | _ => none
  | .close =>
    match s.phase with
    | .writing checkpoint tmpName =>
      match dump py.rt (asdict checkpoint) with
      | .ok content =>
        some { s with temporary := Function.update s.temporary tmpName (some content), phase := .closed checkpoint tmpName }
      | .error _ => none
    | _ => none
  | .replace =>
    match s.phase with
    | .closed checkpoint tmpName =>
      some { s with
        file := s.temporary tmpName
        temporary := Function.update s.temporary tmpName none
        phase := .idle
        renamed := s.renamed ++ [checkpoint] }
    | _ => none
  | .raise fault =>
    match s.phase with
    | .entered _ => some { s with phase := .idle }
    | .prepared _ => some { s with phase := .idle }
    | .writing _ tmpName => some { s with phase := if fault = .osError then .cleaning tmpName else .idle }
    | .closed _ tmpName => some { s with phase := if fault = .osError then .cleaning tmpName else .idle }
    | _ => none
  | .unlink removed =>
    match s.phase with
    | .cleaning tmpName =>
      some { s with
        temporary := if removed then Function.update s.temporary tmpName none else s.temporary
        phase := .idle }
    | _ => none
  | .crash => some { s with phase := .idle }

/-- What a step can do. -/
inductive Transition (s : State) : Event → State → Prop
  | call {checkpoint : AuditCheckpoint} : s.phase = .idle →
      Transition s (.call checkpoint) { s with phase := .entered checkpoint }
  | mkdir {checkpoint : AuditCheckpoint} : s.phase = .entered checkpoint →
      Transition s .mkdir { s with directory := true, phase := .prepared checkpoint }
  | mkstemp {checkpoint : AuditCheckpoint} {tmpName : Nat} : s.phase = .prepared checkpoint →
      s.temporary tmpName = none → Transition s (.mkstemp tmpName)
        { s with temporary := Function.update s.temporary tmpName (some []), phase := .writing checkpoint tmpName }
  | write {checkpoint : AuditCheckpoint} {tmpName count : Nat} {content : Text} : s.phase = .writing checkpoint tmpName →
      content <+: dumpText py.rt (asdict checkpoint) → Transition s (.write count)
        { s with temporary := Function.update s.temporary tmpName (some content) }
  | close {checkpoint : AuditCheckpoint} {tmpName : Nat} {content : Text} : s.phase = .writing checkpoint tmpName →
      dump py.rt (asdict checkpoint) = .ok content → Transition s .close
        { s with temporary := Function.update s.temporary tmpName (some content), phase := .closed checkpoint tmpName }
  | replace {checkpoint : AuditCheckpoint} {tmpName : Nat} : s.phase = .closed checkpoint tmpName →
      Transition s .replace { s with
        file := s.temporary tmpName
        temporary := Function.update s.temporary tmpName none
        phase := .idle
        renamed := s.renamed ++ [checkpoint] }
  | raise {fault : PyException} {phase : Phase} : (phase = .idle ∨ ∃ tmpName, phase = .cleaning tmpName) →
      Transition s (.raise fault) { s with phase := phase }
  | unlink {tmpName : Nat} {removed : Bool} {temporary : Nat → Option Text} : s.phase = .cleaning tmpName →
      (∀ other ≠ tmpName, temporary other = s.temporary other) →
      Transition s (.unlink removed) { s with temporary := temporary, phase := .idle }
  | crash : Transition s .crash { s with phase := .idle }

theorem step_cases {py : Interpreter} {s t : State} {e : Event} (stepped : step py s e = some t) :
    Transition py s e t := by
  cases e with
  | mkstemp tmpName =>
    simp only [step] at stepped
    split at stepped
    · rename_i checkpoint phase
      split_ifs at stepped with free
      cases stepped
      exact .mkstemp phase free.2
    · cases stepped
  | close =>
    simp only [step] at stepped
    split at stepped
    · rename_i checkpoint tmpName phase
      split at stepped
      · rename_i content dumped
        cases stepped
        exact .close phase dumped
      · cases stepped
    · cases stepped
  | raise fault =>
    have outcome : ∀ tmpName, (if fault = .osError then Phase.cleaning tmpName else .idle) = .idle ∨
        ∃ name, (if fault = .osError then Phase.cleaning tmpName else .idle) = .cleaning name := by
      intro tmpName
      split_ifs
      · exact .inr ⟨tmpName,rfl⟩
      · exact .inl rfl
    simp only [step] at stepped
    split at stepped
    · cases stepped
      exact .raise (.inl rfl)
    · cases stepped
      exact .raise (.inl rfl)
    · cases stepped
      exact .raise (outcome _)
    · cases stepped
      exact .raise (outcome _)
    · cases stepped
  | unlink removed =>
    simp only [step] at stepped
    split at stepped
    · rename_i tmpName phase
      cases stepped
      refine .unlink phase fun other differs => ?_
      split_ifs
      · exact Function.update_of_ne differs _ _
      · rfl
    · cases stepped
  | crash =>
    cases stepped
    exact .crash
  | call checkpoint =>
    simp only [step] at stepped
    split at stepped
    · cases stepped
      exact .call ‹_›
    · cases stepped
  | mkdir =>
    simp only [step] at stepped
    split at stepped
    · cases stepped
      exact .mkdir ‹_›
    · cases stepped
  | write count =>
    simp only [step] at stepped
    split at stepped
    · cases stepped
      exact .write ‹_› (List.take_prefix _ _)
    · cases stepped
  | replace =>
    simp only [step] at stepped
    split at stepped
    · cases stepped
      exact .replace ‹_›
    · cases stepped

/-- `json.loads` gives back what `json.dump` has written for the checkpoint. -/
def Undone (checkpoint : AuditCheckpoint) : Prop :=
  ∀ t, dump py.rt (asdict checkpoint) = .ok t → py.loads t = .ok (asdict checkpoint)

section
variable {py : Interpreter} {checkpoint : AuditCheckpoint}

theorem universalNewlines_printable {t : Text} (printable : Printable t) : universalNewlines t = t := by
  induction t with
  | nil => rfl
  | cons c rest ih =>
    obtain ⟨visible,printable⟩ := printable_cons.mp printable
    have noReturn : c ≠ '\r' := by
      rintro rfl
      exact absurd visible.1 (by decide)
    rw [universalNewlines,ih printable]
    all_goals simp [noReturn]

theorem parseCheckpoint_asdict (checkpoint : AuditCheckpoint) : parseCheckpoint py (asdict checkpoint) = .ok checkpoint := by
  have strings : ∀ s, py.str (.str s) = .ok s := fun s => if_neg (Nat.not_lt_zero _)
  have id_ : JsonAccess.subscript (asdict checkpoint) "last_record_id" = .ok (.int checkpoint.lastRecordId) := rfl
  have mac : JsonAccess.subscript (asdict checkpoint) "last_record_mac" = .ok (.str checkpoint.lastRecordMac) := rfl
  have time : JsonAccess.subscript (asdict checkpoint) "created_at" = .ok (.str checkpoint.createdAt) := rfl
  have version : getOr (asdict checkpoint) "version" (.int checkpointVersion) = .ok (.int checkpoint.version) := rfl
  rw [parseCheckpoint,id_,mac,time,version]
  simp only [ok_bind,strings]
  rfl

/-- A file with the whole encoding of a checkpoint is that checkpoint. -/
theorem load_dumped (undone : Undone py checkpoint) {t : Text} (dumped : dump py.rt (asdict checkpoint) = .ok t) :
    load py (.text t) = .ok (some checkpoint) := by
  have printable : Printable t := by
    unfold dump at dumped
    split_ifs at dumped
    cases dumped
    exact printable_dumpText py.rt _
  have read : readCheckpoint py (.text t) = .ok checkpoint := by
    rw [readCheckpoint,readText,ok_bind,universalNewlines_printable printable,undone t dumped,ok_bind]
    exact parseCheckpoint_asdict checkpoint
  rw [load,read]

/-- The assumption holds of checkpoints without split surrogates. -/
theorem undone_of_unpaired (deep : 0 < py.jsonDepth) (mac : Unpaired checkpoint.lastRecordMac)
    (time : Unpaired checkpoint.createdAt) : Undone py checkpoint := by
  intro t dumped
  have sizes := (dump_eq_ok.mp dumped).1
  simp only [asdict,field,oversized,oversizedFields,Bool.or_eq_false_iff,decide_eq_false_iff_not,Nat.not_lt] at sizes
  obtain ⟨idFits,_,_,versionFits,_⟩ := sizes
  have restorable : Restorable py.jsonDepth (asdict checkpoint) := by
    obtain ⟨depth,same⟩ := Nat.exists_eq_succ_of_ne_zero (Nat.pos_iff_ne_zero.mp deep)
    have keys : (["last_record_id","last_record_mac","created_at","version"].map lit).Nodup := by decide
    have key : ∀ name, Unpaired (lit name) := fun name => unpaired_of_encodable (encodable_lit name)
    rw [same,asdict]
    refine ⟨keys,?_⟩
    simp only [List.forall_mem_cons,List.not_mem_nil,false_implies,implies_true,and_true,field,key,true_and,
      restorable_int,restorable_str]
    exact ⟨idFits,mac,time,versionFits⟩
  obtain ⟨written,dumps,loaded⟩ := loads_dump py.floatOf py.rt restorable
  rw [dumps] at dumped
  cases dumped
  exact loaded

/-- It holds of the checkpoints that a log makes. -/
theorem undone_checkpointOf (deep : 0 < py.jsonDepth) (row : Row) (createdAt : UtcTime) :
    Undone py (checkpointOf py.rt row createdAt) :=
  undone_of_unpaired deep (unpaired_of_encodable (encodable_str _)) (unpaired_of_encodable (encodable_str _))

/-- The assumption for what a call is made with. -/
def Assumed (py : Interpreter) : Event → Prop
  | .call checkpoint => Undone py checkpoint
  | _ => True

/-- What the call knows about its checkpoint and its temporary file. -/
def PhaseKept (py : Interpreter) (s : State) : Prop :=
  match s.phase with
  | .idle => True
  | .cleaning _ => True
  | .entered checkpoint => Undone py checkpoint
  | .prepared checkpoint => Undone py checkpoint
  | .writing checkpoint _ => Undone py checkpoint
  | .closed checkpoint tmpName => ∃ t, s.temporary tmpName = some t ∧ load py (.text t) = .ok (some checkpoint)

/-- The file holds the checkpoint that was renamed last. -/
structure Kept (py : Interpreter) (s : State) : Prop where
  loads : load py s.stored = .ok s.renamed.getLast?
  phase : PhaseKept py s

variable {s t : State} {e : Event}

theorem kept_start (directory : Bool) : Kept py (.start directory) := ⟨rfl,trivial⟩

theorem load_stored (s : State) : load py s.stored = match s.file with
    | some t => load py (.text t)
    | none => .ok none := by
  rw [State.stored]
  cases s.file <;> rfl

theorem kept_step (kept : Kept py s) (stepped : step py s e = some t) (assumed : Assumed py e) : Kept py t := by
  obtain ⟨loads,phase⟩ := kept
  rw [PhaseKept] at phase
  cases step_cases stepped with
  | call _ => exact ⟨loads,assumed⟩
  | mkdir place =>
    rw [place] at phase
    exact ⟨loads,phase⟩
  | mkstemp place _ =>
    rw [place] at phase
    exact ⟨loads,phase⟩
  | @write checkpoint tmpName count content place _ =>
    rw [place] at phase
    refine ⟨loads,?_⟩
    rw [PhaseKept,place]
    exact phase
  | @close checkpoint tmpName content place dumped =>
    rw [place] at phase
    exact ⟨loads,content,Function.update_self .. ,load_dumped phase dumped⟩
  | @replace checkpoint tmpName place =>
    rw [place] at phase
    obtain ⟨content,held,loaded⟩ := phase
    refine ⟨?_,trivial⟩
    rw [load_stored]
    simp only [held,loaded,List.getLast?_append,List.getLast?_singleton,Option.some_or]
  | raise outcome =>
    rcases outcome with rfl | ⟨tmpName,rfl⟩
    · exact ⟨loads,trivial⟩
    · exact ⟨loads,trivial⟩
  | unlink _ _ => exact ⟨loads,trivial⟩
  | crash => exact ⟨loads,trivial⟩

end

/-- Whatever calls were made and wherever each of them failed or crashed, `load` returns the
    checkpoint whose rename was the last to take effect, or none if there was none. -/
theorem load_last_renamed (py : Interpreter) (directory : Bool) (events : List Event) (s : State)
    (undone : ∀ checkpoint, .call checkpoint ∈ events → Undone py checkpoint)
    (ran : run (step py) (.start directory) events = some s) : load py s.stored = .ok s.renamed.getLast? := by
  have assumed : ∀ e ∈ events, Assumed py e := by
    intro e made
    cases e with
    | call checkpoint => exact undone checkpoint made
    | _ => trivial
  have along : Along (step py) (fun _ e _ => Assumed py e) (.start directory) events := along_of_forall assumed
  exact (invariant_along kept_step (kept_start directory) along ran).loads

/-- A save that succeeds, one that crashes with a part of its file written, and one that
    cannot rename its file nor remove it. -/
def troubledSaves : List Event :=
  [.call ⟨1,lit "ab",lit "noon",1⟩,.mkdir,.mkstemp 0,.write 7,.close,.replace,
    .call ⟨2,lit "cd",lit "one",1⟩,.mkdir,.mkstemp 0,.write 20,.crash,
    .call ⟨3,lit "ef",lit "two",1⟩,.mkdir,.mkstemp 1,.close,.raise .osError,.unlink false]

theorem load_last_renamed_troubled :
    ∃ s, run (step plainInterpreter) (.start false) troubledSaves = some s ∧
      s.renamed = [⟨1,lit "ab",lit "noon",1⟩] ∧ s.temporary 0 = some "\x7b\"last_record_id\": 2".toList ∧
      load plainInterpreter s.stored = .ok (some ⟨1,lit "ab",lit "noon",1⟩) := by
  have seen : (run (step plainInterpreter) (.start false) troubledSaves).map (fun s => (s.renamed,s.temporary 0)) =
      some ([⟨1,lit "ab",lit "noon",1⟩],some "\x7b\"last_record_id\": 2".toList) := by decide +kernel
  obtain ⟨s,ran,held⟩ := Option.map_eq_some_iff.mp seen
  obtain ⟨renamed,partly⟩ := Prod.mk.inj held
  have undone : ∀ checkpoint, .call checkpoint ∈ troubledSaves → Undone plainInterpreter checkpoint := by
    have plain : ∀ word, Unpaired (lit word) := fun word => unpaired_of_encodable (encodable_lit word)
    intro checkpoint made
    simp only [troubledSaves,List.mem_cons,reduceCtorEq,Event.call.injEq,List.not_mem_nil,or_false,false_or] at made
    rcases made with rfl | rfl | rfl <;> exact undone_of_unpaired (by decide) (plain _) (plain _)
  have loaded := load_last_renamed plainInterpreter false troubledSaves s undone ran
  rw [renamed] at loaded
  exact ⟨s,ran,renamed,partly,loaded⟩

end PrivacyGateway.CheckpointSaves
