import PrivacyGateway.JsonDump
import PrivacyGateway.Verification

/-!
Reading the checkpoint file. `load` returns a checkpoint, or `None` for what it takes
for no checkpoint, and lets every exception through that its `except` clauses do not
name: `TypeError`, `OverflowError` and `RecursionError` pass (`load_raises`). Which files
have this effect is a matter of a few fields and of nesting (`Tolerated`), and a file
without it gives a checkpoint built from all the required fields, or a verdict that
leaves the tail unverified (`counts_iff_tolerated`).
-/
namespace PrivacyGateway.CheckpointFile
open PrivacyGateway.Strings PrivacyGateway.Errors PrivacyGateway.StdLib PrivacyGateway.JsonText
open PrivacyGateway.JsonAccess PrivacyGateway.Raising PrivacyGateway.JsonLoads PrivacyGateway.JsonDump
open PrivacyGateway.SqlValues PrivacyGateway.AuditLog PrivacyGateway.Verification

/-- What the interpreter decides: `repr` of a string, `float` of a numeral, and how deep
    `json.loads` and `repr` go before they raise `RecursionError`. -/
structure Interpreter where
  rt : Runtime
  reprStr : PyStr → PyStr
  floatOf : Text → PyFloat
  jsonDepth : Nat
  reprDepth : Nat

mutual
/-- How many containers are within each other. -/
def nesting : Json → Nat
  | .arr items => nestingItems items + 1
  | .obj fields => nestingFields fields + 1
  | _ => 0
def nestingItems : List Json → Nat
  | [] => 0
  | item :: rest => max (nesting item) (nestingItems rest)
def nestingFields : List (PyStr × Json) → Nat
  | [] => 0
  | (_,value) :: rest => max (nesting value) (nestingFields rest)
end

section
variable (py : Interpreter)

/-- `json.loads(t)` -/
def Interpreter.loads (t : Text) : Except PyException Json := JsonLoads.loads py.floatOf py.jsonDepth t

/-- `str(value)` -/
def Interpreter.str (value : Json) : Except PyException PyStr :=
  if py.reprDepth < nesting value then .error .runtimeError else pyStr py.rt py.reprStr value

/-- `int(value)` -/
def Interpreter.int (value : Json) : Except PyException Int := pyInt py.rt value

/-- What is found under the path of the store. -/
inductive StoredFile where
  /-- `FileNotFoundError` -/
  | missing
  /-- Another `OSError`, as of a directory or without permission. -/
  | unreadable
  /-- Bytes that are not UTF-8. -/
  | undecodable
  /-- The UTF-8 encoding of a text. -/
  | text (t : Text)

/-- The line ends of a file opened as text. -/
def universalNewlines : Text → Text
  | '\r' :: '\n' :: rest => '\n' :: universalNewlines rest
  | '\r' :: rest => '\n' :: universalNewlines rest
  | c :: rest => c :: universalNewlines rest
  | [] => []

/-- `path.read_text(encoding="utf-8")`; `FileNotFoundError` is an `OSError` and
    `UnicodeDecodeError` a `ValueError`. -/
def readText : StoredFile → Except PyException Text
  | .missing => .error .osError
  | .unreadable => .error .osError
  | .undecodable => .error .valueError
  | .text t => .ok (universalNewlines t)

/-- `data.get(key, default)` -/
def getOr (data : Json) (key : String) (default : Json) : Except PyException Json :=
  match data with
  | .obj fields => .ok ((fields.lookup (lit key)).getD default)
  | _ => .error .attributeError

/-- The conversion of the parsed value. -/
def parseCheckpoint (data : Json) : Except PyException AuditCheckpoint := do
  let lastRecordId ← py.int (← subscript data "last_record_id")
  let lastRecordMac ← py.str (← subscript data "last_record_mac")
  let createdAt ← py.str (← subscript data "created_at")
  let version ← py.int (← getOr data "version" (.int checkpointVersion))
  return ⟨lastRecordId,lastRecordMac,createdAt,version⟩

/-- `except FileNotFoundError` and `except (OSError, ValueError, KeyError)` -/
def caught : PyException → Bool
  | .osError => true
  | .valueError => true
  | .unicodeEncodeError => true
  | .keyError => true
  | _ => false

/-- The body of the `try` statement. -/
def readCheckpoint (file : StoredFile) : Except PyException AuditCheckpoint := do
  let t ← readText file
  let data ← py.loads t
  parseCheckpoint py data

/-- `load()` -/
def load (file : StoredFile) : Except PyException (Option AuditCheckpoint) :=
  match readCheckpoint py file with
  | .ok checkpoint => .ok (some checkpoint)
  | .error e => if caught e then .ok none else .error e

/-- `verify_with_store(store)` with a store that reads the file. -/
def verifyWithFile (table : AuditTable) (file : StoredFile) : Except PyException Verification := do
  let checkpoint ← load py file
  verifyWithStore py.rt table (some checkpoint)

/-- The checkpoint is what the fields of the dict in the file convert to, the required ones
    among them. -/
def BuiltFrom (file : StoredFile) (checkpoint : AuditCheckpoint) : Prop :=
  ∃ t fields lastRecordId lastRecordMac createdAt, file = .text t ∧ py.loads (universalNewlines t) = .ok (.obj fields) ∧
    fields.lookup (lit "last_record_id") = some lastRecordId ∧ py.int lastRecordId = .ok checkpoint.lastRecordId ∧
    fields.lookup (lit "last_record_mac") = some lastRecordMac ∧ py.str lastRecordMac = .ok checkpoint.lastRecordMac ∧
    fields.lookup (lit "created_at") = some createdAt ∧ py.str createdAt = .ok checkpoint.createdAt ∧
    py.int ((fields.lookup (lit "version")).getD (.int checkpointVersion)) = .ok checkpoint.version

/-- The file gives a checkpoint built from all required fields, or it counts as none: the
    verdict on a log that can be checked at all leaves the tail unverified. -/
def Counts (file : StoredFile) : Prop :=
  (∃ checkpoint, load py file = .ok (some checkpoint) ∧ BuiltFrom py file checkpoint) ∨
    load py file = .ok none ∧ ∀ table result, verifyChain py.rt table none = .ok result →
      ∃ verdict, verifyWithFile py table file = .ok verdict ∧ verdict.tailVerified = false

/-- `int` converts the value or refuses it with `ValueError`. -/
def Numeric : Json → Prop
  | .null => False
  | .arr _ => False
  | .obj _ => False
  | .float (.infinite _) => False
  | _ => True

/-- `int` converts the value. -/
def Numeral : Json → Prop
  | .bool _ => True
  | .int _ => True
  | .float (.finite _) => True
  | .str s => (py.rt.intOfStr s).isSome
  | _ => False

/-- No field that the conversion comes to raises an exception of another kind. -/
def Convertible (fields : List (PyStr × Json)) : Prop :=
  ∀ lastRecordId, fields.lookup (lit "last_record_id") = some lastRecordId → Numeric lastRecordId ∧
    (Numeral py lastRecordId →
      ∀ lastRecordMac, fields.lookup (lit "last_record_mac") = some lastRecordMac → nesting lastRecordMac ≤ py.reprDepth ∧
        ∀ createdAt, fields.lookup (lit "created_at") = some createdAt → nesting createdAt ≤ py.reprDepth ∧
          ∀ version, fields.lookup (lit "version") = some version → Numeric version)

/-- The text is not nested too deep for `json.loads`; if it is JSON at all, it is a dict
    with fields that can be converted. -/
def Tolerated : StoredFile → Prop
  | .text t => py.loads (universalNewlines t) ≠ .error .runtimeError ∧
      ∀ data, py.loads (universalNewlines t) = .ok data → ∃ fields, data = .obj fields ∧ Convertible py fields
  | _ => True

end

/-- An interpreter that reads plain numerals. -/
def plainInterpreter : Interpreter := ⟨plainRuntime [] [],id,fun _ => .nan,100,100⟩

/-- One with the digests of the log of two records. -/
def sampleInterpreter : Interpreter := { plainInterpreter with rt := sampleRuntime }

example : load plainInterpreter (.text "\x7b not json".toList) = .ok none := by decide +kernel

example : load plainInterpreter (.text
    "\x7b\"last_record_id\": 3, \"last_record_mac\": \"ab\", \"created_at\": null\x7d".toList) =
      .ok (some ⟨3,lit "ab",lit "None",1⟩) := by decide +kernel

/-- The computation raises an exception that the clauses do not name. -/
def Escapes {α : Type} (m : Except PyException α) : Prop := ∃ e, m = .error e ∧ caught e = false

section
variable {α β γ : Type}

theorem escapes_ok {a : α} : ¬ Escapes (.ok a) := by
  rintro ⟨e,raised,_⟩
  cases raised

theorem escapes_error {e : PyException} : Escapes (.error e : Except PyException α) ↔ caught e = false := by
  simp [Escapes]

theorem escapes_bind {m : Except PyException α} {next : α → Except PyException β} :
    Escapes (m >>= next) ↔ Escapes m ∨ ∃ a, m = .ok a ∧ Escapes (next a) := by
  cases m with
  | ok a => simp [ok_bind,escapes_ok]
  | error e => simp [error_bind,escapes_error]

/-- A required field: it may be absent, its conversion may fail, or what comes after it. -/
theorem escapes_field {fields : List (PyStr × Json)} {key : String} {convert : Json → Except PyException β}
    {next : β → Except PyException γ} :
    Escapes (subscript (.obj fields) key >>= fun value => convert value >>= next) ↔
      ∃ value, fields.lookup (lit key) = some value ∧
        (Escapes (convert value) ∨ ∃ b, convert value = .ok b ∧ Escapes (next b)) := by
  cases found : fields.lookup (lit key) with
  | none =>
    rw [subscript,found,error_bind,escapes_error]
    simp [caught]
  | some value =>
    rw [subscript,found,ok_bind,escapes_bind]
    simp

end

section
variable {py : Interpreter} {value : Json} {fields : List (PyStr × Json)}

theorem int_escapes : Escapes (py.int value) ↔ ¬ Numeric value := by
  cases value with
  | float x =>
    cases x with
    | finite v => exact iff_of_false escapes_ok (by simp [Numeric])
    | infinite negative => exact iff_of_true ⟨_,rfl,rfl⟩ id
    | nan => exact iff_of_false (by rintro ⟨e,⟨⟩,passes⟩; cases passes) (by simp [Numeric])
  | str s =>
    refine iff_of_false ?_ (by simp [Numeric])
    rw [Interpreter.int,pyInt]
    cases py.rt.intOfStr s with
    | none => simp [escapes_error,caught]
    | some n => exact escapes_ok
  | bool b => exact iff_of_false escapes_ok (by simp [Numeric])
  | int n => exact iff_of_false escapes_ok (by simp [Numeric])
  | _ => exact iff_of_true ⟨_,rfl,rfl⟩ id

theorem int_eq_ok : (∃ n, py.int value = .ok n) ↔ Numeral py value := by
  cases value with
  | float x => cases x <;> simp [Interpreter.int,pyInt,SqlValue.pyInt,Numeral]
  | str s =>
    rw [Interpreter.int,pyInt,Numeral]
    cases py.rt.intOfStr s <;> simp
  | _ => simp [Interpreter.int,pyInt,Numeral]

/-- `str` of what a file can hold fails only by its nesting. -/
theorem str_cases (py : Interpreter) (fits : oversized value = false) :
    (nesting value ≤ py.reprDepth ∧ ∃ s, py.str value = .ok s) ∨
      (py.reprDepth < nesting value ∧ py.str value = .error .runtimeError) := by
  unfold Interpreter.str
  by_cases deep : py.reprDepth < nesting value
  · exact .inr ⟨deep,if_pos deep⟩
  · rw [if_neg deep]
    refine .inl ⟨Nat.le_of_not_lt deep,?_⟩
    cases value with
    | str s => exact ⟨s,rfl⟩
    | _ => exact repr_fits py.rt py.reprStr _ fits

theorem oversized_of_lookup (fits : oversizedFields fields = false) {key : PyStr} (found : fields.lookup key = some value) :
    oversized value = false := by
  induction fields with
  | nil => cases found
  | cons entry rest ih =>
    obtain ⟨name,held⟩ := entry
    rw [oversizedFields,Bool.or_eq_false_iff] at fits
    rw [List.lookup_cons] at found
    cases same : key == name with
    | true =>
      rw [same] at found
      cases found
      exact fits.1
    | false =>
      rw [same] at found
      exact ih fits.2 found

section
variable {α : Type} {key : String} {P : Prop}

/-- A field read by `int`: what comes after it happens only if it is a numeral. -/
theorem not_escapes_int {next : Int → Except PyException α} (later : ∀ n, ¬ Escapes (next n) ↔ P) :
    ¬ Escapes (subscript (.obj fields) key >>= fun value => py.int value >>= next) ↔
      ∀ value, fields.lookup (lit key) = some value → Numeric value ∧ (Numeral py value → P) := by
  rw [escapes_field]
  simp only [not_exists,not_and]
  refine forall₂_congr fun value _ => ?_
  rw [not_or,int_escapes,not_not,← int_eq_ok,not_exists,forall_exists_index]
  exact and_congr_right fun _ => forall_congr' fun n => by rw [not_and,later]

/-- A field written by `str`, of a dict that `json.loads` can return. -/
theorem not_escapes_str (fits : oversizedFields fields = false) {next : PyStr → Except PyException α}
    (later : ∀ s, ¬ Escapes (next s) ↔ P) :
    ¬ Escapes (subscript (.obj fields) key >>= fun value => py.str value >>= next) ↔
      ∀ value, fields.lookup (lit key) = some value → nesting value ≤ py.reprDepth ∧ P := by
  rw [escapes_field]
  simp only [not_exists,not_and]
  refine forall₂_congr fun value found => ?_
  rcases str_cases py (oversized_of_lookup fits found) with ⟨shallow,s,written⟩ | ⟨deep,raised⟩
  · rw [written,and_iff_right shallow,← later s]
    simp [escapes_ok]
  · refine iff_of_false ?_ fun both => Nat.not_le_of_lt deep both.1
    rw [raised]
    simp [escapes_error,caught]

/-- A field with a default that `int` accepts. -/
theorem not_escapes_default {n : Int} {next : Int → α} :
    ¬ Escapes (getOr (.obj fields) key (.int n) >>= fun value => py.int value >>= fun m => pure (next m)) ↔
      ∀ value, fields.lookup (lit key) = some value → Numeric value := by
  have returns : ∀ m, ¬ Escapes (pure (next m)) := fun m => escapes_ok
  rw [getOr,ok_bind,escapes_bind,int_escapes]
  simp only [returns,and_false,exists_false,or_false,not_not]
  cases fields.lookup (lit key) with
  | none => simp [Numeric]
  | some value => simp

end

/-- The fields of a dict are converted without an exception that passes. -/
theorem convertible_iff (fits : oversizedFields fields = false) :
    ¬ Escapes (parseCheckpoint py (.obj fields)) ↔ Convertible py fields :=
  not_escapes_int fun _ => not_escapes_str fits fun _ => not_escapes_str fits fun _ => not_escapes_default

/-! ### Reading the file -/

theorem load_eq_ok {file : StoredFile} : (∃ found, load py file = .ok found) ↔ ¬ Escapes (readCheckpoint py file) := by
  unfold load
  cases readCheckpoint py file with
  | ok checkpoint => exact iff_of_true ⟨_,rfl⟩ escapes_ok
  | error e =>
    rw [escapes_error]
    cases kind : caught e <;> simp [kind]

theorem tolerated_iff {file : StoredFile} : ¬ Escapes (readCheckpoint py file) ↔ Tolerated py file := by
  cases file with
  | text t =>
    have read : readCheckpoint py (.text t) = (py.loads (universalNewlines t) >>= parseCheckpoint py) := rfl
    rw [read,escapes_bind,not_or,Tolerated]
    refine and_congr ?_ ?_
    · -- Of the exceptions of `json.loads` only `RecursionError` passes.
      have only := loads_only py.floatOf py.jsonDepth (universalNewlines t)
      cases loaded : py.loads (universalNewlines t) with
      | ok data => exact iff_of_true escapes_ok (by simp)
      | error e =>
        rw [escapes_error]
        rcases only e loaded with rfl | rfl
        · exact iff_of_true (by simp [caught]) (by simp)
        · exact iff_of_false (by simp [caught]) (by simp)
    · simp only [not_exists,not_and]
      refine forall₂_congr fun data loaded => ?_
      have fits := loads_fits loaded
      cases data with
      | obj fields =>
        rw [convertible_iff fits]
        simp
      | _ => exact iff_of_false (not_not_intro ⟨.typeError,rfl,rfl⟩) (by simp)
  | _ => exact iff_of_true (by simp [readCheckpoint,readText,error_bind,escapes_error,caught]) trivial

theorem built_of_load {file : StoredFile} {checkpoint : AuditCheckpoint} (loaded : load py file = .ok (some checkpoint)) :
    BuiltFrom py file checkpoint := by
  have read : readCheckpoint py file = .ok checkpoint := by
    unfold load at loaded
    split at loaded
    · rename_i found made
      rw [made,Option.some.inj (Except.ok.inj loaded)]
    · split_ifs at loaded
      cases loaded
  obtain ⟨t,there,read⟩ := bind_eq_ok.mp read
  obtain ⟨data,parsed,read⟩ := bind_eq_ok.mp read
  obtain ⟨lastRecordId,idFound,read⟩ := bind_eq_ok.mp read
  obtain ⟨n,idRead,read⟩ := bind_eq_ok.mp read
  obtain ⟨lastRecordMac,macFound,read⟩ := bind_eq_ok.mp read
  obtain ⟨s,macRead,read⟩ := bind_eq_ok.mp read
  obtain ⟨createdAt,timeFound,read⟩ := bind_eq_ok.mp read
  obtain ⟨c,timeRead,read⟩ := bind_eq_ok.mp read
  obtain ⟨version,versionFound,read⟩ := bind_eq_ok.mp read
  obtain ⟨v,versionRead,made⟩ := bind_eq_ok.mp read
  cases made
  obtain ⟨fields,rfl,idLooked⟩ := subscript_eq_ok.mp idFound
  cases file with
  | text t =>
    cases there
    cases versionFound
    refine ⟨t,fields,lastRecordId,lastRecordMac,createdAt,rfl,parsed,idLooked,idRead,?_,macRead,?_,timeRead,versionRead⟩
    · obtain ⟨_,⟨⟩,found⟩ := subscript_eq_ok.mp macFound
      exact found
    · obtain ⟨_,⟨⟩,found⟩ := subscript_eq_ok.mp timeFound
      exact found
  | _ => cases there

/-- Without a checkpoint no verdict says that the tail is verified. -/
theorem verifyChain_none_tail {rt : Runtime} {table : AuditTable} {result : Verification}
    (verified : verifyChain rt table none = .ok result) : result.tailVerified = false := by
  unfold verifyChain at verified
  split at verified
  · cases verified
    rfl
  · rcases walkRows_spec rt .start table.rows with ⟨_,walked⟩ | ⟨front,row,rest,_,_,_,outcome⟩
    · rw [walked] at verified
      cases verified
      rfl
    · rcases outcome with ⟨_,reason,walked⟩ | ⟨_,_,e,walked⟩
      · rw [walked] at verified
        cases verified
        rfl
      · rw [walked] at verified
        cases verified

theorem verifyWithFile_none {file : StoredFile} {table : AuditTable} {result : Verification}
    (absent : load py file = .ok none) (verified : verifyChain py.rt table none = .ok result) :
    ∃ verdict, verifyWithFile py table file = .ok verdict ∧ verdict.tailVerified = false := by
  rw [verifyWithFile,absent,ok_bind]
  simp only [verifyWithStore,verified]
  split_ifs
  · exact ⟨_,rfl,rfl⟩
  · exact ⟨_,rfl,verifyChain_none_tail verified⟩

end

/-- A file gives a checkpoint of all required fields or counts as none, exactly when it is
    tolerated. -/
theorem counts_iff_tolerated (py : Interpreter) (file : StoredFile) : Counts py file ↔ Tolerated py file := by
  rw [← tolerated_iff,← load_eq_ok]
  constructor
  · rintro (⟨checkpoint,loaded,_⟩ | ⟨absent,_⟩)
    · exact ⟨_,loaded⟩
    · exact ⟨_,absent⟩
  · rintro ⟨found,loaded⟩
    cases found with
    | none => exact .inr ⟨loaded,fun table result verified => verifyWithFile_none loaded verified⟩
    | some checkpoint => exact .inl ⟨checkpoint,loaded,built_of_load loaded⟩

/-- A list, a null and an infinity in the place of the checkpoint make `load` raise. -/
theorem load_raises : load plainInterpreter (.text "[]".toList) = .error .typeError ∧
    load plainInterpreter (.text "\x7b\"last_record_id\": null\x7d".toList) = .error .typeError ∧
    load plainInterpreter (.text "\x7b\"last_record_id\": Infinity\x7d".toList) = .error .overflowError ∧
    ¬ Counts plainInterpreter (.text "[]".toList) := by
  have listed : load plainInterpreter (.text "[]".toList) = .error .typeError := by decide +kernel
  refine ⟨listed,by decide +kernel,by decide +kernel,?_⟩
  rintro (⟨checkpoint,loaded,_⟩ | ⟨absent,_⟩)
  · rw [listed] at loaded
    cases loaded
  · rw [listed] at absent
    cases absent

end PrivacyGateway.CheckpointFile
