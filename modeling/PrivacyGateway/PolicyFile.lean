import PrivacyGateway.CheckpointSaves
import PrivacyGateway.Decisions

/-!
The policy file. `load_policy` reads a JSON object from entity types to the names of
actions: it returns a policy just when the file holds the dict of that policy
(`loadPolicy_eq_ok`), and any other file raises (`loadPolicy_raises`).
-/
namespace PrivacyGateway.PolicyFile
open PrivacyGateway.Strings PrivacyGateway.Errors PrivacyGateway.StdLib PrivacyGateway.Raising PrivacyGateway.JsonText
open PrivacyGateway.JsonAccess PrivacyGateway.JsonLoads PrivacyGateway.JsonDump PrivacyGateway.JsonRoundTrip
open PrivacyGateway.Decisions PrivacyGateway.CheckpointFile PrivacyGateway.CheckpointSaves

/-- The members of `PolicyAction`. -/
def members : List PolicyAction := [.allow,.tokenize,.redact,.block]

/-- The member with the value. -/
def memberOf : Json → Option PolicyAction
  | .str s => members.find? fun action => action.value = s
  | _ => none

section
variable (py : Interpreter)

/-- `"%r" % value` -/
def formatted (value : Json) : Except PyException PyStr :=
  if py.reprDepth < nesting value then .error .runtimeError else JsonAccess.repr py.rt py.reprStr value

/-- `PolicyAction(value)`: the message of its `ValueError` shows the value. -/
def policyAction (value : Json) : Except PyException PolicyAction :=
  match memberOf value with
  | some action => .ok action
  | none => (formatted py value).bind fun _ => .error .valueError

/-- `{entity: PolicyAction(action) for entity, action in raw.items()}` -/
def parsePolicy : Json → Except PyException Policy
  | .obj items => do
    let entries ← items.mapM fun item => (policyAction py item.2).map fun action => (⟨item.1,action⟩ : Σ _ : PyStr, PolicyAction)
    return entries.toAList
  | _ => .error .attributeError

/-- `ConfigurationError(message)` -/
def configurationError (message : PyStr) : GatewayError := ⟨.configInvalid,500,message,none⟩

def unloadablePolicy : GatewayError :=
  configurationError (lit "The privacy policy file could not be loaded or contains an unknown action.")

/-- `except (OSError, ValueError)` -/
def unloadable : PyException → Bool
  | .osError => true
  | .valueError => true
  | .unicodeEncodeError => true
  | _ => false

/-- `load_policy(path)` with what is found under the path. -/
def loadPolicy : Option StoredFile → Except PyException Policy
  | none => .ok defaultPolicy
  | some file => converting unloadable (.gateway unloadablePolicy) do
    let t ← readText file
    let raw ← py.loads t
    parsePolicy py raw

/-- The file is JSON of the value. -/
def Holds (file : StoredFile) (raw : Json) : Prop := ∃ t, file = .text t ∧ py.loads (universalNewlines t) = .ok raw

/-- The JSON is nested too deep to be read, or to be shown in the message about a value. -/
def TooDeep (file : StoredFile) : Prop :=
  ∃ t, file = .text t ∧ (py.loads (universalNewlines t) = .error .runtimeError ∨
    ∃ items, py.loads (universalNewlines t) = .ok (.obj items) ∧ ∃ item ∈ items, py.reprDepth < nesting item.2)

/-- Exceptions of a file that the clause does not name: the JSON is no object, or nested too deep. -/
def Uncaught (file : StoredFile) (e : PyException) : Prop :=
  (e = .attributeError ∧ ∃ raw, Holds py file raw ∧ ∀ items, raw ≠ .obj items) ∨ (e = .runtimeError ∧ TooDeep py file)

/-- The items of a policy as JSON has them. -/
def policyItems (policy : Policy) : List (PyStr × Json) := policy.entries.map fun entry => (entry.1,.str entry.2.value)

end

theorem memberOf_eq_some {value : Json} {action : PolicyAction} : memberOf value = some action ↔ value = .str action.value := by
  constructor
  · intro found
    cases value with
    | str s =>
      have same := List.find?_some found
      rw [of_decide_eq_true same]
    | _ => cases found
  · rintro rfl
    cases action <;> rfl

section
variable {py : Interpreter} {items : List (PyStr × Json)} {policy : Policy}

theorem policyAction_eq_ok {value : Json} {action : PolicyAction} :
    policyAction py value = .ok action ↔ value = .str action.value := by
  rw [← memberOf_eq_some,policyAction]
  cases memberOf value with
  | some member => simp
  | none => cases formatted py value <;> simp [Except.bind]

theorem toAList_entries {entries : List (Σ _ : PyStr, PolicyAction)} (distinct : entries.NodupKeys) :
    entries.toAList.entries = entries := by
  rw [AList.entries_toAList]
  induction entries with
  | nil => rfl
  | cons entry rest ih =>
    obtain ⟨new,later⟩ := List.nodupKeys_cons.mp distinct
    rw [List.dedupKeys_cons,ih later,List.kinsert_def,List.kerase_of_notMem_keys new]

/-- The conversions of the comprehension return just the entries that have the items. -/
theorem entries_read {entries : List (Σ _ : PyStr, PolicyAction)} :
    (items.mapM fun item => (policyAction py item.2).map fun action => (⟨item.1,action⟩ : Σ _ : PyStr, PolicyAction)) = .ok entries ↔
      items = entries.map fun entry => (entry.1,.str entry.2.value) := by
  have each : ∀ (item : PyStr × Json) (entry : Σ _ : PyStr, PolicyAction),
      (policyAction py item.2).map (fun action => (⟨item.1,action⟩ : Σ _ : PyStr, PolicyAction)) = .ok entry ↔
        item = (entry.1,.str entry.2.value) := by
    rintro ⟨name,value⟩ ⟨entity,action⟩
    rw [map_eq_ok]
    constructor
    · rintro ⟨chosen,named,same⟩
      cases same
      exact congrArg (Prod.mk name) (policyAction_eq_ok.mp named)
    · intro same
      cases same
      exact ⟨action,policyAction_eq_ok.mpr rfl,rfl⟩
  simp only [mapM_eq_ok_iff,each,← List.forall₂_map_right_iff,List.forall₂_eq_eq_eq]

/-- A dict with distinct keys is read as the policy that has its items. -/
theorem parsePolicy_eq_ok (distinct : (items.map Prod.fst).Nodup) :
    parsePolicy py (.obj items) = .ok policy ↔ items = policyItems policy := by
  rw [parsePolicy,bind_eq_ok]
  constructor
  · rintro ⟨entries,read,same⟩
    cases same
    have listed := entries_read.mp read
    have keys : entries.NodupKeys := by
      rw [listed,List.map_map] at distinct
      exact distinct
    rw [policyItems,toAList_entries keys,listed]
  · intro same
    refine ⟨policy.entries,entries_read.mpr same,congrArg Except.ok ?_⟩
    exact AList.ext (toAList_entries policy.nodupKeys)

/-- The keys of a dict that is filled item by item are distinct. -/
theorem setItem_keys {fields : List (PyStr × Json)} (distinct : (fields.map Prod.fst).Nodup) (entry : PyStr × Json) :
    ((setItem fields entry).map Prod.fst).Nodup ∧ ∀ key, key ∈ (setItem fields entry).map Prod.fst ↔
      key ∈ fields.map Prod.fst ∨ key = entry.1 := by
  induction fields with
  | nil => simp [setItem]
  | cons field rest ih =>
    obtain ⟨new,later⟩ := List.nodup_cons.mp distinct
    obtain ⟨kept,same⟩ := ih later
    rw [setItem]
    by_cases replaced : field.1 = entry.1
    · rw [if_pos replaced,List.map_cons,← replaced]
      exact ⟨distinct,by simp⟩
    · rw [if_neg replaced,List.map_cons,List.nodup_cons,same]
      refine ⟨⟨fun inside => inside.elim new replaced,kept⟩,fun key => ?_⟩
      rw [List.mem_cons,same,List.map_cons,List.mem_cons,or_assoc]

theorem foldl_setItem_keys (entries : List (PyStr × Json)) {before : List (PyStr × Json)}
    (distinct : (before.map Prod.fst).Nodup) : ((entries.foldl setItem before).map Prod.fst).Nodup := by
  induction entries generalizing before with
  | nil => exact distinct
  | cons entry rest ih => exact ih (setItem_keys distinct entry).1

/-- A dict that `json.loads` returns has distinct keys. -/
theorem loads_distinct {floatOf : Text → PyFloat} {depth : Nat} {t : Text}
    (loaded : loads floatOf depth t = .ok (.obj items)) : (items.map Prod.fst).Nodup := by
  have scanned : ∀ {inner : Option (Text → Except PyException (Json × Text))} {t rest : Text},
      scanValue floatOf inner t = .ok (.obj items,rest) → (items.map Prod.fst).Nodup := by
    intro inner t rest scanned
    unfold scanValue at scanned
    split at scanned
    · obtain ⟨_,_,same⟩ := map_eq_ok.mp scanned
      cases same
    · split at scanned
      · cases scanned
      · obtain ⟨_,_,same⟩ := map_eq_ok.mp scanned
        cases same
    · split at scanned
      · cases scanned
      · obtain ⟨⟨entries,behind⟩,_,same⟩ := map_eq_ok.mp scanned
        cases same
        exact foldl_setItem_keys entries List.nodup_nil
    · split at scanned
      · rename_i found
        cases scanned
        obtain ⟨constant,chosen,same⟩ := Option.map_eq_some_iff.mp found
        have listed := List.mem_of_find?_eq_some chosen
        simp only [constants,List.mem_cons,List.not_mem_nil,or_false] at listed
        rcases listed with rfl | rfl | rfl | rfl | rfl | rfl <;> cases same
      · unfold matchNumber at scanned
        dsimp only at scanned
        split at scanned
        · cases scanned
        · split_ifs at scanned
          · obtain ⟨_,_,same⟩ := map_eq_ok.mp scanned
            cases same
          · cases scanned
          · cases scanned
  unfold loads at loaded
  split_ifs at loaded
  obtain ⟨⟨found,rest⟩,made,loaded⟩ := bind_eq_ok.mp loaded
  dsimp only at loaded
  split_ifs at loaded
  cases loaded
  cases depth with
  | zero => exact scanned made
  | succ depth => exact scanned made

/-- The file loads as a policy just when it holds the dict of that policy. -/
theorem loadPolicy_eq_ok {file : StoredFile} :
    loadPolicy py (some file) = .ok policy ↔ Holds py file (.obj (policyItems policy)) := by
  rw [loadPolicy,converting_eq_ok]
  constructor
  · intro loaded
    obtain ⟨t,text,loaded⟩ := bind_eq_ok.mp loaded
    obtain ⟨raw,read,parsed⟩ := bind_eq_ok.mp loaded
    cases file with
    | text content =>
      cases text
      cases raw with
      | obj items =>
        rw [(parsePolicy_eq_ok (loads_distinct read)).mp parsed] at read
        exact ⟨content,rfl,read⟩
      | _ => cases parsed
    | _ => cases text
  · rintro ⟨content,rfl,read⟩
    exact bind_eq_ok.mpr ⟨_,rfl,bind_eq_ok.mpr ⟨_,read,(parsePolicy_eq_ok (loads_distinct read)).mpr rfl⟩⟩

theorem oversized_of_mem (fits : oversizedFields items = false) : ∀ item ∈ items, oversized item.2 = false := by
  induction items with
  | nil => exact fun item member => absurd member List.not_mem_nil
  | cons item rest ih =>
    obtain ⟨name,value⟩ := item
    rw [oversizedFields,Bool.or_eq_false_iff] at fits
    exact List.forall_mem_cons.mpr ⟨fits.1,ih fits.2⟩

/-- A value that names no action raises `ValueError`, unless its `repr` goes too deep. -/
theorem policyAction_raises {value : Json} (fits : oversized value = false) {e : PyException}
    (raised : policyAction py value = .error e) : e = .valueError ∨ e = .runtimeError ∧ py.reprDepth < nesting value := by
  unfold policyAction at raised
  split at raised
  · cases raised
  · unfold formatted at raised
    split_ifs at raised with deep
    · cases raised
      exact .inr ⟨rfl,deep⟩
    · obtain ⟨s,written⟩ := repr_fits py.rt py.reprStr value fits
      rw [written] at raised
      cases raised
      exact .inl rfl

/-- What the comprehension raises: `AttributeError` where there is no dict, else what a value does. -/
theorem parsePolicy_raises {raw : Json} (fits : oversized raw = false) {e : PyException}
    (raised : parsePolicy py raw = .error e) :
    (e = .attributeError ∧ ∀ items, raw ≠ .obj items) ∨ e = .valueError ∨
      (e = .runtimeError ∧ ∃ items, raw = .obj items ∧ ∃ item ∈ items, py.reprDepth < nesting item.2) := by
  cases raw with
  | obj items =>
    rcases bind_eq_error.mp raised with converted | ⟨_,_,returned⟩
    · obtain ⟨item,member,failed⟩ := mapM_eq_error converted
      rcases policyAction_raises (oversized_of_mem fits item member) (map_eq_error.mp failed) with value | ⟨same,deep⟩
      · exact .inr (.inl value)
      · exact .inr (.inr ⟨same,items,rfl,item,member,deep⟩)
    · cases returned
  | _ =>
    cases raised
    refine .inl ⟨rfl,?_⟩
    intro items same
    cases same

/-- A file that is no policy raises the configuration error, or one that is not caught. -/
theorem loadPolicy_raises {file : StoredFile} {e : PyException} (raised : loadPolicy py (some file) = .error e) :
    e = .gateway unloadablePolicy ∨ Uncaught py file e := by
  rw [loadPolicy] at raised
  cases body : (do let t ← readText file; let raw ← py.loads t; parsePolicy py raw : Except PyException Policy) with
  | ok policy =>
    rw [body] at raised
    cases raised
  | error x =>
    rw [body,converting] at raised
    split_ifs at raised with kind
    · cases raised
      exact .inl rfl
    · cases raised
      right
      rcases bind_eq_error.mp body with unread | ⟨t,text,later⟩
      · cases file with
        | text content => cases unread
        | _ =>
          cases unread
          exact absurd rfl kind
      · cases file with
        | text content =>
          cases text
          rcases bind_eq_error.mp later with refused | ⟨raw,read,parsed⟩
          · rcases loads_only py.floatOf py.jsonDepth _ e refused with rfl | rfl
            · exact absurd rfl kind
            · exact .inr ⟨rfl,content,rfl,.inl refused⟩
          · rcases parsePolicy_raises (loads_fits read) parsed with ⟨rfl,other⟩ | rfl | ⟨rfl,items,rfl,deep⟩
            · exact .inl ⟨rfl,raw,⟨content,rfl,read⟩,other⟩
            · exact absurd rfl kind
            · exact .inr ⟨rfl,content,rfl,.inr ⟨items,read,deep⟩⟩
        | _ => cases text

end

end PrivacyGateway.PolicyFile
