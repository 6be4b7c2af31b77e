import PrivacyGateway.JsonText
import PrivacyGateway.Raising
import PrivacyGateway.SqlValues

/-!
What Python does with a parsed JSON value that nobody has checked: `value[key]`,
`value.get(key)`, `value or default`, `str(value)` and `int(value)`, each with the
exceptions it raises on a value of another type. `keepFields` cuts a dict down to some
of its fields; reading one of these does not see the difference.
-/
namespace PrivacyGateway.JsonAccess
open PrivacyGateway.Strings PrivacyGateway.Errors PrivacyGateway.StdLib PrivacyGateway.SqlValues
open PrivacyGateway.Separated PrivacyGateway.JsonText PrivacyGateway.Raising

/-- `bool(value)` -/
def truthy : Json → Bool
  | .null => false
  | .bool b => b
  | .int n => n ≠ 0
  | .float x => x ≠ .finite 0
  | .str s => s ≠ []
  | .arr items => !items.isEmpty
  | .obj fields => !fields.isEmpty

/-- `value or default` -/
def orElse (value default : Json) : Json := if truthy value then value else default

/-- `fields.get(key)` of a dict -/
def entry (fields : List (PyStr × Json)) (key : String) : Json := (fields.lookup (lit key)).getD .null

/-- `value[key]` -/
def subscript : Json → String → Except PyException Json
  | .obj fields, key =>
    match fields.lookup (lit key) with
    | some value => .ok value
    | none => .error .keyError
  | _, _ => .error .typeError

/-- `value.get(key)` -/
def get : Json → String → Except PyException Json
  | .obj fields, key => .ok (entry fields key)
  | _, _ => .error .attributeError

/-- `list(value)`: the items, the characters or the keys. -/
def iterate : Json → Except PyException (List Json)
  | .arr items => .ok items
  | .str s => .ok (s.map fun c => .str [c])
  | .obj fields => .ok (fields.map fun entry => .str entry.1)
  | _ => .error .typeError

/-- `"".join(values)` -/
def join : List Json → Except PyException PyStr
  | [] => .ok []
  | .str s :: rest => (join rest).map (s ++ ·)
  | _ => .error .typeError

/-- `sys.get_int_max_str_digits()` -/
def maxStrDigits : Nat := 4300

section
variable (rt : Runtime) (reprStr : PyStr → PyStr)

mutual
/-- `repr(value)`; `reprStr` is that of a string. -/
def repr : Json → Except PyException PyStr
  | .null => .ok (lit "None")
  | .bool b => .ok (lit (if b then "True" else "False"))
  | .int n => if maxStrDigits < (decimal n.natAbs).length then .error .valueError else .ok (Strings.str (decimalInt n))
  | .float x => .ok (Strings.str (rt.floatRepr x))
  | .str s => .ok (reprStr s)
  | .arr items => do
    let parts ← reprItems items
    return lit "[" ++ (parts.intersperse (lit ", ")).flatten ++ lit "]"
  | .obj fields => do
    let parts ← reprFields fields
    return lit "\x7b" ++ (parts.intersperse (lit ", ")).flatten ++ lit "\x7d"
def reprItems : List Json → Except PyException (List PyStr)
  | [] => .ok []
  | item :: rest => do
    let first ← repr item
    let others ← reprItems rest
    return first :: others
def reprFields : List (PyStr × Json) → Except PyException (List PyStr)
  | [] => .ok []
  | (key,value) :: rest => do
    let first ← repr value
    let others ← reprFields rest
    return (reprStr key ++ lit ": " ++ first) :: others
end

/-- `str(value)` -/
def pyStr : Json → Except PyException PyStr
  | .str s => .ok s
  | value => repr rt reprStr value

end

/-- `int(value)` -/
def pyInt (rt : Runtime) : Json → Except PyException Int
  | .bool b => .ok (if b then 1 else 0)
  | .int n => .ok n
  | .float x => (SqlValue.real x).pyInt rt
  | .str s =>
    match rt.intOfStr s with
    | some n => .ok n
    | none => .error .valueError
  | _ => .error .typeError

/-- The exceptions of looking up and converting, an overflow aside. -/
def Malformed (e : PyException) : Prop := e = .keyError ∨ e = .typeError ∨ e = .attributeError ∨ e = .valueError

theorem Malformed.ne_overflow {e : PyException} (malformed : Malformed e) : e ≠ .overflowError := by
  rcases malformed with rfl | rfl | rfl | rfl <;> simp

theorem no_overflow {α : Type} {m : Except PyException α} (only : Only Malformed m) : Only (· ≠ .overflowError) m :=
  only.mono fun _ => Malformed.ne_overflow

theorem or_overflow {α : Type} {m : Except PyException α} (only : Only Malformed m) :
    Only (fun e => Malformed e ∨ e = .overflowError) m := only.mono fun _ => .inl

theorem subscript_eq_ok {value found : Json} {key : String} :
    subscript value key = .ok found ↔ ∃ fields, value = .obj fields ∧ fields.lookup (lit key) = some found := by
  cases value with
  | obj fields =>
    rw [subscript]
    cases looked : fields.lookup (lit key) <;> simp [looked]
  | _ => simp [subscript]

theorem subscript_only (value : Json) (key : String) : Only Malformed (subscript value key) := by
  cases value with
  | obj fields =>
    rw [subscript]
    cases fields.lookup (lit key) with
    | none => exact only_error (.inl rfl)
    | some found => exact only_ok
  | _ => exact only_error (.inr (.inl rfl))

theorem get_obj (fields : List (PyStr × Json)) (key : String) : get (.obj fields) key = .ok (entry fields key) := rfl

theorem get_eq_ok {value found : Json} {key : String} :
    get value key = .ok found ↔ ∃ fields, value = .obj fields ∧ found = entry fields key := by
  cases value with
  | obj fields => simp [get,eq_comm]
  | _ => simp [get]

theorem get_only (value : Json) (key : String) : Only Malformed (get value key) := by
  cases value with
  | obj fields => exact only_ok
  | _ => exact only_error (.inr (.inr (.inl rfl)))

section
variable (rt : Runtime) (reprStr : PyStr → PyStr)

mutual
theorem repr_only : ∀ value : Json, Only Malformed (repr rt reprStr value)
  | .null => by rw [repr]; exact only_ok
  | .bool b => by rw [repr]; exact only_ok
  | .int n => by
    rw [repr]
    split
    · exact only_error (.inr (.inr (.inr rfl)))
    · exact only_ok
  | .float x => by rw [repr]; exact only_ok
  | .str s => by rw [repr]; exact only_ok
  | .arr items => by
    rw [repr]
    exact (reprItems_only items).bind fun _ _ => only_ok
  | .obj fields => by
    rw [repr]
    exact (reprFields_only fields).bind fun _ _ => only_ok
theorem reprItems_only : ∀ items : List Json, Only Malformed (reprItems rt reprStr items)
  | [] => by rw [reprItems]; exact only_ok
  | item :: rest => by
    rw [reprItems]
    exact (repr_only item).bind fun _ _ => (reprItems_only rest).bind fun _ _ => only_ok
theorem reprFields_only : ∀ fields : List (PyStr × Json), Only Malformed (reprFields rt reprStr fields)
  | [] => by rw [reprFields]; exact only_ok
  | (key,value) :: rest => by
    rw [reprFields]
    exact (repr_only value).bind fun _ _ => (reprFields_only rest).bind fun _ _ => only_ok
end

theorem pyStr_only (value : Json) : Only Malformed (pyStr rt reprStr value) := by
  cases value with
  | str s => exact only_ok
  | _ => exact repr_only rt reprStr _

end

/-- Only an infinite float overflows. -/
theorem pyInt_eq_overflow (rt : Runtime) (value : Json) :
    pyInt rt value = .error .overflowError ↔ ∃ negative, value = .float (.infinite negative) := by
  cases value with
  | float x => cases x <;> simp [pyInt,SqlValue.pyInt]
  | str s =>
    rw [pyInt]
    cases rt.intOfStr s <;> simp
  | _ => simp [pyInt]

theorem pyInt_only (rt : Runtime) (value : Json) : Only (fun e => Malformed e ∨ e = .overflowError) (pyInt rt value) := by
  have mismatch : Malformed .typeError := .inr (.inl rfl)
  have numeral : Malformed .valueError := .inr (.inr (.inr rfl))
  cases value with
  | bool b => exact only_ok
  | int n => exact only_ok
  | float x =>
    cases x with
    | finite v => exact only_ok
    | infinite negative => exact only_error (.inr rfl)
    | nan => exact only_error (.inl numeral)
  | str s =>
    rw [pyInt]
    cases rt.intOfStr s with
    | none => exact only_error (.inl numeral)
    | some n => exact only_ok
  | _ => exact only_error (.inl mismatch)

theorem pyInt_orElse_eq_overflow (rt : Runtime) (value : Json) (n : Int) :
    pyInt rt (orElse value (.int n)) = .error .overflowError ↔ ∃ negative, value = .float (.infinite negative) := by
  unfold orElse
  split
  · exact pyInt_eq_overflow rt value
  · rename_i falsy
    refine iff_of_false (by simp [pyInt]) ?_
    rintro ⟨negative,rfl⟩
    exact falsy (by simp [truthy])

theorem iterate_only (value : Json) : Only Malformed (iterate value) := by
  cases value with
  | arr items => exact only_ok
  | str s => exact only_ok
  | obj fields => exact only_ok
  | _ => exact only_error (.inr (.inl rfl))

theorem join_only (values : List Json) : Only Malformed (join values) := by
  induction values with
  | nil => exact only_ok
  | cons value rest ih =>
    cases value with
    | str s => exact ih.bind fun _ _ => only_ok
    | _ => exact only_error (.inr (.inl rfl))

/-- Strings are what can be joined. -/
theorem join_eq_ok {values : List Json} : (∃ s, join values = .ok s) ↔ ∀ value ∈ values, ∃ s, value = .str s := by
  induction values with
  | nil => exact iff_of_true ⟨_,rfl⟩ (by simp)
  | cons value rest ih =>
    rw [List.forall_mem_cons,← ih]
    cases value with
    | str s =>
      simp only [join,Json.str.injEq,exists_eq',true_and]
      cases join rest <;> simp [Except.map]
    | _ => simp [join]

/-- A dict with the listed fields only, their values changed as listed; any other value as it is. -/
def keepFields (kept : List (PyStr × (Json → Json))) : Json → Json
  | .obj fields => .obj (fields.filterMap fun entry => (kept.lookup entry.1).map fun change => (entry.1,change entry.2))
  | value => value

/-- Each item of a list changed; any other value as it is. -/
def keepItems (change : Json → Json) : Json → Json
  | .arr items => .arr (items.map change)
  | value => value

theorem lookup_kept (kept : List (PyStr × (Json → Json))) (fields : List (PyStr × Json)) {key : PyStr}
    {change : Json → Json} (listed : kept.lookup key = some change) :
    (fields.filterMap fun entry => (kept.lookup entry.1).map fun change => (entry.1,change entry.2)).lookup key =
      (fields.lookup key).map change := by
  induction fields with
  | nil => rfl
  | cons entry rest ih =>
    obtain ⟨name,value⟩ := entry
    by_cases same : key = name
    · subst same
      simp [listed]
    · have differs : (key == name) = false := by simpa using same
      rw [List.lookup_cons,differs,← ih,List.filterMap_cons]
      cases kept.lookup name with
      | none => rfl
      | some other => simp [List.lookup_cons,differs]

theorem entry_kept (kept : List (PyStr × (Json → Json))) (fields : List (PyStr × Json)) {key : String}
    {change : Json → Json} (listed : kept.lookup (lit key) = some change) (absent : change .null = .null) :
    entry (fields.filterMap fun entry => (kept.lookup entry.1).map fun change => (entry.1,change entry.2)) key =
      change (entry fields key) := by
  rw [entry,lookup_kept kept fields listed,entry]
  cases fields.lookup (lit key) with
  | none => exact absent.symm
  | some value => rfl

theorem subscript_keepFields (kept : List (PyStr × (Json → Json))) (value : Json) {key : String} {change : Json → Json}
    (listed : kept.lookup (lit key) = some change) :
    subscript (keepFields kept value) key = (subscript value key).map change := by
  cases value with
  | obj fields =>
    rw [keepFields,subscript,subscript,lookup_kept kept fields listed]
    cases fields.lookup (lit key) <;> rfl
  | _ => rfl

theorem get_keepFields (kept : List (PyStr × (Json → Json))) (value : Json) {key : String} {change : Json → Json}
    (listed : kept.lookup (lit key) = some change) (absent : change .null = .null) :
    get (keepFields kept value) key = (get value key).map change := by
  cases value with
  | obj fields =>
    rw [keepFields,get,get,entry_kept kept fields listed absent]
    rfl
  | _ => rfl

theorem get_kept (kept : List (PyStr × (Json → Json))) (value : Json) {key : String}
    (listed : kept.lookup (lit key) = some id) : get (keepFields kept value) key = get value key := by
  rw [get_keepFields kept value listed rfl,Except.map_id]
  rfl

theorem subscript_kept (kept : List (PyStr × (Json → Json))) (value : Json) {key : String}
    (listed : kept.lookup (lit key) = some id) : subscript (keepFields kept value) key = subscript value key := by
  rw [subscript_keepFields kept value listed,Except.map_id]
  rfl

/-- `value or \x7b\x7d` of a dict that is cut down. -/
theorem get_orElse_keepFields (kept : List (PyStr × (Json → Json))) (value : Json) {key : String}
    (listed : kept.lookup (lit key) = some id) :
    get (orElse (keepFields kept value) (.obj [])) key = get (orElse value (.obj [])) key := by
  -- An empty dict and the default answer alike.
  have plain : ∀ fields, get (orElse (.obj fields) (.obj [])) key = get (.obj fields) key := by
    intro fields
    cases fields <;> rfl
  cases value with
  | obj fields =>
    have kept := get_keepFields kept (.obj fields) listed rfl
    rw [Except.map_id] at kept
    rw [plain]
    exact (plain _).trans kept
  | _ => rfl

end PrivacyGateway.JsonAccess
