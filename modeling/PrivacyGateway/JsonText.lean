import PrivacyGateway.Separated
import PrivacyGateway.StdLib

/-!
JSON values and `json.dumps` with `ensure_ascii=False` and the separators `,` and
`:`, the one encoding the gateway uses for audit payloads, hashes and responses.
The encoding leaves a lone surrogate as it is, so encoding it as UTF-8 fails
exactly when a string of the value holds one (`encodable_dumps`).
-/
namespace PrivacyGateway.JsonText
open PrivacyGateway.Strings PrivacyGateway.Separated PrivacyGateway.StdLib

/-- A JSON-serializable Python value. -/
inductive Json where
  | null
  | bool (b : Bool)
  | int (n : Int)
  | float (x : PyFloat)
  | str (s : PyStr)
  | arr (items : List Json)
  | obj (fields : List (PyStr × Json))

/-- A field of a dict with a key of the source. -/
def field (key : String) (value : Json) : PyStr × Json := (lit key,value)

/-- Four hexadecimal digits. -/
def hex4 (n : Nat) : Text := [n / 4096 % 16,n / 256 % 16,n / 16 % 16,n % 16].map Nat.digitChar

/-- `ESCAPE_DCT` of the encoder: quote, backslash and the control characters. -/
def escapeChar : PyChar → PyStr
  | .surrogate low => [.surrogate low]
  | .scalar c =>
    if c = '"' then lit "\\\""
    else if c = '\\' then lit "\\\\"
    else if c = '\n' then lit "\\n"
    else if c = '\r' then lit "\\r"
    else if c = '\t' then lit "\\t"
    else if c.toNat = 8 then lit "\\b"
    else if c.toNat = 12 then lit "\\f"
    else if c.toNat < 32 then lit "\\u" ++ Strings.str (hex4 c.toNat)
    else [.scalar c]

/-- A JSON string literal. -/
def quoted (s : PyStr) : PyStr := lit "\"" ++ s.flatMap escapeChar ++ lit "\""

/-- `float.__repr__` with the encoder's names for what is no number. -/
def floatText (rt : Runtime) : PyFloat → Text
  | .finite value => rt.floatRepr (.finite value)
  | .infinite false => "Infinity".toList
  | .infinite true => "-Infinity".toList
  | .nan => "NaN".toList

/-- Entries in the order of their keys. -/
def keyOrder (a b : PyStr × PyStr) : Prop := a.1 ≤ b.1

instance : DecidableRel keyOrder := fun a b => inferInstanceAs (Decidable (a.1 ≤ b.1))

mutual
/-- `json.dumps(value, sort_keys=sortKeys, separators=(",", ":"), ensure_ascii=False)` -/
def dumps (rt : Runtime) (sortKeys : Bool) : Json → PyStr
  | .null => lit "null"
  | .bool true => lit "true"
  | .bool false => lit "false"
  | .int n => Strings.str (decimalInt n)
  | .float x => Strings.str (floatText rt x)
  | .str s => quoted s
  | .arr items => lit "[" ++ joined (.scalar ',') (dumpsItems rt sortKeys items) ++ lit "]"
  | .obj fields =>
    let entries := dumpsFields rt sortKeys fields
    let ordered := if sortKeys then entries.insertionSort keyOrder else entries
    lit "\x7b" ++ joined (.scalar ',') (ordered.map (fun entry => quoted entry.1 ++ lit ":" ++ entry.2)) ++ lit "\x7d"
def dumpsItems (rt : Runtime) (sortKeys : Bool) : List Json → List PyStr
  | [] => []
  | item :: rest => dumps rt sortKeys item :: dumpsItems rt sortKeys rest
def dumpsFields (rt : Runtime) (sortKeys : Bool) : List (PyStr × Json) → List (PyStr × PyStr)
  | [] => []
  | (key,value) :: rest => (key,dumps rt sortKeys value) :: dumpsFields rt sortKeys rest
end

/-- `canonical_json(payload)` -/
def canonicalJson (rt : Runtime) (payload : Json) : PyStr := dumps rt true payload

mutual
/-- The keys and strings of a value. -/
def strings : Json → List PyStr
  | .str s => [s]
  | .arr items => stringsItems items
  | .obj fields => stringsFields fields
  | _ => []
def stringsItems : List Json → List PyStr
  | [] => []
  | item :: rest => strings item ++ stringsItems rest
def stringsFields : List (PyStr × Json) → List PyStr
  | [] => []
  | (key,value) :: rest => key :: strings value ++ stringsFields rest
end

theorem encodable_flatMap {s : PyStr} {f : PyChar → PyStr}
    (each : ∀ c, Utf8Encodable (f c) ↔ Utf8Encodable [c]) : Utf8Encodable (s.flatMap f) ↔ Utf8Encodable s := by
  induction s with
  | nil => exact Iff.rfl
  | cons c rest ih =>
    rw [List.flatMap_cons,encodable_append,ih,each,← encodable_append]
    rfl

theorem encodable_escapeChar (c : PyChar) : Utf8Encodable (escapeChar c) ↔ Utf8Encodable [c] := by
  cases c with
  | surrogate low => exact Iff.rfl
  | scalar c =>
    have plain : Utf8Encodable [.scalar c] := encodable_str [c]
    refine iff_of_true ?_ plain
    simp only [escapeChar]
    split_ifs
    all_goals simp [encodable_append,plain]

theorem encodable_quoted (s : PyStr) : Utf8Encodable (quoted s) ↔ Utf8Encodable s := by
  simp [quoted,encodable_append,encodable_flatMap encodable_escapeChar]

theorem encodable_joined {c : Char} {parts : List PyStr} :
    Utf8Encodable (joined (.scalar c) parts) ↔ ∀ part ∈ parts, Utf8Encodable part := by
  induction parts with
  | nil => simp [joined,Utf8Encodable,encodeUtf8]
  | cons part rest ih =>
    cases rest with
    | nil => simp [joined]
    | cons next rest =>
      have separator : ∀ s, Utf8Encodable (.scalar c :: s) ↔ Utf8Encodable s := by simp [Utf8Encodable,encodeUtf8]
      rw [joined,encodable_append,separator,ih]
      simp

mutual
/-- The encoding of a value is encodable exactly when all its strings are. -/
theorem encodable_dumps (rt : Runtime) (sortKeys : Bool) : ∀ value : Json,
    Utf8Encodable (dumps rt sortKeys value) ↔ ∀ s ∈ strings value, Utf8Encodable s
  | .null => by simp [dumps,strings]
  | .bool true => by simp [dumps,strings]
  | .bool false => by simp [dumps,strings]
  | .int n => by simp [dumps,strings]
  | .float x => by simp [dumps,strings]
  | .str s => by simp [dumps,strings,encodable_quoted]
  | .arr items => by
    simp [dumps,strings,encodable_append,encodable_joined,encodable_dumpsItems rt sortKeys items]
  | .obj fields => by
    rw [strings,← encodable_dumpsFields rt sortKeys fields]
    have sorted : ∀ entry, entry ∈ (if sortKeys then (dumpsFields rt sortKeys fields).insertionSort keyOrder
        else dumpsFields rt sortKeys fields) ↔ entry ∈ dumpsFields rt sortKeys fields := by
      intro entry
      cases sortKeys with
      | false => exact Iff.rfl
      | true => exact List.mem_insertionSort keyOrder
    rw [dumps,encodable_append,encodable_append,encodable_joined]
    simp only [encodable_lit,true_and,and_true,List.mem_map,sorted]
    constructor
    · intro all key text member
      have part := all _ ⟨(key,text),member,rfl⟩
      simpa [encodable_append,encodable_quoted] using part
    · rintro all _ ⟨⟨key,text⟩,member,rfl⟩
      simpa [encodable_append,encodable_quoted] using all key text member
theorem encodable_dumpsItems (rt : Runtime) (sortKeys : Bool) : ∀ items : List Json,
    (∀ part ∈ dumpsItems rt sortKeys items, Utf8Encodable part) ↔ ∀ s ∈ stringsItems items, Utf8Encodable s
  | [] => by simp [dumpsItems,stringsItems]
  | item :: rest => by
    simp [dumpsItems,stringsItems,or_imp,forall_and,encodable_dumps rt sortKeys item,
      encodable_dumpsItems rt sortKeys rest]
theorem encodable_dumpsFields (rt : Runtime) (sortKeys : Bool) : ∀ fields : List (PyStr × Json),
    (∀ key text, (key,text) ∈ dumpsFields rt sortKeys fields → Utf8Encodable key ∧ Utf8Encodable text) ↔
      ∀ s ∈ stringsFields fields, Utf8Encodable s
  | [] => by simp [dumpsFields,stringsFields]
  | (key,value) :: rest => by
    simp only [dumpsFields,stringsFields,List.mem_cons,Prod.mk.injEq,List.cons_append,List.mem_append]
    have head := encodable_dumps rt sortKeys value
    have tail := encodable_dumpsFields rt sortKeys rest
    constructor
    · rintro all s (rfl | inValue | inRest)
      · exact (all s _ (.inl ⟨rfl,rfl⟩)).1
      · exact head.mp (all key _ (.inl ⟨rfl,rfl⟩)).2 s inValue
      · exact tail.mp (fun k t member => all k t (.inr member)) s inRest
    · rintro all k t (⟨rfl,rfl⟩ | member)
      · exact ⟨all k (.inl rfl),head.mpr (fun s inValue => all s (.inr (.inl inValue)))⟩
      · exact tail.mpr (fun s inRest => all s (.inr (.inr inRest))) k t member
end

/-- A dict is written with an opening brace. -/
theorem dumps_obj_head (rt : Runtime) (sortKeys : Bool) (fields : List (PyStr × Json)) :
    ∃ rest, dumps rt sortKeys (.obj fields) = .scalar '\x7b' :: rest := by
  rw [dumps]
  exact ⟨_,rfl⟩

end PrivacyGateway.JsonText
