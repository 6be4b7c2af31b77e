import Mathlib.Data.List.Sort
import PrivacyGateway.JsonRoundTrip

/-!
What `json.loads` makes of the encoding with `,` and `:` and unescaped characters, which
the gateway uses for what it stores, hashes and answers with. A value comes back as it
was, or with `sort_keys` the fields of its dicts in the order of their keys (`arranged`,
`loads_dumps`), when UTF-8 can encode its strings, its numbers are read as they are
written and its dicts name no key twice. So the canonical encodings of two values are one
text exactly when the values differ in nothing but the order of fields
(`canonicalJson_eq_iff`).
-/
namespace PrivacyGateway.JsonCompact
open PrivacyGateway.Strings PrivacyGateway.Errors PrivacyGateway.StdLib PrivacyGateway.JsonText
open PrivacyGateway.Separated PrivacyGateway.JsonAccess PrivacyGateway.Raising PrivacyGateway.JsonLoads
open PrivacyGateway.JsonRoundTrip

/-! ### The order of fields -/

def fieldOrder (a b : PyStr × Json) : Prop := a.1 ≤ b.1

instance : DecidableRel fieldOrder := fun a b => inferInstanceAs (Decidable (a.1 ≤ b.1))

instance : Std.Total fieldOrder := ⟨fun a b => le_total a.1 b.1⟩

instance : IsTrans (PyStr × Json) fieldOrder := ⟨fun _ _ _ first second => le_trans first second⟩

instance : Std.Total keyOrder := ⟨fun a b => le_total a.1 b.1⟩

instance : IsTrans (PyStr × PyStr) keyOrder := ⟨fun _ _ _ first second => le_trans first second⟩

/-- The fields as they are written. -/
def order (sortKeys : Bool) (fields : List (PyStr × Json)) : List (PyStr × Json) :=
  if sortKeys then fields.insertionSort fieldOrder else fields

mutual
/-- The value with the fields of every dict as they are written. -/
def arranged (sortKeys : Bool) : Json → Json
  | .arr items => .arr (arrangedItems sortKeys items)
  | .obj fields => .obj (order sortKeys (arrangedFields sortKeys fields))
  | value => value
def arrangedItems (sortKeys : Bool) : List Json → List Json
  | [] => []
  | item :: rest => arranged sortKeys item :: arrangedItems sortKeys rest
def arrangedFields (sortKeys : Bool) : List (PyStr × Json) → List (PyStr × Json)
  | [] => []
  | (key,value) :: rest => (key,arranged sortKeys value) :: arrangedFields sortKeys rest
end

example : arranged true (.obj [field "b" .null,field "a" (.int 1)]) = .obj [field "a" (.int 1),field "b" .null] := by
  rfl

theorem order_perm (sortKeys : Bool) (fields : List (PyStr × Json)) : (order sortKeys fields).Perm fields := by
  cases sortKeys with
  | false => exact .refl _
  | true => exact List.perm_insertionSort ..

theorem arrangedItems_eq_map (sortKeys : Bool) (items : List Json) :
    arrangedItems sortKeys items = items.map (arranged sortKeys) := by
  induction items with
  | nil => rfl
  | cons item rest ih => rw [arrangedItems,ih,List.map_cons]

theorem arrangedFields_eq_map (sortKeys : Bool) (fields : List (PyStr × Json)) :
    arrangedFields sortKeys fields = fields.map fun entry => (entry.1,arranged sortKeys entry.2) := by
  induction fields with
  | nil => rfl
  | cons entry rest ih => rw [arrangedFields,ih,List.map_cons]

theorem dumpsItems_eq_map (rt : Runtime) (sortKeys : Bool) (items : List Json) :
    dumpsItems rt sortKeys items = items.map (dumps rt sortKeys) := by
  induction items with
  | nil => rfl
  | cons item rest ih => rw [dumpsItems,ih,List.map_cons]

theorem dumpsFields_eq_map (rt : Runtime) (sortKeys : Bool) (fields : List (PyStr × Json)) :
    dumpsFields rt sortKeys fields = fields.map fun entry => (entry.1,dumps rt sortKeys entry.2) := by
  induction fields with
  | nil => rfl
  | cons entry rest ih => rw [dumpsFields,ih,List.map_cons]

/-- What is done to each value of a dict changes nothing about the order. -/
theorem order_map (sortKeys : Bool) (change : Json → Json) (fields : List (PyStr × Json)) :
    order sortKeys (fields.map fun entry => (entry.1,change entry.2)) =
      (order sortKeys fields).map fun entry => (entry.1,change entry.2) := by
  cases sortKeys with
  | false => rfl
  | true =>
    exact (List.map_insertionSort fieldOrder fieldOrder (fun entry => (entry.1,change entry.2)) fields
      fun _ _ _ _ => Iff.rfl).symm

/-- The order of what is written is the order of the fields. -/
theorem dumpsFields_order (rt : Runtime) (sortKeys : Bool) (fields : List (PyStr × Json)) :
    dumpsFields rt sortKeys (order sortKeys fields) =
      if sortKeys then (dumpsFields rt sortKeys fields).insertionSort keyOrder else dumpsFields rt sortKeys fields := by
  cases sortKeys with
  | false => rfl
  | true =>
    rw [dumpsFields_eq_map,dumpsFields_eq_map]
    exact List.map_insertionSort fieldOrder keyOrder _ fields fun _ _ _ _ => Iff.rfl

/-- A dict is written field by field in that order. -/
theorem dumps_obj (rt : Runtime) (sortKeys : Bool) (fields : List (PyStr × Json)) :
    dumps rt sortKeys (.obj fields) = lit "\x7b" ++ joined (.scalar ',')
      ((order sortKeys fields).map fun entry => quoted entry.1 ++ lit ":" ++ dumps rt sortKeys entry.2) ++ lit "\x7d" := by
  rw [dumps]
  simp only [← dumpsFields_order]
  rw [dumpsFields_eq_map,List.map_map]
  rfl

theorem arranged_obj (sortKeys : Bool) (fields : List (PyStr × Json)) :
    arranged sortKeys (.obj fields) =
      .obj ((order sortKeys fields).map fun entry => (entry.1,arranged sortKeys entry.2)) := by
  rw [arranged,arrangedFields_eq_map,order_map]

mutual
theorem arranged_false : ∀ value : Json, arranged false value = value
  | .null => rfl
  | .bool _ => rfl
  | .int _ => rfl
  | .float _ => rfl
  | .str _ => rfl
  | .arr items => by rw [arranged,arrangedItems_false items]
  | .obj fields => by
    rw [arranged,arrangedFields_false fields]
    rfl
theorem arrangedItems_false : ∀ items : List Json, arrangedItems false items = items
  | [] => rfl
  | item :: rest => by rw [arrangedItems,arranged_false item,arrangedItems_false rest]
theorem arrangedFields_false : ∀ fields : List (PyStr × Json), arrangedFields false fields = fields
  | [] => rfl
  | (key,value) :: rest => by rw [arrangedFields,arranged_false value,arrangedFields_false rest]
end

/-- An escaped character is read as the character. -/
theorem scanChars_escapeChar (c : Char) : ∃ e : Text, escapeChar (.scalar c) = Strings.str e ∧
    ∀ rest, scanChars (e ++ rest) = (scanChars rest).map fun scanned => (.scalar c :: scanned.1,scanned.2) := by
  -- Each escape of one letter is read as the character it stands for.
  have letter : ∀ d e : Char, c = d → backslash e = some d → e ≠ 'u' → ∀ rest,
      scanChars (['\\',e] ++ rest) = (scanChars rest).map fun scanned => (.scalar c :: scanned.1,scanned.2) := by
    intro d e same read notUnicode rest
    subst same
    simp only [List.cons_append,List.nil_append]
    rw [scanChars]
    · rw [read]
    · intro a b c' d' rest' same
      exact absurd same notUnicode
  have code : ∀ {n : Nat}, c.toNat = n → c = Char.ofNat n := by
    rintro n rfl
    exact (Char.ofNat_toNat c).symm
  have range := toNat_bound c
  simp only [escapeChar]
  split_ifs with quote slash newline carriage tab back feed control
  · exact ⟨_,rfl,letter _ '"' quote rfl (by decide)⟩
  · exact ⟨_,rfl,letter _ '\\' slash rfl (by decide)⟩
  · exact ⟨_,rfl,letter _ 'n' newline rfl (by decide)⟩
  · exact ⟨_,rfl,letter _ 'r' carriage rfl (by decide)⟩
  · exact ⟨_,rfl,letter _ 't' tab rfl (by decide)⟩
  · exact ⟨_,rfl,letter _ 'b' (code back) rfl (by decide)⟩
  · exact ⟨_,rfl,letter _ 'f' (code feed) rfl (by decide)⟩
  · refine ⟨JsonDump.unicodeEscape c.toNat,rfl,fun rest => ?_⟩
    rw [scanChars_unicodeEscape (by omega),charOfCode_scalar]
  · refine ⟨[c],rfl,fun rest => ?_⟩
    rw [List.singleton_append,scanChars]
    · rw [if_neg (by simp [slash]; omega)]
    · exact quote
    · intro a b c' d' e same
      exact absurd same slash
    · intro a b same
      exact absurd same slash

/-- A string literal is read as the string it was written for. -/
theorem literal_quoted {s : PyStr} (encodable : Utf8Encodable s) : ∃ t : Text, quoted s = Strings.str t ∧ Literal t s := by
  have scalars : ∀ s : Text, ∃ t : Text, (Strings.str s).flatMap escapeChar = Strings.str t ∧
      ∀ rest, scanChars (t ++ '"' :: rest) = .ok (Strings.str s,rest) := by
    intro s
    induction s with
    | nil => exact ⟨[],rfl,fun rest => by rw [List.nil_append,scanChars]; rfl⟩
    | cons c s ih =>
      obtain ⟨e,escaped,read⟩ := scanChars_escapeChar c
      obtain ⟨t,written,others⟩ := ih
      refine ⟨e ++ t,?_,fun rest => ?_⟩
      · rw [str_append,← escaped,← written]
        rfl
      · rw [List.append_assoc,read,others]
        rfl
  obtain ⟨u,same⟩ := Option.isSome_iff_exists.mp encodable
  obtain rfl := encodeUtf8_eq_some.mp same
  obtain ⟨t,written,reads⟩ := scalars u
  refine ⟨'"' :: (t ++ ['"']),?_,_,rfl,fun rest => ?_⟩
  · rw [quoted,written]
    simp [lit,Strings.str]
  · rw [List.append_assoc,List.singleton_append,scanString,reads]
    have whole : ∀ v : Text, joinSurrogates (Strings.str v) = Strings.str v := by
      intro v
      induction v with
      | nil => rfl
      | cons c v ih =>
        change joinSurrogates (.scalar c :: Strings.str v) = _
        rw [joinSurrogates_cons (by simp),ih]
        rfl
    simp only [Except.map,whole]

/-! ### Values come back -/

section
variable (floatOf : Text → PyFloat) (rt : Runtime)

/-- `repr` writes the float as a number that JSON reads as the float. -/
def FloatReads : PyFloat → Prop
  | .finite x => matchNumber floatOf (rt.floatRepr (.finite x)) = .ok (.float (.finite x),[])
  | _ => True

/-- The value can be written and read: UTF-8 encodes its strings, `str` writes its integers,
    its floats are read as they are written, its keys are distinct, and at most `depth`
    containers are within each other. -/
def Readable : Nat → Json → Prop
  | _, .float x => FloatReads floatOf rt x
  | _, .int n => (decimal n.natAbs).length ≤ maxStrDigits
  | _, .str s => Utf8Encodable s
  | depth + 1, .arr items => ∀ item ∈ items, Readable depth item
  | depth + 1, .obj fields =>
    (fields.map Prod.fst).Nodup ∧ ∀ entry ∈ fields, Utf8Encodable entry.1 ∧ Readable depth entry.2
  | 0, .arr _ => False
  | 0, .obj _ => False
  | _, .null => True
  | _, .bool _ => True

end

section
variable {floatOf : Text → PyFloat} {rt : Runtime} {depth : Nat}

@[simp] theorem readable_null : Readable floatOf rt depth .null := by cases depth <;> trivial

@[simp] theorem readable_bool {b : Bool} : Readable floatOf rt depth (.bool b) := by cases depth <;> trivial

@[simp] theorem readable_int {n : Int} :
    Readable floatOf rt depth (.int n) ↔ (decimal n.natAbs).length ≤ maxStrDigits := by
  cases depth <;> exact Iff.rfl

@[simp] theorem readable_float {x : PyFloat} : Readable floatOf rt depth (.float x) ↔ FloatReads floatOf rt x := by
  cases depth <;> exact Iff.rfl

@[simp] theorem readable_str {s : PyStr} : Readable floatOf rt depth (.str s) ↔ Utf8Encodable s := by
  cases depth <;> exact Iff.rfl

@[simp] theorem readable_arr {items : List Json} :
    Readable floatOf rt (depth + 1) (.arr items) ↔ ∀ item ∈ items, Readable floatOf rt depth item := Iff.rfl

@[simp] theorem readable_obj {fields : List (PyStr × Json)} :
    Readable floatOf rt (depth + 1) (.obj fields) ↔ (fields.map Prod.fst).Nodup ∧
      ∀ entry ∈ fields, Utf8Encodable entry.1 ∧ Readable floatOf rt depth entry.2 := Iff.rfl

theorem Readable.mono {value : Json} {depth more : Nat} (deeper : depth ≤ more) (readable : Readable floatOf rt depth value) :
    Readable floatOf rt more value := by
  induction more generalizing depth value with
  | zero =>
    rw [Nat.le_zero.mp deeper] at readable
    exact readable
  | succ more ih =>
    cases depth with
    | zero => cases value <;> simp_all [Readable]
    | succ depth =>
      have less : depth ≤ more := by omega
      cases value with
      | arr items => exact fun item inside => ih less (readable item inside)
      | obj fields => exact ⟨readable.1,fun entry inside => ⟨(readable.2 entry inside).1,ih less (readable.2 entry inside).2⟩⟩
      | _ => exact readable

mutual
/-- The numbers of a value. -/
def numbers : Json → List Json
  | .int n => [.int n]
  | .float x => [.float x]
  | .arr items => numbersItems items
  | .obj fields => numbersFields fields
  | _ => []
def numbersItems : List Json → List Json
  | [] => []
  | item :: rest => numbers item ++ numbersItems rest
def numbersFields : List (PyStr × Json) → List Json
  | [] => []
  | (_,value) :: rest => numbers value ++ numbersFields rest
end

/-- The keys of each dict are distinct, and at most `depth` containers are within each other. -/
def WellNested : Nat → Json → Prop
  | depth + 1, .arr items => ∀ item ∈ items, WellNested depth item
  | depth + 1, .obj fields => (fields.map Prod.fst).Nodup ∧ ∀ entry ∈ fields, WellNested depth entry.2
  | 0, .arr _ => False
  | 0, .obj _ => False
  | _, _ => True

@[simp] theorem wellNested_bool {depth : Nat} {b : Bool} : WellNested depth (.bool b) := by cases depth <;> trivial
@[simp] theorem wellNested_int {depth : Nat} {n : Int} : WellNested depth (.int n) := by cases depth <;> trivial
@[simp] theorem wellNested_float {depth : Nat} {x : PyFloat} : WellNested depth (.float x) := by cases depth <;> trivial
@[simp] theorem wellNested_str {depth : Nat} {s : PyStr} : WellNested depth (.str s) := by cases depth <;> trivial

@[simp] theorem wellNested_arr {depth : Nat} {items : List Json} :
    WellNested (depth + 1) (.arr items) ↔ ∀ item ∈ items, WellNested depth item := Iff.rfl

@[simp] theorem wellNested_obj {depth : Nat} {fields : List (PyStr × Json)} : WellNested (depth + 1) (.obj fields) ↔
    (fields.map Prod.fst).Nodup ∧ ∀ entry ∈ fields, WellNested depth entry.2 := Iff.rfl

theorem item_of_items {items : List Json} {item : Json} (inside : item ∈ items) :
    (∀ s ∈ strings item, s ∈ stringsItems items) ∧ ∀ n ∈ numbers item, n ∈ numbersItems items := by
  induction items with
  | nil => cases inside
  | cons first rest ih =>
    simp only [stringsItems,numbersItems,List.mem_append]
    rcases List.mem_cons.mp inside with rfl | later
    · exact ⟨fun _ => .inl,fun _ => .inl⟩
    · exact ⟨fun s held => .inr ((ih later).1 s held),fun n held => .inr ((ih later).2 n held)⟩

theorem entry_of_fields {fields : List (PyStr × Json)} {entry : PyStr × Json} (inside : entry ∈ fields) :
    entry.1 ∈ stringsFields fields ∧ (∀ s ∈ strings entry.2, s ∈ stringsFields fields) ∧
      ∀ n ∈ numbers entry.2, n ∈ numbersFields fields := by
  induction fields with
  | nil => cases inside
  | cons first rest ih =>
    simp only [stringsFields,numbersFields,List.mem_append,List.mem_cons,List.cons_append]
    rcases List.mem_cons.mp inside with rfl | later
    · exact ⟨.inl rfl,fun _ held => .inr (.inl held),fun _ => .inl⟩
    · obtain ⟨key,texts,numbers⟩ := ih later
      exact ⟨.inr (.inr key),fun s held => .inr (.inr (texts s held)),fun n held => .inr (numbers n held)⟩

/-- A value that is nested well can be read again if its strings and its numbers can. -/
theorem readable_of {value : Json} (nested : WellNested depth value) (encodable : ∀ s ∈ strings value, Utf8Encodable s)
    (reads : ∀ n ∈ numbers value, Readable floatOf rt 0 n) : Readable floatOf rt depth value := by
  induction depth generalizing value with
  | zero =>
    cases value with
    | arr items => exact nested
    | obj fields => exact nested
    | str s => exact encodable s (List.mem_singleton.mpr rfl)
    | int n => exact reads _ (List.mem_singleton.mpr rfl)
    | float x => exact reads _ (List.mem_singleton.mpr rfl)
    | _ => trivial
  | succ depth ih =>
    cases value with
    | arr items =>
      intro item inside
      have parts := item_of_items inside
      exact ih (nested item inside) (fun s held => encodable s (parts.1 s held)) fun n held => reads n (parts.2 n held)
    | obj fields =>
      refine ⟨nested.1,fun entry inside => ?_⟩
      obtain ⟨key,texts,numbers⟩ := entry_of_fields inside
      exact ⟨encodable _ key,ih (nested.2 entry inside) (fun s held => encodable s (texts s held))
        fun n held => reads n (numbers n held)⟩
    | str s => exact encodable s (List.mem_singleton.mpr rfl)
    | int n => exact reads _ (List.mem_singleton.mpr rfl)
    | float x => exact reads _ (List.mem_singleton.mpr rfl)
    | _ => trivial

theorem readAs_float {inner : Option (Text → Except PyException (Json × Text))} {x : PyFloat} (reads : FloatReads floatOf rt x) :
    ReadAs (scanValue floatOf inner) (floatText rt x) (.float x) := by
  cases x with
  | finite value => exact readAs_numeral reads
  | infinite negative =>
    cases negative
    · exact ⟨⟨'I',"nfinity".toList,rfl,by decide⟩,fun rest _ => rfl⟩
    · exact ⟨⟨'-',"Infinity".toList,rfl,by decide⟩,fun rest _ => rfl⟩
  | nan => exact ⟨⟨'N',"aN".toList,rfl,by decide⟩,fun rest _ => rfl⟩

/-- The texts of the parts, and what each of them is read as. -/
theorem texts_of {α β : Type} {write : α → PyStr} {value : α → β} {Reads : Text → β → Prop} {items : List α}
    (each : ∀ a ∈ items, ∃ t, write a = Strings.str t ∧ Reads t (value a)) :
    ∃ texts, items.map write = texts.map Strings.str ∧ List.Forall₂ Reads texts (items.map value) := by
  induction items with
  | nil => exact ⟨[],rfl,.nil⟩
  | cons a rest ih =>
    obtain ⟨head,tail⟩ := List.forall_mem_cons.mp each
    obtain ⟨t,written,reads⟩ := head
    obtain ⟨texts,others,read⟩ := ih tail
    exact ⟨t :: texts,by rw [List.map_cons,List.map_cons,written,others],.cons reads read⟩

theorem joined_texts (texts : List Text) :
    joined (.scalar ',') (texts.map Strings.str) = Strings.str (spaced [] texts) := by
  induction texts with
  | nil => rfl
  | cons first rest ih =>
    cases rest with
    | nil =>
      rw [spaced,List.intercalate_singleton]
      rfl
    | cons next rest =>
      rw [spaced_cons,List.map_cons,List.map_cons,joined,← List.map_cons,ih,str_append]
      rfl

theorem readAs_dumps {value : Json} (sortKeys : Bool) (readable : Readable floatOf rt depth value) :
    ∃ t, dumps rt sortKeys value = Strings.str t ∧ ReadAs (scanOnce floatOf depth) t (arranged sortKeys value) := by
  have blank : Blank [] := fun _ inside => absurd inside List.not_mem_nil
  -- What is no container is read alike at every depth.
  have leaf : ∀ {inner value}, Readable floatOf rt 0 value →
      ∃ t, dumps rt sortKeys value = Strings.str t ∧ ReadAs (scanValue floatOf inner) t (arranged sortKeys value) := by
    intro inner value readable
    cases value with
    | null => exact ⟨"null".toList,by rw [dumps]; rfl,readAs_word (by simp [constants,arranged])⟩
    | bool b =>
      cases b
      · exact ⟨"false".toList,by rw [dumps]; rfl,readAs_word (by simp [constants,arranged])⟩
      · exact ⟨"true".toList,by rw [dumps]; rfl,readAs_word (by simp [constants,arranged])⟩
    | int n => exact ⟨decimalInt n,by rw [dumps],readAs_numeral (matchNumber_decimalInt floatOf readable)⟩
    | float x => exact ⟨floatText rt x,by rw [dumps],readAs_float readable⟩
    | str s =>
      obtain ⟨t,written,literal⟩ := literal_quoted readable
      exact ⟨t,by rw [dumps,written],readAs_literal literal⟩
    | arr items => exact readable.elim
    | obj fields => exact readable.elim
  induction depth generalizing value with
  | zero => exact leaf readable
  | succ depth ih =>
    cases value with
    | arr items =>
      obtain ⟨texts,written,read⟩ := texts_of fun item inside => ih (readable item inside)
      refine ⟨'[' :: (spaced [] texts ++ [']']),?_,?_⟩
      · rw [dumps,dumpsItems_eq_map,written,joined_texts]
        simp [lit,Strings.str]
      · rw [arranged,arrangedItems_eq_map]
        exact readAs_arr [] (scanOnce_shrinks floatOf depth) blank read
    | obj fields =>
      obtain ⟨distinct,each⟩ := readable
      have same := order_perm sortKeys fields
      have entries : ∀ entry ∈ order sortKeys fields, ∃ t,
          quoted entry.1 ++ lit ":" ++ dumps rt sortKeys entry.2 = Strings.str t ∧
            ReadAs (member (scanOnce floatOf depth)) t (entry.1,arranged sortKeys entry.2) := by
        intro entry inside
        obtain ⟨encodable,readable⟩ := each entry (same.mem_iff.mp inside)
        obtain ⟨name,named,literal⟩ := literal_quoted encodable
        obtain ⟨t,written,reads⟩ := ih readable
        refine ⟨name ++ ':' :: ([] ++ t),?_,readAs_member [] literal blank reads⟩
        rw [named,written]
        simp [lit,Strings.str]
      obtain ⟨texts,written,read⟩ := texts_of entries
      have keys : (((order sortKeys fields).map fun entry => (entry.1,arranged sortKeys entry.2)).map Prod.fst).Nodup := by
        rw [List.map_map]
        exact (same.map Prod.fst).nodup_iff.mpr distinct
      refine ⟨'\x7b' :: (spaced [] texts ++ ['\x7d']),?_,?_⟩
      · rw [dumps_obj,written,joined_texts]
        simp [lit,Strings.str]
      · rw [arranged_obj]
        exact readAs_obj [] (scanOnce_shrinks floatOf depth) blank read keys
    | _ => exact leaf readable

/-- No value begins with the byte order mark. -/
theorem scanOnce_mark (floatOf : Text → PyFloat) (depth : Nat) (t : Text) : ∃ e, scanOnce floatOf depth ('\ufeff' :: t) = .error e := by
  have refused : ∀ inner, scanValue floatOf inner ('\ufeff' :: t) = .error .valueError := fun inner => rfl
  cases depth with
  | zero => exact ⟨_,refused none⟩
  | succ depth => exact ⟨_,refused (some (scanOnce floatOf depth))⟩

/-- What the gateway writes is read as the value, its fields in the order they are written. -/
theorem loads_dumps {value : Json} (sortKeys : Bool) (readable : Readable floatOf rt depth value) :
    ∃ t, dumps rt sortKeys value = Strings.str t ∧ loads floatOf depth t = .ok (arranged sortKeys value) := by
  obtain ⟨t,written,begins,reads⟩ := readAs_dumps sortKeys readable
  refine ⟨t,written,?_⟩
  have scanned := reads [] (by simp [Stops])
  have unspaced : skip (t ++ []) = t ++ [] := skip_begins begins
  rw [List.append_nil] at scanned unspaced
  have noMark : t.head? ≠ some '\ufeff' := by
    intro mark
    obtain ⟨u,rfl⟩ := List.head?_eq_some_iff.mp mark
    obtain ⟨e,refused⟩ := scanOnce_mark floatOf depth u
    rw [scanned] at refused
    cases refused
  rw [loads,if_neg noMark,unspaced,scanned,ok_bind]
  rfl

mutual
/-- What is arranged already is written as before. -/
theorem dumps_arranged (rt : Runtime) : ∀ value : Json, dumps rt true (arranged true value) = dumps rt true value
  | .null => rfl
  | .bool _ => rfl
  | .int _ => rfl
  | .float _ => rfl
  | .str _ => rfl
  | .arr items => by
    rw [arranged,dumps,dumps,dumpsItems_arranged rt items]
  | .obj fields => by
    have written : dumpsFields rt true (order true (arrangedFields true fields)) =
        (dumpsFields rt true fields).insertionSort keyOrder := by
      rw [dumpsFields_order,dumpsFields_arranged rt fields]
      rfl
    have sorted : ((dumpsFields rt true fields).insertionSort keyOrder).insertionSort keyOrder =
        (dumpsFields rt true fields).insertionSort keyOrder :=
      (List.pairwise_insertionSort keyOrder _).insertionSort_eq
    rw [arranged,dumps,dumps,written]
    simp only [↓reduceIte,sorted]
theorem dumpsItems_arranged (rt : Runtime) :
    ∀ items : List Json, dumpsItems rt true (arrangedItems true items) = dumpsItems rt true items
  | [] => rfl
  | item :: rest => by rw [arrangedItems,dumpsItems,dumpsItems,dumps_arranged rt item,dumpsItems_arranged rt rest]
theorem dumpsFields_arranged (rt : Runtime) :
    ∀ fields : List (PyStr × Json), dumpsFields rt true (arrangedFields true fields) = dumpsFields rt true fields
  | [] => rfl
  | (key,value) :: rest => by
    rw [arrangedFields,dumpsFields,dumpsFields,dumps_arranged rt value,dumpsFields_arranged rt rest]
end

/-- Two values have one canonical encoding exactly when they differ in nothing but the order
    of fields. -/
theorem canonicalJson_eq_iff {a b : Json} (first : Readable floatOf rt depth a) (second : Readable floatOf rt depth b) :
    canonicalJson rt a = canonicalJson rt b ↔ arranged true a = arranged true b := by
  constructor
  · intro same
    obtain ⟨t,written,loaded⟩ := loads_dumps true first
    obtain ⟨u,written',loaded'⟩ := loads_dumps true second
    obtain rfl : t = u := str_inj.mp (written.symm.trans (same.trans written'))
    exact Except.ok.inj (loaded.symm.trans loaded')
  · intro same
    rw [canonicalJson,canonicalJson,← dumps_arranged rt a,same,dumps_arranged]

end

end PrivacyGateway.JsonCompact
