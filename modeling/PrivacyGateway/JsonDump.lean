import PrivacyGateway.JsonLoads

/-!
`json.dump` with its defaults. It writes nothing but printable ASCII
(`printable_dumpText`) and refuses only integers with too many digits, of which
`json.loads` never returns any (`loads_fits`).
-/
namespace PrivacyGateway.JsonDump
open PrivacyGateway.Strings PrivacyGateway.Errors PrivacyGateway.StdLib PrivacyGateway.JsonText
open PrivacyGateway.JsonAccess PrivacyGateway.Raising PrivacyGateway.JsonLoads

def unicodeEscape (n : Nat) : Text := "\\u".toList ++ hex4 n

/-- `py_encode_basestring_ascii` of one character: beyond 65535 it writes a surrogate pair. -/
def escapeAscii : PyChar → Text
  | .surrogate low => unicodeEscape (0xD800 + low.val)
  | .scalar c =>
    if c = '"' then "\\\"".toList
    else if c = '\\' then "\\\\".toList
    else if c = '\n' then "\\n".toList
    else if c = '\r' then "\\r".toList
    else if c = '\t' then "\\t".toList
    else if c = '\x08' then "\\b".toList
    else if c = '\x0c' then "\\f".toList
    else if 32 ≤ c.toNat ∧ c.toNat < 127 then [c]
    else if c.toNat < 65536 then unicodeEscape c.toNat
    else unicodeEscape (0xD800 + (c.toNat - 65536) / 1024) ++ unicodeEscape (0xDC00 + (c.toNat - 65536) % 1024)

def asciiQuoted (s : PyStr) : Text := '"' :: (s.flatMap escapeAscii ++ ['"'])

/-- The parts of a container with a comma and a space between them. -/
def commas (parts : List Text) : Text := [',',' '].intercalate parts

mutual
/-- What `json.dump(value, handle)` writes, with every integer written out. -/
def dumpText (rt : Runtime) : Json → Text
  | .null => "null".toList
  | .bool true => "true".toList
  | .bool false => "false".toList
  | .int n => decimalInt n
  | .float x => floatText rt x
  | .str s => asciiQuoted s
  | .arr items => '[' :: (commas (dumpItems rt items) ++ [']'])
  | .obj fields => '\x7b' :: (commas (dumpFields rt fields) ++ ['\x7d'])
def dumpItems (rt : Runtime) : List Json → List Text
  | [] => []
  | item :: rest => dumpText rt item :: dumpItems rt rest
def dumpFields (rt : Runtime) : List (PyStr × Json) → List Text
  | [] => []
  | (key,value) :: rest => (asciiQuoted key ++ ':' :: ' ' :: dumpText rt value) :: dumpFields rt rest
end

mutual
/-- An integer of the value has too many digits for `str`. -/
def oversized : Json → Bool
  | .int n => maxStrDigits < (decimal n.natAbs).length
  | .arr items => oversizedItems items
  | .obj fields => oversizedFields fields
  | _ => false
def oversizedItems : List Json → Bool
  | [] => false
  | item :: rest => oversized item || oversizedItems rest
def oversizedFields : List (PyStr × Json) → Bool
  | [] => false
  | (_,value) :: rest => oversized value || oversizedFields rest
end

/-- `json.dump(value, handle)`: what has been written when it returns. -/
def dump (rt : Runtime) (value : Json) : Except PyException Text :=
  if oversized value then .error .valueError else .ok (dumpText rt value)

theorem dump_eq_ok {rt : Runtime} {value : Json} {t : Text} :
    dump rt value = .ok t ↔ oversized value = false ∧ t = dumpText rt value := by
  rw [dump]
  cases oversized value <;> simp [eq_comm]

example : asciiQuoted [.scalar 'a',.scalar '"',.scalar 'é',.scalar '😀'] = "\"a\\\"\\u00e9\\ud83d\\ude00\"".toList := by
  decide

/-- Printable ASCII. -/
def Printable (t : Text) : Prop := ∀ c ∈ t, 32 ≤ c.toNat ∧ c.toNat < 127

instance (t : Text) : Decidable (Printable t) := List.decidableBAll _ t

theorem printable_append {a b : Text} : Printable (a ++ b) ↔ Printable a ∧ Printable b := List.forall_mem_append

theorem printable_cons {c : Char} {t : Text} : Printable (c :: t) ↔ (32 ≤ c.toNat ∧ c.toNat < 127) ∧ Printable t :=
  List.forall_mem_cons

theorem printable_unicodeEscape (n : Nat) : Printable (unicodeEscape n) := by
  have digit : ∀ m < 16, 32 ≤ (Nat.digitChar m).toNat ∧ (Nat.digitChar m).toNat < 127 := by decide
  have each : ∀ m, 32 ≤ (Nat.digitChar (m % 16)).toNat ∧ (Nat.digitChar (m % 16)).toNat < 127 :=
    fun m => digit _ (Nat.mod_lt _ (by decide))
  rw [unicodeEscape,printable_append]
  refine ⟨by decide,fun c inside => ?_⟩
  simp only [hex4,List.map_cons,List.map_nil,List.mem_cons,List.not_mem_nil,or_false] at inside
  rcases inside with rfl | rfl | rfl | rfl <;> exact each _

theorem printable_escapeAscii (c : PyChar) : Printable (escapeAscii c) := by
  cases c with
  | surrogate low => exact printable_unicodeEscape _
  | scalar c =>
    simp only [escapeAscii]
    split_ifs with _ _ _ _ _ _ _ plain
    · decide
    · decide
    · decide
    · decide
    · decide
    · decide
    · decide
    · rintro _ (_ | ⟨_,⟨⟩⟩)
      exact plain
    · exact printable_unicodeEscape _
    · exact printable_append.mpr ⟨printable_unicodeEscape _,printable_unicodeEscape _⟩

theorem printable_quoted (s : PyStr) : Printable (asciiQuoted s) := by
  rw [asciiQuoted,printable_cons,printable_append]
  refine ⟨by decide,fun c inside => ?_,by decide⟩
  obtain ⟨d,_,written⟩ := List.mem_flatMap.mp inside
  exact printable_escapeAscii d c written

theorem commas_cons (first next : Text) (rest : List Text) :
    commas (first :: next :: rest) = first ++ ',' :: ' ' :: commas (next :: rest) := by
  rw [commas,List.intercalate_cons_cons,List.append_assoc]
  rfl

theorem printable_commas {parts : List Text} (each : ∀ part ∈ parts, Printable part) : Printable (commas parts) := by
  induction parts with
  | nil => exact fun c inside => absurd inside List.not_mem_nil
  | cons first rest ih =>
    obtain ⟨head,tail⟩ := List.forall_mem_cons.mp each
    cases rest with
    | nil =>
      rw [commas,List.intercalate_singleton]
      exact head
    | cons next rest =>
      rw [commas_cons,printable_append,printable_cons,printable_cons]
      exact ⟨head,by decide,by decide,ih tail⟩

theorem printable_floatChars : Printable floatChars := by decide

theorem printable_decimalInt (n : Int) : Printable (decimalInt n) := by
  intro c inside
  rcases decimalInt_chars inside with rfl | digit
  · decide
  · exact printable_floatChars c (digit_floatChars digit)

theorem printable_floatText (rt : Runtime) (x : PyFloat) : Printable (floatText rt x) := by
  cases x with
  | finite value =>
    intro c inside
    have written : c ∈ rt.floatRepr (.finite value) := inside
    exact printable_floatChars c (rt.floatRepr_chars _ c written)
  | infinite negative =>
    have words : Printable "Infinity".toList ∧ Printable "-Infinity".toList := by decide
    cases negative
    · exact words.1
    · exact words.2
  | nan =>
    have word : Printable "NaN".toList := by decide
    exact word

mutual
theorem printable_dumpText (rt : Runtime) : ∀ value : Json, Printable (dumpText rt value)
  | .null => by
    rw [dumpText]
    decide
  | .bool true => by
    rw [dumpText]
    decide
  | .bool false => by
    rw [dumpText]
    decide
  | .int n => by
    rw [dumpText]
    exact printable_decimalInt n
  | .float x => by
    rw [dumpText]
    exact printable_floatText rt x
  | .str s => by
    rw [dumpText]
    exact printable_quoted s
  | .arr items => by
    rw [dumpText,printable_cons,printable_append]
    exact ⟨by decide,printable_commas (printable_dumpItems rt items),by decide⟩
  | .obj fields => by
    rw [dumpText,printable_cons,printable_append]
    exact ⟨by decide,printable_commas (printable_dumpFields rt fields),by decide⟩
theorem printable_dumpItems (rt : Runtime) : ∀ items : List Json, ∀ part ∈ dumpItems rt items, Printable part
  | [] => by simp [dumpItems]
  | item :: rest => by
    rw [dumpItems,List.forall_mem_cons]
    exact ⟨printable_dumpText rt item,printable_dumpItems rt rest⟩
theorem printable_dumpFields (rt : Runtime) : ∀ fields : List (PyStr × Json), ∀ part ∈ dumpFields rt fields, Printable part
  | [] => by simp [dumpFields]
  | (key,value) :: rest => by
    rw [dumpFields,List.forall_mem_cons,printable_append,printable_cons,printable_cons]
    exact ⟨⟨printable_quoted key,by decide,by decide,printable_dumpText rt value⟩,printable_dumpFields rt rest⟩
end

theorem oversizedItems_eq_false {items : List Json} (each : ∀ item ∈ items, oversized item = false) :
    oversizedItems items = false := by
  induction items with
  | nil => rfl
  | cons item rest ih =>
    obtain ⟨head,tail⟩ := List.forall_mem_cons.mp each
    rw [oversizedItems,head,ih tail]
    rfl

theorem oversizedFields_eq_false {fields : List (PyStr × Json)} (each : ∀ entry ∈ fields, oversized entry.2 = false) :
    oversizedFields fields = false := by
  induction fields with
  | nil => rfl
  | cons entry rest ih =>
    obtain ⟨head,tail⟩ := List.forall_mem_cons.mp each
    rw [oversizedFields,head,ih tail]
    rfl

theorem ofDigitChars_lt {t : Text} (all : ∀ c ∈ t, c.isDigit = true) : Nat.ofDigitChars 10 t 0 < 10 ^ t.length := by
  have below := value_lt all (List.length_replicate (a := '0')).symm (Nat.zero_lt_succ 0)
  rwa [Nat.ofDigitChars_replicate_zero,Nat.mul_one] at below

theorem integerPart_digits {t whole behind : Text} (read : integerPart t = some (whole,behind)) :
    whole ≠ [] ∧ ∀ c ∈ whole, c.isDigit = true := by
  unfold integerPart at read
  split at read
  · cases read
    simp
  · rename_i c rest _
    split_ifs at read with digit
    cases read
    refine ⟨by simp [digit],fun d inside => ?_⟩
    exact List.all_eq_true.mp List.all_takeWhile d inside
  · cases read

theorem intOfDigits_fits {negative : Bool} {t : Text} {n : Int} (some : t ≠ []) (all : ∀ c ∈ t, c.isDigit = true)
    (read : intOfDigits negative t = .ok n) : (decimal n.natAbs).length ≤ maxStrDigits := by
  unfold intOfDigits at read
  split at read
  · cases read
  rename_i long
  have magnitude : n.natAbs = Nat.ofDigitChars 10 t 0 := by
    have value := Except.ok.inj read
    rw [← value]
    split_ifs <;> simp
  have bound := ofDigitChars_lt all
  rw [← magnitude] at bound
  have short := (Nat.length_toDigits_le_iff (by decide) (List.length_pos_of_ne_nil some)).mpr bound
  exact short.trans (Nat.le_of_not_lt long)

/-- The values a scanner gives have no integer that `str` refuses. -/
def Fits (scan : Text → Except PyException (Json × Text)) : Prop :=
  ∀ {t value rest}, scan t = .ok (value,rest) → oversized value = false

theorem matchConstant_fits {t rest : Text} {value : Json} (found : matchConstant t = some (value,rest)) :
    oversized value = false := by
  obtain ⟨⟨word,named⟩,constant,same⟩ := Option.map_eq_some_iff.mp found
  cases same
  have all : ∀ entry ∈ constants, oversized entry.2 = false := by
    simp [constants,oversized]
  exact all _ (List.mem_of_find?_eq_some constant)

theorem matchNumber_fits (floatOf : Text → PyFloat) : Fits (matchNumber floatOf) := by
  intro t value rest scanned
  simp only [matchNumber] at scanned
  split at scanned
  · cases scanned
  · rename_i whole behind read
    obtain ⟨some,all⟩ := integerPart_digits read
    split at scanned
    · obtain ⟨n,made,same⟩ := map_eq_ok.mp scanned
      cases same
      exact decide_eq_false (Nat.not_lt.mpr (intOfDigits_fits some all made))
    · cases scanned
      rfl

section
variable {β : Type} {element : Text → Except PyException (β × Text)} {close : Char} {P : β → Prop}

theorem elements_all (each : ∀ {t b rest}, element t = .ok (b,rest) → P b) {fuel : Nat} {t rest : Text} {found : List β}
    (scanned : elements element close fuel t = .ok (found,rest)) : ∀ b ∈ found, P b := by
  induction fuel generalizing t found rest with
  | zero => cases scanned
  | succ fuel ih =>
    rw [elements] at scanned
    obtain ⟨⟨first,behind⟩,made,scanned⟩ := bind_eq_ok.mp scanned
    dsimp only at scanned
    split at scanned
    · cases scanned
    · split_ifs at scanned
      · cases scanned
        exact List.forall_mem_singleton.mpr (each made)
      · obtain ⟨⟨others,final⟩,later,same⟩ := map_eq_ok.mp scanned
        cases same
        exact List.forall_mem_cons.mpr ⟨each made,ih later⟩

theorem enclosed_all (each : ∀ {t b rest}, element t = .ok (b,rest) → P b) {t rest : Text} {found : List β}
    (scanned : enclosed element close t = .ok (found,rest)) : ∀ b ∈ found, P b := by
  unfold enclosed at scanned
  split at scanned
  · cases scanned
  · split_ifs at scanned
    · cases scanned
      simp
    · exact elements_all each scanned

end

theorem member_fits {value : Text → Except PyException (Json × Text)} (fits : Fits value) {t rest : Text}
    {entry : PyStr × Json} (scanned : member value t = .ok (entry,rest)) : oversized entry.2 = false := by
  unfold member at scanned
  split at scanned
  · obtain ⟨⟨key,behind⟩,_,scanned⟩ := bind_eq_ok.mp scanned
    dsimp only at scanned
    split at scanned
    · obtain ⟨⟨inner,final⟩,later,same⟩ := map_eq_ok.mp scanned
      cases same
      exact fits later
    · cases scanned
  · cases scanned

theorem mem_foldl_setItem {fields before : List (PyStr × Json)} {entry : PyStr × Json}
    (inside : entry ∈ fields.foldl setItem before) : entry ∈ before ∨ entry ∈ fields := by
  have one : ∀ {before : List (PyStr × Json)} {new entry : PyStr × Json}, entry ∈ setItem before new →
      entry ∈ before ∨ entry = new := by
    intro before new entry inside
    induction before with
    | nil => exact .inr (List.mem_singleton.mp inside)
    | cons field rest ih =>
      rw [setItem] at inside
      split_ifs at inside
      · rcases List.mem_cons.mp inside with same | later
        · exact .inr same
        · exact .inl (List.mem_cons_of_mem _ later)
      · rcases List.mem_cons.mp inside with rfl | later
        · exact .inl List.mem_cons_self
        · exact (ih later).imp (List.mem_cons_of_mem _) id
  induction fields generalizing before with
  | nil => exact .inl inside
  | cons field rest ih =>
    rcases ih inside with early | late
    · rcases one early with old | rfl
      · exact .inl old
      · exact .inr List.mem_cons_self
    · exact .inr (List.mem_cons_of_mem _ late)

theorem scanValue_fits (floatOf : Text → PyFloat) {inner : Option (Text → Except PyException (Json × Text))}
    (fits : ∀ value ∈ inner, Fits value) : Fits (scanValue floatOf inner) := by
  intro t value rest scanned
  unfold scanValue at scanned
  split at scanned
  · obtain ⟨⟨s,behind⟩,_,same⟩ := map_eq_ok.mp scanned
    cases same
    rfl
  · split at scanned
    · cases scanned
    · obtain ⟨⟨items,behind⟩,made,same⟩ := map_eq_ok.mp scanned
      cases same
      exact oversizedItems_eq_false (enclosed_all (fits _ rfl) made)
  · split at scanned
    · cases scanned
    · obtain ⟨⟨entries,behind⟩,made,same⟩ := map_eq_ok.mp scanned
      cases same
      refine oversizedFields_eq_false fun entry inside => ?_
      have listed := (mem_foldl_setItem inside).resolve_left List.not_mem_nil
      exact enclosed_all (member_fits (fits _ rfl)) made entry listed
  · split at scanned
    · rename_i constant
      cases scanned
      exact matchConstant_fits constant
    · exact matchNumber_fits floatOf scanned

theorem scanOnce_fits (floatOf : Text → PyFloat) (depth : Nat) : Fits (scanOnce floatOf depth) := by
  induction depth with
  | zero => exact scanValue_fits floatOf (by simp)
  | succ depth ih =>
    refine scanValue_fits floatOf fun value same => ?_
    cases same
    exact ih

/-- What `json.loads` returns has no integer that `str` refuses. -/
theorem loads_fits {floatOf : Text → PyFloat} {depth : Nat} {t : Text} {value : Json}
    (loaded : loads floatOf depth t = .ok value) : oversized value = false := by
  unfold loads at loaded
  split_ifs at loaded
  obtain ⟨⟨found,rest⟩,scanned,loaded⟩ := bind_eq_ok.mp loaded
  dsimp only at loaded
  split_ifs at loaded
  cases loaded
  exact scanOnce_fits floatOf depth scanned

mutual
/-- `repr` fails only on such an integer. -/
theorem repr_fits (rt : Runtime) (reprStr : PyStr → PyStr) :
    ∀ value : Json, oversized value = false → ∃ s, JsonAccess.repr rt reprStr value = .ok s
  | .null, _ => ⟨_,rfl⟩
  | .bool b, _ => ⟨_,rfl⟩
  | .int n, fits => by
    rw [JsonAccess.repr,if_neg (of_decide_eq_false fits)]
    exact ⟨_,rfl⟩
  | .float x, _ => ⟨_,rfl⟩
  | .str s, _ => ⟨_,rfl⟩
  | .arr items, fits => by
    obtain ⟨parts,written⟩ := reprItems_fits rt reprStr items fits
    rw [JsonAccess.repr,written]
    exact ⟨_,rfl⟩
  | .obj fields, fits => by
    obtain ⟨parts,written⟩ := reprFields_fits rt reprStr fields fits
    rw [JsonAccess.repr,written]
    exact ⟨_,rfl⟩
theorem reprItems_fits (rt : Runtime) (reprStr : PyStr → PyStr) :
    ∀ items : List Json, oversizedItems items = false → ∃ parts, reprItems rt reprStr items = .ok parts
  | [], _ => ⟨_,rfl⟩
  | item :: rest, fits => by
    rw [oversizedItems,Bool.or_eq_false_iff] at fits
    obtain ⟨first,written⟩ := repr_fits rt reprStr item fits.1
    obtain ⟨others,later⟩ := reprItems_fits rt reprStr rest fits.2
    rw [reprItems,written,ok_bind,later]
    exact ⟨_,rfl⟩
theorem reprFields_fits (rt : Runtime) (reprStr : PyStr → PyStr) :
    ∀ fields : List (PyStr × Json), oversizedFields fields = false → ∃ parts, reprFields rt reprStr fields = .ok parts
  | [], _ => ⟨_,rfl⟩
  | (key,value) :: rest, fits => by
    rw [oversizedFields,Bool.or_eq_false_iff] at fits
    obtain ⟨first,written⟩ := repr_fits rt reprStr value fits.1
    obtain ⟨others,later⟩ := reprFields_fits rt reprStr rest fits.2
    rw [reprFields,written,ok_bind,later]
    exact ⟨_,rfl⟩
end

end PrivacyGateway.JsonDump
