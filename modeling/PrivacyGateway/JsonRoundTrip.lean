import Mathlib.Data.List.TakeWhile
import PrivacyGateway.JsonDump

/-!
What `json.loads` makes of what `json.dump` has written: a value comes back as it was
(`loads_dump`) when it holds no float and no two surrogates that read as one character,
its integers can be written, its dicts name no key twice and it is not nested too deep.
-/
namespace PrivacyGateway.JsonRoundTrip
open PrivacyGateway.Strings PrivacyGateway.Errors PrivacyGateway.StdLib PrivacyGateway.JsonText
open PrivacyGateway.JsonAccess PrivacyGateway.Raising PrivacyGateway.JsonLoads PrivacyGateway.JsonDump

/-- No high surrogate stands before a low one. -/
def Unpaired (s : PyStr) : Prop :=
  s.IsChain fun a b => ∀ high low, a = .surrogate high → b = .surrogate low → ¬ (high.val < 1024 ∧ 1024 ≤ low.val)

theorem unpaired_of_encodable {s : PyStr} (encodable : Utf8Encodable s) : Unpaired s := by
  rw [Unpaired,List.isChain_iff_forall_rel_of_append_cons_cons]
  rintro a b before after rfl high low rfl rfl
  obtain ⟨c,same⟩ := encodable_iff_forall.mp encodable (.surrogate high) (by simp)
  cases same

/-- The characters that the escapes of a character are read as, one by one. -/
def units : PyChar → PyStr
  | .surrogate low => [.surrogate low]
  | .scalar c =>
    if c.toNat < 65536 then [.scalar c]
    else [charOfCode (0xD800 + (c.toNat - 65536) / 1024),charOfCode (0xDC00 + (c.toNat - 65536) % 1024)]

theorem toNat_bound (c : Char) : c.toNat < 0xD800 ∨ 0xE000 ≤ c.toNat ∧ c.toNat < 0x110000 := by
  have range := c.valid
  simp only [UInt32.isValidChar,Nat.isValidChar] at range
  change c.val.toNat < _ ∨ _ ≤ c.val.toNat ∧ c.val.toNat < _
  omega

theorem charOfCode_surrogate {n : Nat} (low : 0xD800 ≤ n) (high : n < 0xE000) :
    charOfCode n = .surrogate ⟨n - 0xD800,by omega⟩ := by
  rw [charOfCode,dif_pos ⟨by omega,low⟩]

theorem charOfCode_scalar (c : Char) : charOfCode c.toNat = .scalar c := by
  have range := toNat_bound c
  rw [charOfCode,dif_neg (by omega),Char.ofNat_toNat]

theorem hexValue_digitChar : ∀ n < 16, hexValue (Nat.digitChar n) = some n := by decide

theorem hexCode_hex4 {n : Nat} (bound : n < 65536) :
    hexCode (Nat.digitChar (n / 4096 % 16)) (Nat.digitChar (n / 256 % 16)) (Nat.digitChar (n / 16 % 16))
      (Nat.digitChar (n % 16)) = some n := by
  have digit : ∀ m, hexValue (Nat.digitChar (m % 16)) = some (m % 16) :=
    fun m => hexValue_digitChar _ (Nat.mod_lt _ (by decide))
  simp only [hexCode,digit,Option.bind_eq_bind,Option.bind_some]
  congr 1
  omega

theorem scanChars_unicodeEscape {n : Nat} (bound : n < 65536) (rest : Text) :
    scanChars (unicodeEscape n ++ rest) = (scanChars rest).map fun scanned => (charOfCode n :: scanned.1,scanned.2) := by
  change scanChars ('\\' :: 'u' :: Nat.digitChar (n / 4096 % 16) :: Nat.digitChar (n / 256 % 16) ::
    Nat.digitChar (n / 16 % 16) :: Nat.digitChar (n % 16) :: rest) = _
  rw [scanChars,hexCode_hex4 bound]

theorem scanChars_escapeAscii (c : PyChar) (rest : Text) :
    scanChars (escapeAscii c ++ rest) = (scanChars rest).map fun scanned => (units c ++ scanned.1,scanned.2) := by
  cases c with
  | surrogate low =>
    have := low.isLt
    rw [escapeAscii,scanChars_unicodeEscape (by omega),charOfCode_surrogate (by omega) (by omega)]
    have same : 0xD800 + low.val - 0xD800 = low.val := by omega
    simp only [units,same]
    rfl
  | scalar c =>
    have range := toNat_bound c
    -- Each escape of one letter is read as the character it stands for.
    have letter : ∀ d e : Char, c = d → backslash e = some d → d.toNat < 65536 → e ≠ 'u' →
        scanChars (['\\',e] ++ rest) = (scanChars rest).map fun scanned => (units (.scalar c) ++ scanned.1,scanned.2) := by
      intro d e same read small notUnicode
      subst same
      simp only [List.cons_append,List.nil_append]
      rw [scanChars]
      · rw [read,units,if_pos small]
        rfl
      · intro a b c' d' rest' same
        exact absurd same notUnicode
    simp only [escapeAscii]
    split_ifs with quote slash newline carriage tab back feed plain short
    · exact letter _ '"' quote rfl (by decide) (by decide)
    · exact letter _ '\\' slash rfl (by decide) (by decide)
    · exact letter _ 'n' newline rfl (by decide) (by decide)
    · exact letter _ 'r' carriage rfl (by decide) (by decide)
    · exact letter _ 't' tab rfl (by decide) (by decide)
    · exact letter _ 'b' back rfl (by decide) (by decide)
    · exact letter _ 'f' feed rfl (by decide) (by decide)
    · rw [List.singleton_append,scanChars]
      · rw [if_neg (by simp [slash]; omega),units,if_pos (by omega)]
        rfl
      · exact quote
      · intro a b c' d' e same
        exact absurd same slash
      · intro a b same
        exact absurd same slash
    · rw [scanChars_unicodeEscape short,charOfCode_scalar,units,if_pos short]
      rfl
    · rw [List.append_assoc,scanChars_unicodeEscape (by omega),scanChars_unicodeEscape (by omega),map_map,units,
        if_neg short]
      rfl

theorem joinSurrogates_cons {c : PyChar} {s : PyStr}
    (single : ∀ high low rest, c = .surrogate high → s = .surrogate low :: rest → ¬ (high.val < 1024 ∧ 1024 ≤ low.val)) :
    joinSurrogates (c :: s) = c :: joinSurrogates s := by
  cases c with
  | scalar c => rw [joinSurrogates]; simp
  | surrogate high =>
    cases s with
    | nil => rfl
    | cons d rest =>
      cases d with
      | scalar d => rw [joinSurrogates]; simp
      | surrogate low => rw [joinSurrogates,if_neg (single high low rest rfl rfl)]

theorem joinSurrogates_units {s : PyStr} (unpaired : Unpaired s) : joinSurrogates (s.flatMap units) = s := by
  induction s with
  | nil => rfl
  | cons c rest ih =>
    have restored := ih unpaired.tail
    rw [List.flatMap_cons]
    cases c with
    | scalar c =>
      have range := toNat_bound c
      rw [units]
      split_ifs with short
      · rw [List.singleton_append,joinSurrogates_cons (by simp),restored]
      · rw [charOfCode_surrogate (by omega) (by omega),charOfCode_surrogate (by omega) (by omega)]
        simp only [List.cons_append,List.nil_append]
        rw [joinSurrogates,if_pos (by constructor <;> dsimp only <;> omega),restored]
        have same : 65536 + (0xD800 + (c.toNat - 65536) / 1024 - 0xD800) * 1024 +
            (0xDC00 + (c.toNat - 65536) % 1024 - 0xD800 - 1024) = c.toNat := by omega
        simp only [same,Char.ofNat_toNat]
    | surrogate high =>
      rw [units,List.singleton_append,joinSurrogates_cons,restored]
      -- What the next character is read as begins with no low surrogate, unless it is one.
      intro first low others same read
      cases same
      cases rest with
      | nil => cases read
      | cons d rest =>
        rw [List.flatMap_cons] at read
        cases d with
        | surrogate low' =>
          cases read
          exact (List.isChain_cons_cons.mp unpaired).1 high low rfl rfl
        | scalar d =>
          have range := toNat_bound d
          rw [units] at read
          split_ifs at read with short
          · cases read
          · rw [charOfCode_surrogate (by omega) (by omega)] at read
            have value := congrArg Fin.val (PyChar.surrogate.inj (List.cons.inj read).1)
            dsimp only at value
            omega

theorem scanChars_flatMap (s : PyStr) (rest : Text) :
    scanChars (s.flatMap escapeAscii ++ '"' :: rest) = .ok (s.flatMap units,rest) := by
  induction s with
  | nil => rfl
  | cons c s ih =>
    rw [List.flatMap_cons,List.append_assoc,scanChars_escapeAscii,ih]
    rfl

/-- The text is a string literal that is read as the string. -/
def Literal (t : Text) (s : PyStr) : Prop := ∃ inner, t = '"' :: inner ∧ ∀ rest, scanString (inner ++ rest) = .ok (s,rest)

/-- A string literal is read as the string it was written for. -/
theorem literal_asciiQuoted {s : PyStr} (unpaired : Unpaired s) : Literal (asciiQuoted s) s := by
  refine ⟨_,rfl,fun rest => ?_⟩
  rw [List.append_assoc,List.singleton_append,scanString,scanChars_flatMap]
  simp only [Except.map,joinSurrogates_units unpaired]

/-! ### Numbers come back -/

/-- What stands behind a value inside a container, or at the end. -/
def Stops (rest : Text) : Prop := ∀ c, rest.head? = some c → c = ',' ∨ c = ']' ∨ c = '\x7d'

/-- A numeral begins with `0` only if it is that of zero. -/
theorem decimal_head {n : Nat} (positive : 0 < n) : ∃ c rest, decimal n = c :: rest ∧ c ≠ '0' := by
  induction n using Nat.strong_induction_on with
  | _ n ih =>
    by_cases small : n < 10
    · have single : ∀ m < 10, 0 < m → Nat.digitChar m ≠ '0' := by decide
      exact ⟨_,[],Nat.toDigits_of_lt_base small,single n small positive⟩
    · obtain ⟨c,rest,front,nonzero⟩ := ih (n / 10) (by omega) (by omega)
      refine ⟨c,rest ++ [Nat.digitChar (n % 10)],?_,nonzero⟩
      rw [decimal,Nat.toDigits_of_base_le (by decide) (by omega)]
      change decimal (n / 10) ++ _ = _
      rw [front,List.cons_append]

section
variable {rest : Text}

theorem Stops.head {c : Char} (stops : Stops (c :: rest)) : c = ',' ∨ c = ']' ∨ c = '\x7d' := stops c rfl

theorem digits_stops (t : Text) (stops : Stops rest) : digits (t ++ rest) = ((digits t).1,(digits t).2 ++ rest) := by
  induction t with
  | nil =>
    cases rest with
    | nil => rfl
    | cons c rest => rcases stops.head with rfl | rfl | rfl <;> rfl
  | cons c t ih =>
    have whole : ∀ u, digits (c :: u) = if c.isDigit then (c :: (digits u).1,(digits u).2) else ([],c :: u) := by
      intro u
      simp only [digits,List.takeWhile_cons,List.dropWhile_cons]
      split_ifs <;> rfl
    rw [List.cons_append,whole,whole,ih]
    split_ifs <;> rfl

theorem integerPart_stops (t : Text) (stops : Stops rest) :
    integerPart (t ++ rest) = (integerPart t).map fun read => (read.1,read.2 ++ rest) := by
  cases t with
  | nil =>
    cases rest with
    | nil => rfl
    | cons c rest => rcases stops.head with rfl | rfl | rfl <;> rfl
  | cons c t =>
    by_cases zero : c = '0'
    · subst zero
      rfl
    · have read : ∀ u, integerPart (c :: u) = if c.isDigit then some (digits (c :: u)) else none := by
        intro u
        rw [integerPart]
        exact zero
      rw [List.cons_append,read,read,← List.cons_append,digits_stops _ stops]
      split_ifs <;> rfl

theorem fraction_stops (t : Text) (stops : Stops rest) :
    fraction (t ++ rest) = ((fraction t).1,(fraction t).2 ++ rest) := by
  cases t with
  | nil =>
    cases rest with
    | nil => rfl
    | cons c rest => rcases stops.head with rfl | rfl | rfl <;> rfl
  | cons c t =>
    by_cases point : c = '.'
    · subst point
      simp only [List.cons_append,fraction,digits_stops t stops]
      split_ifs <;> rfl
    · have whole : ∀ u, fraction (c :: u) = ([],c :: u) := by
        intro u
        rw [fraction]
        rintro _ same
        exact point (List.cons.inj same).1
      rw [List.cons_append,whole,whole]
      rfl

theorem exponentSign_stops (t : Text) (stops : Stops rest) :
    exponentSign (t ++ rest) = ((exponentSign t).1,(exponentSign t).2 ++ rest) := by
  cases t with
  | nil =>
    cases rest with
    | nil => rfl
    | cons c rest => rcases stops.head with rfl | rfl | rfl <;> rfl
  | cons c t =>
    rw [List.cons_append]
    unfold exponentSign
    split <;> simp_all

theorem exponent_stops (t : Text) (stops : Stops rest) :
    exponent (t ++ rest) = ((exponent t).1,(exponent t).2 ++ rest) := by
  cases t with
  | nil =>
    cases rest with
    | nil => rfl
    | cons c rest =>
      have other : ¬ (c = 'e' ∨ c = 'E') := by rcases stops.head with rfl | rfl | rfl <;> decide
      simp [exponent,other]
  | cons c t =>
    simp only [List.cons_append,exponent,exponentSign_stops t stops,digits_stops _ stops]
    split_ifs <;> rfl

theorem minus_stops (t : Text) (stops : Stops rest) : minus (t ++ rest) = ((minus t).1,(minus t).2 ++ rest) := by
  cases t with
  | nil =>
    cases rest with
    | nil => rfl
    | cons c rest => rcases stops.head with rfl | rfl | rfl <;> rfl
  | cons c t =>
    rw [List.cons_append]
    unfold minus
    split <;> simp_all

/-- What stands behind a numeral changes nothing about it. -/
theorem matchNumber_stops (floatOf : Text → PyFloat) (t : Text) (stops : Stops rest) :
    matchNumber floatOf (t ++ rest) = (matchNumber floatOf t).map fun scanned => (scanned.1,scanned.2 ++ rest) := by
  simp only [matchNumber,minus_stops t stops,integerPart_stops _ stops]
  cases integerPart (minus t).2 with
  | none => rfl
  | some read =>
    obtain ⟨whole,behind⟩ := read
    simp only [Option.map_some,fraction_stops _ stops,exponent_stops _ stops]
    split_ifs
    · rw [map_map]
    · rfl
    · rfl

end

theorem integerPart_decimal (n : Nat) : integerPart (decimal n) = some (decimal n,[]) := by
  by_cases positive : 0 < n
  · obtain ⟨c,ds,written,nonzero⟩ := decimal_head positive
    have all : ∀ d ∈ c :: ds, d.isDigit = true := by
      intro d inside
      exact decimal_digits (n := n) (written ▸ inside)
    rw [written,integerPart,if_pos (all c List.mem_cons_self)]
    · rw [digits,List.takeWhile_eq_self_iff.mpr all,List.dropWhile_eq_nil_iff.mpr all]
    · exact nonzero
  · obtain rfl : n = 0 := by omega
    rfl

theorem minus_decimal (n : Nat) : minus (decimal n) = (false,decimal n) := by
  cases written : decimal n with
  | nil => exact absurd written (decimal_ne_nil n)
  | cons c ds =>
    have digit : c.isDigit = true := decimal_digits (n := n) (by rw [written]; exact List.mem_cons_self)
    rw [minus]
    rintro _ same
    have head := (List.cons.inj same).1
    subst head
    cases digit

theorem intOfDigits_decimal (negative : Bool) {n : Nat} (fits : (decimal n).length ≤ maxStrDigits) :
    intOfDigits negative (decimal n) = .ok (if negative then -(n : Int) else n) := by
  have read : Nat.ofDigitChars 10 (decimal n) 0 = n := Nat.ofDigitChars_ten_toDigits
  rw [intOfDigits,if_neg (by omega)]
  simp only [read]

/-- An integer is read as the integer it was written for. -/
theorem matchNumber_decimalInt (floatOf : Text → PyFloat) {n : Int} (fits : (decimal n.natAbs).length ≤ maxStrDigits) :
    matchNumber floatOf (decimalInt n) = .ok (.int n,[]) := by
  have ends : fraction [] = ([],[]) ∧ exponent [] = ([],[]) := ⟨rfl,rfl⟩
  cases n with
  | ofNat n =>
    simp only [decimalInt,matchNumber,minus_decimal,integerPart_decimal n,ends,and_self,↓reduceIte]
    rw [intOfDigits_decimal false (n := n) fits]
    rfl
  | negSucc n =>
    have signed : minus ('-' :: decimal (n + 1)) = (true,decimal (n + 1)) := rfl
    simp only [decimalInt,matchNumber,signed,integerPart_decimal (n + 1),ends,and_self,↓reduceIte]
    rw [intOfDigits_decimal true (n := n + 1) fits]
    rfl

/-- A numeral begins with a digit, or with a minus sign and a digit. -/
theorem numeral_front {floatOf : Text → PyFloat} {t : Text} {found : Json × Text} (read : matchNumber floatOf t = .ok found) :
    ∃ c u, c.isDigit = true ∧ (t = c :: u ∨ t = '-' :: c :: u) := by
  have signed : t = (minus t).2 ∨ t = '-' :: (minus t).2 := by
    unfold minus
    split
    · exact .inr rfl
    · exact .inl rfl
  simp only [matchNumber] at read
  split at read
  · cases read
  · rename_i whole behind part
    unfold integerPart at part
    split at part
    · rename_i rest same
      rw [same] at signed
      exact ⟨'0',rest,rfl,signed⟩
    · rename_i c rest _ same
      rw [same] at signed
      split_ifs at part with digit
      exact ⟨c,rest,digit,signed⟩
    · cases part

/-- The text begins with a character that is neither whitespace nor a closing bracket. -/
def Begins (t : Text) : Prop := ∃ c rest, t = c :: rest ∧ isSpace c = false ∧ c ≠ ']' ∧ c ≠ '\x7d'

/-- The scanner reads the text as the value, whatever ends it. -/
def ReadAs {β : Type} (scan : Text → Except PyException (β × Text)) (t : Text) (b : β) : Prop :=
  Begins t ∧ ∀ rest, Stops rest → scan (t ++ rest) = .ok (b,rest)

theorem skip_begins {t rest : Text} (begins : Begins t) : skip (t ++ rest) = t ++ rest := by
  obtain ⟨c,t,rfl,space,_⟩ := begins
  rw [List.cons_append,skip,List.dropWhile_cons_of_neg (by simp [space])]

/-- Whitespace that may stand behind a comma or a colon. -/
def Blank (gap : Text) : Prop := ∀ c ∈ gap, isSpace c = true

instance (gap : Text) : Decidable (Blank gap) := List.decidableBAll _ gap

theorem blank_space : Blank [' '] := by decide

theorem skip_gap {gap t rest : Text} (blank : Blank gap) (begins : Begins t) : skip (gap ++ (t ++ rest)) = t ++ rest := by
  rw [skip,List.dropWhile_append_of_pos blank]
  exact skip_begins begins

/-- The parts with a comma and the gap between neighbours. -/
def spaced (gap : Text) (parts : List Text) : Text := (',' :: gap).intercalate parts

theorem spaced_cons (gap first next : Text) (rest : List Text) :
    spaced gap (first :: next :: rest) = first ++ ',' :: (gap ++ spaced gap (next :: rest)) := by
  rw [spaced,List.intercalate_cons_cons,List.append_assoc]
  rfl

section
variable {β : Type} {element : Text → Except PyException (β × Text)} {close : Char} {gap : Text} {parts : List Text}
  {found : List β}

theorem begins_spaced (each : List.Forall₂ (ReadAs element) parts found) (some : parts ≠ []) : Begins (spaced gap parts) := by
  cases each with
  | nil => exact absurd rfl some
  | @cons first b others _ head tail =>
    obtain ⟨⟨c,t,rfl,begins⟩,_⟩ := head
    cases others with
    | nil => exact ⟨c,t,List.intercalate_singleton,begins⟩
    | cons next others =>
      rw [spaced_cons]
      exact ⟨c,_,rfl,begins⟩

theorem elements_spaced (shrinks : Shrinks element) (closes : close = ']' ∨ close = '\x7d') (blank : Blank gap)
    (each : List.Forall₂ (ReadAs element) parts found) (some : parts ≠ []) (rest : Text) :
    elements element close ((spaced gap parts ++ close :: rest).length + 1) (spaced gap parts ++ close :: rest) =
      .ok (found,rest) := by
  have ends : Stops (close :: rest) := by
    rintro _ ⟨⟩
    exact closes.elim (fun array => .inr (.inl array)) fun object => .inr (.inr object)
  have unspaced : skip (close :: rest) = close :: rest := by rcases closes with rfl | rfl <;> rfl
  have differs : ',' ≠ close := by rcases closes with rfl | rfl <;> decide
  induction each with
  | nil => exact absurd rfl some
  | @cons first b others _ head tail ih =>
    obtain ⟨_,reads⟩ := head
    cases others with
    | nil =>
      cases tail
      have only : spaced gap [first] = first := List.intercalate_singleton
      rw [only,elements,reads _ ends,ok_bind]
      simp only [unspaced,↓reduceIte]
    | cons next others =>
      have comma : ∀ t, Stops (',' :: t) := by
        rintro t _ ⟨⟩
        exact .inl rfl
      have here : ∀ t, skip (',' :: t) = ',' :: t := fun _ => rfl
      have space : skip (gap ++ (spaced gap (next :: others) ++ close :: rest)) =
          spaced gap (next :: others) ++ close :: rest := skip_gap blank (begins_spaced tail (by simp))
      rw [spaced_cons,List.append_assoc,List.cons_append,List.append_assoc,elements,reads _ (comma _),ok_bind]
      simp only [here,space,differs,↓reduceIte]
      rw [elements_fuel shrinks (by simp; omega) (Nat.lt_succ_self _),ih (by simp)]
      rfl

/-- What stands between the brackets of a container. -/
theorem enclosed_spaced (shrinks : Shrinks element) (closes : close = ']' ∨ close = '\x7d') (blank : Blank gap)
    (each : List.Forall₂ (ReadAs element) parts found) (rest : Text) :
    enclosed element close (spaced gap parts ++ close :: rest) = .ok (found,rest) := by
  by_cases none : parts = []
  · subst none
    cases each
    have unspaced : skip (close :: rest) = close :: rest := by rcases closes with rfl | rfl <;> rfl
    change enclosed element close (close :: rest) = _
    simp only [enclosed,unspaced,↓reduceIte]
  · have begins : Begins (spaced gap parts) := begins_spaced each none
    have all := elements_spaced shrinks closes blank each none rest
    unfold enclosed
    rw [skip_begins begins]
    obtain ⟨c,t,front,_,array,object⟩ := begins
    rw [front,List.cons_append] at all ⊢
    have opened : c ≠ close := by rcases closes with rfl | rfl <;> assumption
    simp only [opened,↓reduceIte]
    exact all

end

/-! ### Values come back -/

/-- The value survives: no float, no split surrogates, integers that `str` writes, distinct
    keys and at most `depth` containers within each other. -/
def Restorable : Nat → Json → Prop
  | _, .float _ => False
  | _, .int n => (decimal n.natAbs).length ≤ maxStrDigits
  | _, .str s => Unpaired s
  | depth + 1, .arr items => ∀ item ∈ items, Restorable depth item
  | depth + 1, .obj fields =>
    (fields.map Prod.fst).Nodup ∧ ∀ entry ∈ fields, Unpaired entry.1 ∧ Restorable depth entry.2
  | 0, .arr _ => False
  | 0, .obj _ => False
  | _, .null => True
  | _, .bool _ => True

@[simp] theorem restorable_int {depth : Nat} {n : Int} :
    Restorable depth (.int n) ↔ (decimal n.natAbs).length ≤ maxStrDigits := by
  cases depth <;> exact Iff.rfl

@[simp] theorem restorable_str {depth : Nat} {s : PyStr} : Restorable depth (.str s) ↔ Unpaired s := by
  cases depth <;> exact Iff.rfl

/-- A dict built from entries with distinct keys lists them as they are. -/
theorem foldl_setItem {fields before : List (PyStr × Json)} (distinct : ((before ++ fields).map Prod.fst).Nodup) :
    fields.foldl setItem before = before ++ fields := by
  have new : ∀ {before : List (PyStr × Json)} {entry : PyStr × Json}, entry.1 ∉ before.map Prod.fst →
      setItem before entry = before ++ [entry] := by
    intro before entry absent
    induction before with
    | nil => rfl
    | cons field rest ih =>
      rw [List.map_cons,List.mem_cons,not_or] at absent
      rw [setItem,if_neg (Ne.symm absent.1),ih absent.2,List.cons_append]
  induction fields generalizing before with
  | nil => exact (List.append_nil before).symm
  | cons entry rest ih =>
    have absent : entry.1 ∉ before.map Prod.fst := by
      rw [List.map_append,List.map_cons] at distinct
      exact fun inside => List.disjoint_of_nodup_append distinct inside List.mem_cons_self
    rw [List.foldl_cons,new absent,ih (by rwa [List.append_assoc]),List.append_assoc]
    rfl

section
variable {floatOf : Text → PyFloat} {rt : Runtime} {inner : Option (Text → Except PyException (Json × Text))}

theorem readAs_literal {t : Text} {s : PyStr} (literal : Literal t s) : ReadAs (scanValue floatOf inner) t (.str s) := by
  obtain ⟨t,rfl,reads⟩ := literal
  refine ⟨⟨'"',_,rfl,by decide⟩,fun rest _ => ?_⟩
  rw [List.cons_append]
  simp only [scanValue,reads]
  rfl

theorem readAs_word {word : Text} {value : Json} (listed : (word,value) ∈ constants.take 3) :
    ReadAs (scanValue floatOf inner) word value := by
  have words : constants.take 3 = [("null".toList,.null),("true".toList,.bool true),("false".toList,.bool false)] := rfl
  simp only [words,List.mem_cons,Prod.mk.injEq,List.not_mem_nil,or_false] at listed
  rcases listed with ⟨rfl,rfl⟩ | ⟨rfl,rfl⟩ | ⟨rfl,rfl⟩ <;> exact ⟨⟨_,_,rfl,by decide⟩,fun rest _ => rfl⟩

/-- No named constant begins with a digit, nor with a minus sign and a digit. -/
theorem matchConstant_numeral {t : Text} {c : Char} (digit : c.isDigit = true) :
    matchConstant (c :: t) = none ∧ matchConstant ('-' :: c :: t) = none := by
  simp only [matchConstant,constants,Option.map_eq_none_iff,List.find?_eq_none,List.mem_cons,List.not_mem_nil,or_false,
    forall_eq_or_imp,forall_eq,List.isPrefixOf_iff_prefix]
  have other : ∀ d : Char, d.isDigit = false → d ≠ c := by
    rintro d letter rfl
    rw [digit] at letter
    cases letter
  simp [other]

/-- A text that is read as a number is read so as a value. -/
theorem readAs_numeral {t : Text} {v : Json} (read : matchNumber floatOf t = .ok (v,[])) :
    ReadAs (scanValue floatOf inner) t v := by
  obtain ⟨c,u,digit,front⟩ := numeral_front read
  have other : ∀ d : Char, d.isDigit = false → c ≠ d := by
    rintro d letter rfl
    rw [digit] at letter
    cases letter
  -- Neither a string nor a container nor a constant begins as the numeral does.
  have numeral : Begins t ∧ ∀ rest, scanValue floatOf inner (t ++ rest) = matchNumber floatOf (t ++ rest) := by
    rcases front with rfl | rfl
    · refine ⟨⟨c,u,rfl,?_,other _ rfl,other _ rfl⟩,fun rest => ?_⟩
      · simp [isSpace,other]
      · rw [List.cons_append,scanValue]
        · rw [(matchConstant_numeral digit).1]
        · exact fun _ same => other _ rfl (List.cons.inj same).1
        · exact fun _ same => other _ rfl (List.cons.inj same).1
        · exact fun _ same => other _ rfl (List.cons.inj same).1
    · refine ⟨⟨'-',c :: u,rfl,by decide⟩,fun rest => ?_⟩
      rw [List.cons_append,List.cons_append,scanValue]
      · rw [(matchConstant_numeral digit).2]
      all_goals simp
  refine ⟨numeral.1,fun rest stops => ?_⟩
  rw [numeral.2,matchNumber_stops floatOf t stops,read]
  rfl

theorem readAs_member {value : Text → Except PyException (Json × Text)} {name : Text} {key : PyStr} {t : Text} {v : Json}
    (gap : Text) (literal : Literal name key) (blank : Blank gap) (reads : ReadAs value t v) :
    ReadAs (member value) (name ++ ':' :: (gap ++ t)) (key,v) := by
  obtain ⟨name,rfl,named⟩ := literal
  refine ⟨⟨'"',_,rfl,by decide⟩,fun rest stops => ?_⟩
  have colon : ∀ u, skip (':' :: u) = ':' :: u := fun _ => rfl
  have space : skip (gap ++ (t ++ rest)) = t ++ rest := skip_gap blank reads.1
  rw [List.cons_append,List.cons_append,List.append_assoc,List.cons_append,List.append_assoc,member,named,ok_bind]
  simp only [colon,space,reads.2 rest stops]
  rfl

section
variable {value : Text → Except PyException (Json × Text)} {parts : List Text}

theorem readAs_arr {items : List Json} (gap : Text) (shrinks : Shrinks value) (blank : Blank gap)
    (each : List.Forall₂ (ReadAs value) parts items) :
    ReadAs (scanValue floatOf (some value)) ('[' :: (spaced gap parts ++ [']'])) (.arr items) := by
  refine ⟨⟨'[',_,rfl,by decide⟩,fun rest _ => ?_⟩
  have all := enclosed_spaced shrinks (.inl rfl) blank each rest
  rw [List.cons_append,List.append_assoc,List.singleton_append]
  simp only [scanValue,all]
  rfl

theorem readAs_obj {fields : List (PyStr × Json)} (gap : Text) (shrinks : Shrinks value) (blank : Blank gap)
    (each : List.Forall₂ (ReadAs (member value)) parts fields) (distinct : (fields.map Prod.fst).Nodup) :
    ReadAs (scanValue floatOf (some value)) ('\x7b' :: (spaced gap parts ++ ['\x7d'])) (.obj fields) := by
  refine ⟨⟨'\x7b',_,rfl,by decide⟩,fun rest _ => ?_⟩
  have all := enclosed_spaced (member_shrinks shrinks) (.inr rfl) blank each rest
  have built : fields.foldl setItem [] = fields := foldl_setItem distinct
  rw [List.cons_append,List.append_assoc,List.singleton_append]
  simp only [scanValue,all,Except.map,built]

theorem forall₂_dumpItems {items : List Json} (each : ∀ item ∈ items, ReadAs value (dumpText rt item) item) :
    List.Forall₂ (ReadAs value) (dumpItems rt items) items := by
  induction items with
  | nil => exact .nil
  | cons item rest ih =>
    obtain ⟨head,tail⟩ := List.forall_mem_cons.mp each
    rw [dumpItems]
    exact .cons head (ih tail)

theorem forall₂_dumpFields {fields : List (PyStr × Json)}
    (each : ∀ entry ∈ fields, Unpaired entry.1 ∧ ReadAs value (dumpText rt entry.2) entry.2) :
    List.Forall₂ (ReadAs (member value)) (dumpFields rt fields) fields := by
  induction fields with
  | nil => exact .nil
  | cons entry rest ih =>
    obtain ⟨head,tail⟩ := List.forall_mem_cons.mp each
    rw [dumpFields]
    exact .cons (readAs_member [' '] (literal_asciiQuoted head.1) blank_space head.2) (ih tail)

end

theorem readAs_dumpText {depth : Nat} {value : Json} (restorable : Restorable depth value) :
    ReadAs (scanOnce floatOf depth) (dumpText rt value) value := by
  -- What is no container is read alike at every depth.
  have leaf : ∀ {inner value}, Restorable 0 value → ReadAs (scanValue floatOf inner) (dumpText rt value) value := by
    intro inner value restorable
    cases value with
    | null =>
      rw [dumpText]
      exact readAs_word (by simp [constants])
    | bool b => cases b <;> (rw [dumpText]; exact readAs_word (by simp [constants]))
    | int n => exact readAs_numeral (matchNumber_decimalInt floatOf restorable)
    | str s => exact readAs_literal (literal_asciiQuoted restorable)
    | _ => exact restorable.elim
  induction depth generalizing value with
  | zero => exact leaf restorable
  | succ depth ih =>
    cases value with
    | arr items =>
      exact readAs_arr [' '] (scanOnce_shrinks floatOf depth) blank_space
        (forall₂_dumpItems fun item inside => ih (restorable item inside))
    | obj fields =>
      obtain ⟨distinct,each⟩ := restorable
      refine readAs_obj [' '] (scanOnce_shrinks floatOf depth) blank_space
        (forall₂_dumpFields fun entry inside => ?_) distinct
      exact ⟨(each entry inside).1,ih (each entry inside).2⟩
    | float x => exact restorable.elim
    | _ => exact leaf restorable

end

/-! ### The round trip -/

theorem Restorable.not_oversized {depth : Nat} {value : Json} (restorable : Restorable depth value) :
    oversized value = false := by
  induction depth generalizing value with
  | zero =>
    cases value with
    | int n => exact decide_eq_false (Nat.not_lt.mpr restorable)
    | arr items => exact restorable.elim
    | obj fields => exact restorable.elim
    | _ => rfl
  | succ depth ih =>
    cases value with
    | int n => exact decide_eq_false (Nat.not_lt.mpr restorable)
    | arr items => exact oversizedItems_eq_false fun item inside => ih (restorable item inside)
    | obj fields => exact oversizedFields_eq_false fun entry inside => ih (restorable.2 entry inside).2
    | _ => rfl

/-- A restorable value can be dumped, and `json.loads` gives it back. -/
theorem loads_dump (floatOf : Text → PyFloat) (rt : Runtime) {depth : Nat} {value : Json}
    (restorable : Restorable depth value) :
    ∃ t, dump rt value = .ok t ∧ loads floatOf depth t = .ok value := by
  refine ⟨dumpText rt value,dump_eq_ok.mpr ⟨restorable.not_oversized,rfl⟩,?_⟩
  have read : ReadAs (scanOnce floatOf depth) (dumpText rt value) value := readAs_dumpText restorable
  obtain ⟨begins,reads⟩ := read
  have scanned := reads [] (by simp [Stops])
  have unspaced : skip (dumpText rt value ++ []) = dumpText rt value ++ [] := skip_begins begins
  rw [List.append_nil] at scanned unspaced
  have noMark : (dumpText rt value).head? ≠ some '\ufeff' := by
    intro mark
    have bound := (printable_dumpText rt value _ (List.mem_of_head? mark)).2
    exact absurd bound (by decide)
  rw [loads,if_neg noMark,unspaced,scanned,ok_bind]
  rfl

end PrivacyGateway.JsonRoundTrip
