import PrivacyGateway.JsonAccess

/-!
`json.loads`, character by character: string literals with their escapes, numbers,
the named constants, arrays and objects. Two things come from outside: the float a
numeral stands for (`floatOf`) and how many containers may be open at once before the
interpreter raises `RecursionError` (`depth`). Nothing but that and `ValueError` is
raised (`loads_only`), and a scanner always uses some of its text (`scanOnce_shrinks`),
so the loops never run out of it.
-/
namespace PrivacyGateway.JsonLoads
open PrivacyGateway.Strings PrivacyGateway.Errors PrivacyGateway.StdLib PrivacyGateway.JsonText
open PrivacyGateway.JsonAccess PrivacyGateway.Raising

def isSpace (c : Char) : Bool := c = ' ' || c = '\t' || c = '\n' || c = '\r'

/-- The text without the whitespace it begins with. -/
def skip (t : Text) : Text := t.dropWhile isSpace

/-- `BACKSLASH` -/
def backslash : Char → Option Char
  | '"' => some '"'
  | '\\' => some '\\'
  | '/' => some '/'
  | 'b' => some '\x08'
  | 'f' => some '\x0c'
  | 'n' => some '\n'
  | 'r' => some '\r'
  | 't' => some '\t'
  | _ => none

def hexValue (c : Char) : Option Nat :=
  if c.isDigit then some (c.toNat - 48)
  else if 'a' ≤ c ∧ c ≤ 'f' then some (c.toNat - 87)
  else if 'A' ≤ c ∧ c ≤ 'F' then some (c.toNat - 55)
  else none

/-- The number that four hexadecimal digits write. -/
def hexCode (a b c d : Char) : Option Nat := do
  let a ← hexValue a
  let b ← hexValue b
  let c ← hexValue c
  let d ← hexValue d
  return ((a * 16 + b) * 16 + c) * 16 + d

/-- The character with a code point below 65536. -/
def charOfCode (n : Nat) : PyChar :=
  if inside : n - 0xD800 < 2048 ∧ 0xD800 ≤ n then .surrogate ⟨n - 0xD800,inside.1⟩ else .scalar (Char.ofNat n)

/-- The characters up to the closing quote, each `\u` escape one by one. -/
def scanChars : Text → Except PyException (PyStr × Text)
  | '"' :: rest => .ok ([],rest)
  | '\\' :: 'u' :: a :: b :: c :: d :: rest =>
    match hexCode a b c d with
    | some n => (scanChars rest).map fun scanned => (charOfCode n :: scanned.1,scanned.2)
    | none => .error .valueError
  | '\\' :: c :: rest =>
    match backslash c with
    | some c => (scanChars rest).map fun scanned => (.scalar c :: scanned.1,scanned.2)
    | none => .error .valueError
  | c :: rest =>
    -- A control character, or a backslash at the very end.
    if c.toNat < 32 ∨ c = '\\' then .error .valueError
    else (scanChars rest).map fun scanned => (.scalar c :: scanned.1,scanned.2)
  | [] => .error .valueError

/-- A high surrogate and the low one behind it are one character. -/
def joinSurrogates : PyStr → PyStr
  | .surrogate high :: .surrogate low :: rest =>
    if high.val < 1024 ∧ 1024 ≤ low.val then
      .scalar (Char.ofNat (65536 + high.val * 1024 + (low.val - 1024))) :: joinSurrogates rest
    else .surrogate high :: joinSurrogates (.surrogate low :: rest)
  | c :: rest => c :: joinSurrogates rest
  | [] => []

/-- `scanstring` behind the opening quote. -/
def scanString (t : Text) : Except PyException (PyStr × Text) := (scanChars t).map fun scanned => (joinSurrogates scanned.1,scanned.2)

/-! ### Numbers and constants -/

/-- The digits a text begins with, and what comes behind them. -/
def digits (t : Text) : Text × Text := (t.takeWhile Char.isDigit,t.dropWhile Char.isDigit)

/-- The integer part without its sign: `0`, or digits that do not begin with it. -/
def integerPart : Text → Option (Text × Text)
  | '0' :: rest => some (['0'],rest)
  | c :: rest => if c.isDigit then some (digits (c :: rest)) else none
  | [] => none

/-- A point with digits behind it, if there is one. -/
def fraction : Text → Text × Text
  | '.' :: rest => if (digits rest).1 = [] then ([],'.' :: rest) else ('.' :: (digits rest).1,(digits rest).2)
  | t => ([],t)

def exponentSign : Text → Text × Text
  | '-' :: rest => (['-'],rest)
  | '+' :: rest => (['+'],rest)
  | t => ([],t)

/-- An exponent, if there is a whole one. -/
def exponent : Text → Text × Text
  | c :: rest =>
    let (sign,behind) := exponentSign rest
    if (c = 'e' ∨ c = 'E') ∧ (digits behind).1 ≠ [] then (c :: (sign ++ (digits behind).1),(digits behind).2)
    else ([],c :: rest)
  | [] => ([],[])

/-- `int(text)` of digits. -/
def intOfDigits (negative : Bool) (text : Text) : Except PyException Int :=
  if maxStrDigits < text.length then .error .valueError
  else
    let magnitude : Int := Nat.ofDigitChars 10 text 0
    .ok (if negative then -magnitude else magnitude)

def constants : List (Text × Json) :=
  [("null".toList,.null),("true".toList,.bool true),("false".toList,.bool false),("NaN".toList,.float .nan),
    ("Infinity".toList,.float (.infinite false)),("-Infinity".toList,.float (.infinite true))]

def matchConstant (t : Text) : Option (Json × Text) :=
  (constants.find? fun constant => constant.1.isPrefixOf t).map fun constant => (constant.2,t.drop constant.1.length)

/-- A minus sign, if there is one. -/
def minus : Text → Bool × Text
  | '-' :: rest => (true,rest)
  | t => (false,t)

section
variable (floatOf : Text → PyFloat)

/-- `_match_number` -/
def matchNumber (t : Text) : Except PyException (Json × Text) :=
  let (negative,unsigned) := minus t
  match integerPart unsigned with
  | none => .error .valueError
  | some (whole,behind) =>
    let (part,rest) := fraction behind
    let (power,rest) := exponent rest
    if part = [] ∧ power = [] then (intOfDigits negative whole).map fun n => (.int n,rest)
    else .ok (.float (floatOf ((if negative then ['-'] else []) ++ whole ++ part ++ power)),rest)

/-! ### Containers -/

/-- Elements between commas up to the closing bracket. -/
def elements {β : Type} (element : Text → Except PyException (β × Text)) (close : Char) : Nat → Text → Except PyException (List β × Text)
  | 0, _ => .error .valueError
  | fuel + 1, t => do
    let (first,behind) ← element t
    match skip behind with
    | [] => .error .valueError
    | c :: rest =>
      if c = close then .ok ([first],rest)
      else if c = ',' then (elements element close fuel (skip rest)).map fun scanned => (first :: scanned.1,scanned.2)
      else .error .valueError

/-- The loop of an array or an object behind its opening bracket. -/
def enclosed {β : Type} (element : Text → Except PyException (β × Text)) (close : Char) (t : Text) : Except PyException (List β × Text) :=
  match skip t with
  | [] => .error .valueError
  | c :: rest => if c = close then .ok ([],rest) else elements element close (t.length + 1) (c :: rest)

/-- A key, a colon and a value. -/
def member (value : Text → Except PyException (Json × Text)) : Text → Except PyException ((PyStr × Json) × Text)
  | '"' :: t => do
    let (key,behind) ← scanString t
    match skip behind with
    | ':' :: rest => (value (skip rest)).map fun scanned => ((key,scanned.1),scanned.2)
    | _ => .error .valueError
  | _ => .error .valueError

/-- `fields[key] = value` -/
def setItem (fields : List (PyStr × Json)) (entry : PyStr × Json) : List (PyStr × Json) :=
  match fields with
  | [] => [entry]
  | field :: rest => if field.1 = entry.1 then entry :: rest else field :: setItem rest entry

/-- `scan_once`; `inner` scans what a container holds, unless too many are open. -/
def scanValue (inner : Option (Text → Except PyException (Json × Text))) (t : Text) : Except PyException (Json × Text) :=
  match t with
  | '"' :: rest => (scanString rest).map fun scanned => (.str scanned.1,scanned.2)
  | '[' :: rest =>
    match inner with
    | none => .error .runtimeError
    | some value => (enclosed value ']' rest).map fun scanned => (.arr scanned.1,scanned.2)
  | '\x7b' :: rest =>
    match inner with
    | none => .error .runtimeError
    | some value =>
      (enclosed (member value) '\x7d' rest).map fun scanned => (.obj (scanned.1.foldl setItem []),scanned.2)
  | _ =>
    match matchConstant t with
    | some found => .ok found
    | none => matchNumber floatOf t

def scanOnce : Nat → Text → Except PyException (Json × Text)
  | 0, t => scanValue floatOf none t
  | depth + 1, t => scanValue floatOf (some (scanOnce depth)) t

/-- `json.loads(t)` -/
def loads (depth : Nat) (t : Text) : Except PyException Json :=
  if t.head? = some '\ufeff' then .error .valueError
  else do
    let (value,rest) ← scanOnce floatOf depth (skip t)
    if skip rest = [] then .ok value else .error .valueError

end

example : loads (fun _ => .nan) 2 "\x7b\"a\": 1, \"a\": 2 \x7d".toList = .ok (.obj [field "a" (.int 2)]) := by rfl

example : loads (fun _ => .nan) 1 "\x7b\"a\":1,\"a\":2\x7d".toList = .ok (.obj [field "a" (.int 2)]) := by rfl

example : loads (fun _ => .nan) 1 "[1, [".toList = .error .runtimeError := by rfl

/-! ### A scanner uses some of its text -/

/-- The text behind what is scanned is shorter. -/
def Shrinks {β : Type} (scan : Text → Except PyException (β × Text)) : Prop :=
  ∀ {t b rest}, scan t = .ok (b,rest) → rest.length < t.length

/-- Changing what is scanned leaves the text behind it. -/
theorem behind_of_map {β γ : Type} {m : Except PyException (β × Text)} {change : β × Text → γ × Text} {c : γ} {rest : Text}
    (made : m.map change = .ok (c,rest)) (keeps : ∀ scanned, (change scanned).2 = scanned.2) : ∃ b, m = .ok (b,rest) := by
  obtain ⟨⟨b,behind⟩,scanned,same⟩ := map_eq_ok.mp made
  obtain rfl : rest = behind := (congrArg Prod.snd same).symm.trans (keeps (b,behind))
  exact ⟨b,scanned⟩

theorem skip_length (t : Text) : (skip t).length ≤ t.length := (List.dropWhile_suffix isSpace).length_le

theorem scanChars_shrinks : Shrinks scanChars := by
  intro t s rest scanned
  fun_induction scanChars t generalizing s rest with
  | case1 t =>
    cases scanned
    exact Nat.lt_succ_self _
  | case2 a b c d t n read ih =>
    obtain ⟨inner,made⟩ := behind_of_map scanned fun _ => rfl
    have := ih made
    simp only [List.length_cons]
    omega
  | case4 c t escaped c' letter ih =>
    obtain ⟨inner,made⟩ := behind_of_map scanned fun _ => rfl
    have := ih made
    simp only [List.length_cons]
    omega
  | case7 c t quote escape pair plain ih =>
    obtain ⟨inner,made⟩ := behind_of_map scanned fun _ => rfl
    have := ih made
    simp only [List.length_cons]
    omega
  | _ => cases scanned

theorem scanString_shrinks : Shrinks scanString := by
  intro t s rest scanned
  rw [scanString] at scanned
  obtain ⟨inner,made⟩ := behind_of_map scanned fun _ => rfl
  exact scanChars_shrinks made

theorem digits_length (t : Text) : (digits t).2.length ≤ t.length := (List.dropWhile_suffix Char.isDigit).length_le

theorem integerPart_length {t whole behind : Text} (read : integerPart t = some (whole,behind)) :
    behind.length < t.length := by
  unfold integerPart at read
  split at read
  · cases read
    exact Nat.lt_succ_self _
  · rename_i c rest _
    split_ifs at read with digit
    cases read
    rw [List.dropWhile_cons_of_pos digit,List.length_cons]
    exact Nat.lt_succ_of_le (digits_length rest)
  · cases read

theorem fraction_length (t : Text) : (fraction t).2.length ≤ t.length := by
  unfold fraction
  split
  · rename_i rest
    split_ifs
    · exact Nat.le_refl _
    · exact Nat.le_succ_of_le (digits_length rest)
  · exact Nat.le_refl _

theorem exponentSign_length (t : Text) : (exponentSign t).2.length ≤ t.length := by
  unfold exponentSign
  split <;> simp

theorem exponent_length (t : Text) : (exponent t).2.length ≤ t.length := by
  cases t with
  | nil => exact Nat.le_refl _
  | cons c rest =>
    have signed := exponentSign_length rest
    have read := digits_length (exponentSign rest).2
    simp only [exponent]
    split_ifs
    · simp only [List.length_cons]
      omega
    · exact Nat.le_refl _

theorem minus_length (t : Text) : (minus t).2.length ≤ t.length := by
  unfold minus
  split <;> simp

theorem matchConstant_shrinks {t rest : Text} {value : Json} (found : matchConstant t = some (value,rest)) :
    rest.length < t.length := by
  obtain ⟨⟨word,named⟩,constant,same⟩ := Option.map_eq_some_iff.mp found
  cases same
  have stands : word.isPrefixOf t = true := by simpa using List.find?_some constant
  have within := (List.isPrefixOf_iff_prefix.mp stands).length_le
  have long : ∀ entry ∈ constants, 0 < entry.1.length := by decide
  have used : 0 < word.length := long _ (List.mem_of_find?_eq_some constant)
  change (t.drop word.length).length < t.length
  rw [List.length_drop]
  omega

section
variable (floatOf : Text → PyFloat)

theorem matchNumber_shrinks : Shrinks (matchNumber floatOf) := by
  intro t value rest scanned
  have signed := minus_length t
  simp only [matchNumber] at scanned
  split at scanned
  · cases scanned
  · rename_i whole behind read
    have integer := integerPart_length read
    have part := fraction_length behind
    have power := exponent_length (fraction behind).2
    split at scanned
    · obtain ⟨n,_,same⟩ := map_eq_ok.mp scanned
      cases same
      omega
    · cases scanned
      omega

end

section
variable {β : Type} {element : Text → Except PyException (β × Text)} {close : Char}

theorem elements_shrinks (shrinks : Shrinks element) (fuel : Nat) : Shrinks (elements element close fuel) := by
  induction fuel with
  | zero =>
    intro t found rest scanned
    cases scanned
  | succ fuel ih =>
    intro t found rest scanned
    rw [elements] at scanned
    obtain ⟨⟨first,behind⟩,made,scanned⟩ := bind_eq_ok.mp scanned
    have used := shrinks made
    have spaces := skip_length behind
    dsimp only at scanned
    split at scanned
    · cases scanned
    · rename_i c after there
      rw [there,List.length_cons] at spaces
      split_ifs at scanned
      · cases scanned
        omega
      · obtain ⟨others,later⟩ := behind_of_map scanned fun _ => rfl
        have := ih later
        have := skip_length after
        omega

theorem enclosed_shrinks (shrinks : Shrinks element) : Shrinks (enclosed element close) := by
  intro t found rest scanned
  have spaces := skip_length t
  unfold enclosed at scanned
  split at scanned
  · cases scanned
  · rename_i c after there
    rw [there,List.length_cons] at spaces
    split_ifs at scanned
    · cases scanned
      omega
    · have := elements_shrinks shrinks _ scanned
      rw [List.length_cons] at this
      omega

/-- The loop ends before its fuel does: any amount beyond the length of the text is enough. -/
theorem elements_fuel (shrinks : Shrinks element) {t : Text} {fuel other : Nat} (enough : t.length < fuel)
    (also : t.length < other) : elements element close fuel t = elements element close other t := by
  induction fuel generalizing t other with
  | zero => exact absurd enough (Nat.not_lt_zero _)
  | succ fuel ih =>
    cases other with
    | zero => exact absurd also (Nat.not_lt_zero _)
    | succ other =>
      rw [elements,elements]
      cases made : element t with
      | error e => rfl
      | ok scanned =>
        obtain ⟨first,behind⟩ := scanned
        have used := shrinks made
        have spaces := skip_length behind
        simp only [ok_bind]
        cases there : skip behind with
        | nil => rfl
        | cons c rest =>
          have further := skip_length rest
          rw [there,List.length_cons] at spaces
          have others := @ih (skip rest) other (by omega) (by omega)
          simp only [others]

end

theorem member_shrinks {value : Text → Except PyException (Json × Text)} (shrinks : Shrinks value) :
    Shrinks (member value) := by
  intro t found rest scanned
  unfold member at scanned
  split at scanned
  · rename_i t
    obtain ⟨⟨key,behind⟩,made,scanned⟩ := bind_eq_ok.mp scanned
    have named := scanString_shrinks made
    have spaces := skip_length behind
    dsimp only at scanned
    split at scanned
    · rename_i after there
      obtain ⟨inner,later⟩ := behind_of_map scanned fun _ => rfl
      have valued := shrinks later
      have further := skip_length after
      rw [there,List.length_cons] at spaces
      rw [List.length_cons]
      omega
    · cases scanned
  · cases scanned

theorem scanValue_shrinks (floatOf : Text → PyFloat) {inner : Option (Text → Except PyException (Json × Text))}
    (shrinks : ∀ value ∈ inner, Shrinks value) : Shrinks (scanValue floatOf inner) := by
  intro t value rest scanned
  unfold scanValue at scanned
  split at scanned
  · obtain ⟨s,made⟩ := behind_of_map scanned fun _ => rfl
    exact Nat.lt_succ_of_lt (scanString_shrinks made)
  · split at scanned
    · cases scanned
    · obtain ⟨items,made⟩ := behind_of_map scanned fun _ => rfl
      exact Nat.lt_succ_of_lt (enclosed_shrinks (shrinks _ rfl) made)
  · split at scanned
    · cases scanned
    · obtain ⟨entries,made⟩ := behind_of_map scanned fun _ => rfl
      exact Nat.lt_succ_of_lt (enclosed_shrinks (member_shrinks (shrinks _ rfl)) made)
  · split at scanned
    · rename_i constant
      cases scanned
      exact matchConstant_shrinks constant
    · exact matchNumber_shrinks floatOf scanned

theorem scanOnce_shrinks (floatOf : Text → PyFloat) (depth : Nat) : Shrinks (scanOnce floatOf depth) := by
  induction depth with
  | zero => exact scanValue_shrinks floatOf (by simp)
  | succ depth ih =>
    refine scanValue_shrinks floatOf fun value same => ?_
    cases same
    exact ih

/-- `ValueError`, of which `JSONDecodeError` is one, or `RecursionError`. -/
def Refused (e : PyException) : Prop := e = .valueError ∨ e = .runtimeError

theorem scanChars_only (t : Text) : Only Refused (scanChars t) := by
  fun_induction scanChars t with
  | case1 => exact only_ok
  | case2 a b c d t n read ih => exact ih.map _
  | case4 c t escaped c' letter ih => exact ih.map _
  | case7 c t quote escape pair plain ih => exact ih.map _
  | _ => exact only_error (.inl rfl)

theorem matchNumber_only (floatOf : Text → PyFloat) (t : Text) : Only Refused (matchNumber floatOf t) := by
  have integers : ∀ negative text, Only Refused (intOfDigits negative text) := by
    intro negative text
    unfold intOfDigits
    split
    · exact only_error (.inl rfl)
    · exact only_ok
  simp only [matchNumber]
  split
  · exact only_error (.inl rfl)
  · split
    · exact (integers _ _).map _
    · exact only_ok

section
variable {β : Type} {element : Text → Except PyException (β × Text)} {close : Char}

theorem elements_only (only : ∀ t, Only Refused (element t)) (fuel : Nat) (t : Text) :
    Only Refused (elements element close fuel t) := by
  induction fuel generalizing t with
  | zero => exact only_error (.inl rfl)
  | succ fuel ih =>
    rw [elements]
    refine (only t).bind fun scanned _ => ?_
    split
    split
    · exact only_error (.inl rfl)
    · split_ifs
      · exact only_ok
      · exact (ih _).map _
      · exact only_error (.inl rfl)

theorem enclosed_only (only : ∀ t, Only Refused (element t)) (t : Text) : Only Refused (enclosed element close t) := by
  unfold enclosed
  split
  · exact only_error (.inl rfl)
  · split_ifs
    · exact only_ok
    · exact elements_only only _ _

end

theorem member_only {value : Text → Except PyException (Json × Text)} (only : ∀ t, Only Refused (value t)) (t : Text) :
    Only Refused (member value t) := by
  unfold member
  split
  · refine ((scanChars_only _).map _).bind fun scanned _ => ?_
    split
    split
    · exact (only _).map _
    · exact only_error (.inl rfl)
  · exact only_error (.inl rfl)

theorem scanValue_only (floatOf : Text → PyFloat) {inner : Option (Text → Except PyException (Json × Text))}
    (only : ∀ value ∈ inner, ∀ t, Only Refused (value t)) (t : Text) : Only Refused (scanValue floatOf inner t) := by
  unfold scanValue
  split
  · exact ((scanChars_only _).map _).map _
  · split
    · exact only_error (.inr rfl)
    · exact (enclosed_only (only _ rfl) _).map _
  · split
    · exact only_error (.inr rfl)
    · exact (enclosed_only (member_only (only _ rfl)) _).map _
  · split
    · exact only_ok
    · exact matchNumber_only floatOf t

theorem scanOnce_only (floatOf : Text → PyFloat) (depth : Nat) (t : Text) : Only Refused (scanOnce floatOf depth t) := by
  induction depth generalizing t with
  | zero => exact scanValue_only floatOf (by simp) t
  | succ depth ih =>
    refine scanValue_only floatOf (fun value same => ?_) t
    cases same
    exact ih

/-- Whatever the text is, `json.loads` returns a value or raises one of two exceptions. -/
theorem loads_only (floatOf : Text → PyFloat) (depth : Nat) (t : Text) : Only Refused (loads floatOf depth t) := by
  unfold loads
  split
  · exact only_error (.inl rfl)
  · refine (scanOnce_only floatOf depth _).bind fun scanned _ => ?_
    split
    split
    · exact only_ok
    · exact only_error (.inl rfl)

end PrivacyGateway.JsonLoads
