import Mathlib.Data.List.Basic
import Mathlib.Data.List.Lex
import Mathlib.Order.Basic
import Mathlib.Tactic

/-!
Strings as the gateway handles them. A Python `str` is a sequence of code points
and may hold lone surrogates, which a JSON `\ud800` escape produces and which
UTF-8 cannot encode (`PyStr`). What UTF-8 can encode, SQLite can store and a hash
can read is a sequence of Unicode scalar values (`Text`); a text stands for its
UTF-8 bytes, which determine it.
-/
namespace PrivacyGateway.Strings

/-- One character of a Python string: a Unicode scalar value, or the lone
    surrogate with code point `0xD800 + low`. -/
inductive PyChar where
  | scalar (c : Char)
  | surrogate (low : Fin 2048)
  deriving DecidableEq, Repr

/-- A Python `str`. -/
abbrev PyStr := List PyChar
instance : LawfulBEq PyStr := inferInstanceAs (LawfulBEq (List PyChar))

/-- A string that UTF-8 can encode, standing for its bytes. -/
abbrev Text := List Char

/-- The code point, by which Python orders characters. -/
def PyChar.code : PyChar → Nat
  | .scalar c => c.toNat
  | .surrogate low => 0xD800 + low.val

theorem code_injective : Function.Injective PyChar.code := by
  intro a b same
  have gap : ∀ (c : Char) (low : Fin 2048), c.toNat ≠ 0xD800 + low.val := by
    intro c low equal
    have range := c.valid
    simp only [UInt32.isValidChar, Nat.isValidChar] at range
    have := low.isLt
    change c.val.toNat = _ at equal
    omega
  cases a with
  | scalar c =>
    cases b with
    | scalar d => exact congrArg _ (Char.toNat_inj.mp same)
    | surrogate low => exact absurd same (gap c low)
  | surrogate low =>
    cases b with
    | scalar d => exact absurd same.symm (gap d low)
    | surrogate high => exact congrArg _ (Fin.ext (by simpa [PyChar.code] using same))

instance : LinearOrder PyChar where
  le a b := a.code ≤ b.code
  le_refl a := Nat.le_refl _
  le_trans _ _ _ := Nat.le_trans
  le_antisymm _ _ ab ba := code_injective (Nat.le_antisymm ab ba)
  le_total _ _ := Nat.le_total _ _
  toDecidableLE a b := inferInstanceAs (Decidable (a.code ≤ b.code))
  toDecidableEq := inferInstance

/-- A text as the `str` it decodes to. -/
def str (t : Text) : PyStr := t.map .scalar
/-- The `str` of a literal of the source. -/
def lit (s : String) : PyStr := str s.toList

@[simp] theorem str_nil : str [] = [] := rfl
@[simp] theorem str_append (a b : Text) : str (a ++ b) = str a ++ str b := List.map_append
@[simp] theorem str_inj {a b : Text} : str a = str b ↔ a = b :=
  (List.map_injective_iff.mpr (fun _ _ same => PyChar.scalar.inj same)).eq_iff
@[simp] theorem mem_str {c : Char} {t : Text} : .scalar c ∈ str t ↔ c ∈ t := by
  simp [str]

/-- `s.encode("utf-8")`: the text, or `none` where Python raises on a lone surrogate. -/
def encodeUtf8 : PyStr → Option Text
  | [] => some []
  | .scalar c :: rest => (encodeUtf8 rest).map (c :: ·)
  | .surrogate _ :: _ => none

/-- No character is a lone surrogate. -/
def Utf8Encodable (s : PyStr) : Prop := (encodeUtf8 s).isSome

instance (s : PyStr) : Decidable (Utf8Encodable s) := inferInstanceAs (Decidable (_ = true))

@[simp] theorem encodeUtf8_str (t : Text) : encodeUtf8 (str t) = some t := by
  induction t with
  | nil => rfl
  | cons c rest ih =>
    change (encodeUtf8 (str rest)).map (c :: ·) = _
    rw [ih]
    rfl

theorem encodeUtf8_eq_some {s : PyStr} {t : Text} : encodeUtf8 s = some t ↔ s = str t := by
  constructor
  · intro encoded
    induction s generalizing t with
    | nil => cases encoded; rfl
    | cons head rest ih =>
      cases head with
      | surrogate low => cases encoded
      | scalar c =>
        obtain ⟨tail,tailEncoded,rfl⟩ := Option.map_eq_some_iff.mp encoded
        rw [ih tailEncoded]
        rfl
  · rintro rfl
    exact encodeUtf8_str t

@[simp] theorem encodable_str (t : Text) : Utf8Encodable (str t) := by simp [Utf8Encodable]

theorem encodable_iff_forall {s : PyStr} : Utf8Encodable s ↔ ∀ c ∈ s, ∃ d, c = .scalar d := by
  induction s with
  | nil => simp [Utf8Encodable,encodeUtf8]
  | cons head rest ih =>
    cases head with
    | surrogate low => simp [Utf8Encodable,encodeUtf8]
    | scalar c =>
      have unfolded : Utf8Encodable (.scalar c :: rest) ↔ Utf8Encodable rest := by
        simp [Utf8Encodable,encodeUtf8]
      rw [unfolded,ih]
      simp

theorem encodable_append {a b : PyStr} : Utf8Encodable (a ++ b) ↔ Utf8Encodable a ∧ Utf8Encodable b := by
  simp only [encodable_iff_forall,List.mem_append]
  exact ⟨fun all => ⟨fun c m => all c (.inl m),fun c m => all c (.inr m)⟩,
    fun both c m => m.elim (both.1 c) (both.2 c)⟩

@[simp] theorem encodable_lit (s : String) : Utf8Encodable (lit s) := encodable_str _

/-! ### Decimal numerals -/

/-- `str(n)` of a natural number. -/
def decimal (n : Nat) : Text := Nat.toDigits 10 n

/-- `str(n)` of an integer. -/
def decimalInt : Int → Text
  | .ofNat n => decimal n
  | .negSucc n => '-' :: decimal (n + 1)

theorem decimal_digits {n : Nat} {c : Char} (member : c ∈ decimal n) : c.isDigit = true :=
  Nat.isDigit_of_mem_toDigits (by omega) (by omega) member

theorem decimal_ne_nil (n : Nat) : decimal n ≠ [] := Nat.toDigits_ne_nil

theorem decimal_injective : Function.Injective decimal := by
  intro m n same
  have read := congrArg (fun digits => Nat.ofDigitChars 10 digits 0) same
  simpa only [decimal,Nat.ofDigitChars_ten_toDigits] using read

theorem decimalInt_chars {n : Int} {c : Char} (member : c ∈ decimalInt n) : c = '-' ∨ c.isDigit = true := by
  cases n with
  | ofNat n => exact .inr (decimal_digits member)
  | negSucc n =>
    rcases List.mem_cons.mp member with rfl | digit
    · exact .inl rfl
    · exact .inr (decimal_digits digit)

theorem decimalInt_injective : Function.Injective decimalInt := by
  -- A numeral that begins with a minus sign is no numeral of a natural number.
  have signed : ∀ m n, decimal m ≠ '-' :: decimal n := by
    intro m n same
    have digit : ('-').isDigit = true := decimal_digits (n := m) (by rw [same]; exact List.mem_cons_self)
    exact absurd digit (by decide)
  intro m n same
  cases m with
  | ofNat m =>
    cases n with
    | ofNat n => exact congrArg Int.ofNat (decimal_injective same)
    | negSucc n => exact absurd same (signed m (n + 1))
  | negSucc m =>
    cases n with
    | ofNat n => exact absurd same.symm (signed n (m + 1))
    | negSucc n =>
      have magnitude := decimal_injective (List.cons.inj same).2
      exact congrArg Int.negSucc (by omega)

theorem digit_bounds {c : Char} (digit : c.isDigit = true) : 48 ≤ c.toNat ∧ c.toNat ≤ 57 := by
  simp only [Char.isDigit,Bool.and_eq_true,decide_eq_true_eq,UInt32.le_iff_toNat_le] at digit
  exact digit

/-- What is less before the last digits stays less, whatever they are. -/
theorem value_lt {u v : Text} (digits : ∀ c ∈ u, c.isDigit = true) (same : u.length = v.length) {m n : Nat} (less : m < n) :
    Nat.ofDigitChars 10 u m < Nat.ofDigitChars 10 v n := by
  induction u generalizing v m n with
  | nil =>
    rw [List.eq_nil_of_length_eq_zero same.symm,Nat.ofDigitChars_nil,Nat.ofDigitChars_nil]
    exact less
  | cons c u ih =>
    obtain ⟨d,v,rfl⟩ := List.exists_cons_of_length_eq_add_one same.symm
    have bounds := digit_bounds (digits c List.mem_cons_self)
    rw [Nat.ofDigitChars_cons,Nat.ofDigitChars_cons]
    refine ih (fun e member => digits e (List.mem_cons_of_mem _ member)) (Nat.succ.inj same) ?_
    show 10 * m + (c.toNat - 48) < 10 * n + (d.toNat - 48)
    omega

example : decimalInt (-120) = ['-','1','2','0'] := by decide

end PrivacyGateway.Strings
