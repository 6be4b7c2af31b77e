import PrivacyGateway.Errors
import PrivacyGateway.StdLib

/-!
The values a column of the audit table can hold, as `sqlite3` hands them to
Python: a cell that its owner wrote as text may hold a number or a blob after an
edit. Formatting them, reading them as integers and comparing digests follow
Python's rules, errors included.
-/
namespace PrivacyGateway.SqlValues
open PrivacyGateway.Strings PrivacyGateway.Errors PrivacyGateway.StdLib

/-- The content of a cell that is not NULL. -/
inductive SqlValue where
  | int (n : Int)
  | real (x : PyFloat)
  | text (t : Text)
  | blob (bytes : List UInt8)
  deriving DecidableEq

/-- One byte of `repr` of a bytes object. -/
def escapeByte (quote : Char) (b : UInt8) : Text :=
  let c := Char.ofNat b.toNat
  if c = quote ∨ c = '\\' then ['\\',c]
  else if c = '\t' then "\\t".toList
  else if c = '\n' then "\\n".toList
  else if c = '\r' then "\\r".toList
  else if b < 32 ∨ 127 ≤ b then "\\x".toList ++ [Nat.digitChar (b.toNat / 16),Nat.digitChar (b.toNat % 16)]
  else [c]

/-- `repr` of a bytes object. -/
def bytesRepr (bytes : List UInt8) : Text :=
  let quote := if 39 ∈ bytes ∧ 34 ∉ bytes then '"' else '\''
  'b' :: quote :: (bytes.flatMap (escapeByte quote) ++ [quote])

/-- `str(value)`, which is also what an f-string writes. -/
def SqlValue.pyStr (rt : Runtime) : SqlValue → Text
  | .int n => decimalInt n
  | .real x => rt.floatRepr x
  | .text t => t
  | .blob bytes => bytesRepr bytes

/-- `int(value)`: a float is truncated, a text or blob has to be a numeral. -/
def SqlValue.pyInt (rt : Runtime) : SqlValue → Except PyException Int
  | .int n => .ok n
  | .real (.finite value) => .ok (if value < 0 then -⌊-value⌋ else ⌊value⌋)
  | .real (.infinite _) => .error .overflowError
  | .real .nan => .error .valueError
  | .text t => match rt.intOfStr (str t) with
    | some n => .ok n
    | none => .error .valueError
  | .blob bytes => match rt.intOfBytes bytes with
    | some n => .ok n
    | none => .error .valueError

/-- An argument of `hmac.compare_digest`. -/
inductive DigestArg where
  | str (s : PyStr)
  | bytes (b : List UInt8)
  | number

def SqlValue.digestArg : SqlValue → DigestArg
  | .text t => .str (Strings.str t)
  | .blob b => .bytes b
  | .int _ => .number
  | .real _ => .number

/-- `hmac.compare_digest(a, b)`: two ASCII strings or two bytes objects. -/
def compareDigest : DigestArg → DigestArg → Except PyException Bool
  | .str a,.str b => if isAscii a && isAscii b then .ok (a = b) else .error .typeError
  | .bytes a,.bytes b => .ok (a = b)
  | _,_ => .error .typeError

theorem compareDigest_self {s : PyStr} (ascii : isAscii s = true) : compareDigest (.str s) (.str s) = .ok true := by
  simp [compareDigest,ascii]

/-- A string that compares equal is the same string. -/
theorem compareDigest_true {s : PyStr} {other : DigestArg} (same : compareDigest (.str s) other = .ok true) :
    other = .str s := by
  cases other with
  | str t =>
    rw [compareDigest] at same
    split_ifs at same
    rw [of_decide_eq_true (Except.ok.inj same)]
  | bytes b => cases same
  | number => cases same

theorem digestArg_str {value : SqlValue} {t : Text} (same : value.digestArg = .str (str t)) : value = .text t := by
  cases value with
  | text u => exact congrArg _ (str_inj.mp (DigestArg.str.inj same))
  | int n => cases same
  | real x => cases same
  | blob b => cases same

/-- A cell that formats to a text which no number and no blob formats to holds that text. -/
theorem text_of_pyStr {rt : Runtime} {value : SqlValue} {t : Text} (formatted : value.pyStr rt = t)
    (noBlob : t.head? ≠ some 'b') {c : Char} (member : c ∈ t) (noNumber : c ∉ floatChars) : value = .text t := by
  cases value with
  | int n =>
    rw [← formatted] at member
    rcases decimalInt_chars member with rfl | digit
    · exact absurd (by decide) noNumber
    · exact absurd (digit_floatChars digit) noNumber
  | real x =>
    rw [← formatted] at member
    exact absurd (rt.floatRepr_chars x c member) noNumber
  | text u => exact congrArg _ formatted
  | blob bytes =>
    rw [← formatted] at noBlob
    exact absurd rfl noBlob

example : bytesRepr [39,0,255,65] = "b\"'\\x00\\xffA\"".toList := by decide

end PrivacyGateway.SqlValues
