import PrivacyGateway.Strings

/-!
What the modelled code takes from Python's standard library and does not
determine itself: the SHA-256 and HMAC hex digests, the text of a float and the
integer a string reads as. They are parameters of the model; the digests are
known to be hexadecimal and the text of a float to be made of a float's characters.
-/
namespace PrivacyGateway.StdLib
open PrivacyGateway.Strings

/-- A Python float; the sign of zero is not told apart. -/
inductive PyFloat where
  | finite (value : Rat)
  | infinite (negative : Bool)
  | nan
  deriving DecidableEq, Repr

def isHexDigit (c : Char) : Bool := c.isDigit || ('a' ≤ c && c ≤ 'f')

/-- The result of `hexdigest()`. -/
structure HexText where
  text : Text
  hex : ∀ c ∈ text, isHexDigit c = true
  deriving DecidableEq

@[ext] theorem HexText.ext {a b : HexText} (same : a.text = b.text) : a = b := by
  cases a; cases b; cases same; rfl

/-- `s.isascii()` -/
def isAscii (s : PyStr) : Bool := s.all (fun c => c.code < 128)

theorem isHexDigit_ascii {c : Char} (digit : isHexDigit c = true) : c.toNat < 128 := by
  simp only [isHexDigit,Char.isDigit,Bool.or_eq_true,Bool.and_eq_true,decide_eq_true_eq] at digit
  rcases digit with ⟨_,high⟩ | ⟨_,high⟩
  · have : c.val.toNat ≤ 57 := UInt32.le_iff_toNat_le.mp high
    change c.val.toNat < 128
    omega
  · have : c.val.toNat ≤ ('f').val.toNat := UInt32.le_iff_toNat_le.mp high
    have value : ('f').val.toNat = 102 := rfl
    change c.val.toNat < 128
    omega

theorem HexText.ascii (h : HexText) : isAscii (str h.text) = true := by
  rw [isAscii,List.all_eq_true]
  intro c member
  obtain ⟨d,digit,rfl⟩ := List.mem_map.mp member
  exact decide_eq_true (isHexDigit_ascii (h.hex d digit))

/-- The characters `float.__repr__` uses. -/
def floatChars : List Char := "0123456789.e+-infa".toList

/-- The standard library as the code sees it, with the audit key already applied. -/
structure Runtime where
  /-- `hashlib.sha256(t.encode("utf-8")).hexdigest()` -/
  sha256 : Text → HexText
  /-- `hmac.new(key, t.encode("utf-8"), hashlib.sha256).hexdigest()` -/
  hmac : Text → HexText
  /-- `repr(x)` of a float -/
  floatRepr : PyFloat → Text
  floatRepr_chars : ∀ x, ∀ c ∈ floatRepr x, c ∈ floatChars
  /-- `int(s)`, or `none` where it raises `ValueError` -/
  intOfStr : PyStr → Option Int
  /-- `int(b)` of a bytes object -/
  intOfBytes : List UInt8 → Option Int

/-- SHA-256 treated as free of collisions. -/
def CollisionFree (rt : Runtime) : Prop := Function.Injective rt.sha256

/-! ### A runtime for given digests

The digests of the listed texts are as listed; any other text has its code points
as its digest, which is longer than every listed one. -/

/-- Six hexadecimal digits, enough for a code point. -/
def hex6 (n : Nat) : Text :=
  [n / 1048576 % 16,n / 65536 % 16,n / 4096 % 16,n / 256 % 16,n / 16 % 16,n % 16].map Nat.digitChar

private theorem hexDigit_digitChar : ∀ n < 16, isHexDigit (Nat.digitChar n) = true := by decide

private theorem digitChar_injective : ∀ m < 16, ∀ n < 16, Nat.digitChar m = Nat.digitChar n → m = n := by decide

private theorem hex6_injective {m n : Nat} (boundM : m < 16777216) (boundN : n < 16777216)
    (same : hex6 m = hex6 n) : m = n := by
  simp only [hex6,List.map_cons,List.map_nil,List.cons.injEq,and_true] at same
  have digits : ∀ a b, Nat.digitChar (a % 16) = Nat.digitChar (b % 16) → a % 16 = b % 16 :=
    fun a b => digitChar_injective _ (Nat.mod_lt _ (by decide)) _ (Nat.mod_lt _ (by decide))
  obtain ⟨a,b,c,d,e,f⟩ := same
  have := digits _ _ a
  have := digits _ _ b
  have := digits _ _ c
  have := digits _ _ d
  have := digits _ _ e
  have := digits _ _ f
  omega

/-- The code points of a text after 65 zeros. -/
def spelledOut (t : Text) : HexText where
  text := List.replicate 65 '0' ++ t.flatMap fun c => hex6 c.toNat
  hex := by
    intro c member
    rcases List.mem_append.mp member with zero | spelled
    · rw [List.eq_of_mem_replicate zero]
      decide
    · obtain ⟨d,_,digit⟩ := List.mem_flatMap.mp spelled
      obtain ⟨n,inside,rfl⟩ := List.mem_map.mp digit
      have small : n < 16 := by
        simp only [List.mem_cons,List.not_mem_nil,or_false] at inside
        omega
      exact hexDigit_digitChar n small

theorem spelledOut_injective : Function.Injective spelledOut := by
  intro a b same
  have texts := List.append_cancel_left (congrArg HexText.text same)
  clear same
  induction a generalizing b with
  | nil =>
    cases b with
    | nil => rfl
    | cons d b => simp [hex6] at texts
  | cons c a ih =>
    cases b with
    | nil => simp [hex6] at texts
    | cons d b =>
      rw [List.flatMap_cons,List.flatMap_cons] at texts
      obtain ⟨heads,tails⟩ := List.append_inj texts rfl
      have bound : ∀ e : Char, e.toNat < 16777216 := by
        intro e
        have range := e.valid
        simp only [UInt32.isValidChar,Nat.isValidChar] at range
        change e.val.toNat < _
        omega
      rw [Char.toNat_inj.mp (hex6_injective (bound c) (bound d) heads),ih tails]

/-- The listed digest of a text. -/
def listedDigest (listed : List (Text × HexText)) (t : Text) : HexText :=
  match listed.lookup t with
  | some digest => digest
  | none => spelledOut t

def plainFloatRepr : PyFloat → Text
  | .finite value => decimalInt value.floor ++ ".0".toList
  | .infinite negative => if negative then "-inf".toList else "inf".toList
  | .nan => "nan".toList

theorem digit_floatChars {c : Char} (digit : c.isDigit = true) : c ∈ floatChars := by
  have range : ∀ n < 58, 48 ≤ n → Char.ofNat n ∈ floatChars := by decide
  simp only [Char.isDigit,Bool.and_eq_true,decide_eq_true_eq,UInt32.le_iff_toNat_le] at digit
  have member := range c.toNat (Nat.lt_succ_of_le digit.2) digit.1
  rwa [Char.ofNat_toNat] at member

private theorem floatChars_of_all {t : Text} (all : t.all (fun c => decide (c ∈ floatChars)) = true) {c : Char}
    (member : c ∈ t) : c ∈ floatChars := of_decide_eq_true (List.all_eq_true.mp all c member)

/-- A runtime with listed digests; it reads only plain decimal numerals as integers
    and writes only whole floats. -/
def plainRuntime (digests macs : List (Text × HexText)) : Runtime where
  sha256 := listedDigest digests
  hmac := listedDigest macs
  floatRepr := plainFloatRepr
  floatRepr_chars := by
    intro x c member
    cases x with
    | finite value =>
      rcases List.mem_append.mp member with whole | fraction
      · rcases decimalInt_chars whole with rfl | digit
        · decide
        · exact digit_floatChars digit
      · exact floatChars_of_all (by decide) fraction
    | infinite negative =>
      cases negative <;> exact floatChars_of_all (by decide) member
    | nan => exact floatChars_of_all (by decide) member
  intOfStr s := (encodeUtf8 s).bind fun t => (String.ofList t).toInt?
  intOfBytes _ := none

theorem plainRuntime_collisionFree {digests macs : List (Text × HexText)} (distinct : (digests.map Prod.snd).Nodup)
    (size : ∀ d ∈ digests, d.2.text.length = 64) : CollisionFree (plainRuntime digests macs) := by
  have long : ∀ t, (spelledOut t).text.length ≠ 64 := by
    intro t
    simp only [spelledOut,List.length_append,List.length_replicate]
    omega
  have listed : ∀ {t d}, digests.lookup t = some d → (t,d) ∈ digests := by
    intro t d found
    obtain ⟨front,back,rfl,_⟩ := List.lookup_eq_some_iff.mp found
    simp
  intro a b same
  simp only [plainRuntime,listedDigest] at same
  cases foundA : digests.lookup a with
  | none =>
    cases foundB : digests.lookup b with
    | none =>
      rw [foundA,foundB] at same
      exact spelledOut_injective same
    | some d =>
      rw [foundA,foundB] at same
      exact absurd (congrArg (fun h => h.text.length) same) (by rw [size _ (listed foundB)]; exact long a)
  | some d =>
    cases foundB : digests.lookup b with
    | none =>
      rw [foundA,foundB] at same
      exact absurd (congrArg (fun h => h.text.length) same).symm (by rw [size _ (listed foundA)]; exact long b)
    | some e =>
      rw [foundA,foundB] at same
      have pair := List.inj_on_of_nodup_map distinct (listed foundA) (listed foundB) same
      exact congrArg Prod.fst pair

/-- A digest written out. -/
def digest (s : String) (hex : s.toList.all isHexDigit = true) : HexText := ⟨s.toList,List.all_eq_true.mp hex⟩

end PrivacyGateway.StdLib
