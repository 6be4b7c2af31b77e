import Mathlib.Data.Char
import Mathlib.Data.List.Lex
import PrivacyGateway.AuditLog

/-!
The order of timestamps. Numerals of one width are ordered as texts as their numbers are,
so the texts that `_utc_now` makes are ordered as the times they state
(`isoformat_le_iff`).
-/
namespace PrivacyGateway.Timestamps
open PrivacyGateway.Strings PrivacyGateway.AuditLog

theorem value_lt_of_lt {u v : Text} (digits : ∀ c ∈ u, c.isDigit = true) (others : ∀ c ∈ v, c.isDigit = true)
    (same : u.length = v.length) (less : u < v) (m : Nat) : Nat.ofDigitChars 10 u m < Nat.ofDigitChars 10 v m := by
  induction u generalizing v m with
  | nil =>
    rw [List.eq_nil_of_length_eq_zero same.symm] at less
    exact absurd less (lt_irrefl _)
  | cons c u ih =>
    obtain ⟨d,v,rfl⟩ := List.exists_cons_of_length_eq_add_one same.symm
    have rest := fun e member => digits e (List.mem_cons_of_mem c member)
    have lengths := Nat.succ.inj same
    rw [Nat.ofDigitChars_cons,Nat.ofDigitChars_cons]
    rcases List.cons_lt_cons_iff.mp less with before | ⟨rfl,after⟩
    · have bounds := digit_bounds (digits c List.mem_cons_self)
      have below : c.toNat < d.toNat := before
      refine value_lt rest lengths ?_
      show 10 * m + (c.toNat - 48) < 10 * m + (d.toNat - 48)
      omega
    · exact ih rest (fun e member => others e (List.mem_cons_of_mem c member)) lengths after _

section
variable {width m n : Nat}

theorem padded_length (positive : 0 < width) (fits : n < 10 ^ width) : (padded width n).length = width := by
  have digits : (decimal n).length ≤ width := (Nat.length_toDigits_le_iff (by decide) positive).mpr fits
  rw [padded,List.length_append,List.length_replicate]
  omega

theorem padded_value : Nat.ofDigitChars 10 (padded width n) 0 = n := by
  rw [padded,Nat.ofDigitChars_append,Nat.ofDigitChars_replicate_zero,Nat.mul_zero]
  exact Nat.ofDigitChars_ten_toDigits

theorem padded_lt (positive : 0 < width) (less : m < n) (fits : n < 10 ^ width) : padded width m < padded width n := by
  have lengths : (padded width n).length = (padded width m).length := by
    rw [padded_length positive fits,padded_length positive (less.trans fits)]
  by_contra notBefore
  rcases lt_or_eq_of_le (not_lt.mp notBefore) with before | same
  · have values := value_lt_of_lt (fun _ => padded_chars) (fun _ => padded_chars) lengths before 0
    rw [padded_value,padded_value] at values
    omega
  · have values := congrArg (fun u => Nat.ofDigitChars 10 u 0) same
    simp only [padded_value] at values
    omega

/-- Texts that differ in a stretch of one length are ordered by it. -/
theorem append_lt {u v : Text} (same : u.length = v.length) (less : u < v) (x y : Text) : u ++ x < v ++ y := by
  induction u generalizing v with
  | nil =>
    rw [List.eq_nil_of_length_eq_zero same.symm] at less
    exact absurd less (lt_irrefl _)
  | cons c u ih =>
    obtain ⟨d,v,rfl⟩ := List.exists_cons_of_length_eq_add_one same.symm
    rcases List.cons_lt_cons_iff.mp less with before | ⟨rfl,after⟩
    · exact List.cons_lt_cons_iff.mpr (.inl before)
    · exact List.cons_lt_cons_iff.mpr (.inr ⟨rfl,ih (Nat.succ.inj same) after⟩)

/-- A numeral decides the order of two texts, or leaves it to what follows. -/
theorem padded_append_lt (positive : 0 < width) (fitsM : m < 10 ^ width) (fitsN : n < 10 ^ width) {x y : Text}
    (less : m < n ∨ m = n ∧ x < y) : padded width m ++ x < padded width n ++ y := by
  rcases less with before | ⟨rfl,after⟩
  · exact append_lt (by rw [padded_length positive fitsM,padded_length positive fitsN]) (padded_lt positive before fitsN) x y
  · exact List.append_left_lt after

end

/-- The fields, the year first. -/
def fields (t : UtcTime) : List Nat := [t.year,t.month,t.day,t.hour,t.minute,t.second,t.microsecond]

theorem fields_injective : Function.Injective fields := by
  rintro ⟨⟩ ⟨⟩ same
  simp only [fields,List.cons.injEq,and_true] at same
  obtain ⟨rfl,rfl,rfl,rfl,rfl,rfl,rfl⟩ := same
  rfl

/-- Times are ordered as their fields. -/
instance : LinearOrder UtcTime := LinearOrder.lift' fields fields_injective

theorem isoformat_lt {a b : UtcTime} (before : a < b) : a.isoformat < b.isoformat := by
  have ranges := a.inRange
  have ranges' := b.inRange
  have less : fields a < fields b := before
  simp only [fields,List.cons_lt_cons_iff,List.not_lt_nil,and_false,or_false] at less
  simp only [UtcTime.isoformat,List.append_assoc,List.cons_append]
  have next : ∀ {c : Char} {x y : Text}, x < y → c :: x < c :: y := fun less => List.cons_lt_cons_iff.mpr (.inr ⟨rfl,less⟩)
  refine padded_append_lt (by decide) (by omega) (by omega) (less.imp_right (And.imp_right fun less => next ?_))
  refine padded_append_lt (by decide) (by omega) (by omega) (less.imp_right (And.imp_right fun less => next ?_))
  refine padded_append_lt (by decide) (by omega) (by omega) (less.imp_right (And.imp_right fun less => next ?_))
  refine padded_append_lt (by decide) (by omega) (by omega) (less.imp_right (And.imp_right fun less => next ?_))
  refine padded_append_lt (by decide) (by omega) (by omega) (less.imp_right (And.imp_right fun less => next ?_))
  refine padded_append_lt (by decide) (by omega) (by omega) (less.imp_right (And.imp_right fun less => next ?_))
  exact padded_append_lt (by decide) (by omega) (by omega) (.inl less)

/-- The texts are in order just when the times are. -/
theorem isoformat_le_iff {a b : UtcTime} : a.isoformat ≤ b.isoformat ↔ a ≤ b :=
  (show StrictMono UtcTime.isoformat from fun _ _ => isoformat_lt).le_iff_le

end PrivacyGateway.Timestamps
