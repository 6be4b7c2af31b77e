import PrivacyGateway.Verification

/-!
What later appends do to a verdict. The writer takes its predecessor from the last row
without a check, but it only adds a row behind the others, and the walk stops at the
first row that does not pass: a verdict that was reached stays (`walkRows_stopped`), and
a log that passes goes on to pass (`later_appends_keep_verdict`).
-/
namespace PrivacyGateway.LaterAppends
open PrivacyGateway.Strings PrivacyGateway.Errors PrivacyGateway.StdLib PrivacyGateway.JsonText PrivacyGateway.AuditLog
  PrivacyGateway.Verification

/-- `append` at the given times, one after the other; a transaction that raises leaves the table alone. -/
def appendAll (rt : Runtime) (table : AuditTable) (calls : List (UtcTime × Json)) : AuditTable :=
  calls.foldl (fun table call => match appendOnce rt table call.1 (canonicalJson rt call.2) with
    | .ok (_,after) => after
    | .error _ => table) table

/-- The verdict on the table is that on the table before: the same if it was INVALID, and
    otherwise VALID with one entry more. -/
def VerdictKept (rt : Runtime) (table after : AuditTable) : Prop :=
  ∀ result, verifyChain rt table none = .ok result →
    (result.status = .invalid → verifyChain rt after none = .ok result) ∧
    (result.status = .empty ∨ result.status = .valid → ∃ later, verifyChain rt after none = .ok later ∧
      later.status = .valid ∧ later.entriesChecked = result.entriesChecked + 1)

section
variable {rt : Runtime} {table after : AuditTable}

/-- Where the walk has stopped with a verdict, later rows are not looked at. -/
theorem walkRows_stopped {walk : Walk} {rows : List Row} {verdict : Verification}
    (stopped : walkRows rt walk rows = .ok (.inl verdict)) (more : List Row) :
    walkRows rt walk (rows ++ more) = .ok (.inl verdict) := by
  induction rows generalizing walk with
  | nil => cases stopped
  | cons row rest ih =>
    rw [List.cons_append,walkRows]
    rw [walkRows] at stopped
    cases checked : checkRow rt walk row with
    | error e => simp [checked] at stopped
    | ok turn =>
      cases turn with
      | inl first =>
        simp only [checked] at stopped ⊢
        exact stopped
      | inr next =>
        simp only [checked] at stopped ⊢
        exact ih stopped

/-- Without a checkpoint the verdict INVALID is the walk's. -/
theorem stopped_of_invalid {result : Verification} (verified : verifyChain rt table none = .ok result)
    (status : result.status = .invalid) : walkRows rt .start table.rows = .ok (.inl result) := by
  unfold verifyChain at verified
  cases latest : table.last with
  | none =>
    simp only [latest,Except.ok.injEq] at verified
    subst verified
    cases status
  | some row =>
    simp only [latest] at verified
    cases walked : walkRows rt .start table.rows with
    | error e => simp [walked] at verified
    | ok turn =>
      cases turn with
      | inl verdict =>
        simp only [walked,Except.ok.injEq] at verified
        rw [verified]
      | inr walk =>
        simp only [walked,checkTail,Except.ok.injEq] at verified
        subst verified
        cases status

/-- The rows behind an INVALID verdict do not change it. -/
theorem invalid_kept {more : List Row} (rows : after.rows = table.rows ++ more) {result : Verification}
    (verified : verifyChain rt table none = .ok result) (status : result.status = .invalid) :
    verifyChain rt after none = .ok result := by
  have stopped := walkRows_stopped (stopped_of_invalid verified status) more
  rw [← rows] at stopped
  unfold verifyChain
  cases latest : after.last with
  | none =>
    rw [last_eq_none.mp latest] at stopped
    cases stopped
  | some row => simp only [stopped]

/-- One transaction keeps the verdict. -/
theorem appendOnce_keeps {timestamp : UtcTime} {payloadJson : PyStr} {row : Row}
    (appended : appendOnce rt table timestamp payloadJson = .ok (row,after)) : VerdictKept rt table after := by
  obtain ⟨payload,_,rfl,_,rows⟩ := appendOnce_ok appended
  intro result verified
  refine ⟨invalid_kept rows verified,fun status => ?_⟩
  have valid : ValidChain rt table.rows ∧ result.entriesChecked = table.rows.length := by
    by_cases empty : table.rows = []
    · rw [verifyChain_empty empty,Except.ok.injEq] at verified
      rw [← verified,empty]
      exact ⟨⟨trivial,fun row member => absurd member List.not_mem_nil⟩,rfl⟩
    · have chain : ValidChain rt table.rows := by
        by_contra broken
        obtain ⟨_,_,_,_,_,_,⟨_,_,verdict⟩ | ⟨_,_,_,raised⟩⟩ := verifyChain_broken broken
        · rw [verdict,Except.ok.injEq] at verified
          subst verified
          rcases status with status | status <;> cases status
        · rw [raised] at verified
          cases verified
      rw [verify_valid chain empty,Except.ok.injEq] at verified
      rw [← verified]
      exact ⟨chain,rfl⟩
  have longer : ValidChain rt after.rows := rows ▸ valid.1.next timestamp.isoformat payload
  refine ⟨_,verify_valid longer (by simp [rows]),rfl,?_⟩
  rw [rows,valid.2]
  simp

/-- With room for another id a transaction succeeds, unless the payload cannot be encoded. -/
theorem appendOnce_room (timestamp : UtcTime) (payloadJson : PyStr) (room : nextId table.last ≤ maxRowId) :
    (∃ row after, appendOnce rt table timestamp payloadJson = .ok (row,after)) ∨
      encodeUtf8 payloadJson = none ∧ appendOnce rt table timestamp payloadJson = .error .unicodeEncodeError := by
  rcases appendOnce_spec rt table timestamp payloadJson with ⟨e,fault,raised⟩ | ⟨_,made⟩
  · unfold unwritable at fault
    rw [if_neg (Int.not_lt.mpr room)] at fault
    split_ifs at fault with unencodable
    cases fault
    exact .inr ⟨unencodable,raised⟩
  · exact .inl made

theorem appendAll_grows (rt : Runtime) (table : AuditTable) (calls : List (UtcTime × Json)) :
    ∃ more, (appendAll rt table calls).rows = table.rows ++ more := by
  induction calls generalizing table with
  | nil => exact ⟨[],(List.append_nil _).symm⟩
  | cons call rest ih =>
    rw [appendAll,List.foldl_cons]
    cases appended : appendOnce rt table call.1 (canonicalJson rt call.2) with
    | error e => exact ih table
    | ok made =>
      obtain ⟨row,next⟩ := made
      obtain ⟨_,_,_,_,rows⟩ := appendOnce_ok appended
      obtain ⟨more,later⟩ := ih next
      exact ⟨row :: more,later.trans (by rw [rows,List.append_assoc]; rfl)⟩

end

/-- On every table, tampered with or not, that has room for another id: an append keeps
    the verdict, and no number of appends changes what was found to be INVALID. -/
theorem later_appends_keep_verdict (rt : Runtime) (table : AuditTable) :
    (∀ timestamp payload, nextId table.last ≤ maxRowId →
      (∃ row after, appendOnce rt table timestamp (canonicalJson rt payload) = .ok (row,after) ∧
        VerdictKept rt table after) ∨
      encodeUtf8 (canonicalJson rt payload) = none ∧
        appendOnce rt table timestamp (canonicalJson rt payload) = .error .unicodeEncodeError) ∧
    ∀ calls result, verifyChain rt table none = .ok result → result.status = .invalid →
      verifyChain rt (appendAll rt table calls) none = .ok result := by
  constructor
  · intro timestamp payload room
    rcases appendOnce_room timestamp (canonicalJson rt payload) room with ⟨row,after,appended⟩ | unencodable
    · exact .inl ⟨row,after,appended,appendOnce_keeps appended⟩
    · exact .inr unencodable
  · intro calls result verified status
    obtain ⟨more,rows⟩ := appendAll_grows rt table calls
    exact invalid_kept rows verified status

end PrivacyGateway.LaterAppends
