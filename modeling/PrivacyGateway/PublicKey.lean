import PrivacyGateway.AuditKeys
import PrivacyGateway.Startup

/-!
The public development key. Anyone can make MACs with it: a log of any payloads can be
forged that a gateway verifies whose key has the same MACs, while a gateway with any other
key verifies no table with such a MAC, whatever else the table holds (`forgeable_iff`). In
production no gateway starts with the public key, but one may with a key that HMAC does not
tell from it, such as the public key and a NUL.
-/
namespace PrivacyGateway.PublicKey
open PrivacyGateway.Strings PrivacyGateway.Errors PrivacyGateway.StdLib PrivacyGateway.SqlValues PrivacyGateway.AuditLog
open PrivacyGateway.Verification PrivacyGateway.Handler PrivacyGateway.Mediator PrivacyGateway.CheckpointFile
open PrivacyGateway.AuditKeys PrivacyGateway.Startup

section
variable (rt : Runtime) (hmac : List UInt8 → Text → HexText)

/-- The record has the MAC that the key gives its hash. -/
def MacOf (key : List UInt8) (row : Row) : Prop := row.recordMac = .text (hmac key (row.recordHash.pyStr rt)).text

/-- One who has the forger's key alone makes a log of the payloads that the verifier passes. -/
def Forges (forger verifier : List UInt8) (payloads : List Text) : Prop :=
  ∃ table : AuditTable, table.rows.map Row.payload = payloads.map .text ∧ (∀ row ∈ table.rows, MacOf rt hmac forger row) ∧
    verifyChain (keyed rt hmac verifier) table none = .ok ⟨.valid,payloads.length,none,none,false⟩

end

section
variable {rt : Runtime} {hmac : List UInt8 → Text → HexText} {key verifier : List UInt8}

/-- Whoever has the verifier's key can chain any payloads. -/
theorem forged_chain (rt : Runtime) (hmac : List UInt8 → Text → HexText) (key : List UInt8) (payloads : List Text) :
    ∃ table : AuditTable, table.rows.map Row.payload = payloads.map .text ∧
      (∀ row ∈ table.rows, MacOf rt hmac key row) ∧ ValidChain (keyed rt hmac key) table.rows := by
  induction payloads using List.reverseRecOn with
  | nil => exact ⟨.empty,rfl,fun row member => absurd member List.not_mem_nil,trivial,fun row member => absurd member List.not_mem_nil⟩
  | append_singleton front payload ih =>
    obtain ⟨table,payloads,macs,valid⟩ := ih
    obtain ⟨grown,_,rows⟩ := insert_after (nextRow_after (keyed rt hmac key) table [] payload)
    refine ⟨grown,?_,?_,?_⟩
    · rw [rows,List.map_append,List.map_append,payloads]
      rfl
    · rw [rows]
      intro row member
      rcases List.mem_append.mp member with earlier | last
      · exact macs row earlier
      · rw [List.mem_singleton.mp last]
        rfl
    · rw [rows]
      exact valid.next [] payload

/-- A table that is verified has no MAC but those of the verifier's key. -/
theorem verified_macs {table : AuditTable} {checkpoint : Option AuditCheckpoint} {result : Verification}
    (verified : verifyChain (keyed rt hmac verifier) table checkpoint = .ok result) (status : result.status = .valid) :
    ∀ row ∈ table.rows, MacOf rt hmac verifier row := by
  intro row member
  obtain ⟨_,_,hashed,macIs⟩ := (validChain_of_valid verified status).2 row member
  rw [MacOf,macIs,hashed]
  rfl

end

theorem utf8_injective {s t : Text} (same : utf8 s = utf8 t) : s = t := by
  have bytes : (String.ofList s).toByteArray = (String.ofList t).toByteArray := ByteArray.ext (Array.toList_inj.mp same)
  exact String.ofList_injective (String.toByteArray_inj.mp bytes)

/-- `INSECURE_DEV_KEY` as bytes. -/
def publicKey : List UInt8 := utf8 "insecure-dev-key-set-GATEWAY_AUDIT_HMAC_KEY".toList

theorem publicKey_iff {settings : Configuration} {t : Text} (encoded : encodeUtf8 (signingKey settings) = some t) :
    utf8 t = publicKey ↔ signingKey settings = insecureDevKey := by
  rw [encodeUtf8_eq_some] at encoded
  rw [encoded,insecureDevKey,publicKey,show lit _ = str _ from rfl,str_inj]
  exact ⟨fun same => utf8_injective same,congrArg utf8⟩

/-- HMAC does not tell the keys apart. -/
def SameMacs (hmac : List UInt8 → Text → HexText) (key other : List UInt8) : Prop := ∀ hash, hmac key hash = hmac other hash

/-- Two keys have all their MACs in common or none. -/
def KeysApart (hmac : List UInt8 → Text → HexText) : Prop :=
  ∀ key other, SameMacs hmac key other ∨ ∀ hash, hmac key hash ≠ hmac other hash

/-- A verifier passes what is written under a key with the same MACs. -/
theorem ValidChain.sameMacs {rt : Runtime} {hmac : List UInt8 → Text → HexText} {key verifier : List UInt8} {rows : List Row}
    (same : SameMacs hmac key verifier) (valid : ValidChain (keyed rt hmac key) rows) :
    ValidChain (keyed rt hmac verifier) rows :=
  ⟨valid.1,fun row member => intact_under (valid.2 row member) (same _)⟩

/-- With the public key any log can be forged that a gateway verifies, if its key has the same
    MACs; with any other key no table that has a MAC of the public key is verified; and in
    production a gateway never signs with the public key itself. -/
theorem forgeable_iff (py : Interpreter) (world : Surroundings) (settings : Configuration) (gateway : Gateway)
    (started : start py world settings = .ok gateway) (hmac : List UInt8 → Text → HexText) (apart : KeysApart hmac) :
    ∃ t, encodeUtf8 (signingKey settings) = some t ∧ gateway.append = world.append (utf8 t) ∧
      ((∀ payloads, payloads ≠ [] → Forges py.rt hmac publicKey (utf8 t) payloads) ↔ SameMacs hmac (utf8 t) publicKey) ∧
      (¬ SameMacs hmac (utf8 t) publicKey → ∀ (table : AuditTable) (row : Row), row ∈ table.rows →
        MacOf py.rt hmac publicKey row → ∀ checkpoint result,
          verifyChain (keyed py.rt hmac (utf8 t)) table checkpoint = .ok result → result.status ≠ .valid) ∧
      (settings.appEnv = .production → utf8 t ≠ publicKey) := by
  obtain ⟨secured,_,policy,t,_,encoded,rfl⟩ := start_eq_ok.mp started
  have refused : ¬ SameMacs hmac (utf8 t) publicKey → ∀ (table : AuditTable) (row : Row), row ∈ table.rows →
      MacOf py.rt hmac publicKey row → ∀ checkpoint result,
        verifyChain (keyed py.rt hmac (utf8 t)) table checkpoint = .ok result → result.status ≠ .valid := by
    intro other table row member forged checkpoint result verified status
    have own := verified_macs verified status row member
    rw [MacOf,forged] at own
    rcases apart (utf8 t) publicKey with same | differ
    · exact other same
    · exact differ _ (HexText.ext (SqlValue.text.inj own)).symm
  refine ⟨t,encoded,rfl,⟨fun forges => ?_,fun same payloads records => ?_⟩,refused,fun production own => ?_⟩
  · by_contra other
    obtain ⟨table,payloads,macs,verified⟩ := forges [[]] (List.cons_ne_nil [] [])
    obtain ⟨row,rest,rows⟩ : ∃ row rest, table.rows = row :: rest := by
      cases rows : table.rows with
      | nil => simp [rows] at payloads
      | cons row rest => exact ⟨row,rest,rfl⟩
    have member : row ∈ table.rows := by
      rw [rows]
      exact List.mem_cons_self
    exact refused other table row member (macs row member) none _ verified rfl
  · obtain ⟨table,rows,macs,valid⟩ := forged_chain py.rt hmac publicKey payloads
    have length : table.rows.length = payloads.length := by simpa using congrArg List.length rows
    have filled : table.rows ≠ [] := by
      intro none
      rw [none] at length
      exact records (List.length_eq_zero_iff.mp length.symm)
    have passes := ValidChain.sameMacs (fun hash => (same hash).symm) valid
    exact ⟨table,rows,macs,by rw [verify_valid passes filled,length]⟩
  · have known := (publicKey_iff encoded).mp own
    rw [signingKey,if_neg fun both => both.1 production] at known
    exact (secured production).own known

/-- HMAC pads a key with zeros to the size of a block. -/
def padded (key : List UInt8) : List UInt8 := key.rdropWhile (· = 0)

/-- HMAC-SHA-256 of two hashes under the public key and a key of 32 letters `k`, told apart on
    any other text. -/
def sampleHmac (key : List UInt8) (t : Text) : HexText :=
  if padded key = publicKey then listedDigest [(firstHash.text,devFirstMac),(secondHash.text,devSecondMac)] t
  else ([(firstHash.text,firstMac),(secondHash.text,secondMac)].lookup t).getD (spelledOut ('k' :: t))

theorem sampleHmac_apart : KeysApart sampleHmac := by
  intro key other
  have differ : ∀ {key other}, padded key ≠ publicKey → padded other = publicKey →
      ∀ t, sampleHmac key t ≠ sampleHmac other t := by
    intro key other own known t
    rw [sampleHmac,sampleHmac,if_neg own,if_pos known]
    by_cases first : t = firstHash.text
    · subst first
      decide +kernel
    by_cases second : t = secondHash.text
    · subst second
      decide +kernel
    have unlisted : ∀ a b : HexText, [(firstHash.text,a),(secondHash.text,b)].lookup t = none := by
      intro a b
      simp only [List.lookup_cons,List.lookup_nil,beq_eq_false_iff_ne.mpr first,beq_eq_false_iff_ne.mpr second]
    rw [listedDigest,unlisted,unlisted,Option.getD_none]
    exact spelledOut_injective.ne (List.cons_ne_self 'k' t)
  by_cases known : padded key = publicKey <;> by_cases known' : padded other = publicKey
  · exact .inl fun hash => by rw [sampleHmac,sampleHmac,if_pos known,if_pos known']
  · exact .inr fun hash same => differ known' known hash same.symm
  · exact .inr (differ known known')
  · exact .inl fun hash => by rw [sampleHmac,sampleHmac,if_neg known,if_neg known']

/-- A gateway started for production with the public key and a NUL. -/
def paddedConfiguration : Configuration := { sampleConfiguration with auditHmacKey := insecureDevKey ++ [.scalar '\x00'] }

/-- The public key and a NUL, as UTF-8. -/
def paddedKey : Text := "insecure-dev-key-set-GATEWAY_AUDIT_HMAC_KEY\x00".toList

theorem sameMacs_padded : SameMacs sampleHmac (utf8 paddedKey) publicKey := by
  have nul : padded (utf8 paddedKey) = publicKey := by decide +kernel
  have own : padded publicKey = publicKey := by decide +kernel
  intro hash
  rw [sampleHmac,sampleHmac,if_pos nul,if_pos own]

theorem differ_own : ¬ SameMacs sampleHmac (utf8 (List.replicate 32 'k')) publicKey := by
  intro same
  have differ : sampleHmac (utf8 (List.replicate 32 'k')) firstHash.text ≠ sampleHmac publicKey firstHash.text := by decide +kernel
  exact differ (same firstHash.text)

theorem forged_developmentRow : MacOf sampleRuntime sampleHmac publicKey developmentRow := by
  unfold MacOf
  decide +kernel

/-- The gateway with a key of its own refuses a log with a forged record, the one with the
    padded public key verifies a forged log. -/
theorem forgeable_iff_padded :
    (∃ key, ∀ checkpoint result,
      verifyChain (keyed sampleRuntime sampleHmac key) sharedTable checkpoint = .ok result → result.status ≠ .valid) ∧
    ∃ gateway key, start sampleInterpreter sampleWorld paddedConfiguration = .ok gateway ∧
      gateway.append = sampleWorld.append key ∧ key ≠ publicKey ∧
      Forges sampleRuntime sampleHmac publicKey key ["\x7b\x7d".toList] := by
  have configured : ∀ settings : Configuration, settings.policyFile = lit "policy.json" →
      Configured sampleInterpreter sampleWorld settings leanPolicy := by
    intro settings file
    rw [Configured,file]
    exact ⟨_,rfl,by rfl⟩
  have ownKey : encodeUtf8 (signingKey sampleConfiguration) = some (List.replicate 32 'k') := by decide
  have nulKey : encodeUtf8 (signingKey paddedConfiguration) = some paddedKey := by decide
  have ownStarts := start_eq_ok.mpr ⟨fun _ => (⟨by decide,by decide,nofun,nofun⟩ : Secured sampleConfiguration),
    sample_available,leanPolicy,_,configured _ rfl,ownKey,rfl⟩
  have paddedStarts := start_eq_ok.mpr ⟨fun _ => (⟨by decide,by decide,nofun,nofun⟩ : Secured paddedConfiguration),
    (⟨rfl,rfl,sample_available.statements⟩ : Available sampleWorld paddedConfiguration),leanPolicy,
    _,configured _ rfl,nulKey,rfl⟩
  constructor
  · obtain ⟨t,encoded,_,_,refused,_⟩ := forgeable_iff sampleInterpreter sampleWorld sampleConfiguration _ ownStarts
      sampleHmac sampleHmac_apart
    obtain rfl := Option.some.inj (ownKey.symm.trans encoded)
    have member : developmentRow ∈ sharedTable.rows := List.mem_cons_of_mem _ List.mem_cons_self
    exact ⟨_,refused differ_own sharedTable developmentRow member forged_developmentRow⟩
  · obtain ⟨t,encoded,writes,forges,_,own⟩ := forgeable_iff sampleInterpreter sampleWorld paddedConfiguration _ paddedStarts
      sampleHmac sampleHmac_apart
    obtain rfl := Option.some.inj (nulKey.symm.trans encoded)
    exact ⟨_,_,paddedStarts,writes,own rfl,forges.mpr sameMacs_padded _ (List.cons_ne_nil _ _)⟩

end PrivacyGateway.PublicKey
