import Mathlib
import EduPod.Security.BankDetails

/-! # What a rotation keeps

A record reads as its texts under the key it names. A rotated record is one that opened; it reads the same afterwards,
however many batches a run gets through, and a real run that comes to its end leaves nothing pending.
-/
namespace EduPod.Security.RotationMeaning

section
variable {Row α : Type} (r : Rotation Row) (order : RowOrder Row) (dryRun : Bool) (value : Row → α)

/-- One round of the loop; without records it is over. -/
def nextBatch (p : Progress Row) : Progress Row :=
  match findMany r order p with
  | [] => p
  | row :: rows => rotateBatch r dryRun p (row :: rows)

def Keeps : Prop :=
  ∀ id row write,r.pending row = true → r.handle id row = .rotated write → value (write row) = value row

/-- What the record of an identifier reads as, if there is one. -/
def reading (store : Table Row) (id : ℕ) : Option α := (store.get? id).map value

end

section
variable {Row α : Type} {r : Rotation Row} {order : RowOrder Row} {dryRun : Bool} {value : Row → α} {p q : Progress Row}

theorem get?_rotateRecord_of_ne {record : ℕ × Row} {id : ℕ} (hne : id ≠ record.1) :
    (rotateRecord r dryRun p record).store.get? id = p.store.get? id := by
  unfold rotateRecord
  split
  · cases dryRun with
    | true => rfl
    | false => exact Table.get?_modify_ne _ hne _
  · rfl
  · rfl

theorem reading_rotateRecord (hkeeps : Keeps r value) {record : ℕ × Row} (hget : p.store.get? record.1 = some record.2)
    (hpending : r.pending record.2 = true) (id : ℕ) :
    reading value (rotateRecord r dryRun p record).store id = reading value p.store id := by
  by_cases hid : id = record.1
  · subst hid
    unfold rotateRecord
    split
    · rename_i write hwrite
      cases dryRun with
      | true => rfl
      | false =>
        have hafter : (p.store.modify record.1 write).get? record.1 = some (write record.2) :=
          Table.get?_modify_self hget write
        have hsame := hkeeps _ _ _ hpending hwrite
        rw [reading,reading,if_neg Bool.false_ne_true,hafter,hget,Option.map_some,Option.map_some,hsame]
    · rfl
    · rfl
  · rw [reading,reading,get?_rotateRecord_of_ne hid]

/-- Distinct records, handled as they were fetched. -/
theorem reading_foldl (hkeeps : Keeps r value) (rows : List (ℕ × Row)) (hn : (rows.map Prod.fst).Nodup)
    (hrows : ∀ q ∈ rows,p.store.get? q.1 = some q.2 ∧ r.pending q.2 = true) (id : ℕ) :
    reading value (rows.foldl (rotateRecord r dryRun) p).store id = reading value p.store id := by
  induction rows generalizing p with
  | nil => rfl
  | cons record rows ih =>
    obtain ⟨hnew,hn⟩ := List.nodup_cons.mp hn
    obtain ⟨⟨hget,hpending⟩,hrows⟩ := List.forall_mem_cons.mp hrows
    have hlater : ∀ q ∈ rows,(rotateRecord r dryRun p record).store.get? q.1 = some q.2 ∧ r.pending q.2 = true := by
      intro q hq
      have hne : q.1 ≠ record.1 := fun he => hnew (he ▸ List.mem_map.mpr ⟨q,hq,rfl⟩)
      rw [get?_rotateRecord_of_ne hne]
      exact hrows q hq
    rw [List.foldl_cons,ih hn hlater,reading_rotateRecord hkeeps hget hpending]

theorem reading_rotateBatch (hkeeps : Keeps r value) (rows : List (ℕ × Row)) (hn : (rows.map Prod.fst).Nodup)
    (hrows : ∀ q ∈ rows,p.store.get? q.1 = some q.2 ∧ r.pending q.2 = true) (id : ℕ) :
    reading value (rotateBatch r dryRun p rows).store id = reading value p.store id := by
  have hhandled : (rotateBatch r dryRun p rows).store = (rows.foldl (rotateRecord r dryRun) { p with
      stats := { p.stats with total := p.stats.total + rows.length }
      fetched := p.fetched ++ rows.map Prod.fst }).store := by
    unfold rotateBatch
    cases dryRun <;> rfl
  rw [hhandled]
  refine reading_foldl hkeeps rows hn (fun q hq => ?_) id
  exact hrows q hq

theorem reading_nextBatch (hkeeps : Keeps r value) (id : ℕ) :
    reading value (nextBatch r order dryRun p).store id = reading value p.store id := by
  unfold nextBatch
  split
  · rfl
  · rename_i row rows hfound
    rw [← hfound]
    refine reading_rotateBatch hkeeps _ findMany_nodup (fun q hq => ?_) id
    obtain ⟨hmem,hpending⟩ := List.mem_filter.mp (mem_of_mem_findMany hq)
    exact ⟨Table.get?_of_mem hmem,hpending⟩

theorem reading_iterate (hkeeps : Keeps r value) (n : ℕ) (id : ℕ) :
    reading value ((nextBatch r order dryRun)^[n] p).store id = reading value p.store id := by
  induction n generalizing p with
  | zero => rfl
  | succ n ih => rw [Function.iterate_succ_apply,ih,reading_nextBatch hkeeps]

/-- A run that ends is so many rounds, after which nothing is found. -/
theorem exists_iterate {fuel : ℕ} (h : rotateRecords r order dryRun fuel p = some q) :
    (∃ n,(nextBatch r order dryRun)^[n] p = q) ∧ findMany r order q = [] := by
  induction fuel generalizing p with
  | zero => cases h
  | succ fuel ih =>
    unfold rotateRecords at h
    split at h
    · rename_i hnone
      obtain rfl := Option.some.inj h
      exact ⟨⟨0,rfl⟩,hnone⟩
    · rename_i row rows hfound
      obtain ⟨⟨n,hn⟩,hend⟩ := ih h
      refine ⟨⟨n + 1,?_⟩,hend⟩
      rw [Function.iterate_succ_apply,nextBatch,hfound]
      exact hn

theorem offset_iterate (n : ℕ) : ((nextBatch r order false)^[n] p).offset = p.offset := by
  induction n generalizing p with
  | zero => rfl
  | succ n ih =>
    rw [Function.iterate_succ_apply,ih,nextBatch]
    split
    · rfl
    · exact offset_foldl _

/-- A real run ends only when no record is pending any more. -/
theorem drained_of_ended {store : Table Row} {fuel : ℕ} (h : rotateRecords r order false fuel (start store) = some q) :
    q.store.select r.pending = [] := by
  obtain ⟨⟨n,rfl⟩,hnone⟩ := exists_iterate h
  rw [findMany,offset_iterate] at hnone
  have hlist : order.list (((nextBatch r order false)^[n] (start store)).store.select r.pending) = [] := by
    rcases List.take_eq_nil_iff.mp hnone with hzero | hnil
    · cases hzero
    · exact hnil
  have hperm := order.perm (((nextBatch r order false)^[n] (start store)).store.select r.pending)
  rw [hlist] at hperm
  exact hperm.symm.eq_nil

end

/-! ## The readings of the three tables -/

section
variable {Key Nonce : Type} (aead : SealedAead Key Nonce) (keys : ℕ → Option Key)

def stripeReading (row : StripeConfig) : Option String × Option String :=
  (openText aead keys row.encryptionKeyRef row.secretKeyEncrypted,
    openText aead keys row.encryptionKeyRef row.webhookSecretEncrypted)

def bankReading (row : StaffProfile) : Option (Option String) × Option (Option String) :=
  (row.accountNumberEncrypted.map (openText aead keys (row.encryptionKeyRef.getD "")),
    row.ibanEncrypted.map (openText aead keys (row.encryptionKeyRef.getD "")))

/-- A secret without a key reference is plain text. -/
def mfaReading (row : MfaUser) : Option (Option String) :=
  row.mfaSecret.map fun secret => row.mfaSecretKeyRef.elim (some secret) fun keyRef => openText aead keys keyRef secret

end

section
variable {Key Nonce : Type} {aead : SealedAead Key Nonce} {env : Environment Key} {nonce : ℕ → ℕ → Nonce}

/-- A text encrypted again opens to what it opened to. -/
theorem openText_reencrypt {oldKey : Key} {keyRef text new : String} {n : Nonce}
    (hkey : env.keys (keyRefToVersion keyRef) = some oldKey) (h : reencrypt aead.toAead env oldKey n text = some new) :
    openText aead env.keys env.currentKeyRef new = openText aead env.keys keyRef text := by
  obtain ⟨plain,hplain,rfl⟩ := Option.map_eq_some_iff.mp h
  have hold : openText aead env.keys keyRef text = some plain := by
    rw [openText,hkey,Option.bind_some]
    exact hplain
  rw [hold,Environment.currentKeyRef,openText_keyRefOf env.loaded]
  exact aead.opens env.currentKey n plain

theorem map_openText_reencryptField {oldKey : Key} {keyRef : String} {text new : Option String} {n : Nonce}
    (hkey : env.keys (keyRefToVersion keyRef) = some oldKey)
    (h : reencryptField aead.toAead env oldKey n text = some new) :
    (new.or text).map (openText aead env.keys env.currentKeyRef) = text.map (openText aead env.keys keyRef) := by
  cases text with
  | none =>
    obtain rfl := Option.some.inj h
    rfl
  | some text =>
    obtain ⟨new,hnew,rfl⟩ := Option.map_eq_some_iff.mp h
    rw [Option.some_or,Option.map_some,Option.map_some,openText_reencrypt hkey hnew]

theorem keeps_stripe : Keeps (rotateStripeConfigs aead.toAead env nonce) (stripeReading aead env.keys) := by
  intro id row write _ h
  change handleStripeConfig aead.toAead env nonce id row = .rotated write at h
  unfold handleStripeConfig at h
  split at h
  · cases h
  · rename_i oldKey hkey
    split at h
    · rename_i secret webhook hsecret hwebhook
      cases h
      rw [stripeReading,stripeReading]
      dsimp only
      rw [openText_reencrypt hkey hsecret,openText_reencrypt hkey hwebhook]
    · cases h

theorem keeps_bank : Keeps (rotateStaffBankDetails aead.toAead env nonce) (bankReading aead env.keys) := by
  intro id row write _ h
  change handleStaffProfile aead.toAead env nonce id row = .rotated write at h
  unfold handleStaffProfile at h
  split at h
  · cases h
  · rename_i oldKey hkey
    split at h
    · rename_i accountNumber iban haccount hiban
      cases h
      rw [bankReading,bankReading]
      dsimp only
      rw [Option.getD_some,map_openText_reencryptField hkey haccount,map_openText_reencryptField hkey hiban]
    · cases h

theorem keeps_mfa : Keeps (rotateMfaSecrets aead.toAead env nonce) (mfaReading aead env.keys) := by
  intro id row write hpending h
  change handleMfaUser aead.toAead env nonce id row = .rotated write at h
  obtain ⟨secret,keyRef⟩ := row
  cases keyRef with
  | none => simp [rotateMfaSecrets,mfaPending] at hpending
  | some keyRef =>
    unfold handleMfaUser at h
    split at h
    · cases h
    · rename_i oldKey hkey
      split at h
      · rename_i new hnew
        cases h
        obtain ⟨text,rfl,hnew⟩ := Option.bind_eq_some_iff.mp hnew
        rw [mfaReading,mfaReading,Option.map_some,Option.map_some,Option.elim_some,Option.elim_some,
          openText_reencrypt hkey hnew]
        rfl
      · cases h

end

end EduPod.Security.RotationMeaning
