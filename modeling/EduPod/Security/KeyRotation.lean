import Mathlib
import EduPod.Foundation.Table

/-! # Key rotation

Three loops fetch the records whose key reference is not the current one, batch by batch, and encrypt
them again. A dry run moves its offset on; a real run fetches from the start and relies on rotated
records leaving the query. Ciphers and nonces are parameters.
-/
namespace EduPod.Security

section
/-- What the loops use of AES-GCM. Decryption fails on a wrong key or a malformed text. -/
structure Aead (Key Nonce : Type) where
  encrypt : Key → Nonce → String → String
  decrypt : Key → String → Option String

/-- The digits after the `v` of a key reference; any other reference counts as the first version. -/
def keyRefToVersion (keyRef : String) : ℕ :=
  match keyRef.toList with
  | 'v' :: digits =>
    if digits ≠ [] ∧ digits.all Char.isDigit then Nat.ofDigitChars 10 digits 0 else 1
  | _ => 1

def keyRefOf (version : ℕ) : String := s!"v{version}"

/-- The environment of a run: it does not start unless the current key is loaded. -/
structure Environment (Key : Type) where
  keys : ℕ → Option Key
  currentVersion : ℕ
  currentKey : Key
  loaded : keys currentVersion = some currentKey

def Environment.currentKeyRef {Key : Type} (env : Environment Key) : String := keyRefOf env.currentVersion

/-- What becomes of a record: `rotated` says how its row is written. -/
inductive Outcome (Row : Type)
  | rotated (write : Row → Row)
  | skipped
  | failed

/-- One of the loops: its query, and what it does with a record. A rotated record leaves the query,
whatever its row was. -/
structure Rotation (Row : Type) where
  pending : Row → Bool
  handle : ℕ → Row → Outcome Row
  leaves : ∀ id row write row', handle id row = .rotated write → pending (write row') = false

structure RotationStats where
  total : ℕ
  rotated : ℕ
  skipped : ℕ
  failed : ℕ
  deriving DecidableEq, Repr

def batchSize : ℕ := 50

/-- The order in which the database returns rows; unchanged rows come in the same order again. -/
structure RowOrder (Row : Type) where
  list : List (ℕ × Row) → List (ℕ × Row)
  perm : ∀ rows, (list rows).Perm rows

/-- A loop in progress. `fetched` lists the records in the order they were fetched in. -/
structure Progress (Row : Type) where
  store : Table Row
  stats : RotationStats
  offset : ℕ
  fetched : List ℕ

section
variable {Row : Type} (r : Rotation Row) (order : RowOrder Row) (dryRun : Bool)

def start (store : Table Row) : Progress Row := ⟨store,⟨0,0,0,0⟩,0,[]⟩

def findMany (p : Progress Row) : List (ℕ × Row) :=
  ((order.list (p.store.select r.pending)).drop p.offset).take batchSize

def rotateRecord (p : Progress Row) (record : ℕ × Row) : Progress Row :=
  match r.handle record.1 record.2 with
  | .rotated write => { p with
      store := if dryRun then p.store else p.store.modify record.1 write
      stats := { p.stats with rotated := p.stats.rotated + 1 } }
  | .skipped => { p with stats := { p.stats with skipped := p.stats.skipped + 1 } }
  | .failed => { p with stats := { p.stats with failed := p.stats.failed + 1 } }

def rotateBatch (p : Progress Row) (rows : List (ℕ × Row)) : Progress Row :=
  let counted : Progress Row := { p with
    stats := { p.stats with total := p.stats.total + rows.length }
    fetched := p.fetched ++ rows.map Prod.fst }
  let handled := rows.foldl (rotateRecord r dryRun) counted
  if dryRun then { handled with offset := handled.offset + batchSize } else handled

/-- The loop, for so many batches at most. -/
@[grind] def rotateRecords : ℕ → Progress Row → Option (Progress Row)
  | 0, _ => none
  | fuel + 1, p =>
    match findMany r order p with
    | [] => some p
    | row :: rows => rotateRecords fuel (rotateBatch r dryRun p (row :: rows))

end

/-! ## The three loops -/

structure StripeConfig where
  secretKeyEncrypted : String
  webhookSecretEncrypted : String
  encryptionKeyRef : String
  deriving DecidableEq

structure StaffProfile where
  accountNumberEncrypted : Option String
  ibanEncrypted : Option String
  encryptionKeyRef : Option String
  deriving DecidableEq

structure MfaUser where
  mfaSecret : Option String
  mfaSecretKeyRef : Option String
  deriving DecidableEq

section
variable {Key Nonce : Type} (aead : Aead Key Nonce) (env : Environment Key) (nonce : ℕ → ℕ → Nonce)

/-- A text under the old key, encrypted under the current one. -/
def reencrypt (oldKey : Key) (n : Nonce) (text : String) : Option String :=
  (aead.decrypt oldKey text).map (aead.encrypt env.currentKey n)

def handleStripeConfig (id : ℕ) (row : StripeConfig) : Outcome StripeConfig :=
  match env.keys (keyRefToVersion row.encryptionKeyRef) with
  | none => .skipped
  | some oldKey =>
    match reencrypt aead env oldKey (nonce id 0) row.secretKeyEncrypted,
      reencrypt aead env oldKey (nonce id 1) row.webhookSecretEncrypted with
    | some secretKey, some webhookSecret => .rotated fun _ => ⟨secretKey,webhookSecret,env.currentKeyRef⟩
    | _, _ => .failed

/-- A field of a bank account that has no text has nothing to encrypt. -/
def reencryptField (oldKey : Key) (n : Nonce) : Option String → Option (Option String)
  | none => some none
  | some text => (reencrypt aead env oldKey n text).map some

/-- Only the fields that had a text are written. -/
def handleStaffProfile (id : ℕ) (row : StaffProfile) : Outcome StaffProfile :=
  match env.keys (keyRefToVersion (row.encryptionKeyRef.getD "")) with
  | none => .skipped
  | some oldKey =>
    match reencryptField aead env oldKey (nonce id 0) row.accountNumberEncrypted,
      reencryptField aead env oldKey (nonce id 1) row.ibanEncrypted with
    | some accountNumber, some iban => .rotated fun current => {
        accountNumberEncrypted := accountNumber.or current.accountNumberEncrypted
        ibanEncrypted := iban.or current.ibanEncrypted
        encryptionKeyRef := some env.currentKeyRef }
    | _, _ => .failed

def handleMfaUser (id : ℕ) (row : MfaUser) : Outcome MfaUser :=
  match env.keys (keyRefToVersion (row.mfaSecretKeyRef.getD "")) with
  | none => .skipped
  | some oldKey =>
    match (row.mfaSecret.bind (reencrypt aead env oldKey (nonce id 0))) with
    | some secret => .rotated fun _ => ⟨some secret,some env.currentKeyRef⟩
    | none => .failed

def stripePending (row : StripeConfig) : Bool := row.encryptionKeyRef ≠ env.currentKeyRef

def bankPending (row : StaffProfile) : Bool :=
  row.encryptionKeyRef.isSome && row.encryptionKeyRef ≠ some env.currentKeyRef

def mfaPending (row : MfaUser) : Bool :=
  row.mfaSecret.isSome && row.mfaSecretKeyRef.isSome && row.mfaSecretKeyRef ≠ some env.currentKeyRef

variable {aead env nonce}

theorem stripe_leaves (id : ℕ) (row : StripeConfig) (write : StripeConfig → StripeConfig) (row' : StripeConfig)
    (h : handleStripeConfig aead env nonce id row = .rotated write) : stripePending env (write row') = false := by
  unfold handleStripeConfig at h
  repeat' split at h
  all_goals cases h
  simp [stripePending]

theorem bank_leaves (id : ℕ) (row : StaffProfile) (write : StaffProfile → StaffProfile) (row' : StaffProfile)
    (h : handleStaffProfile aead env nonce id row = .rotated write) : bankPending env (write row') = false := by
  unfold handleStaffProfile at h
  repeat' split at h
  all_goals cases h
  simp [bankPending]

theorem mfa_leaves (id : ℕ) (row : MfaUser) (write : MfaUser → MfaUser) (row' : MfaUser)
    (h : handleMfaUser aead env nonce id row = .rotated write) : mfaPending env (write row') = false := by
  unfold handleMfaUser at h
  repeat' split at h
  all_goals cases h
  simp [mfaPending]

variable (aead env nonce)

def rotateStripeConfigs : Rotation StripeConfig := ⟨stripePending env,handleStripeConfig aead env nonce,stripe_leaves⟩

def rotateStaffBankDetails : Rotation StaffProfile := ⟨bankPending env,handleStaffProfile aead env nonce,bank_leaves⟩

def rotateMfaSecrets : Rotation MfaUser := ⟨mfaPending env,handleMfaUser aead env nonce,mfa_leaves⟩

end

end

/-! ## When the rotation loops end

A dry run always ends. A real run ends precisely when every record its query finds can be rotated:
one that is skipped or fails stays in the query and is fetched again and again.
-/

section
variable {Row : Type} {r : Rotation Row} {order : RowOrder Row} {dryRun : Bool} {p p' : Progress Row}

def Outcome.isRotated : Outcome Row → Bool
  | .rotated _ => true
  | _ => false

/-- The loop ends, no record was fetched twice, and the statistics add up. -/
def Completes (r : Rotation Row) (order : RowOrder Row) (dryRun : Bool) (store : Table Row) : Prop :=
  ∃ fuel p, rotateRecords r order dryRun fuel (start store) = some p ∧ p.fetched.Nodup ∧
    p.stats.total = p.stats.rotated + p.stats.skipped + p.stats.failed

/-! ## One record, one batch -/

@[simp] theorem fetched_rotateRecord (record : ℕ × Row) : (rotateRecord r dryRun p record).fetched = p.fetched := by
  unfold rotateRecord
  split <;> rfl

@[simp] theorem offset_rotateRecord (record : ℕ × Row) : (rotateRecord r dryRun p record).offset = p.offset := by
  unfold rotateRecord
  split <;> rfl

@[simp] theorem total_rotateRecord (record : ℕ × Row) : (rotateRecord r dryRun p record).stats.total = p.stats.total := by
  unfold rotateRecord
  split <;> rfl

def RotationStats.handled (stats : RotationStats) : ℕ := stats.rotated + stats.skipped + stats.failed

theorem handled_rotateRecord (record : ℕ × Row) :
    (rotateRecord r dryRun p record).stats.handled = p.stats.handled + 1 := by
  unfold rotateRecord RotationStats.handled
  split <;> simp only <;> omega

theorem fetched_foldl (rows : List (ℕ × Row)) : (rows.foldl (rotateRecord r dryRun) p).fetched = p.fetched := by
  induction rows generalizing p with
  | nil => rfl
  | cons record rows ih => rw [List.foldl_cons,ih,fetched_rotateRecord]

theorem offset_foldl (rows : List (ℕ × Row)) : (rows.foldl (rotateRecord r dryRun) p).offset = p.offset := by
  induction rows generalizing p with
  | nil => rfl
  | cons record rows ih => rw [List.foldl_cons,ih,offset_rotateRecord]

theorem stats_foldl (rows : List (ℕ × Row)) : (rows.foldl (rotateRecord r dryRun) p).stats.total = p.stats.total ∧
    (rows.foldl (rotateRecord r dryRun) p).stats.handled = p.stats.handled + rows.length := by
  induction rows generalizing p with
  | nil => exact ⟨rfl,rfl⟩
  | cons record rows ih =>
    obtain ⟨htotal,hhandled⟩ := ih (p := rotateRecord r dryRun p record)
    rw [List.foldl_cons,List.length_cons,htotal,hhandled,total_rotateRecord,handled_rotateRecord]
    exact ⟨rfl,by omega⟩

variable (r dryRun p) in
theorem fetched_rotateBatch (rows : List (ℕ × Row)) :
    (rotateBatch r dryRun p rows).fetched = p.fetched ++ rows.map Prod.fst := by
  unfold rotateBatch
  cases dryRun <;> exact fetched_foldl rows

/-- What a batch adds to the total it adds to the other counts. -/
theorem handled_rotateBatch (h : p.stats.total = p.stats.handled) (rows : List (ℕ × Row)) :
    (rotateBatch r dryRun p rows).stats.total = (rotateBatch r dryRun p rows).stats.handled := by
  have hstats : (rotateBatch r dryRun p rows).stats.total = p.stats.total + rows.length ∧
      (rotateBatch r dryRun p rows).stats.handled = p.stats.handled + rows.length := by
    unfold rotateBatch
    cases dryRun <;> exact stats_foldl rows
  rw [hstats.1,hstats.2,h]

theorem handled_rotateRecords {fuel : ℕ} (h : p.stats.total = p.stats.handled)
    (hrun : rotateRecords r order dryRun fuel p = some p') : p'.stats.total = p'.stats.handled := by
  induction fuel generalizing p with
  | zero => cases hrun
  | succ fuel ih =>
    unfold rotateRecords at hrun
    split at hrun
    · rw [← Option.some.inj hrun]
      exact h
    · exact ih (handled_rotateBatch h _) hrun

/-! ## A dry run -/

theorem store_foldl_dry (rows : List (ℕ × Row)) : (rows.foldl (rotateRecord r true) p).store = p.store := by
  induction rows generalizing p with
  | nil => rfl
  | cons record rows ih =>
    rw [List.foldl_cons,ih]
    unfold rotateRecord
    split <;> rfl

variable (r order) in
theorem exists_rotateRecords_dry {fuel : ℕ} (h : ((order.list (p.store.select r.pending)).drop p.offset).length ≤ fuel) :
    ∃ p', rotateRecords r order true (fuel + 1) p = some p' ∧
      p'.fetched = p.fetched ++ ((order.list (p.store.select r.pending)).drop p.offset).map Prod.fst := by
  induction fuel generalizing p with
  | zero =>
    have hnil := List.length_eq_zero_iff.mp (Nat.le_zero.mp h)
    refine ⟨p,?_,by rw [hnil,List.map_nil,List.append_nil]⟩
    unfold rotateRecords findMany
    rw [hnil]
    rfl
  | succ fuel ih =>
    unfold rotateRecords
    cases hrows : findMany r order p with
    | nil =>
      have hnil : (order.list (p.store.select r.pending)).drop p.offset = [] := by
        rcases List.take_eq_nil_iff.mp hrows with hzero | hnil
        · cases hzero
        · exact hnil
      exact ⟨p,rfl,by rw [hnil,List.map_nil,List.append_nil]⟩
    | cons row rows =>
      have hbatch := fetched_rotateBatch r true p (row :: rows)
      have hstore : (rotateBatch r true p (row :: rows)).store = p.store := store_foldl_dry (row :: rows)
      have hoffset : (rotateBatch r true p (row :: rows)).offset = p.offset + batchSize :=
        congrArg (· + batchSize) (offset_foldl (row :: rows))
      obtain ⟨p',hp',hfetched⟩ := ih (p := rotateBatch r true p (row :: rows)) (by
        rw [hstore,hoffset]
        have hpos : batchSize = 50 := rfl
        simp only [List.length_drop] at h ⊢
        omega)
      refine ⟨p',hp',?_⟩
      rw [hfetched,hbatch,hstore,hoffset,← hrows,findMany,List.append_assoc,← List.map_append,← List.drop_drop,
        List.take_append_drop]

theorem completes_dry (store : Table Row) : Completes r order true store := by
  obtain ⟨p,hp,hfetched⟩ := exists_rotateRecords_dry r order (p := start store) le_rfl
  refine ⟨_,p,hp,?_,handled_rotateRecords rfl hp⟩
  rw [hfetched]
  have hperm := (order.perm (store.select r.pending)).map Prod.fst
  exact hperm.nodup_iff.mpr (store.nodup.sublist (List.filter_sublist.map _))

/-! ## A real run -/

/-- A rotated record leaves the query, and no other does. -/
theorem select_rotateRecord {record : ℕ × Row} (h : (r.handle record.1 record.2).isRotated = true) :
    (rotateRecord r false p record).store.select r.pending =
      (p.store.select r.pending).filter fun q => q.1 ≠ record.1 := by
  cases hout : r.handle record.1 record.2 with
  | rotated write =>
    simp only [rotateRecord,hout,Bool.false_eq_true,if_false,Table.select,Table.modify]
    rw [List.filter_map,List.filter_filter]
    have hcongr : p.store.rows.filter ((fun q => r.pending q.2) ∘ fun q => if q.1 = record.1 then (q.1,write q.2) else q) =
        p.store.rows.filter fun q => decide (q.1 ≠ record.1) && r.pending q.2 := by
      refine List.filter_congr fun q _ => ?_
      by_cases hq : q.1 = record.1
      · simp [hq,r.leaves _ _ _ q.2 hout]
      · simp [hq]
    rw [hcongr]
    refine (List.map_congr_left fun q hq => ?_).trans (List.map_id _)
    have hboth := (List.mem_filter.mp hq).2
    rw [Bool.and_eq_true] at hboth
    have hne : q.1 ≠ record.1 := by simpa using hboth.1
    exact if_neg hne
  | skipped => rw [hout] at h; cases h
  | failed => rw [hout] at h; cases h

theorem select_foldl {rows : List (ℕ × Row)} (h : ∀ q ∈ rows, (r.handle q.1 q.2).isRotated = true) :
    (rows.foldl (rotateRecord r false) p).store.select r.pending =
      (p.store.select r.pending).filter fun q => q.1 ∉ rows.map Prod.fst := by
  induction rows generalizing p with
  | nil => simp
  | cons record rows ih =>
    obtain ⟨hrecord,hrows⟩ := List.forall_mem_cons.mp h
    rw [List.foldl_cons,ih hrows,select_rotateRecord hrecord,List.filter_filter]
    refine List.filter_congr fun q _ => ?_
    by_cases hq : q.1 = record.1 <;> simp [hq]

theorem mem_of_mem_findMany {record : ℕ × Row} (h : record ∈ findMany r order p) : record ∈ p.store.select r.pending :=
  (order.perm _).mem_iff.mp (List.mem_of_mem_drop (List.mem_of_mem_take h))

theorem findMany_nodup : ((findMany r order p).map Prod.fst).Nodup := by
  have hperm := (order.perm (p.store.select r.pending)).map Prod.fst
  have hnodup := hperm.nodup_iff.mpr (p.store.nodup.sublist (List.filter_sublist.map _))
  exact hnodup.sublist (((List.take_sublist _ _).trans (List.drop_sublist _ _)).map _)

/-- Nothing fetched so far is pending any more. -/
structure Drained (r : Rotation Row) (p : Progress Row) : Prop where
  offset : p.offset = 0
  nodup : p.fetched.Nodup
  gone : ∀ id ∈ p.fetched, id ∉ (p.store.select r.pending).map Prod.fst
  rotatable : ∀ q ∈ p.store.select r.pending, (r.handle q.1 q.2).isRotated = true

variable (order) in
theorem Drained.batch (h : Drained r p) : Drained r (rotateBatch r false p (findMany r order p)) ∧
    (rotateBatch r false p (findMany r order p)).store.select r.pending =
      (p.store.select r.pending).filter fun q => q.1 ∉ (findMany r order p).map Prod.fst := by
  have hrows : ∀ q ∈ findMany r order p, (r.handle q.1 q.2).isRotated = true :=
    fun q hq => h.rotatable q (mem_of_mem_findMany hq)
  have hselect : (rotateBatch r false p (findMany r order p)).store.select r.pending =
      (p.store.select r.pending).filter fun q => q.1 ∉ (findMany r order p).map Prod.fst := select_foldl hrows
  refine ⟨⟨(offset_foldl _).trans h.offset,?_,?_,?_⟩,hselect⟩
  · rw [fetched_rotateBatch]
    refine List.nodup_append.mpr ⟨h.nodup,findMany_nodup,?_⟩
    rintro id hid _ hid' rfl
    obtain ⟨q,hq,rfl⟩ := List.mem_map.mp hid'
    exact h.gone q.1 hid (List.mem_map.mpr ⟨q,mem_of_mem_findMany hq,rfl⟩)
  · intro id hid
    rw [fetched_rotateBatch,List.mem_append] at hid
    rw [hselect]
    intro hmem
    obtain ⟨q,hq,rfl⟩ := List.mem_map.mp hmem
    obtain ⟨hq,hnot⟩ := List.mem_filter.mp hq
    rcases hid with hid | hid
    · exact h.gone q.1 hid (List.mem_map.mpr ⟨q,hq,rfl⟩)
    · simp [hid] at hnot
  · intro q hq
    rw [hselect] at hq
    exact h.rotatable q (List.mem_filter.mp hq).1

variable (order) in
theorem exists_rotateRecords {fuel : ℕ} (h : Drained r p) (hfuel : (p.store.select r.pending).length ≤ fuel) :
    ∃ p', rotateRecords r order false (fuel + 1) p = some p' ∧ p'.fetched.Nodup := by
  induction fuel generalizing p with
  | zero =>
    have hnil := List.length_eq_zero_iff.mp (Nat.le_zero.mp hfuel)
    have hlist : order.list (p.store.select r.pending) = [] := by
      rw [hnil]
      exact (order.perm []).eq_nil
    refine ⟨p,?_,h.nodup⟩
    unfold rotateRecords findMany
    rw [hlist,List.drop_nil,List.take_nil]
  | succ fuel ih =>
    unfold rotateRecords
    cases hrows : findMany r order p with
    | nil => exact ⟨p,rfl,h.nodup⟩
    | cons row rows =>
      obtain ⟨hdrained,hselect⟩ := h.batch order
      rw [hrows] at hdrained hselect
      refine ih hdrained ?_
      rw [hselect]
      have hfetched : row ∈ findMany r order p := by rw [hrows]; exact List.mem_cons_self
      have hmem : row ∈ p.store.select r.pending := mem_of_mem_findMany hfetched
      have hlt : ((p.store.select r.pending).filter fun q => q.1 ∉ (row :: rows).map Prod.fst).length <
          (p.store.select r.pending).length := by
        refine List.length_filter_lt_length_iff_exists.mpr ⟨row,hmem,?_⟩
        simp
      omega

/-- A record that cannot be rotated stays in the query. -/
theorem mem_select_foldl {stuck : ℕ × Row} (hstuck : (r.handle stuck.1 stuck.2).isRotated = false) {rows : List (ℕ × Row)}
    (hrows : ∀ q ∈ rows, q.1 = stuck.1 → q = stuck) (h : stuck ∈ p.store.select r.pending) :
    stuck ∈ (rows.foldl (rotateRecord r false) p).store.select r.pending := by
  induction rows generalizing p with
  | nil => exact h
  | cons record rows ih =>
    obtain ⟨hrecord,hrows⟩ := List.forall_mem_cons.mp hrows
    refine ih hrows ?_
    by_cases hrot : (r.handle record.1 record.2).isRotated = true
    · rw [select_rotateRecord hrot]
      refine List.mem_filter.mpr ⟨h,?_⟩
      simp only [decide_eq_true_eq]
      intro he
      rw [hrecord he.symm,hstuck] at hrot
      cases hrot
    · cases hout : r.handle record.1 record.2 with
      | rotated write => rw [hout] at hrot; exact absurd rfl hrot
      | skipped => simpa [rotateRecord,hout] using h
      | failed => simpa [rotateRecord,hout] using h

theorem rotateRecords_eq_none {stuck : ℕ × Row} (hstuck : (r.handle stuck.1 stuck.2).isRotated = false)
    (h : stuck ∈ p.store.select r.pending) (hoffset : p.offset = 0) (fuel : ℕ) :
    rotateRecords r order false fuel p = none := by
  induction fuel generalizing p with
  | zero => rfl
  | succ fuel ih =>
    unfold rotateRecords
    cases hrows : findMany r order p with
    | nil =>
      rw [findMany,hoffset,List.drop_zero] at hrows
      rcases List.take_eq_nil_iff.mp hrows with hzero | hnil
      · cases hzero
      · have hmem := (order.perm _).mem_iff.mpr h
        rw [hnil] at hmem
        cases hmem
    | cons row rows =>
      refine ih (mem_select_foldl hstuck (fun q hq he => ?_) h) ((offset_foldl _).trans hoffset)
      have hfetched : q ∈ findMany r order p := by rw [hrows]; exact hq
      have hq' : q ∈ p.store.select r.pending := mem_of_mem_findMany hfetched
      exact List.inj_on_of_nodup_map p.store.nodup (List.mem_of_mem_filter hq') (List.mem_of_mem_filter h) he

theorem completes_iff (store : Table Row) : Completes r order dryRun store ↔
    dryRun = true ∨ ∀ q ∈ store.select r.pending, (r.handle q.1 q.2).isRotated = true := by
  cases dryRun with
  | true => exact iff_of_true (completes_dry store) (.inl rfl)
  | false =>
    rw [or_iff_right Bool.false_ne_true]
    constructor
    · rintro ⟨fuel,p,hp,-⟩ q hq
      by_contra hnot
      rw [rotateRecords_eq_none (Bool.not_eq_true _ ▸ hnot) hq rfl fuel] at hp
      cases hp
    · intro hall
      obtain ⟨p,hp,hnodup⟩ := exists_rotateRecords order (p := start store)
        ⟨rfl,List.nodup_nil,fun _ h => (by cases h),hall⟩ le_rfl
      exact ⟨_,p,hp,hnodup,handled_rotateRecords rfl hp⟩

end

/-! ## The three loops -/

section
variable {Key Nonce : Type} {aead : Aead Key Nonce} {env : Environment Key} {nonce : ℕ → ℕ → Nonce}

/-- The key that a record names is loaded and opens all its texts. -/
def Rotatable (aead : Aead Key Nonce) (env : Environment Key) (keyRef : String) (texts : List String) : Prop :=
  ∃ key, env.keys (keyRefToVersion keyRef) = some key ∧ ∀ text ∈ texts, (aead.decrypt key text).isSome = true

theorem isRotated_stripe_iff (id : ℕ) (row : StripeConfig) : (handleStripeConfig aead env nonce id row).isRotated = true ↔
    Rotatable aead env row.encryptionKeyRef [row.secretKeyEncrypted,row.webhookSecretEncrypted] := by
  unfold handleStripeConfig Rotatable
  cases env.keys (keyRefToVersion row.encryptionKeyRef) with
  | none => simp [Outcome.isRotated]
  | some key =>
    cases h₁ : aead.decrypt key row.secretKeyEncrypted <;> cases h₂ : aead.decrypt key row.webhookSecretEncrypted <;>
      simp [reencrypt,h₁,h₂,Outcome.isRotated]

variable (env) in
theorem isSome_reencryptField (key : Key) (n : Nonce) (text : Option String) :
    (reencryptField aead env key n text).isSome = true ↔ ∀ t ∈ text.toList, (aead.decrypt key t).isSome = true := by
  cases text <;> simp [reencryptField,reencrypt]

theorem isRotated_bank_iff (id : ℕ) (row : StaffProfile) : (handleStaffProfile aead env nonce id row).isRotated = true ↔
    Rotatable aead env (row.encryptionKeyRef.getD "") (row.accountNumberEncrypted.toList ++ row.ibanEncrypted.toList) := by
  unfold handleStaffProfile Rotatable
  cases env.keys (keyRefToVersion (row.encryptionKeyRef.getD "")) with
  | none => simp [Outcome.isRotated]
  | some key =>
    simp only [Option.some.injEq,exists_eq_left',List.forall_mem_append]
    rw [← isSome_reencryptField env key (nonce id 0),← isSome_reencryptField env key (nonce id 1)]
    cases reencryptField aead env key (nonce id 0) row.accountNumberEncrypted <;>
      cases reencryptField aead env key (nonce id 1) row.ibanEncrypted <;> simp [Outcome.isRotated]

theorem isRotated_mfa_iff (id : ℕ) {row : MfaUser} (h : mfaPending env row = true) :
    (handleMfaUser aead env nonce id row).isRotated = true ↔
      Rotatable aead env (row.mfaSecretKeyRef.getD "") row.mfaSecret.toList := by
  unfold handleMfaUser Rotatable
  cases env.keys (keyRefToVersion (row.mfaSecretKeyRef.getD "")) with
  | none => simp [Outcome.isRotated]
  | some key =>
    cases hs : row.mfaSecret with
    | none => simp [mfaPending,hs] at h
    | some text => cases hd : aead.decrypt key text <;> simp [reencrypt,hd,Outcome.isRotated]

/-- Each loop completes precisely in a dry run or when every record it has to rotate can be. -/
theorem rotations_complete_iff (aead : Aead Key Nonce) (env : Environment Key) (nonce : ℕ → ℕ → Nonce) (dryRun : Bool)
    (stripeOrder : RowOrder StripeConfig) (bankOrder : RowOrder StaffProfile) (mfaOrder : RowOrder MfaUser)
    (stripeConfigs : Table StripeConfig) (staffProfiles : Table StaffProfile) (users : Table MfaUser) :
    (Completes (rotateStripeConfigs aead env nonce) stripeOrder dryRun stripeConfigs ↔ dryRun = true ∨
      ∀ q ∈ stripeConfigs.select (stripePending env),
        Rotatable aead env q.2.encryptionKeyRef [q.2.secretKeyEncrypted,q.2.webhookSecretEncrypted]) ∧
    (Completes (rotateStaffBankDetails aead env nonce) bankOrder dryRun staffProfiles ↔ dryRun = true ∨
      ∀ q ∈ staffProfiles.select (bankPending env), Rotatable aead env (q.2.encryptionKeyRef.getD "")
        (q.2.accountNumberEncrypted.toList ++ q.2.ibanEncrypted.toList)) ∧
    (Completes (rotateMfaSecrets aead env nonce) mfaOrder dryRun users ↔ dryRun = true ∨
      ∀ q ∈ users.select (mfaPending env), Rotatable aead env (q.2.mfaSecretKeyRef.getD "") q.2.mfaSecret.toList) := by
  refine ⟨(completes_iff _).trans ?_,(completes_iff _).trans ?_,(completes_iff _).trans ?_⟩
  · exact or_congr_right (forall₂_congr fun q _ => isRotated_stripe_iff q.1 q.2)
  · exact or_congr_right (forall₂_congr fun q _ => isRotated_bank_iff q.1 q.2)
  · refine or_congr_right (forall₂_congr fun q hq => isRotated_mfa_iff q.1 ?_)
    have hpending := (List.mem_filter.mp hq).2
    exact hpending

end

/-! One Stripe configuration names a key that is not loaded. -/

def clearText : Aead ℕ Unit := ⟨fun _ _ text => text,fun _ text => some text⟩

theorem firstKey_loaded : (fun version => if version = 1 then some 1 else none : ℕ → Option ℕ) 1 = some 1 := rfl

def onlyFirstKey : Environment ℕ := ⟨fun version => if version = 1 then some 1 else none,1,1,firstKey_loaded⟩

def insertionOrder (Row : Type) : RowOrder Row := ⟨id,List.Perm.refl⟩

def unloadedConfig : StripeConfig := ⟨"secret","webhook","v2"⟩

/-- The loop fetches that record for ever. -/
theorem not_rotations_complete : ¬ ∀ (Key Nonce : Type) (aead : Aead Key Nonce) (env : Environment Key)
    (nonce : ℕ → ℕ → Nonce) (dryRun : Bool) (order : RowOrder StripeConfig) (stripeConfigs : Table StripeConfig),
    Completes (rotateStripeConfigs aead env nonce) order dryRun stripeConfigs := by
  intro h
  obtain ⟨fuel,p,hp,-⟩ := h ℕ Unit clearText onlyFirstKey (fun _ _ => ()) false (insertionOrder _)
    (Table.empty.insert unloadedConfig)
  have hstuck : (0,unloadedConfig) ∈ (Table.empty.insert unloadedConfig).select (stripePending onlyFirstKey) := by
    decide +kernel
  have hhandle : ((rotateStripeConfigs clearText onlyFirstKey fun _ _ => ()).handle 0 unloadedConfig).isRotated = false := by
    decide +kernel
  rw [rotateRecords_eq_none hhandle hstuck rfl fuel] at hp
  cases hp

end EduPod.Security
