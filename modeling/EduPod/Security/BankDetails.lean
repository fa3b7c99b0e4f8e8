import EduPod.Foundation.Runs
import EduPod.Security.KeyRotation

/-! # Bank details under one key reference

The account number and the IBAN of a staff profile are two texts under one key reference. The API
writes either of them, a rotation run reads a profile and writes it back later. Every request and
every run is served under the key version that is current where it runs.
-/
namespace EduPod.Security
open Runs

/-- AES-GCM as it is relied on: a text opens under the key it was encrypted with, and under no other. -/
structure SealedAead (Key Nonce : Type) extends Aead Key Nonce where
  opens : ∀ key n plain, decrypt key (encrypt key n plain) = some plain
  only : ∀ key key' text plain plain', decrypt key text = some plain → decrypt key' text = some plain' → key = key'

inductive BankField
  | accountNumber | iban
  deriving DecidableEq, Repr

def StaffProfile.text (row : StaffProfile) : BankField → Option String
  | .accountNumber => row.accountNumberEncrypted
  | .iban => row.ibanEncrypted

/-- What a request says of a field: nothing, a null or empty value, or a value. -/
inductive FieldChange
  | leave
  | clear
  | set (value : String)
  deriving DecidableEq

/-- A field of the body: absent, null, or a string. -/
def FieldChange.of : Option (Option String) → FieldChange
  | none => .leave
  | some none => .clear
  | some (some value) => if value = "" then .clear else .set value

structure UpdateStaffProfileDto where
  bankAccountNumber : Option (Option String)
  bankIban : Option (Option String)

def UpdateStaffProfileDto.change (dto : UpdateStaffProfileDto) : BankField → FieldChange
  | .accountNumber => .of dto.bankAccountNumber
  | .iban => .of dto.bankIban

structure CreateStaffProfileDto where
  bankAccountNumber : Option String
  bankIban : Option String

/-- A profile, and the values last written to its fields through the API. -/
structure BankProfile where
  row : StaffProfile
  written : BankField → Option String

/-- A rotation run: the version it runs under, and the fetched profiles it has still to handle. -/
structure RotationRun where
  version : ℕ
  dryRun : Bool
  offset : ℕ
  batch : List (ℕ × StaffProfile)

structure Office where
  profiles : Table BankProfile
  runs : Table RotationRun

def Office.empty : Office := ⟨Table.empty,Table.empty⟩

inductive Event (Nonce : Type)
  | create (version : ℕ) (dto : CreateStaffProfileDto) (nonce : BankField → Nonce)
  | update (id version : ℕ) (dto : UpdateStaffProfileDto) (nonce : BankField → Nonce)
  | startRotation (version : ℕ) (dryRun : Bool)
  | fetch (runId : ℕ)
  | rotateNext (runId : ℕ) (nonce : ℕ → ℕ → Nonce)

variable {Key Nonce : Type} (aead : SealedAead Key Nonce) (keys : ℕ → Option Key)

/-- `EncryptionService.decrypt`. -/
def openText (keyRef text : String) : Option String :=
  (keys (keyRefToVersion keyRef)).bind fun key => aead.decrypt key text

def FieldChange.text (key : Option Key) (n : Nonce) (current : Option String) : FieldChange → Option String
  | .leave => current
  | .clear => none
  | .set value => key.map fun key => aead.encrypt key n value

def FieldChange.written (current : Option String) : FieldChange → Option String
  | .leave => current
  | .clear => none
  | .set value => some value

def FieldChange.isSet : FieldChange → Bool
  | .set _ => true
  | _ => false

def setsText (change : BankField → FieldChange) : Bool := (change .accountNumber).isSet || (change .iban).isSet

/-- A request that sets a field fails when the current key is not loaded. -/
def served (version : ℕ) (change : BankField → FieldChange) : Bool := (keys version).isSome || !setsText change

/-- What a served request writes. A profile of which nothing is written yet is the case of a new one. -/
def applyChanges (version : ℕ) (nonce : BankField → Nonce) (change : BankField → FieldChange)
    (p : BankProfile) : BankProfile where
  row := {
    accountNumberEncrypted := (change .accountNumber).text aead (keys version) (nonce .accountNumber) p.row.accountNumberEncrypted
    ibanEncrypted := (change .iban).text aead (keys version) (nonce .iban) p.row.ibanEncrypted
    encryptionKeyRef := if setsText change then some (keyRefOf version) else p.row.encryptionKeyRef }
  written := fun f => (change f).written (p.written f)

def noProfile : BankProfile := ⟨⟨none,none,none⟩,fun _ => none⟩

def CreateStaffProfileDto.change (dto : CreateStaffProfileDto) : BankField → FieldChange
  | .accountNumber => .of (dto.bankAccountNumber.map some)
  | .iban => .of (dto.bankIban.map some)

/-- The environment of a run, if its version is loaded. -/
def environment (version : ℕ) : Option (Environment Key) :=
  match h : keys version with
  | some key => some ⟨keys,version,key,h⟩
  | none => none

variable (order : RowOrder StaffProfile)

/-- The profiles a run fetches next. -/
def Office.pending (s : Office) (env : Environment Key) (run : RotationRun) : List (ℕ × StaffProfile) :=
  let rows := (s.profiles.rows.map fun p => (p.1,p.2.row)).filter fun p => bankPending env p.2
  ((order.list rows).drop run.offset).take batchSize

def writeOutcome (profiles : Table BankProfile) (dryRun : Bool) (id : ℕ) : Outcome StaffProfile → Table BankProfile
  | .rotated write => if dryRun then profiles else profiles.modify id fun p => { p with row := write p.row }
  | _ => profiles

def Office.step (s : Office) : Event Nonce → Office
  | .create version dto nonce =>
    if served keys version dto.change then
      { s with profiles := s.profiles.insert (applyChanges aead keys version nonce dto.change noProfile) }
    else s
  | .update id version dto nonce =>
    if served keys version dto.change then
      { s with profiles := s.profiles.modify id (applyChanges aead keys version nonce dto.change) }
    else s
  | .startRotation version dryRun => { s with runs := s.runs.insert ⟨version,dryRun,0,[]⟩ }
  | .fetch runId =>
    match s.runs.get? runId with
    | none => s
    | some run =>
      match environment keys run.version with
      | none => s
      | some env =>
        if run.batch = [] then
          { s with runs := s.runs.modify runId fun run => { run with
              offset := if run.dryRun then run.offset + batchSize else run.offset
              batch := s.pending order env run } }
        else s
  | .rotateNext runId nonce =>
    match s.runs.get? runId with
    | none => s
    | some run =>
      match environment keys run.version, run.batch with
      | some env, (id,row) :: rest =>
        { s with
          profiles := writeOutcome s.profiles run.dryRun id (handleStaffProfile aead.toAead env nonce id row)
          runs := s.runs.modify runId fun run => { run with batch := rest } }
      | _, _ => s

/-! ## What should hold -/

/-- Every text opens under the profile's reference, to the value last written. -/
def BankProfile.Sound (p : BankProfile) : Prop :=
  ∀ f text, p.row.text f = some text →
    ∃ value, p.written f = some value ∧ (p.row.encryptionKeyRef.bind fun ref => openText aead keys ref text) = some value

def Office.Sound (s : Office) : Prop := ∀ id p, s.profiles.get? id = some p → p.Sound aead keys

/-- The key that a profile's reference names. -/
def BankProfile.key (p : BankProfile) : Option Key := keys (keyRefToVersion (p.row.encryptionKeyRef.getD ""))

/-- A field that the update leaves alone keeps its key, or the update leaves the reference alone too. -/
def KeepsKey (version : ℕ) (change : BankField → FieldChange) (p : BankProfile) : Prop :=
  (∃ f, (change f).isSet = true) → ∀ f, change f = .leave → (p.row.text f).isSome = true → p.key keys = keys version

/-- What a run read of a profile is what was last written to it, and a field that was empty then is
empty still or under the run's key. -/
def UpToDate (version : ℕ) (read : StaffProfile) (p : BankProfile) : Prop :=
  (∀ f text, read.text f = some text → p.written f = openText aead keys (read.encryptionKeyRef.getD "") text) ∧
    ∀ f, read.text f = none → (p.row.text f).isSome = true → p.key keys = keys version

/-- The texts a run would write back open. -/
def Opens (read : StaffProfile) : Prop :=
  (keys (keyRefToVersion (read.encryptionKeyRef.getD ""))).isSome = true ∧
    ∀ f text, read.text f = some text → (openText aead keys (read.encryptionKeyRef.getD "") text).isSome = true

/-- The profiles that the event touches are as the event takes them to be. -/
def Office.Guard (s : Office) : Event Nonce → Prop
  | .update id version dto _ =>
    served keys version dto.change = true → ∀ p, s.profiles.get? id = some p → KeepsKey keys version dto.change p
  | .rotateNext runId _ =>
    ∀ run id read rest p, s.runs.get? runId = some run → run.dryRun = false → (keys run.version).isSome = true →
      run.batch = (id,read) :: rest → Opens aead keys read → s.profiles.get? id = some p →
        UpToDate aead keys run.version read p
  | _ => True

variable {aead keys}

/-! ## Keys and references -/

theorem keyRefToVersion_keyRefOf (version : ℕ) : keyRefToVersion (keyRefOf version) = version := by
  have hlist : (keyRefOf version).toList = 'v' :: Nat.toDigits 10 version := by
    simp only [keyRefOf,String.toList_append,Nat.toString_eq_ofList_toDigits]
    simp
    rfl
  unfold keyRefToVersion
  rw [hlist]
  have hdigits : (Nat.toDigits 10 version).all Char.isDigit = true :=
    List.all_eq_true.mpr fun c hc => Nat.isDigit_of_mem_toDigits (by decide) (by decide) hc
  exact (if_pos ⟨Nat.toDigits_ne_nil,hdigits⟩).trans Nat.ofDigitChars_ten_toDigits

theorem openText_keyRefOf {version : ℕ} {key : Key} (h : keys version = some key) (text : String) :
    openText aead keys (keyRefOf version) text = aead.decrypt key text := by
  rw [openText,keyRefToVersion_keyRefOf,h,Option.bind_some]

theorem environment_eq_some {version : ℕ} {env : Environment Key} (h : environment keys version = some env) :
    env.keys = keys ∧ env.currentVersion = version ∧ keys version = some env.currentKey := by
  unfold environment at h
  split at h
  · rename_i key hkey
    obtain rfl := Option.some.inj h
    exact ⟨rfl,rfl,hkey⟩
  · cases h

theorem isSome_environment (version : ℕ) : (environment keys version).isSome = (keys version).isSome := by
  unfold environment
  split
  · rename_i key hkey
    exact (congrArg Option.isSome hkey).symm
  · rename_i hkey
    exact (congrArg Option.isSome hkey).symm

variable {p : BankProfile}

/-- A text of a sound profile opens under the profile's key. -/
theorem BankProfile.Sound.opens (h : p.Sound aead keys) {f : BankField} {text : String} (ht : p.row.text f = some text) :
    ∃ value key, p.written f = some value ∧ p.key keys = some key ∧ aead.decrypt key text = some value := by
  obtain ⟨value,hvalue,hopen⟩ := h f text ht
  obtain ⟨ref,href,hopen⟩ := Option.bind_eq_some_iff.mp hopen
  obtain ⟨key,hkey,hdecrypt⟩ := Option.bind_eq_some_iff.mp hopen
  exact ⟨value,key,hvalue,by rw [BankProfile.key,href]; exact hkey,hdecrypt⟩

/-- A text that is kept under a new reference still opens if the key is the same. -/
theorem kept_opens_iff (h : p.Sound aead keys) {version : ℕ} {key : Key} (hkey : keys version = some key) {f : BankField}
    {text : String} (ht : p.row.text f = some text) :
    (∃ value, p.written f = some value ∧ openText aead keys (keyRefOf version) text = some value) ↔
      p.key keys = keys version := by
  obtain ⟨value,old,hvalue,hold,hdecrypt⟩ := h.opens ht
  rw [openText_keyRefOf hkey,hold,hkey,Option.some.injEq]
  constructor
  · rintro ⟨_,-,hnew⟩
    exact aead.only _ _ _ _ _ hdecrypt hnew
  · rintro rfl
    exact ⟨value,hvalue,hdecrypt⟩

/-! ## One write of the API -/

theorem text_applyChanges (version : ℕ) (nonce : BankField → Nonce) (change : BankField → FieldChange) (f : BankField) :
    (applyChanges aead keys version nonce change p).row.text f =
      (change f).text aead (keys version) (nonce f) (p.row.text f) := by
  cases f <;> rfl

theorem setsText_iff (change : BankField → FieldChange) : setsText change = true ↔ ∃ f, (change f).isSet = true := by
  rw [setsText,Bool.or_eq_true]
  constructor
  · rintro (h | h)
    · exact ⟨_,h⟩
    · exact ⟨_,h⟩
  · rintro ⟨f,h⟩
    cases f with
    | accountNumber => exact .inl h
    | iban => exact .inr h

theorem keyRef_applyChanges (version : ℕ) (nonce : BankField → Nonce) (change : BankField → FieldChange) :
    (applyChanges aead keys version nonce change p).row.encryptionKeyRef =
      if setsText change then some (keyRefOf version) else p.row.encryptionKeyRef := rfl

theorem sound_applyChanges_iff (h : p.Sound aead keys) {version : ℕ} {change : BankField → FieldChange}
    (hserved : served keys version change = true) (nonce : BankField → Nonce) :
    (applyChanges aead keys version nonce change p).Sound aead keys ↔ KeepsKey keys version change p := by
  unfold BankProfile.Sound KeepsKey
  simp only [text_applyChanges,keyRef_applyChanges]
  by_cases hset : ∃ f, (change f).isSet = true
  · have hsets := (setsText_iff change).mpr hset
    obtain ⟨key,hkey⟩ : ∃ key, keys version = some key := by
      rw [served,hsets,Bool.not_true,Bool.or_false] at hserved
      exact Option.isSome_iff_exists.mp hserved
    rw [if_pos hsets]
    simp only [hset,true_imp_iff,Option.bind_some]
    refine forall_congr' fun f => ?_
    change (∀ text, _ → ∃ value, (change f).written (p.written f) = some value ∧ _) ↔ _
    cases hc : change f with
    | clear => simp [FieldChange.text]
    | set value =>
      refine iff_of_true (fun text ht => ⟨value,rfl,?_⟩) (by simp)
      rw [FieldChange.text,hkey,Option.map_some] at ht
      rw [← Option.some.inj ht,openText_keyRefOf hkey,aead.opens]
    | leave =>
      simp only [FieldChange.text,FieldChange.written,true_imp_iff]
      cases ht : p.row.text f with
      | none => simp
      | some text => simp only [Option.some.injEq,forall_eq',Option.isSome_some,true_imp_iff,kept_opens_iff h hkey ht]
  · rw [if_neg (by rwa [setsText_iff])]
    refine iff_of_true (fun f text ht => ?_) (fun he => absurd he hset)
    change ∃ value, (change f).written (p.written f) = some value ∧ _
    cases hc : change f with
    | clear => rw [hc] at ht; cases ht
    | set value => exact absurd ⟨f,by rw [hc]; rfl⟩ hset
    | leave =>
      rw [hc] at ht
      exact h f text ht

/-! ## One write of a rotation run -/

variable (aead) in
theorem isRotated_iff_opens {env : Environment Key} (henv : env.keys = keys) (nonce : ℕ → ℕ → Nonce) (id : ℕ)
    (read : StaffProfile) : (handleStaffProfile aead.toAead env nonce id read).isRotated = true ↔ Opens aead keys read := by
  rw [isRotated_bank_iff,Rotatable,Opens,henv]
  cases hkey : keys (keyRefToVersion (read.encryptionKeyRef.getD "")) with
  | none => simp
  | some key =>
    simp only [Option.some.injEq,exists_eq_left',Option.isSome_some,true_and,List.forall_mem_append,Option.mem_toList]
    have hopen : ∀ text, openText aead keys (read.encryptionKeyRef.getD "") text = aead.decrypt key text :=
      fun text => by rw [openText,hkey]; rfl
    simp only [hopen]
    constructor
    · rintro ⟨haccount,hiban⟩ f text ht
      cases f with
      | accountNumber => exact haccount text ht
      | iban => exact hiban text ht
    · exact fun hall => ⟨hall .accountNumber,hall .iban⟩

/-- How a rotated profile is written. -/
theorem handleStaffProfile_eq {env : Environment Key} {nonce : ℕ → ℕ → Nonce} {id : ℕ} {read : StaffProfile}
    {write : StaffProfile → StaffProfile} (h : handleStaffProfile aead.toAead env nonce id read = .rotated write) (row : StaffProfile) :
    (write row).encryptionKeyRef = some env.currentKeyRef ∧ ∀ f,
      (read.text f = none → (write row).text f = row.text f) ∧
      ∀ text, read.text f = some text → ∃ plain n, openText aead env.keys (read.encryptionKeyRef.getD "") text = some plain ∧
        (write row).text f = some (aead.encrypt env.currentKey n plain) := by
  unfold handleStaffProfile at h
  cases hkey : env.keys (keyRefToVersion (read.encryptionKeyRef.getD "")) with
  | none => simp [hkey] at h
  | some key =>
    have hopen : ∀ text, openText aead env.keys (read.encryptionKeyRef.getD "") text = aead.decrypt key text :=
      fun text => by rw [openText,hkey]; rfl
    simp only [hkey,hopen] at h ⊢
    cases haccount : reencryptField aead.toAead env key (nonce id 0) read.accountNumberEncrypted with
    | none => simp [haccount] at h
    | some account =>
      cases hiban : reencryptField aead.toAead env key (nonce id 1) read.ibanEncrypted with
      | none => simp [haccount,hiban] at h
      | some iban =>
        simp only [haccount,hiban,Outcome.rotated.injEq] at h
        subst h
        refine ⟨rfl,fun f => ?_⟩
        have hfield : ∀ (old : Option String) (n : Nonce) (new current : Option String),
            reencryptField aead.toAead env key n old = some new → (old = none → new.or current = current) ∧
              ∀ text, old = some text → ∃ plain n, aead.decrypt key text = some plain ∧
                new.or current = some (aead.encrypt env.currentKey n plain) := by
          intro old n new current hnew
          cases old with
          | none =>
            obtain rfl := Option.some.inj hnew
            exact ⟨fun _ => rfl,fun _ ht => (by cases ht)⟩
          | some text =>
            obtain ⟨c,hc,rfl⟩ := Option.map_eq_some_iff.mp hnew
            obtain ⟨plain,hplain,rfl⟩ := Option.map_eq_some_iff.mp hc
            refine ⟨fun ht => (by cases ht),fun text' ht => ⟨plain,n,?_,rfl⟩⟩
            rwa [← Option.some.inj ht]
        cases f with
        | accountNumber => exact hfield _ _ _ _ haccount
        | iban => exact hfield _ _ _ _ hiban

theorem sound_write_iff (h : p.Sound aead keys) {env : Environment Key} (henv : env.keys = keys)
    (hkey : keys env.currentVersion = some env.currentKey) {nonce : ℕ → ℕ → Nonce} {id : ℕ} {read : StaffProfile}
    {write : StaffProfile → StaffProfile} (hwrite : handleStaffProfile aead.toAead env nonce id read = .rotated write) :
    (({ p with row := write p.row } : BankProfile).Sound aead keys) ↔ UpToDate aead keys env.currentVersion read p := by
  obtain ⟨href,hfields⟩ := handleStaffProfile_eq hwrite p.row
  unfold BankProfile.Sound UpToDate
  rw [← forall_and]
  refine forall_congr' fun f => ?_
  obtain ⟨hnone,hsome⟩ := hfields f
  simp only [href,Option.bind_some,Environment.currentKeyRef]
  cases hread : read.text f with
  | none =>
    rw [hnone hread]
    cases ht : p.row.text f with
    | none => simp
    | some text =>
      simp only [Option.some.injEq,forall_eq',Option.isSome_some,true_imp_iff,kept_opens_iff h hkey ht,reduceCtorEq,
        false_imp_iff,implies_true,true_and]
  | some text =>
    obtain ⟨plain,n,hopen,htext⟩ := hsome text hread
    rw [henv] at hopen
    rw [htext]
    simp only [Option.some.injEq,forall_eq',reduceCtorEq,false_imp_iff,and_true,openText_keyRefOf hkey,aead.opens,hopen]
    constructor
    · rintro ⟨value,hvalue,rfl⟩
      exact hvalue
    · exact fun hvalue => ⟨plain,hvalue,rfl⟩

/-! ## One event -/

section
variable {s : Office}

/-- Only one profile is written, so only its soundness is at stake. -/
theorem sound_modify_iff (h : s.Sound aead keys) (id : ℕ) (g : BankProfile → BankProfile) (runs : Table RotationRun) :
    (Office.Sound aead keys ⟨s.profiles.modify id g,runs⟩) ↔
      ∀ p, s.profiles.get? id = some p → (g p).Sound aead keys := by
  constructor
  · exact fun hs p hp => hs id (g p) (Table.get?_modify_self hp g)
  · intro hg id' p' hp'
    simp only [Table.get?_modify] at hp'
    split at hp'
    · rename_i hid
      subst hid
      obtain ⟨p,hp,rfl⟩ := Option.map_eq_some_iff.mp hp'
      exact hg p hp
    · exact h id' p' hp'

theorem sound_noProfile : noProfile.Sound aead keys := by
  intro f text ht
  cases f <;> cases ht

theorem not_leave_create (dto : CreateStaffProfileDto) (version : ℕ) : KeepsKey keys version dto.change noProfile := by
  intro _ f _ ht
  cases f <;> cases ht

theorem sound_create (h : s.Sound aead keys) {version : ℕ} {dto : CreateStaffProfileDto}
    (hserved : served keys version dto.change = true) (nonce : BankField → Nonce) :
    Office.Sound aead keys { s with profiles := s.profiles.insert (applyChanges aead keys version nonce dto.change noProfile) } := by
  intro id p hp
  simp only [Table.get?_insert] at hp
  split at hp
  · rw [← Option.some.inj hp]
    exact (sound_applyChanges_iff sound_noProfile hserved nonce).mpr (not_leave_create dto version)
  · exact h id p hp

/-- A run that handles its next profile writes it only in a real run, and only if its texts open. -/
theorem sound_rotateNext_iff (h : s.Sound aead keys) {run : RotationRun} {env : Environment Key}
    (henv : environment keys run.version = some env) (id : ℕ) (read : StaffProfile) (nonce : ℕ → ℕ → Nonce)
    (runs : Table RotationRun) :
    (Office.Sound aead keys
      ⟨writeOutcome s.profiles run.dryRun id (handleStaffProfile aead.toAead env nonce id read),runs⟩) ↔
      (run.dryRun = false → Opens aead keys read → ∀ p, s.profiles.get? id = some p →
        UpToDate aead keys run.version read p) := by
  obtain ⟨hkeys,hversion,hkey⟩ := environment_eq_some henv
  have hopens := isRotated_iff_opens aead hkeys nonce id read
  cases hhandle : handleStaffProfile aead.toAead env nonce id read with
  | rotated write =>
    rw [hhandle] at hopens
    simp only [writeOutcome,hopens.mp rfl,true_imp_iff]
    cases hdry : run.dryRun with
    | true => exact iff_of_true h fun hf => (by cases hf)
    | false =>
      simp only [Bool.false_eq_true,if_false,true_imp_iff]
      rw [sound_modify_iff h]
      refine forall₂_congr fun p hp => ?_
      rw [← hversion]
      exact sound_write_iff (h id p hp) hkeys (by rw [hversion]; exact hkey) hhandle
  | skipped =>
    rw [hhandle] at hopens
    exact iff_of_true h fun _ hopen => (by cases hopens.mpr hopen)
  | failed =>
    rw [hhandle] at hopens
    exact iff_of_true h fun _ hopen => (by cases hopens.mpr hopen)

theorem sound_step_iff (h : s.Sound aead keys) (e : Event Nonce) :
    (s.step aead keys order e).Sound aead keys ↔ s.Guard aead keys e := by
  cases e with
  | create version dto nonce =>
    refine iff_of_true ?_ trivial
    simp only [Office.step]
    split
    · exact sound_create h ‹_› nonce
    · exact h
  | update id version dto nonce =>
    simp only [Office.step,Office.Guard]
    split
    · rename_i hserved
      simp only [hserved,true_imp_iff]
      rw [sound_modify_iff h]
      exact forall₂_congr fun p hp => sound_applyChanges_iff (h id p hp) hserved nonce
    · rename_i hserved
      exact iff_of_true h fun hs => absurd hs hserved
  | startRotation version dryRun => exact iff_of_true h trivial
  | fetch runId =>
    refine iff_of_true ?_ trivial
    simp only [Office.step]
    repeat' split
    all_goals exact h
  | rotateNext runId nonce =>
    simp only [Office.step,Office.Guard]
    cases hrun : s.runs.get? runId with
    | none => exact iff_of_true h (fun _ _ _ _ _ he => (by cases he))
    | some run =>
      simp only [Option.some.injEq]
      cases henv : environment keys run.version with
      | none =>
        have hnone : (keys run.version).isSome = false := by rw [← isSome_environment,henv]; rfl
        refine iff_of_true h ?_
        rintro _ _ _ _ _ rfl - hsome
        rw [hnone] at hsome
        cases hsome
      | some env =>
        cases hbatch : run.batch with
        | nil =>
          refine iff_of_true h ?_
          rintro _ _ _ _ _ rfl - - hcons
          rw [hbatch] at hcons
          cases hcons
        | cons first rest =>
          rw [sound_rotateNext_iff h henv]
          constructor
          · rintro hall _ id read rest' p rfl hdry - hcons hopen hp
            rw [hbatch] at hcons
            obtain ⟨rfl,-⟩ := List.cons.inj hcons
            exact hall hdry hopen p hp
          · intro hall hdry hopen p hp
            refine hall run first.1 first.2 rest p rfl hdry ?_ hbatch hopen hp
            rw [← isSome_environment,henv]
            rfl

theorem sound_empty : Office.empty.Sound aead keys := fun _ _ h => (by cases h)

/-- The bank details open in every state reached precisely when every event finds them as it takes them to be. -/
theorem bankDetails_open_iff (aead : SealedAead Key Nonce) (keys : ℕ → Option Key) (order : RowOrder StaffProfile)
    (events : List (Event Nonce)) :
    (∀ s ∈ trace (Office.step aead keys order) Office.empty events, s.Sound aead keys) ↔
      Guarded (Office.step aead keys order) (Office.Guard aead keys) Office.empty events :=
  trace_invariant_iff (J := fun _ => True) (fun _ _ _ => trivial) (fun _ e _ h => sound_step_iff order h e) trivial
    sound_empty

end

/-! An update sets the account number under a new key, and the IBAN stays under the old one. -/

/-- A text is marked with its key. -/
def mark (key : Char) (_ : Unit) (plain : String) : String := String.ofList (key :: plain.toList)

def unmark (key : Char) (text : String) : Option String :=
  match text.toList with
  | [] => none
  | c :: plain => if c = key then some (String.ofList plain) else none

theorem unmark_mark (key : Char) (n : Unit) (plain : String) : unmark key (mark key n plain) = some plain := by
  simp [unmark,mark]

theorem unmark_only (key key' : Char) (text plain plain' : String) (h : unmark key text = some plain)
    (h' : unmark key' text = some plain') : key = key' := by
  unfold unmark at h h'
  cases hlist : text.toList with
  | nil => simp [hlist] at h
  | cons c rest =>
    simp only [hlist,Option.ite_none_right_eq_some] at h h'
    rw [← h.1,← h'.1]

def marking : SealedAead Char Unit := ⟨⟨mark,unmark⟩,unmark_mark,unmark_only⟩

/-- Two versions of the key. -/
def twoKeys : ℕ → Option Char
  | 1 => some 'a'
  | 2 => some 'b'
  | _ => none

def partialUpdate : List (Event Unit) :=
  [.create 1 ⟨some "100",some "IE1"⟩ fun _ => (),.update 0 2 ⟨some (some "200"),none⟩ fun _ => ()]

/-- The IBAN does not open any more. -/
theorem not_bankDetails_open : ¬ ∀ (Key Nonce : Type) (aead : SealedAead Key Nonce) (keys : ℕ → Option Key)
    (order : RowOrder StaffProfile) (events : List (Event Nonce)),
    ∀ s ∈ trace (Office.step aead keys order) Office.empty events, s.Sound aead keys := by
  intro h
  have hsound := h Char Unit marking twoKeys (insertionOrder _) partialUpdate _ (foldl_mem_trace _ _)
  have hprofile : ((partialUpdate.foldl (Office.step marking twoKeys (insertionOrder _)) Office.empty).profiles.get? 0).map
      (fun p => (p.row.ibanEncrypted,p.row.encryptionKeyRef)) = some (some "aIE1",some "v2") := by
    decide +kernel
  obtain ⟨p,hp,hrow⟩ := Option.map_eq_some_iff.mp hprofile
  obtain ⟨hiban,href⟩ := Prod.mk.inj hrow
  obtain ⟨value,-,hopen⟩ := hsound 0 p hp .iban "aIE1" hiban
  rw [href,Option.bind_some] at hopen
  have hclosed : openText marking twoKeys "v2" "aIE1" = none := by decide +kernel
  rw [hclosed] at hopen
  cases hopen

end EduPod.Security
