import EduPod.Foundation.Processes
import EduPod.Foundation.TableBulk

/-! # Leave requests

A decision on a request checks the status in a row that it has read before, then opens a transaction and
writes the status by id. Approving also records the absence that the leave makes. Days are numbered.
-/
namespace EduPod.Leave
open Processes Runs

inductive LeaveRequestStatus
  | pending | approved | rejected | cancelled | withdrawn
  deriving DecidableEq, Repr

/-- `decisions` lists every status that a decision has written. -/
structure LeaveRequest where
  staffProfileId : ℕ
  leaveTypeId : ℕ
  dateFrom : ℤ
  dateTo : ℤ
  fullDay : Bool
  periodFrom : Option ℕ
  periodTo : Option ℕ
  reason : Option String
  evidenceUrl : Option String
  submittedByUserId : ℕ
  status : LeaveRequestStatus
  reviewedByUserId : Option ℕ
  reviewedAt : Option ℤ
  reviewNotes : Option String
  decisions : List LeaveRequestStatus

structure TeacherAbsence where
  staffProfileId : ℕ
  absenceDate : ℤ
  dateTo : Option ℤ
  leaveTypeId : ℕ
  leaveRequestId : ℕ
  fullDay : Bool
  periodFrom : Option ℕ
  periodTo : Option ℕ
  isPaid : Bool
  daysCounted : ℚ
  reason : Option String
  reportedByUserId : ℕ
  reportedAt : ℤ
  cancelledAt : Option ℤ

structure LeaveType where
  isPaidDefault : Bool
  maxDaysPerRequest : Option ℤ

/-- The absences are the ones that approved leave has made. -/
structure Store where
  staffOf : ℕ → Option ℕ
  leaveTypes : Table LeaveType
  requests : Table LeaveRequest
  absences : Table TeacherAbsence

def Store.opening (staffOf : ℕ → Option ℕ) (leaveTypes : Table LeaveType) : Store :=
  ⟨staffOf,leaveTypes,Table.empty,Table.empty⟩

structure CreateLeaveRequestDto where
  leaveTypeId : ℕ
  dateFrom : ℤ
  dateTo : ℤ
  fullDay : Option Bool
  periodFrom : Option ℕ
  periodTo : Option ℕ
  reason : Option String
  evidenceUrl : Option String

inductive Request
  | submit (userId : ℕ) (dto : CreateLeaveRequestDto)
  | approve (userId : ℕ) (id : ℕ) (reviewNotes : Option String)
  | reject (userId : ℕ) (id : ℕ) (reviewNotes : Option String)
  | withdraw (userId : ℕ) (id : ℕ)

/-- A decision that has read its request and passed the checks is about to open its transaction. -/
inductive Process
  | opened (request : Request)
  | approving (userId : ℕ) (id : ℕ) (reviewNotes : Option String) (found : LeaveRequest)
  | rejecting (userId : ℕ) (id : ℕ) (reviewNotes : Option String)
  | withdrawing (id : ℕ)

def validTransitions : LeaveRequestStatus → List LeaveRequestStatus
  | .pending => [.approved,.rejected,.withdrawn]
  | .approved => [.cancelled]
  | .rejected => []
  | .cancelled => []
  | .withdrawn => []

def diffDays (dateFrom dateTo : ℤ) : ℤ := dateTo - dateFrom + 1

/-! ## Submitting -/

def pendingRequest (staffId userId : ℕ) (dto : CreateLeaveRequestDto) : LeaveRequest where
  staffProfileId := staffId
  leaveTypeId := dto.leaveTypeId
  dateFrom := dto.dateFrom
  dateTo := dto.dateTo
  fullDay := dto.fullDay.getD true
  periodFrom := dto.periodFrom
  periodTo := dto.periodTo
  reason := dto.reason
  evidenceUrl := dto.evidenceUrl
  submittedByUserId := userId
  status := .pending
  reviewedByUserId := none
  reviewedAt := none
  reviewNotes := none
  decisions := []

/-- A limit of zero days is no limit. -/
def exceedsMaxDays (leaveType : LeaveType) (dto : CreateLeaveRequestDto) : Bool :=
  leaveType.maxDaysPerRequest.any fun days => days ≠ 0 && days < diffDays dto.dateFrom dto.dateTo

def submit (db : Store) (userId : ℕ) (dto : CreateLeaveRequestDto) : Store :=
  match db.staffOf userId,db.leaveTypes.get? dto.leaveTypeId with
  | some staffId,some leaveType =>
    if exceedsMaxDays leaveType dto then db
    else { db with requests := db.requests.insert (pendingRequest staffId userId dto) }
  | _,_ => db

/-! ## Deciding -/

/-- The request as it is read, when its status lets it become `to_`. -/
def checked (db : Store) (id : ℕ) (to_ : LeaveRequestStatus) : Option LeaveRequest :=
  (db.requests.get? id).filter fun row => to_ ∈ validTransitions row.status

def absenceOf (db : Store) (id userId : ℕ) (found : LeaveRequest) (now : ℤ) : TeacherAbsence where
  staffProfileId := found.staffProfileId
  absenceDate := found.dateFrom
  dateTo := if found.dateFrom = found.dateTo then none else some found.dateTo
  leaveTypeId := found.leaveTypeId
  leaveRequestId := id
  fullDay := found.fullDay
  periodFrom := found.periodFrom
  periodTo := found.periodTo
  isPaid := ((db.leaveTypes.get? found.leaveTypeId).map (·.isPaidDefault)).getD true
  daysCounted := if found.fullDay then diffDays found.dateFrom found.dateTo else 1 / 2
  reason := found.reason
  reportedByUserId := userId
  reportedAt := now
  cancelledAt := none

def LeaveRequest.review (status : LeaveRequestStatus) (userId : ℕ) (now : ℤ) (reviewNotes : Option String)
    (row : LeaveRequest) : LeaveRequest :=
  { row with
    status
    reviewedByUserId := some userId
    reviewedAt := some now
    reviewNotes
    decisions := row.decisions ++ [status] }

def LeaveRequest.withdraw (row : LeaveRequest) : LeaveRequest :=
  { row with status := .withdrawn, decisions := row.decisions ++ [.withdrawn] }

/-- The update by id fails where there is no such row, and the absence with it. -/
def approve (db : Store) (userId id : ℕ) (reviewNotes : Option String) (found : LeaveRequest) (now : ℤ) : Store :=
  if (db.requests.get? id).isSome then
    { db with
      absences := db.absences.insert (absenceOf db id userId found now)
      requests := db.requests.modify id (.review .approved userId now reviewNotes) }
  else db

def act (db : Store) (process : Process) (now : ℤ) : Store × Option Process :=
  match process with
  | .opened (.submit userId dto) => (submit db userId dto,none)
  | .opened (.approve userId id reviewNotes) => (db,(checked db id .approved).map (.approving userId id reviewNotes))
  | .opened (.reject userId id reviewNotes) => (db,(checked db id .rejected).map fun _ => .rejecting userId id reviewNotes)
  | .opened (.withdraw userId id) =>
    (db,((checked db id .withdrawn).filter fun row => db.staffOf userId = some row.staffProfileId).map fun _ =>
      .withdrawing id)
  | .approving userId id reviewNotes found => (approve db userId id reviewNotes found now,none)
  | .rejecting userId id reviewNotes =>
    ({ db with requests := db.requests.modify id (.review .rejected userId now reviewNotes) },none)
  | .withdrawing id => ({ db with requests := db.requests.modify id .withdraw },none)

def protocol : Protocol Store Process Request ℤ := ⟨.opened,act⟩

/-! ## One decision on a leave request

Whether exactly one decision takes effect is up to the writes by id: each of them must find its request
still pending.
-/

def absencesFor (db : Store) (id : ℕ) : List (ℕ × TeacherAbsence) := db.absences.select fun a => a.leaveRequestId = id

/-- Exactly one decision is behind a request that is not pending, it is approved precisely if one absence
references it, and a rejected or withdrawn one has no active absence. -/
structure OneDecision (db : Store) (id : ℕ) (row : LeaveRequest) : Prop where
  once : row.decisions.length = if row.status = .pending then 0 else 1
  approved : row.status = .approved ↔ (absencesFor db id).length = 1
  inactive : row.status = .rejected ∨ row.status = .withdrawn → ∀ q ∈ absencesFor db id, q.2.cancelledAt.isSome = true

def Settled (db : Store) : Prop := ∀ id row, db.requests.get? id = some row → OneDecision db id row

/-- The request that the next action of a process decides on. -/
def Process.decides : Process → Option ℕ
  | .opened _ => none
  | .approving _ id _ _ => some id
  | .rejecting _ id _ => some id
  | .withdrawing id => some id

/-- A decision is written while its request is still pending. -/
def FindsPending (db : Store) (process : Process) (_ : ℤ) : Prop :=
  ∀ id, process.decides = some id → ∀ row, db.requests.get? id = some row → row.status = .pending

/-! ## What every run keeps -/

structure LeaveRequest.Sound (db : Store) (id : ℕ) (row : LeaveRequest) : Prop where
  status : row.status = row.decisions.getLast?.getD .pending
  decided : .pending ∉ row.decisions
  absences : (absencesFor db id).length = row.decisions.count .approved

/-- Every absence belongs to a request, which has one for each approval. -/
structure Store.Sound (db : Store) : Prop where
  requests : ∀ id row, db.requests.get? id = some row → row.Sound db id
  known : db.absences.All fun a => (db.requests.get? a.leaveRequestId).isSome = true

section
variable {db : Store} {id : ℕ} {row : LeaveRequest} {s : LeaveRequestStatus} {g : LeaveRequest → LeaveRequest}

theorem LeaveRequest.Sound.pending_iff (h : row.Sound db id) : row.status = .pending ↔ row.decisions = [] := by
  rw [h.status]
  rcases List.eq_nil_or_concat row.decisions with hnil | ⟨init,last,hlast⟩
  · simp [hnil]
  · have hne : last ≠ .pending := fun he => h.decided (by simp [hlast,he])
    simp [hlast,hne]

theorem decide_row (h : row.Sound db id) (hs : s ≠ .pending) (hg : (g row).decisions = row.decisions ++ [s])
    (hstatus : (g row).status = s) {db' : Store}
    (habsences : (absencesFor db' id).length = (absencesFor db id).length + if s = .approved then 1 else 0) :
    (g row).Sound db' id where
  status := by simp [hg,hstatus]
  decided := by
    rw [hg,List.mem_append,List.mem_singleton]
    rintro (hmem | rfl)
    · exact h.decided hmem
    · exact hs rfl
  absences := by
    rw [habsences,hg,List.count_append,h.absences]
    by_cases he : s = .approved
    · simp [he]
    · simp [he]

theorem length_absencesFor_insert (absence : TeacherAbsence) (i : ℕ) {requests : Table LeaveRequest} :
    (absencesFor { db with absences := db.absences.insert absence, requests } i).length =
      (absencesFor db i).length + if absence.leaveRequestId = i then 1 else 0 := by
  simp only [absencesFor,Table.select,Table.insert,List.filter_append,List.length_append]
  by_cases hi : absence.leaveRequestId = i
  · simp [hi]
  · simp [hi]

/-- A decision without an absence. -/
theorem sound_decide (h : db.Sound) (hs : s ≠ .pending) (hne : s ≠ .approved)
    (hg : ∀ row, (g row).decisions = row.decisions ++ [s]) (hstatus : ∀ row, (g row).status = s) :
    Store.Sound { db with requests := db.requests.modify id g } where
  requests := by
    intro i row' hrow'
    rw [Table.get?_modify] at hrow'
    split at hrow'
    · rename_i hi
      subst hi
      obtain ⟨row,hrow,rfl⟩ := Option.map_eq_some_iff.mp hrow'
      exact decide_row (h.requests i row hrow) hs (hg row) (hstatus row) (by rw [if_neg hne,Nat.add_zero]; rfl)
    · have hold := h.requests i row' hrow'
      exact ⟨hold.status,hold.decided,hold.absences⟩
  known := fun q hq => by
    simp only [Table.isSome_get?_modify]
    exact h.known q hq

theorem sound_approve (h : db.Sound) (userId : ℕ) (reviewNotes : Option String) (found : LeaveRequest) (now : ℤ) :
    Store.Sound (approve db userId id reviewNotes found now) := by
  unfold approve
  split
  · rename_i hsome
    refine ⟨fun i row' hrow' => ?_,?_⟩
    · rw [Table.get?_modify] at hrow'
      split at hrow'
      · rename_i hi
        subst hi
        obtain ⟨row,hrow,rfl⟩ := Option.map_eq_some_iff.mp hrow'
        refine decide_row (s := .approved) (h.requests i row hrow) (by decide) rfl rfl ?_
        rw [length_absencesFor_insert]
        simp [absenceOf]
      · rename_i hi
        have hold := h.requests i row' hrow'
        refine ⟨hold.status,hold.decided,?_⟩
        have hother : (absenceOf db id userId found now).leaveRequestId ≠ i := fun he => hi he.symm
        rw [length_absencesFor_insert,if_neg hother,Nat.add_zero]
        exact hold.absences
    · refine Table.All.insert (fun q hq => ?_) ?_
      · simp only [Table.isSome_get?_modify]
        exact h.known q hq
      · simp only [Table.isSome_get?_modify]
        exact hsome
  · exact h

theorem sound_submit (h : db.Sound) (userId : ℕ) (dto : CreateLeaveRequestDto) : Store.Sound (submit db userId dto) := by
  unfold submit
  split
  · rename_i staffId leaveType _ _
    split
    · exact h
    · refine ⟨fun i row hrow => ?_,fun q hq => Table.isSome_get?_insert (h.known q hq) _⟩
      rw [Table.get?_insert] at hrow
      split at hrow
      · rename_i hi
        cases hrow
        refine ⟨rfl,List.not_mem_nil,?_⟩
        have hnone : absencesFor db i = [] := List.filter_eq_nil_iff.mpr fun q hq hid => by
          have hknown : (db.requests.get? q.2.leaveRequestId).isSome = true := h.known q hq
          rw [of_decide_eq_true hid,hi,Table.get?_next] at hknown
          cases hknown
        exact congrArg List.length hnone
      · have hold := h.requests i row hrow
        exact ⟨hold.status,hold.decided,hold.absences⟩
  · exact h

theorem sound_act (h : db.Sound) (process : Process) (now : ℤ) : (act db process now).1.Sound := by
  cases process with
  | opened request =>
    cases request with
    | submit userId dto => exact sound_submit h userId dto
    | approve userId id reviewNotes => exact h
    | reject userId id reviewNotes => exact h
    | withdraw userId id => exact h
  | approving userId id reviewNotes found => exact sound_approve h userId reviewNotes found now
  | rejecting userId id reviewNotes => exact sound_decide h (by decide) (by decide) (fun _ => rfl) fun _ => rfl
  | withdrawing id => exact sound_decide h (by decide) (by decide) (fun _ => rfl) fun _ => rfl

theorem sound_opening (staffOf : ℕ → Option ℕ) (leaveTypes : Table LeaveType) : (Store.opening staffOf leaveTypes).Sound :=
  ⟨fun _ _ hrow => (by cases hrow),Table.all_empty _⟩

theorem kept_sound : Kept protocol Store.Sound fun _ _ => True where
  opened := fun _ _ _ => trivial
  store := fun _ process now h _ => sound_act h process now
  own := fun _ _ _ _ _ _ _ => trivial
  others := fun _ _ _ _ _ _ _ => trivial

/-! ## When a decision is the only one -/

theorem OneDecision.of_sound (h : row.Sound db id) : OneDecision db id row ↔ row.decisions.length ≤ 1 := by
  have hpending := h.pending_iff
  constructor
  · intro hone
    rw [hone.once]
    split <;> omega
  · intro hlength
    rcases List.eq_nil_or_concat row.decisions with hnil | ⟨init,last,hlast⟩
    · have hstatus := hpending.mpr hnil
      have hnone : (absencesFor db id).length = 0 := by rw [h.absences,hnil]; rfl
      exact ⟨by simp [hnil,hstatus],by simp [hstatus,hnone],by simp [hstatus]⟩
    · have hinit : init = [] := by
        rw [hlast,List.concat_eq_append,List.length_append] at hlength
        simp only [List.length_singleton] at hlength
        exact List.length_eq_zero_iff.mp (by omega)
      have hdecisions : row.decisions = [last] := by simpa [hinit] using hlast
      have hstatus : row.status = last := by rw [h.status,hdecisions]; rfl
      have hne : last ≠ .pending := fun he => h.decided (by simp [hdecisions,he])
      have hcount : (absencesFor db id).length = if last = .approved then 1 else 0 := by
        rw [h.absences,hdecisions,List.count_singleton]
        simp
      refine ⟨by simp [hdecisions,hstatus,hne],?_,?_⟩
      · rw [hstatus,hcount]
        split <;> simp_all
      · intro hclosed q hq
        have hnone : absencesFor db id = [] := by
          rw [hstatus] at hclosed
          apply List.length_eq_zero_iff.mp
          rw [hcount,if_neg]
          rintro rfl
          rcases hclosed with hclosed | hclosed <;> cases hclosed
        rw [hnone] at hq
        cases hq

def AtMostOnce (db : Store) : Prop := ∀ id row, db.requests.get? id = some row → row.decisions.length ≤ 1

theorem settled_iff (h : db.Sound) : Settled db ↔ AtMostOnce db :=
  forall_congr' fun id => forall_congr' fun row => forall_congr' fun hrow =>
    OneDecision.of_sound (h.requests id row hrow)

/-- A decision that is written is the only one precisely if the request was pending. -/
theorem atMostOnce_decide_iff (h : db.Sound) (honce : AtMostOnce db)
    (hg : ∀ row, (g row).decisions = row.decisions ++ [s]) {db' : Store}
    (hrequests : db'.requests = db.requests.modify id g) :
    AtMostOnce db' ↔ ∀ row, db.requests.get? id = some row → row.status = .pending := by
  constructor
  · intro honce' row hrow
    have hlength := honce' id (g row) (by rw [hrequests,Table.get?_modify_self hrow])
    rw [hg,List.length_append,List.length_singleton] at hlength
    exact (h.requests id row hrow).pending_iff.mpr (List.length_eq_zero_iff.mp (by omega))
  · intro hpending i row' hrow'
    rw [hrequests,Table.get?_modify] at hrow'
    split at hrow'
    · rename_i hi
      subst hi
      obtain ⟨row,hrow,rfl⟩ := Option.map_eq_some_iff.mp hrow'
      rw [hg,(h.requests i row hrow).pending_iff.mp (hpending row hrow)]
      exact le_refl 1
    · exact honce i row' hrow'

theorem atMostOnce_act_iff (h : db.Sound) (honce : AtMostOnce db) (process : Process) (now : ℤ) :
    AtMostOnce (act db process now).1 ↔ FindsPending db process now := by
  have hopened : ∀ request db', AtMostOnce db' → (AtMostOnce db' ↔ FindsPending db (.opened request) now) :=
    fun _ _ honce' => iff_of_true honce' fun _ hid => (by cases hid)
  have hdecides : ∀ (process : Process) id, process.decides = some id →
      ((∀ row, db.requests.get? id = some row → row.status = .pending) ↔ FindsPending db process now) := by
    intro process id hid
    simp [FindsPending,hid]
  cases process with
  | opened request =>
    cases request with
    | submit userId dto =>
      refine hopened _ _ fun i row hrow => ?_
      simp only [act,submit] at hrow
      split at hrow
      · split at hrow
        · exact honce i row hrow
        · rw [Table.get?_insert] at hrow
          split at hrow
          · cases hrow
            exact Nat.zero_le 1
          · exact honce i row hrow
      · exact honce i row hrow
    | approve userId id reviewNotes => exact hopened _ _ honce
    | reject userId id reviewNotes => exact hopened _ _ honce
    | withdraw userId id => exact hopened _ _ honce
  | approving userId id reviewNotes found =>
    rw [← hdecides (.approving userId id reviewNotes found) id rfl]
    simp only [act,approve]
    split
    · exact atMostOnce_decide_iff (s := .approved) h honce (fun _ => rfl) rfl
    · rename_i hnone
      refine iff_of_true honce fun row hrow => absurd ?_ hnone
      rw [hrow]
      rfl
  | rejecting userId id reviewNotes =>
    rw [← hdecides (.rejecting userId id reviewNotes) id rfl]
    exact atMostOnce_decide_iff (s := .rejected) h honce (fun _ => rfl) rfl
  | withdrawing id =>
    rw [← hdecides (.withdrawing id) id rfl]
    exact atMostOnce_decide_iff (s := .withdrawn) h honce (fun _ => rfl) rfl

end

def onePaidType : Table LeaveType := Table.empty.insert ⟨true,none⟩

def oneDay : CreateLeaveRequestDto := ⟨0,3,3,none,none,none,none,none⟩

end EduPod.Leave
