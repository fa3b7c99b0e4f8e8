import Mathlib
import EduPod.Foundation.Fallible
import EduPod.Foundation.Runs
import EduPod.Foundation.Table

/-! # Places at an event

Only a registration looks at the capacity. It does so before it looks for the participant, and then makes every
participant a registered one.
-/
namespace EduPod.Engagement.EventCapacity
open Fallible Runs

inductive EngagementEventStatus
  | draft | published | open | closed | inProgress | completed | cancelled | archived
  deriving DecidableEq

inductive ParticipantStatus
  | invited | registered | consentPending | consentGranted | consentDeclined | paymentPending | confirmed | attended
  | absent | withdrawn
  deriving DecidableEq

inductive ParticipantConsentStatus
  | pending | granted | declined
  deriving DecidableEq

inductive ParticipantPaymentStatus
  | notRequired | pending | paid | waived | refunded
  deriving DecidableEq

structure EngagementEvent where
  status : EngagementEventStatus
  capacity : Option ℤ

structure Participant where
  studentId : ℕ
  status : ParticipantStatus
  consentStatus : Option ParticipantConsentStatus
  paymentStatus : ParticipantPaymentStatus
  registeredAt : Option ℤ
  withdrawnAt : Option ℤ

/-- A field that is missing is left as it is. -/
structure UpdateParticipantDto where
  status : Option ParticipantStatus
  consentStatus : Option ParticipantConsentStatus
  paymentStatus : Option ParticipantPaymentStatus

inductive ParticipantError
  | eventNotOpen | eventFull | participantNotFound
  deriving DecidableEq

inductive Request
  | register (studentId : ℕ) (now : ℤ)
  | withdraw (studentId : ℕ) (now : ℤ)
  | updateParticipant (participantId : ℕ) (dto : UpdateParticipantDto)

/-- The statuses that a registration counts. -/
def ParticipantStatus.takesPlace (status : ParticipantStatus) : Bool :=
  [.registered,.consentPending,.consentGranted,.paymentPending,.confirmed,.attended].contains status

section
variable (db : Table Participant)

def capacityUsed : ℤ := db.sumWhere (fun p => p.status.takesPlace) fun _ => 1

def findByStudent (studentId : ℕ) : Option (ℕ × Participant) :=
  db.rows.find? fun row => row.2.studentId = studentId

/-- The participants after an accepted registration. -/
def placed (studentId : ℕ) (now : ℤ) : Table Participant :=
  match findByStudent db studentId with
  | some existing =>
    if existing.2.status = .withdrawn then
      db.modify existing.1 fun p => { p with status := .registered,registeredAt := some now,withdrawnAt := none }
    else db.modify existing.1 fun p => { p with status := .registered,registeredAt := some now }
  | none => db.insert ⟨studentId,.registered,some .pending,.notRequired,some now,none⟩

def register (event : EngagementEvent) (studentId : ℕ) (now : ℤ) : Except ParticipantError (Table Participant) := do
  ensure (event.status = .open) .eventNotOpen
  ensure (∀ capacity, event.capacity = some capacity → capacityUsed db < capacity) .eventFull
  pure (placed db studentId now)

def withdraw (studentId : ℕ) (now : ℤ) : Except ParticipantError (Table Participant) := do
  let participant ← require (findByStudent db studentId) .participantNotFound
  pure (db.modify participant.1 fun p => { p with status := .withdrawn,withdrawnAt := some now })

def Participant.update (dto : UpdateParticipantDto) (p : Participant) : Participant :=
  { p with
    status := dto.status.getD p.status
    consentStatus := dto.consentStatus.or p.consentStatus
    paymentStatus := dto.paymentStatus.getD p.paymentStatus }

def updateParticipant (participantId : ℕ) (dto : UpdateParticipantDto) :
    Except ParticipantError (Table Participant) := do
  let _ ← require (db.get? participantId) .participantNotFound
  pure (db.modify participantId (.update dto))

@[grind] def serve (event : EngagementEvent) : Request → Except ParticipantError (Table Participant)
  | .register studentId now => register db event studentId now
  | .withdraw studentId now => withdraw db studentId now
  | .updateParticipant participantId dto => updateParticipant db participantId dto

/-- A refused request changes nothing. -/
def step (event : EngagementEvent) (request : Request) : Table Participant :=
  match serve db event request with
  | .ok after => after
  | .error _ => db

end

/-- A registration leaves the status of a participant who has a place as it is. -/
def KeepsProgress (event : EngagementEvent) (db : Table Participant) : Request → Prop
  | .register studentId now => ∀ existing, findByStudent db studentId = some existing →
    existing.2.status.takesPlace = true →
      ((step db event (.register studentId now)).get? existing.1).map (·.status) = some existing.2.status
  | _ => True

/-- Who has a place and is more than registered is not registered again while there is room, and nobody is given
a place by an update while there is none. -/
def Harmless (capacity : ℤ) (db : Table Participant) : Request → Prop
  | .register studentId _ => ∀ existing, findByStudent db studentId = some existing →
    existing.2.status.takesPlace = true → existing.2.status = .registered ∨ capacity ≤ capacityUsed db
  | .withdraw _ _ => True
  | .updateParticipant participantId dto => ∀ p, db.get? participantId = some p → p.status.takesPlace = false →
    (dto.status.any fun status => status.takesPlace) = true → capacityUsed db < capacity

variable {db : Table Participant} {capacity now : ℤ} {studentId participantId : ℕ}

/-! ## Counting -/

theorem capacityUsed_modify {p : Participant} (h : db.get? participantId = some p) (g : Participant → Participant) :
    capacityUsed (db.modify participantId g) =
      capacityUsed db - (if p.status.takesPlace then 1 else 0) + if (g p).status.takesPlace then 1 else 0 :=
  Table.sumWhere_modify h g _ _

theorem get?_of_findByStudent {existing : ℕ × Participant} (h : findByStudent db studentId = some existing) :
    db.get? existing.1 = some existing.2 :=
  Table.get?_of_mem (List.mem_of_find?_eq_some h)

/-- A registration makes the existing participant a registered one, and nothing else of note. -/
theorem placed_of_existing {existing : ℕ × Participant} (h : findByStudent db studentId = some existing) (now : ℤ) :
    ∃ g : Participant → Participant, placed db studentId now = db.modify existing.1 g ∧
      ∀ p, (g p).status = .registered := by
  rw [placed,h]
  dsimp only
  split
  · exact ⟨_,rfl,fun _ => rfl⟩
  · exact ⟨_,rfl,fun _ => rfl⟩

theorem capacityUsed_placed_le (now : ℤ) : capacityUsed (placed db studentId now) ≤ capacityUsed db + 1 := by
  cases h : findByStudent db studentId with
  | none =>
    rw [placed,h]
    exact (Table.sumWhere_insert db _ _ _).le
  | some existing =>
    obtain ⟨g,hplaced,hg⟩ := placed_of_existing h now
    rw [hplaced,capacityUsed_modify (get?_of_findByStudent h),hg]
    have hone : (if ParticipantStatus.registered.takesPlace then 1 else 0 : ℤ) = 1 := rfl
    rw [hone]
    split <;> omega

theorem serve_register_eq_ok {event : EngagementEvent} {after : Table Participant}
    (hcapacity : event.capacity = some capacity) : serve db event (.register studentId now) = .ok after ↔
      event.status = .open ∧ capacityUsed db < capacity ∧ placed db studentId now = after := by
  rw [serve,register,ensure_bind_eq_ok,ensure_bind_eq_ok,pure_eq_ok,hcapacity]
  simp

/-- A registration for an open event: there is room, or it is refused. -/
theorem step_register (capacity : ℤ) (db : Table Participant) (studentId : ℕ) (now : ℤ) :
    step db ⟨.open,some capacity⟩ (.register studentId now) =
      if capacityUsed db < capacity then placed db studentId now else db := by
  unfold step
  split
  · rename_i after hok
    obtain ⟨-,hroom,rfl⟩ := (serve_register_eq_ok rfl).mp hok
    rw [if_pos hroom]
  · rename_i e herror
    rw [if_neg]
    intro hroom
    rw [(serve_register_eq_ok rfl).mpr ⟨rfl,hroom,rfl⟩] at herror
    cases herror

theorem step_withdraw_cases (event : EngagementEvent) (db : Table Participant) (studentId : ℕ) (now : ℤ) :
    step db event (.withdraw studentId now) = db ∨ ∃ existing, findByStudent db studentId = some existing ∧
      step db event (.withdraw studentId now) =
        db.modify existing.1 fun p => { p with status := .withdrawn,withdrawnAt := some now } := by
  rw [step,serve,withdraw]
  cases h : findByStudent db studentId with
  | none => exact Or.inl rfl
  | some existing => exact Or.inr ⟨existing,rfl,rfl⟩

theorem step_updateParticipant (event : EngagementEvent) (db : Table Participant) (participantId : ℕ)
    (dto : UpdateParticipantDto) : step db event (.updateParticipant participantId dto) =
      if (db.get? participantId).isSome then db.modify participantId (.update dto) else db := by
  rw [step,serve,updateParticipant]
  cases db.get? participantId <;> rfl

/-! ## One request -/

/-- What one request to an open event within its capacity does. -/
theorem harmless_iff (hused : capacityUsed db ≤ capacity) (request : Request) :
    KeepsProgress ⟨.open,some capacity⟩ db request ∧
        capacityUsed (step db ⟨.open,some capacity⟩ request) ≤ capacity ↔ Harmless capacity db request := by
  cases request with
  | register studentId now =>
    have hwithin : capacityUsed (step db ⟨.open,some capacity⟩ (.register studentId now)) ≤ capacity := by
      rw [step_register]
      split
      · rename_i hroom
        have hle := @capacityUsed_placed_le db studentId now
        omega
      · exact hused
    rw [and_iff_left hwithin]
    refine forall₃_congr fun existing hexisting hplace => ?_
    rw [step_register]
    obtain ⟨g,hplaced,hg⟩ := placed_of_existing hexisting now
    have hfound := get?_of_findByStudent hexisting
    by_cases hroom : capacityUsed db < capacity
    · rw [if_pos hroom,hplaced,Table.get?_modify_self hfound,Option.map_some,hg,Option.some_inj,
        or_iff_left (not_le.mpr hroom)]
      exact eq_comm
    · rw [if_neg hroom,hfound]
      exact iff_of_true rfl (Or.inr (not_lt.mp hroom))
  | withdraw studentId now =>
    refine iff_of_true ⟨trivial,?_⟩ trivial
    rcases step_withdraw_cases ⟨.open,some capacity⟩ db studentId now with h | ⟨existing,hexisting,h⟩
    · rw [h]
      exact hused
    · rw [h,capacityUsed_modify (get?_of_findByStudent hexisting)]
      have hzero : (if ParticipantStatus.withdrawn.takesPlace then 1 else 0 : ℤ) = 0 := rfl
      rw [hzero]
      split <;> omega
  | updateParticipant participantId dto =>
    rw [show KeepsProgress ⟨.open,some capacity⟩ db (.updateParticipant participantId dto) = True from rfl,true_and,
      step_updateParticipant]
    cases hfound : db.get? participantId with
    | none => exact iff_of_true hused fun p hp => by rw [hfound] at hp; cases hp
    | some p =>
      have hstatus : (p.update dto).status = dto.status.getD p.status := rfl
      rw [Option.isSome_some,if_pos rfl,capacityUsed_modify hfound,hstatus]
      have hforall : Harmless capacity db (.updateParticipant participantId dto) ↔ (p.status.takesPlace = false →
          (dto.status.any fun status => status.takesPlace) = true → capacityUsed db < capacity) := by
        constructor
        · exact fun h => h p hfound
        · intro h q hq
          obtain rfl := Option.some.inj (hfound.symm.trans hq)
          exact h
      rw [hforall]
      cases hplace : p.status.takesPlace with
      | true =>
        refine iff_of_true ?_ fun h => nomatch h
        rw [if_pos rfl]
        split <;> omega
      | false =>
        cases hdto : dto.status with
        | none => simpa [hplace] using hused
        | some status =>
          cases hgiven : status.takesPlace with
          | true => simp [hgiven]
          | false => simpa [hgiven] using hused

/-! ## Runs -/

/-- Along a run an open event stays within its capacity and nobody's progress is lost just when every request is
harmless. -/
theorem withinCapacity_iff (capacity : ℤ) (db : Table Participant) (requests : List Request) :
    (Guarded (fun db request => step db ⟨.open,some capacity⟩ request) (KeepsProgress ⟨.open,some capacity⟩) db
        requests ∧
        ∀ t ∈ trace (fun db request => step db ⟨.open,some capacity⟩ request) db requests, capacityUsed t ≤ capacity) ↔
      capacityUsed db ≤ capacity ∧
        Guarded (fun db request => step db ⟨.open,some capacity⟩ request) (Harmless capacity) db requests :=
  guarded_and_trace_iff fun _ request hused => harmless_iff hused request

/-- The second student is given the one place by an update after the first has taken it. -/
theorem twoInOnePlace : ¬∀ (capacity : ℤ) (requests : List Request), 0 ≤ capacity →
    Guarded (fun db request => step db ⟨.open,some capacity⟩ request) (KeepsProgress ⟨.open,some capacity⟩) .empty
        requests ∧
      ∀ t ∈ trace (fun db request => step db ⟨.open,some capacity⟩ request) Table.empty requests,
        capacityUsed t ≤ capacity := by
  intro h
  have hlast := (h 1 [.register 1 0,.withdraw 1 1,.register 2 2,.updateParticipant 0 ⟨some .confirmed,none,none⟩]
    (by decide)).2 _ (foldl_mem_trace _ _)
  exact absurd hlast (by decide +kernel)

end EduPod.Engagement.EventCapacity
