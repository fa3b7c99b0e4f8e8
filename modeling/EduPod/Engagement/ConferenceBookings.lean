import EduPod.Foundation.Processes
import EduPod.Foundation.TableBulk

/-! # Conference bookings

Booking a time slot locks its row, and whoever else wants to write that row waits. Cancellations and changes
to a slot read first and write later, whatever the slot is by then. A cancelled booking stays in its table.
-/
namespace EduPod.Engagement
open Processes Runs

inductive TimeSlotStatus
  | available | booked | blocked | completed | cancelled
  deriving DecidableEq, Repr

inductive ConferenceBookingStatus
  | confirmed | cancelled | completed | noShow
  deriving DecidableEq, Repr

inductive BookingType
  | parentBooked | adminBooked | walkIn
  deriving DecidableEq, Repr

structure EngagementEvent where
  isParentConference : Bool
  bookingDeadline : Option ℤ

structure ConferenceTimeSlot where
  eventId : ℕ
  teacherId : ℕ
  startTime : ℤ
  endTime : ℤ
  status : TimeSlotStatus

/-- `byParent` says that the booking was made through `parentBook`. -/
structure ConferenceBooking where
  timeSlotId : ℕ
  studentId : ℕ
  bookedByUserId : ℕ
  bookingType : BookingType
  status : ConferenceBookingStatus
  byParent : Bool

/-- Users with their linked students and their staff profile; `locked` are the slots that a booking holds. -/
structure Store where
  childrenOf : ℕ → List ℕ
  staffOf : ℕ → Option ℕ
  allowParentCancellation : Bool
  events : Table EngagementEvent
  slots : Table ConferenceTimeSlot
  bookings : Table ConferenceBooking
  locked : List ℕ

structure CreateBookingDto where
  timeSlotId : ℕ
  studentId : ℕ
  bookingType : Option BookingType

/-- What a slot may be changed to by request. -/
inductive Availability
  | available | blocked
  deriving DecidableEq

def Availability.status : Availability → TimeSlotStatus
  | .available => .available
  | .blocked => .blocked

inductive Request
  | createBooking (eventId userId : ℕ) (dto : CreateBookingDto)
  | parentBook (eventId userId : ℕ) (dto : CreateBookingDto)
  | cancelBooking (eventId bookingId : ℕ)
  | parentCancelBooking (eventId bookingId userId : ℕ)
  | updateTimeSlot (eventId slotId : ℕ) (status : Availability)
  | updateOwnTimeSlot (eventId slotId userId : ℕ) (status : Availability)

/-- The time, and whether the transaction of a booking is rolled back here. -/
structure Input where
  now : ℤ
  rollback : Bool

inductive Process
  | opened (request : Request)
  | creating (userId : ℕ) (dto : CreateBookingDto)
  | locking (eventId userId : ℕ) (dto : CreateBookingDto)
  | comparing (eventId userId : ℕ) (dto : CreateBookingDto) (slot : ConferenceTimeSlot)
  | booking (userId : ℕ) (dto : CreateBookingDto)
  | cancelling (bookingId slotId : ℕ)
  | updating (slotId : ℕ) (status : Availability)

def slotValidTransitions : TimeSlotStatus → List TimeSlotStatus
  | .available => [.booked,.blocked]
  | .booked => [.completed,.cancelled]
  | .blocked => [.available]
  | .completed => []
  | .cancelled => [.available]

def bookingValidTransitions : ConferenceBookingStatus → List ConferenceBookingStatus
  | .confirmed => [.completed,.cancelled,.noShow]
  | .completed => []
  | .cancelled => []
  | .noShow => []

def ensureConferenceEvent (db : Store) (eventId : ℕ) : Option EngagementEvent :=
  (db.events.get? eventId).filter (·.isParentConference)

/-- The booking, if its slot is one of the event. -/
def bookingOf (db : Store) (eventId bookingId : ℕ) : Option ConferenceBooking :=
  (db.bookings.get? bookingId).filter fun b => (db.slots.get? b.timeSlotId).any fun s => s.eventId = eventId

def slotOf (db : Store) (eventId slotId : ℕ) : Option ConferenceTimeSlot :=
  (db.slots.get? slotId).filter fun s => s.eventId = eventId

def ConferenceTimeSlot.Overlaps (s other : ConferenceTimeSlot) : Prop :=
  other.startTime < s.endTime ∧ s.startTime < other.endTime

instance (s other : ConferenceTimeSlot) : Decidable (s.Overlaps other) := inferInstanceAs (Decidable (_ ∧ _))

/-- The confirmed bookings of a user's children that overlap a slot, in one event. -/
def overlapping (db : Store) (eventId userId : ℕ) (slot : ConferenceTimeSlot) : List (ℕ × ConferenceBooking) :=
  db.bookings.select fun b => b.studentId ∈ db.childrenOf userId && b.status = .confirmed &&
    (db.slots.get? b.timeSlotId).any fun s => s.eventId = eventId && slot.Overlaps s

/-- The rows that refer to a slot. -/
def rowsOn (db : Store) (slotId : ℕ) : List (ℕ × ConferenceBooking) := db.bookings.select fun b => b.timeSlotId = slotId

/-- Insert a booking and mark its slot; the index on slots allows one row for each. -/
def insertBooking (db : Store) (b : ConferenceBooking) : Option Store :=
  if (db.slots.get? b.timeSlotId).isSome ∧ rowsOn db b.timeSlotId = [] then
    some { db with
      bookings := db.bookings.insert b
      slots := db.slots.modify b.timeSlotId fun s => { s with status := .booked } }
  else none

def available (db : Store) (slotId : ℕ) : Option ConferenceTimeSlot :=
  (db.slots.get? slotId).filter fun s => s.status = .available

def cancel (db : Store) (bookingId slotId : ℕ) : Store :=
  { db with
    bookings := db.bookings.modify bookingId fun b => { b with status := .cancelled }
    slots := db.slots.modify slotId fun s => { s with status := .available } }

def setStatus (db : Store) (slotId : ℕ) (status : Availability) : Store :=
  { db with slots := db.slots.modify slotId fun s => { s with status := status.status } }

def unlock (db : Store) (slotId : ℕ) : Store := { db with locked := db.locked.filter (· ≠ slotId) }

def act (db : Store) (process : Process) (input : Input) : Store × Option Process :=
  match process with
  | .opened (.createBooking eventId userId dto) =>
    (db,(ensureConferenceEvent db eventId).map fun _ => .creating userId dto)
  | .opened (.parentBook eventId userId dto) =>
    (db,((ensureConferenceEvent db eventId).filter fun event =>
      event.bookingDeadline.all (fun deadline => !(deadline < input.now)) && dto.studentId ∈ db.childrenOf userId).map fun _ =>
        .locking eventId userId dto)
  | .opened (.cancelBooking eventId bookingId) =>
    (db,((ensureConferenceEvent db eventId).bind fun _ => (bookingOf db eventId bookingId).filter fun b =>
      .cancelled ∈ bookingValidTransitions b.status).map fun b => .cancelling bookingId b.timeSlotId)
  | .opened (.parentCancelBooking eventId bookingId userId) =>
    (db,((ensureConferenceEvent db eventId).bind fun _ => (bookingOf db eventId bookingId).filter fun b =>
      db.allowParentCancellation && b.studentId ∈ db.childrenOf userId && b.status = .confirmed).map fun b =>
        .cancelling bookingId b.timeSlotId)
  | .opened (.updateTimeSlot eventId slotId status) =>
    (db,((ensureConferenceEvent db eventId).bind fun _ => (slotOf db eventId slotId).filter fun s =>
      status.status ∈ slotValidTransitions s.status).map fun _ => .updating slotId status)
  | .opened (.updateOwnTimeSlot eventId slotId userId status) =>
    (db,((ensureConferenceEvent db eventId).bind fun _ => (slotOf db eventId slotId).filter fun s =>
      db.staffOf userId = some s.teacherId && s.status ≠ .booked && s.status ≠ .completed).map fun _ => .updating slotId status)
  | .creating userId dto =>
    if dto.timeSlotId ∈ db.locked then (db,some (.creating userId dto))
    else (((available db dto.timeSlotId).bind fun _ => insertBooking db
      ⟨dto.timeSlotId,dto.studentId,userId,dto.bookingType.getD .parentBooked,.confirmed,false⟩).getD db,none)
  | .locking eventId userId dto =>
    if dto.timeSlotId ∈ db.locked then (db,some (.locking eventId userId dto))
    else match available db dto.timeSlotId with
      | some slot => ({ db with locked := dto.timeSlotId :: db.locked },some (.comparing eventId userId dto slot))
      | none => (db,none)
  | .comparing eventId userId dto slot =>
    if input.rollback ∨ overlapping db eventId userId slot ≠ [] then (unlock db dto.timeSlotId,none)
    else (db,some (.booking userId dto))
  | .booking userId dto =>
    if input.rollback then (unlock db dto.timeSlotId,none)
    else (unlock ((insertBooking db ⟨dto.timeSlotId,dto.studentId,userId,.parentBooked,.confirmed,true⟩).getD db)
      dto.timeSlotId,none)
  | .cancelling bookingId slotId =>
    if slotId ∈ db.locked then (db,some (.cancelling bookingId slotId)) else (cancel db bookingId slotId,none)
  | .updating slotId status =>
    if slotId ∈ db.locked then (db,some (.updating slotId status)) else (setStatus db slotId status,none)

def protocol : Protocol Store Process Request Input := ⟨.opened,act⟩

/-! ## What has to hold -/

/-- Exactly the slots with a confirmed booking are booked; what the children of a parent have been booked by
parents does not overlap in one event; and a booking of an available slot goes through. -/
structure Coherent (db : Store) : Prop where
  booked : ∀ slotId slot, db.slots.get? slotId = some slot →
    (slot.status = .booked ↔ ∃ i b, db.bookings.get? i = some b ∧ b.timeSlotId = slotId ∧ b.status = .confirmed)
  apart : ∀ userId i j a b s s', i ≠ j → db.bookings.get? i = some a → db.bookings.get? j = some b →
    a.byParent → b.byParent → a.status = .confirmed → b.status = .confirmed →
    a.studentId ∈ db.childrenOf userId → b.studentId ∈ db.childrenOf userId →
    db.slots.get? a.timeSlotId = some s → db.slots.get? b.timeSlotId = some s' → s.eventId = s'.eventId → ¬ s.Overlaps s'
  accepted : ∀ slotId slot, db.slots.get? slotId = some slot → slot.status = .available →
    ∀ b : ConferenceBooking, b.timeSlotId = slotId → (insertBooking db b).isSome

/-- A parent's booking that goes through overlaps none that a parent has made for a child with the same parent; no
cancellation is written; and a slot that is changed has no confirmed booking, and none at all to become available. -/
def Safe (db : Store) (process : Process) (input : Input) : Prop :=
  match process with
  | .booking _ dto => input.rollback = false → rowsOn db dto.timeSlotId = [] →
    ∀ slot, db.slots.get? dto.timeSlotId = some slot → ∀ userId, dto.studentId ∈ db.childrenOf userId →
      ∀ i b s, db.bookings.get? i = some b → b.byParent → b.status = .confirmed → b.studentId ∈ db.childrenOf userId →
        db.slots.get? b.timeSlotId = some s → s.eventId = slot.eventId → ¬ s.Overlaps slot
  | .cancelling _ slotId => slotId ∈ db.locked
  | .updating slotId status => slotId ∉ db.locked → ∀ slot, db.slots.get? slotId = some slot →
    ∀ i b, db.bookings.get? i = some b → b.timeSlotId = slotId → b.status ≠ .confirmed ∧ status ≠ .available
  | _ => True

end EduPod.Engagement
