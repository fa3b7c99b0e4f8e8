import EduPod.Foundation.Processes
import EduPod.Foundation.TableBulk

/-! # The substitution cascade

A cascade offers every lesson of an absence to candidates, and the first one to accept is to cover it. What an
operation reads outside its transaction it may write on much later. Days are numbered from a Thursday.
-/
namespace EduPod.Cover
open Processes

inductive SubstitutionOfferStatus
  | pending | accepted | declined | expired | revoked
  deriving DecidableEq, Repr

inductive SubstitutionStatus
  | assigned | confirmed | declined | completed | revoked
  deriving DecidableEq, Repr

inductive SubstitutionRecordSource
  | manual | cascade | nomination
  deriving DecidableEq, Repr

/-- A lesson on a day of an absence. -/
structure Slot where
  absenceId : ℕ
  scheduleId : ℕ
  absenceDate : ℤ
  deriving DecidableEq, Repr

/-- `released` says that the offers of the absence have been revoked since it was cancelled. -/
structure TeacherAbsence where
  staffProfileId : ℕ
  absenceDate : ℤ
  dateTo : Option ℤ
  fullDay : Bool
  periodFrom : Option ℤ
  periodTo : Option ℤ
  nominatedSubstituteId : Option ℕ
  cancelled : Bool
  released : Bool

/-- `everAccepted` says that the offer has been accepted at some time. -/
structure SubstitutionOffer where
  slot : Slot
  candidateStaffId : ℕ
  expiresAt : ℤ
  status : SubstitutionOfferStatus
  isNomination : Bool
  cascadeRound : ℕ
  everAccepted : Bool

structure SubstitutionRecord where
  slot : Slot
  substituteStaffId : ℕ
  offerId : Option ℕ
  source : SubstitutionRecordSource
  status : SubstitutionStatus

structure TenantSettings where
  offerTimeoutMinutes : ℤ
  parallelOfferCount : ℕ
  autoCascadeEnabled : Bool

def defaultSettings : TenantSettings := ⟨30,3,true⟩

structure Store where
  settings : Option TenantSettings
  absences : Table TeacherAbsence
  offers : Table SubstitutionOffer
  records : Table SubstitutionRecord

structure ScheduleRow where
  id : ℕ
  weekday : ℤ
  periodOrder : Option ℤ

structure SubstituteCandidate where
  staffProfileId : ℕ
  isAvailable : Bool
  isCompetent : Bool

/-- The time, the teacher's timetable on the day that is looked up, and the ranked substitutes. -/
structure Input where
  now : ℤ
  timetable : List ScheduleRow
  suggestions : List SubstituteCandidate

inductive Request
  | runCascade (absenceId cascadeRound : ℕ)
  | acceptOffer (staffProfileId offerId : ℕ)
  | declineOffer (staffProfileId offerId : ℕ)
  | expireStaleOffers
  | cancelAbsence (absenceId : ℕ)
  | revokeOffersForAbsence (absenceId : ℕ)

/-- What a cascade has read, and the days and lessons that it still has to go through. -/
structure Cascade where
  absenceId : ℕ
  absence : TeacherAbsence
  settings : TenantSettings
  round : ℕ
  expiresAt : ℤ
  days : List ℤ
  day : ℤ
  slots : List ℕ

/-- The last argument of a cascade's steps are the expired offers whose lessons come after it. -/
inductive Process
  | opened (request : Request)
  | cascading (absenceId round : ℕ) (rest : List SubstitutionOffer)
  | loadingSettings (absenceId : ℕ) (absence : TeacherAbsence) (round : ℕ) (rest : List SubstitutionOffer)
  | nextDay (c : Cascade) (rest : List SubstitutionOffer)
  | checking (c : Cascade) (scheduleId : ℕ) (rest : List SubstitutionOffer)
  | suggesting (c : Cascade) (scheduleId : ℕ) (rest : List SubstitutionOffer)
  | comparing (c : Cascade) (scheduleId : ℕ) (candidates : List ℕ) (isNomination : Bool) (rest : List SubstitutionOffer)
  | offering (c : Cascade) (scheduleId : ℕ) (fresh : List ℕ) (isNomination : Bool) (rest : List SubstitutionOffer)
  | accepting (offerId : ℕ) (offer : SubstitutionOffer)
  | filling (offerId : ℕ) (offer : SubstitutionOffer)
  | declining (offerId : ℕ) (offer : SubstitutionOffer)
  | declined (offer : SubstitutionOffer)
  | expiring (stale : List (ℕ × SubstitutionOffer))
  | expired (rest : List SubstitutionOffer)
  | cancelling (absenceId : ℕ)

/-! ## Running a cascade -/

def dayOfWeek (day : ℤ) : ℤ := (day + 4) % 7

def enumerateDays (start : ℤ) (end_ : Option ℤ) : List ℤ :=
  match end_ with
  | none => [start]
  | some stop =>
    if start = stop then [start]
    else ((List.range (stop - start + 1).toNat).map fun n : ℕ => start + n).filter fun day =>
      dayOfWeek day ≠ 0 ∧ dayOfWeek day ≠ 6

def inPeriods (absence : TeacherAbsence) (row : ScheduleRow) : Bool :=
  absence.fullDay || match absence.periodFrom,absence.periodTo.or absence.periodFrom with
    | some periodFrom,some periodTo => row.periodOrder.any fun period => periodFrom ≤ period && period ≤ periodTo
    | _,_ => true

def findAffectedSchedules (absence : TeacherAbsence) (day : ℤ) (timetable : List ScheduleRow) : List ℕ :=
  ((timetable.filter fun row => row.weekday = dayOfWeek day).filter (inPeriods absence)).map (·.id)

def candidatesAmong (settings : TenantSettings) (suggestions : List SubstituteCandidate) : List ℕ :=
  ((suggestions.filter fun c => c.isAvailable && c.isCompetent).take settings.parallelOfferCount).map (·.staffProfileId)

def SubstitutionRecord.Active (r : SubstitutionRecord) : Prop := r.status = .assigned ∨ r.status = .confirmed

instance (r : SubstitutionRecord) : Decidable r.Active := inferInstanceAs (Decidable (_ ∨ _))

def pendingIn (db : Store) (slot : Slot) : List (ℕ × SubstitutionOffer) :=
  db.offers.select fun o => o.slot = slot ∧ o.status = .pending

def continueExpired (rest : List SubstitutionOffer) : Option Process := if rest.isEmpty then none else some (.expired rest)

/-- The next lesson, the next day, or the end of the cascade. -/
def Cascade.advance (c : Cascade) (rest : List SubstitutionOffer) : Option Process :=
  match c.slots with
  | scheduleId :: slots => some (.checking { c with slots } scheduleId rest)
  | [] => if c.days.isEmpty then continueExpired rest else some (.nextDay c rest)

def Cascade.slot (c : Cascade) (scheduleId : ℕ) : Slot := ⟨c.absenceId,scheduleId,c.day⟩

def Cascade.offer (c : Cascade) (scheduleId : ℕ) (isNomination : Bool) (candidateStaffId : ℕ) : SubstitutionOffer :=
  ⟨c.slot scheduleId,candidateStaffId,c.expiresAt,.pending,isNomination,c.round,false⟩

/-- The unique index on pending offers: the transaction fails if a candidate has one already. -/
def Insertable (db : Store) (slot : Slot) (fresh : List ℕ) : Prop :=
  fresh.Nodup ∧ ∀ q ∈ pendingIn db slot, q.2.candidateStaffId ∉ fresh

instance (db : Store) (slot : Slot) (fresh : List ℕ) : Decidable (Insertable db slot fresh) :=
  inferInstanceAs (Decidable (_ ∧ _))

/-! ## Answers to offers -/

def acceptable (db : Store) (staffProfileId offerId : ℕ) (now : ℤ) : Option SubstitutionOffer :=
  (db.offers.get? offerId).filter fun offer =>
    offer.candidateStaffId = staffProfileId && offer.status = .pending && !(offer.expiresAt < now)

def declinable (db : Store) (staffProfileId offerId : ℕ) : Option SubstitutionOffer :=
  (db.offers.get? offerId).filter fun offer => offer.candidateStaffId = staffProfileId && offer.status = .pending

def SubstitutionOffer.accept (o : SubstitutionOffer) : SubstitutionOffer := { o with status := .accepted, everAccepted := true }

def SubstitutionOffer.close (o : SubstitutionOffer) (status : SubstitutionOfferStatus) : SubstitutionOffer := { o with status }

/-- The writes of an acceptance: the offer by its id, the pending siblings, and the record. -/
def fill (db : Store) (offerId : ℕ) (offer : SubstitutionOffer) : Store :=
  { db with
    offers := (db.offers.modify offerId SubstitutionOffer.accept).mapRows fun id o =>
      if o.slot = offer.slot ∧ o.status = .pending ∧ id ≠ offerId then o.close .revoked else o
    records := db.records.insert
      ⟨offer.slot,offer.candidateStaffId,some offerId,if offer.isNomination then .nomination else .cascade,.assigned⟩ }

def expire (db : Store) (stale : List (ℕ × SubstitutionOffer)) : Store :=
  { db with offers := db.offers.mapRows fun id o => if id ∈ stale.map Prod.fst then o.close .expired else o }

/-- One offer for each lesson, in the order they were found. -/
def bySlot (stale : List SubstitutionOffer) : List SubstitutionOffer :=
  stale.foldl (fun kept o => if kept.any fun k => k.slot = o.slot then kept else kept ++ [o]) []

def revokeOffersForAbsence (db : Store) (absenceId : ℕ) : Store :=
  { db with
    absences := db.absences.modify absenceId fun a => { a with released := a.released || a.cancelled }
    offers := db.offers.mapRows fun _ o =>
      if o.slot.absenceId = absenceId ∧ o.status = .pending then o.close .revoked else o
    records := db.records.mapRows fun _ r =>
      if r.slot.absenceId = absenceId ∧ r.Active then { r with status := .revoked } else r }

def act (db : Store) (process : Process) (input : Input) : Store × Option Process :=
  match process with
  | .opened (.runCascade absenceId round) => (db,some (.cascading absenceId round []))
  | .opened (.acceptOffer staffProfileId offerId) =>
    (db,(acceptable db staffProfileId offerId input.now).map (.accepting offerId))
  | .opened (.declineOffer staffProfileId offerId) => (db,(declinable db staffProfileId offerId).map (.declining offerId))
  | .opened .expireStaleOffers =>
    let stale := db.offers.select fun o => o.status = .pending && o.expiresAt < input.now
    (db,if stale.isEmpty then none else some (.expiring stale))
  | .opened (.cancelAbsence absenceId) =>
    (db,((db.absences.get? absenceId).filter fun a => !a.cancelled).map fun _ => .cancelling absenceId)
  | .opened (.revokeOffersForAbsence absenceId) => (revokeOffersForAbsence db absenceId,none)
  | .cascading absenceId round rest =>
    match (db.absences.get? absenceId).filter fun a => !a.cancelled with
    | some absence => (db,some (.loadingSettings absenceId absence round rest))
    | none => (db,continueExpired rest)
  | .loadingSettings absenceId absence round rest =>
    let settings := db.settings.getD defaultSettings
    if settings.autoCascadeEnabled then
      (db,Cascade.advance ⟨absenceId,absence,settings,round,input.now + settings.offerTimeoutMinutes * 60 * 1000,
        enumerateDays absence.absenceDate absence.dateTo,absence.absenceDate,[]⟩ rest)
    else (db,continueExpired rest)
  | .nextDay c rest =>
    match c.days with
    | day :: days => (db,Cascade.advance { c with days, day, slots := findAffectedSchedules c.absence day input.timetable } rest)
    | [] => (db,continueExpired rest)
  | .checking c scheduleId rest =>
    if (db.records.select fun r => r.slot = c.slot scheduleId ∧ r.Active).isEmpty then
      match c.absence.nominatedSubstituteId with
      | some nominated =>
        (db,some (if c.round = 1 then .comparing c scheduleId [nominated] true rest else .suggesting c scheduleId rest))
      | none => (db,some (.suggesting c scheduleId rest))
    else (db,c.advance rest)
  | .suggesting c scheduleId rest =>
    (db,some (.comparing c scheduleId (candidatesAmong c.settings input.suggestions) false rest))
  | .comparing c scheduleId candidates isNomination rest =>
    let blocked := (pendingIn db (c.slot scheduleId)).map fun q => q.2.candidateStaffId
    let fresh := candidates.filter fun id => id ∉ blocked
    (db,if fresh.isEmpty then c.advance rest else some (.offering c scheduleId fresh isNomination rest))
  | .offering c scheduleId fresh isNomination rest =>
    if Insertable db (c.slot scheduleId) fresh then
      ({ db with offers := db.offers.insertAll (fresh.map (c.offer scheduleId isNomination)) },c.advance rest)
    else (db,none)
  | .accepting offerId offer =>
    (db,if (db.offers.select fun o => o.slot = offer.slot ∧ o.status = .accepted).all fun q => q.1 = offerId then
      some (.filling offerId offer) else none)
  | .filling offerId offer => (fill db offerId offer,none)
  | .declining offerId offer =>
    ({ db with offers := db.offers.modify offerId fun o => o.close .declined },
      if offer.isNomination then none else some (.declined offer))
  | .declined offer =>
    (db,if (pendingIn db offer.slot).isEmpty then some (.cascading offer.slot.absenceId (offer.cascadeRound + 1) []) else none)
  | .expiring stale => (expire db stale,continueExpired (bySlot (stale.map Prod.snd)))
  | .expired [] => (db,none)
  | .expired (offer :: rest) =>
    (db,if ¬ offer.isNomination ∧ (pendingIn db offer.slot).isEmpty then
      some (.cascading offer.slot.absenceId (offer.cascadeRound + 1) rest) else continueExpired rest)
  | .cancelling absenceId =>
    ({ db with absences := db.absences.modify absenceId fun a => { a with cancelled := true } },
      some (.opened (.revokeOffersForAbsence absenceId)))

def protocol : Protocol Store Process Request Input := ⟨.opened,act⟩

end EduPod.Cover
