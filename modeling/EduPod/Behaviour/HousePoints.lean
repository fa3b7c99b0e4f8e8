import Mathlib
import EduPod.Behaviour.Records
import EduPod.Foundation.Grouping

/-! # House points

The points of a house come from one sum over its members and once more, for the standings, from sums by student that
are folded over the memberships. Both take the members of the year; neither takes the year of an incident.
-/
namespace EduPod.Behaviour.HousePoints
open Grouping

structure HouseTeam where
  name : String
  nameAr : Option String
  color : String
  icon : Option String
  displayOrder : ℤ
  isActive : Bool
  deriving DecidableEq

structure Membership where
  studentId : ℕ
  houseId : ℕ
  academicYearId : ℕ
  deriving DecidableEq

structure Incident where
  status : IncidentStatus
  retentionStatus : RetentionStatus
  academicYearId : ℕ
  deriving DecidableEq

structure Participant where
  incidentId : ℕ
  studentId : Option ℕ
  pointsAwarded : ℤ
  deriving DecidableEq

/-- A student belongs to one house in a year. -/
structure Records where
  houses : Table HouseTeam
  memberships : Table Membership
  incidents : Table Incident
  participants : Table Participant
  onePerYear : (memberships.rows.map fun r => (r.2.studentId,r.2.academicYearId)).Nodup

def excludedStatuses : List IncidentStatus := [.draft,.withdrawn,.convertedToSafeguarding]

/-- The shared filter of the aggregations. -/
def Incident.isActive (i : Incident) : Bool := !excludedStatuses.contains i.status && i.retentionStatus = .active

def sumPoints (ps : List Participant) : ℤ := (ps.map Participant.pointsAwarded).sum

/-- The rows of some students in incidents of a kind. -/
def Records.rowsOf (db : Records) (studentIds : List ℕ) (kind : Incident → Bool) : List Participant :=
  (db.participants.rows.map Prod.snd).filter fun p =>
    p.studentId.any studentIds.contains && (db.incidents.get? p.incidentId).any kind

structure PointsResult where
  total : ℤ
  fromCache : Bool
  deriving DecidableEq

/-- The result, and what is in the cache afterwards. -/
def getHousePoints (cached : Option ℤ) (db : Records) (houseId academicYearId : ℕ) : PointsResult × Option ℤ :=
  match cached with
  | some total => (⟨total,true⟩,some total)
  | none =>
    let memberships := db.memberships.select fun m => m.houseId = houseId ∧ m.academicYearId = academicYearId
    let studentIds := memberships.map fun r => r.2.studentId
    if studentIds = [] then (⟨0,false⟩,some 0)
    else
      let total := sumPoints (db.rowsOf studentIds Incident.isActive)
      (⟨total,false⟩,some total)

structure HouseStanding where
  houseId : ℕ
  house : HouseTeam
  totalPoints : ℤ
  memberCount : ℕ
  rank : ℕ
  deriving DecidableEq

def rankOf (sorted : List HouseStanding) (houseId : ℕ) : ℕ :=
  (sorted.findIdx? fun h => h.houseId = houseId).elim 0 fun index => index + 1

def getHouseStandings (db : Records) (academicYearId : ℕ) : List HouseStanding :=
  let houses := (db.houses.select HouseTeam.isActive).mergeSort fun a b => a.2.displayOrder ≤ b.2.displayOrder
  let memberships := (db.memberships.select fun m => m.academicYearId = academicYearId).map Prod.snd
  let houseStudents (houseId : ℕ) := (memberships.filter fun m => m.houseId = houseId).map Membership.studentId
  let allStudentIds := memberships.map Membership.studentId
  if allStudentIds = [] then houses.zipIdx.map fun h => ⟨h.1.1,h.1.2,0,0,h.2 + 1⟩
  else
    let pointsByStudent := (groupBy Participant.studentId (db.rowsOf allStudentIds Incident.isActive)).map fun g =>
      (g.1,sumPoints g.2)
    let withTotals : List HouseStanding := houses.map fun h => {
      houseId := h.1
      house := h.2
      totalPoints := ((houseStudents h.1).map fun studentId => (pointsByStudent.lookup (some studentId)).getD 0).sum
      memberCount := (houseStudents h.1).length
      rank := 0 }
    let sorted := withTotals.mergeSort fun a b => b.totalPoints ≤ a.totalPoints
    withTotals.map fun h => { h with rank := rankOf sorted h.houseId }

/-! ## Points of a year -/

def members (db : Records) (houseId academicYearId : ℕ) : List ℕ :=
  (db.memberships.select fun m => m.houseId = houseId ∧ m.academicYearId = academicYearId).map fun r => r.2.studentId

def studentPoints (db : Records) (kind : Incident → Bool) (studentId : ℕ) : ℤ := sumPoints (db.rowsOf [studentId] kind)

/-- What the members of a house were awarded in incidents of a kind. -/
def housePoints (db : Records) (kind : Incident → Bool) (houseId academicYearId : ℕ) : ℤ :=
  ((members db houseId academicYearId).map (studentPoints db kind)).sum

def Incident.ofYear (academicYearId : ℕ) (i : Incident) : Bool := i.isActive && i.academicYearId = academicYearId

def Incident.ofOtherYear (academicYearId : ℕ) (i : Incident) : Bool := i.isActive && i.academicYearId ≠ academicYearId

/-- Both ways to count agree on the points of the year. -/
structure CountsYear (db : Records) (academicYearId : ℕ) : Prop where
  listed : ∀ r ∈ db.houses.rows, r.2.isActive = true →
    ∃ s ∈ getHouseStandings db academicYearId, s.houseId = r.1
  agree : ∀ s ∈ getHouseStandings db academicYearId,
    (getHousePoints none db s.houseId academicYearId).1.total = s.totalPoints
  points : ∀ s ∈ getHouseStandings db academicYearId,
    s.totalPoints = housePoints db (Incident.ofYear academicYearId) s.houseId academicYearId
  fresh : (db.incidents.All fun i => i.academicYearId ≠ academicYearId) →
    ∀ s ∈ getHouseStandings db academicYearId, s.totalPoints = 0

/-! ## The two ways to count -/

section
variable {db : Records} {houseId academicYearId : ℕ} {kind : Incident → Bool}

theorem nodup_members (db : Records) (houseId academicYearId : ℕ) : (members db houseId academicYearId).Nodup := by
  have hpairs : ((db.memberships.select fun m => m.houseId = houseId ∧ m.academicYearId = academicYearId).map
      fun r => (r.2.studentId,r.2.academicYearId)).Nodup := db.onePerYear.sublist (List.filter_sublist.map _)
  refine (List.nodup_map_iff_inj_on (List.Nodup.of_map _ hpairs)).mpr fun r hr q hq he => ?_
  refine List.inj_on_of_nodup_map hpairs hr hq ?_
  have hyear {r : ℕ × Membership}
      (hr : r ∈ db.memberships.select fun m => m.houseId = houseId ∧ m.academicYearId = academicYearId) :
      r.2.academicYearId = academicYearId := (of_decide_eq_true (List.mem_filter.mp hr).2).2
  rw [he,hyear hr,hyear hq]

theorem rowsOf_filter (studentIds : List ℕ) {studentId : ℕ} (h : studentId ∈ studentIds) :
    (db.rowsOf studentIds kind).filter (fun p => p.studentId = some studentId) = db.rowsOf [studentId] kind := by
  rw [Records.rowsOf,Records.rowsOf,List.filter_filter]
  apply List.filter_congr
  intro p _
  cases p.studentId with
  | none => simp
  | some id =>
    by_cases hid : id = studentId
    · subst hid
      simp [h]
    · simp [hid]

/-- Adding up over distinct students is adding up over their rows. -/
theorem sum_studentPoints {studentIds : List ℕ} (hn : studentIds.Nodup) :
    (studentIds.map (studentPoints db kind)).sum = sumPoints (db.rowsOf studentIds kind) := by
  have hkeys : (studentIds.map some).Nodup := hn.map (Option.some_injective _)
  have hmem : ∀ p ∈ db.rowsOf studentIds kind, p.studentId ∈ studentIds.map some := by
    intro p hp
    obtain ⟨hstudent,-⟩ := Bool.and_eq_true_iff.mp (List.mem_filter.mp hp).2
    cases hp' : p.studentId with
    | none => simp [hp'] at hstudent
    | some id =>
      rw [hp',Option.any_some,List.contains_iff_mem] at hstudent
      exact List.mem_map_of_mem hstudent
  have hsum := sum_filter_keys (f := Participant.pointsAwarded) hkeys hmem
  rw [List.map_map] at hsum
  rw [sumPoints,← hsum]
  refine congrArg List.sum (List.map_congr_left fun id hid => ?_)
  rw [studentPoints,sumPoints,← rowsOf_filter studentIds hid]
  rfl

theorem getHousePoints_total (db : Records) (houseId academicYearId : ℕ) :
    (getHousePoints none db houseId academicYearId).1.total = housePoints db Incident.isActive houseId academicYearId := by
  rw [housePoints,sum_studentPoints (nodup_members db houseId academicYearId)]
  dsimp only [getHousePoints,members]
  split
  case isTrue hnil =>
    have hnone : db.rowsOf [] Incident.isActive = [] := by
      refine List.filter_eq_nil_iff.mpr fun p _ => ?_
      cases p.studentId <;> simp
    rw [hnil,hnone]
    rfl
  case isFalse => rfl

theorem houseStudents_eq (db : Records) (houseId academicYearId : ℕ) :
    ((((db.memberships.select fun m => m.academicYearId = academicYearId).map Prod.snd).filter
      fun m => m.houseId = houseId).map Membership.studentId) = members db houseId academicYearId := by
  rw [members,List.filter_map,List.map_map,Table.select,Table.select,List.filter_filter]
  refine congrArg (List.map _) (List.filter_congr fun r _ => ?_)
  simp

/-- The fold over the memberships counts each member's rows once. -/
theorem foldMembers_eq (db : Records) (houseId academicYearId : ℕ) {allStudentIds : List ℕ}
    (hall : members db houseId academicYearId ⊆ allStudentIds) :
    ((members db houseId academicYearId).map fun studentId =>
      (((groupBy Participant.studentId (db.rowsOf allStudentIds Incident.isActive)).map fun g =>
        (g.1,sumPoints g.2)).lookup (some studentId)).getD 0).sum =
      housePoints db Incident.isActive houseId academicYearId := by
  refine congrArg List.sum (List.map_congr_left fun studentId hstudent => ?_)
  rw [studentPoints,sumPoints,← rowsOf_filter allStudentIds (hall hstudent)]
  exact lookup_groupBy_sum Participant.studentId Participant.pointsAwarded _ _

theorem members_subset (db : Records) (houseId academicYearId : ℕ) : members db houseId academicYearId ⊆
    ((db.memberships.select fun m => m.academicYearId = academicYearId).map Prod.snd).map Membership.studentId := by
  rw [← houseStudents_eq]
  exact List.map_subset _ List.filter_sublist.subset

/-- What a house has in the standings. -/
theorem mem_getHouseStandings {s : HouseStanding} (hs : s ∈ getHouseStandings db academicYearId) :
    s.totalPoints = housePoints db Incident.isActive s.houseId academicYearId := by
  have hall := members_subset db s.houseId academicYearId
  dsimp only [getHouseStandings] at hs
  split at hs
  case isTrue hnil =>
    obtain ⟨h,-,rfl⟩ := List.mem_map.mp hs
    rw [hnil] at hall
    rw [housePoints,List.subset_nil.mp hall]
    rfl
  case isFalse =>
    obtain ⟨t,ht,rfl⟩ := List.mem_map.mp hs
    obtain ⟨h,-,rfl⟩ := List.mem_map.mp ht
    dsimp only
    rw [houseStudents_eq]
    exact foldMembers_eq db h.1 academicYearId hall

theorem exists_standing {r : ℕ × HouseTeam} (hr : r ∈ db.houses.rows) (hactive : r.2.isActive = true) :
    ∃ s ∈ getHouseStandings db academicYearId, s.houseId = r.1 := by
  have hmem : r ∈ (db.houses.select HouseTeam.isActive).mergeSort fun a b => a.2.displayOrder ≤ b.2.displayOrder :=
    List.mem_mergeSort.mpr (List.mem_filter.mpr ⟨hr,hactive⟩)
  dsimp only [getHouseStandings]
  split
  case isTrue =>
    obtain ⟨n,hn,hget⟩ := List.getElem_of_mem hmem
    refine ⟨_,List.mem_map_of_mem (a := (r,n)) (List.mem_zipIdx_iff_getElem?.mpr ?_),rfl⟩
    rw [List.getElem?_eq_getElem hn,hget]
  case isFalse => exact ⟨_,List.mem_map_of_mem (List.mem_map_of_mem hmem),rfl⟩

theorem exists_house {s : HouseStanding} (hs : s ∈ getHouseStandings db academicYearId) :
    ∃ r ∈ db.houses.rows, r.2.isActive = true ∧ s.houseId = r.1 := by
  have hhouse {h : ℕ × HouseTeam} (hh : h ∈ (db.houses.select HouseTeam.isActive).mergeSort
      fun a b => a.2.displayOrder ≤ b.2.displayOrder) : h ∈ db.houses.rows ∧ h.2.isActive = true :=
    List.mem_filter.mp (List.mem_mergeSort.mp hh)
  dsimp only [getHouseStandings] at hs
  split at hs
  case isTrue =>
    obtain ⟨h,hh,rfl⟩ := List.mem_map.mp hs
    obtain ⟨hrow,hactive⟩ := hhouse (List.fst_mem_of_mem_zipIdx hh)
    exact ⟨h.1,hrow,hactive,rfl⟩
  case isFalse =>
    obtain ⟨t,ht,rfl⟩ := List.mem_map.mp hs
    obtain ⟨h,hh,rfl⟩ := List.mem_map.mp ht
    exact ⟨h,(hhouse hh).1,(hhouse hh).2,rfl⟩

/-! ## The year of an incident -/

theorem rowsOf_split (studentIds : List ℕ) (academicYearId : ℕ) : sumPoints (db.rowsOf studentIds Incident.isActive) =
    sumPoints (db.rowsOf studentIds (Incident.ofYear academicYearId)) +
      sumPoints (db.rowsOf studentIds (Incident.ofOtherYear academicYearId)) := by
  unfold sumPoints Records.rowsOf
  induction db.participants.rows with
  | nil => rfl
  | cons r rows ih =>
    simp only [List.map_cons,List.filter_cons]
    cases hstudent : r.2.studentId.any studentIds.contains with
    | false => simpa using ih
    | true =>
      cases hincident : db.incidents.get? r.2.incidentId with
      | none => simpa using ih
      | some i =>
        by_cases hactive : i.isActive = true
        · by_cases hyear : i.academicYearId = academicYearId
          · simp [Incident.ofYear,Incident.ofOtherYear,hactive,hyear] at ih ⊢
            omega
          · simp [Incident.ofYear,Incident.ofOtherYear,hactive,hyear] at ih ⊢
            omega
        · simp [Incident.ofYear,Incident.ofOtherYear,hactive] at ih ⊢
          omega

theorem housePoints_split (db : Records) (houseId academicYearId : ℕ) :
    housePoints db Incident.isActive houseId academicYearId =
      housePoints db (Incident.ofYear academicYearId) houseId academicYearId +
        housePoints db (Incident.ofOtherYear academicYearId) houseId academicYearId := by
  rw [housePoints,housePoints,housePoints,← List.sum_map_add]
  exact congrArg List.sum (List.map_congr_left fun studentId _ => rowsOf_split [studentId] academicYearId)

/-- A year without incidents has no points of its own. -/
theorem housePoints_ofYear_eq_zero (hfresh : db.incidents.All fun i => i.academicYearId ≠ academicYearId) (houseId : ℕ) :
    housePoints db (Incident.ofYear academicYearId) houseId academicYearId = 0 := by
  have hnone : ∀ studentId, studentPoints db (Incident.ofYear academicYearId) studentId = 0 := by
    intro studentId
    rw [studentPoints,Records.rowsOf,List.filter_eq_nil_iff.mpr]
    · rfl
    · rintro p - hp
      obtain ⟨-,hincident⟩ := Bool.and_eq_true_iff.mp hp
      cases hget : db.incidents.get? p.incidentId with
      | none => simp [hget] at hincident
      | some i =>
        have hyear := hfresh.get? hget
        simp [hget,Incident.ofYear,hyear] at hincident
  rw [housePoints,List.map_congr_left fun studentId _ => hnone studentId]
  simp

end

/-- The two ways to count agree; they count the year precisely if what the members of each house were awarded in other
years adds up to nothing. -/
theorem countsYear_iff (db : Records) (academicYearId : ℕ) : CountsYear db academicYearId ↔
    ∀ r ∈ db.houses.rows, r.2.isActive = true →
      housePoints db (Incident.ofOtherYear academicYearId) r.1 academicYearId = 0 := by
  constructor
  · intro h r hr hactive
    obtain ⟨s,hs,hhouse⟩ := h.listed r hr hactive
    have hpoints := h.points s hs
    rw [mem_getHouseStandings hs,housePoints_split,hhouse] at hpoints
    omega
  · intro h
    have hpoints : ∀ s ∈ getHouseStandings db academicYearId,
        s.totalPoints = housePoints db (Incident.ofYear academicYearId) s.houseId academicYearId := by
      intro s hs
      obtain ⟨r,hr,hactive,hhouse⟩ := exists_house hs
      rw [mem_getHouseStandings hs,housePoints_split,hhouse,h r hr hactive,add_zero]
    exact {
      listed := fun r hr hactive => exists_standing hr hactive
      agree := fun s hs => (getHousePoints_total db s.houseId academicYearId).trans (mem_getHouseStandings hs).symm
      points := hpoints
      fresh := fun hfresh s hs => (hpoints s hs).trans (housePoints_ofYear_eq_zero hfresh s.houseId) }

/-- A member of the new year brings along five points of the year before. -/
theorem not_countsYear : ¬ ∀ (db : Records) (academicYearId : ℕ), CountsYear db academicYearId := by
  intro h
  let db : Records := {
    houses := Table.empty.insert ⟨"Oak",none,"green",none,0,true⟩
    memberships := Table.empty.insert ⟨7,0,1⟩
    incidents := Table.empty.insert ⟨.active,.active,0⟩
    participants := Table.empty.insert ⟨0,some 7,5⟩
    onePerYear := by decide }
  have hfresh : db.incidents.All fun i => i.academicYearId ≠ 1 := by
    intro r hr
    rw [List.mem_singleton.mp hr]
    decide
  have hpoints := (h db 1).fresh hfresh ⟨0,⟨"Oak",none,"green",none,0,true⟩,5,1,1⟩ (by decide +kernel)
  exact absurd hpoints (by decide)

end EduPod.Behaviour.HousePoints
