import Mathlib
import EduPod.Foundation.Runs
import EduPod.Foundation.TableBulk

/-! # Recognition awards, their tiers and their repeat limits

An award check goes through the award types from the highest tier down. An award supersedes the awards of lower tiers
that are there when it is created, whereas those that the same check creates after it stay.
-/
namespace EduPod.Behaviour.AwardTiers
open Runs

inductive RepeatMode
  | onceEver | oncePerYear | oncePerPeriod | unlimited
  deriving DecidableEq

/-- A tier group is one with a name that is not empty, and a maximum and a level are at least 1 when they are
saved. -/
structure AwardType where
  isActive : Bool
  pointsThreshold : Option ℤ
  repeatMode : RepeatMode
  repeatMaxPerYear : Option ℕ
  tierGroup : Option ℕ
  tierLevel : Option ℤ
  supersedesLowerTiers : Bool
  repeatMaxPerYear_pos : ∀ most ∈ repeatMaxPerYear,1 ≤ most
  tierLevel_pos : ∀ level ∈ tierLevel,1 ≤ level

/-- `run` names the check or the request that created the award; no query reads it. -/
structure Award where
  studentId : ℕ
  typeId : ℕ
  pointsAtAward : ℤ
  awardedAt : ℤ
  academicYearId : ℕ
  triggeredByIncidentId : Option ℕ
  supersededById : Option ℕ
  run : ℕ

/-- The first and the last day of an academic period, as the instants at which they begin. -/
structure AcademicPeriod where
  startDate : ℤ
  endDate : ℤ

inductive Source
  | worker | service
  deriving DecidableEq

/-- One award type considered for one student. -/
structure Consideration where
  source : Source
  run : ℕ
  studentId : ℕ
  typeId : ℕ
  incidentId : Option ℕ
  points : ℤ
  academicYearId : ℕ
  period : Option AcademicPeriod
  now : ℤ

structure BehaviourCheckAwardsPayload where
  run : ℕ
  incidentId : ℕ
  studentIds : List ℕ
  academicYearId : ℕ
  period : Option AcademicPeriod

inductive Command
  | checkAwards (data : BehaviourCheckAwardsPayload) (points : ℕ → ℤ) (clock : ℕ → ℕ → ℤ)
  | createManualAward (run studentId awardTypeId academicYearId : ℕ) (period : Option AcademicPeriod) (points now : ℤ)

def msPerDay : ℤ := 24 * 60 * 60 * 1000

def AcademicPeriod.Contains (period : AcademicPeriod) (instant : ℤ) : Prop :=
  period.startDate ≤ instant ∧ instant < period.endDate + msPerDay

instance (period : AcademicPeriod) (instant : ℤ) : Decidable (period.Contains instant) :=
  inferInstanceAs (Decidable (_ ∧ _))

section
variable (types : Table AwardType) (awards : Table Award)

/-- How many awards of a student and a type satisfy a further condition. -/
def countWhere (studentId typeId : ℕ) (p : Award → Bool) : ℕ :=
  awards.rows.countP fun row => row.2.studentId = studentId && row.2.typeId = typeId && p row.2

/-- What `awarded_at: { gte, lte }` finds, and in the service only in the academic year. -/
def inPeriodQuery (c : Consideration) (period : AcademicPeriod) (a : Award) : Bool :=
  period.startDate ≤ a.awardedAt && a.awardedAt ≤ period.endDate &&
    (c.source = .worker || a.academicYearId = c.academicYearId)

def inYear (academicYearId : ℕ) (a : Award) : Bool := a.academicYearId = academicYearId

def belowMaximum (awardType : AwardType) (c : Consideration) : Bool :=
  awardType.repeatMaxPerYear.all fun most => countWhere awards c.studentId c.typeId (inYear c.academicYearId) < most

/-- The worker's `checkRepeatEligibility`: without a period it does not come to the maximum. -/
def checkRepeatEligibility (awardType : AwardType) (c : Consideration) : Bool :=
  match awardType.repeatMode,c.period with
  | .onceEver,_ => countWhere awards c.studentId c.typeId (fun _ => true) = 0
  | .oncePerYear,_ =>
    countWhere awards c.studentId c.typeId (inYear c.academicYearId) = 0 && belowMaximum awards awardType c
  | .oncePerPeriod,none => true
  | .oncePerPeriod,some period =>
    countWhere awards c.studentId c.typeId (inPeriodQuery c period) = 0 && belowMaximum awards awardType c
  | .unlimited,_ => belowMaximum awards awardType c

/-- The service's `checkAwardEligibility`: every mode comes to the maximum. -/
def checkAwardEligibility (awardType : AwardType) (c : Consideration) : Bool :=
  (match awardType.repeatMode,c.period with
  | .onceEver,_ => countWhere awards c.studentId c.typeId (fun _ => true) = 0
  | .oncePerYear,_ => countWhere awards c.studentId c.typeId (inYear c.academicYearId) = 0
  | .oncePerPeriod,none => true
  | .oncePerPeriod,some period => countWhere awards c.studentId c.typeId (inPeriodQuery c period) = 0
  | .unlimited,_ => true) && belowMaximum awards awardType c

/-- The type is one of a lower tier of the group. -/
def isLowerTier (tierGroup : ℕ) (tierLevel : ℤ) (typeId : ℕ) : Bool :=
  (types.get? typeId).any fun other =>
    other.tierGroup = some tierGroup && other.tierLevel.any fun level => level < tierLevel

def handleTierSupersession (studentId tierGroup : ℕ) (tierLevel : ℤ) (newAwardId : ℕ) : Table Award :=
  awards.mapRows fun _ a =>
    if a.studentId = studentId ∧ isLowerTier types tierGroup tierLevel a.typeId = true ∧ a.supersededById = none then
      { a with supersededById := some newAwardId }
    else a

def Consideration.award (c : Consideration) : Award :=
  ⟨c.studentId,c.typeId,c.points,c.now,c.academicYearId,c.incidentId,none,c.run⟩

/-- The level that an award supersedes from: in the service a missing level counts as 0. -/
def supersedingLevel (awardType : AwardType) (source : Source) : Option ℤ :=
  match source with
  | .worker => awardType.tierLevel
  | .service => some (awardType.tierLevel.getD 0)

/-- All checks that stand before the creation of an award. -/
def passes (awardType : AwardType) (c : Consideration) : Bool :=
  match c.source with
  | .worker => awardType.isActive && awardType.pointsThreshold.any (fun threshold => threshold ≤ c.points) &&
      countWhere awards c.studentId c.typeId (fun a => a.triggeredByIncidentId = c.incidentId) = 0 &&
      checkRepeatEligibility awards awardType c
  | .service => awardType.isActive && checkAwardEligibility awards awardType c

def createAward (awardType : AwardType) (c : Consideration) : Table Award :=
  let created := awards.insert c.award
  match awardType.supersedesLowerTiers,awardType.tierGroup,supersedingLevel awardType c.source with
  | true,some tierGroup,some tierLevel =>
    handleTierSupersession types created c.studentId tierGroup tierLevel awards.next
  | _,_,_ => created

def consider (c : Consideration) : Table Award :=
  match types.get? c.typeId with
  | some awardType => if passes awards awardType c then createAward types awards awardType c else awards
  | none => awards

/-- The active types with a threshold, by tier from the highest down, those without a tier last, then by threshold. -/
def autoAwardTypes : List (ℕ × AwardType) :=
  (types.rows.filter fun row => row.2.isActive && row.2.pointsThreshold.isSome).mergeSort fun a b =>
    match a.2.tierLevel,b.2.tierLevel with
    | some l,some m => m < l || l = m && b.2.pointsThreshold.getD 0 ≤ a.2.pointsThreshold.getD 0
    | some _,none => true
    | none,some _ => false
    | none,none => b.2.pointsThreshold.getD 0 ≤ a.2.pointsThreshold.getD 0

/-- The considerations of a command, in their order. -/
def considerations : Command → List Consideration
  | .checkAwards data points clock => data.studentIds.flatMap fun studentId => (autoAwardTypes types).map fun row =>
      ⟨.worker,data.run,studentId,row.1,some data.incidentId,points studentId,data.academicYearId,data.period,
        clock studentId row.1⟩
  | .createManualAward run studentId awardTypeId academicYearId period points now =>
      [⟨.service,run,studentId,awardTypeId,none,points,academicYearId,period,now⟩]

end

/-! ## Tiers and limits kept -/

section
variable (types : Table AwardType) (periods : List AcademicPeriod) (awards : Table Award)

/-- The first type supersedes lower tiers, and the second one is a lower tier of its group. -/
def Outranks (higher lower : ℕ) : Prop :=
  ∃ h tierGroup tierLevel,types.get? higher = some h ∧ h.supersedesLowerTiers = true ∧ h.tierGroup = some tierGroup ∧
    h.tierLevel = some tierLevel ∧ isLowerTier types tierGroup tierLevel lower = true

/-- A window of awards of one type, and how many a student may have in it. -/
inductive Limit (typeId : ℕ) : (Award → Bool) → ℕ → Prop
  | ever (awardType : AwardType) (h : types.get? typeId = some awardType) (hmode : awardType.repeatMode = .onceEver) :
      Limit typeId (fun _ => true) 1
  | year (awardType : AwardType) (h : types.get? typeId = some awardType) (hmode : awardType.repeatMode = .oncePerYear)
      (academicYearId : ℕ) : Limit typeId (inYear academicYearId) 1
  | period (awardType : AwardType) (h : types.get? typeId = some awardType)
      (hmode : awardType.repeatMode = .oncePerPeriod) (period : AcademicPeriod) (hperiod : period ∈ periods) :
      Limit typeId (fun a => period.Contains a.awardedAt) 1
  | maximum (awardType : AwardType) (h : types.get? typeId = some awardType) (most : ℕ)
      (hmost : awardType.repeatMaxPerYear = some most) (academicYearId : ℕ) : Limit typeId (inYear academicYearId) most

structure Kept : Prop where
  tiers : ∀ i a j b,awards.get? i = some a → awards.get? j = some b → a.studentId = b.studentId →
    Outranks types a.typeId b.typeId → b.supersededById = none → a.awardedAt < b.awardedAt ∧ a.run ≠ b.run
  limits : ∀ studentId typeId window most,Limit types periods typeId window most →
    countWhere awards studentId typeId window ≤ most

/-- The award is later than the higher ones the student holds and not of their run; its period's query sees all awards
of every period it falls in; and where the maximum is not looked at it is not reached. -/
structure Harmless (c : Consideration) : Prop where
  tiers : ∀ i a,awards.get? i = some a → a.studentId = c.studentId → Outranks types a.typeId c.typeId →
    a.awardedAt < c.now ∧ a.run ≠ c.run
  seen : ∀ awardType,types.get? c.typeId = some awardType → awardType.repeatMode = .oncePerPeriod →
    ∀ period ∈ periods,period.Contains c.now → ∀ i a,awards.get? i = some a → a.studentId = c.studentId →
      a.typeId = c.typeId → period.Contains a.awardedAt → ∃ asked ∈ c.period,inPeriodQuery c asked a = true
  unseen : ∀ awardType,types.get? c.typeId = some awardType → awardType.repeatMode = .oncePerPeriod →
    c.source = .worker → c.period = none → belowMaximum awards awardType c = true

def Creates (c : Consideration) : Prop := ∃ awardType,types.get? c.typeId = some awardType ∧
  passes awards awardType c = true

end

/-! ## What a passed check says -/

section
variable {types : Table AwardType} {periods : List AcademicPeriod} {awards : Table Award} {awardType : AwardType}
  {c : Consideration}

theorem ever_of_passes (h : passes awards awardType c = true) (hmode : awardType.repeatMode = .onceEver) :
    countWhere awards c.studentId c.typeId (fun _ => true) = 0 := by
  unfold passes checkRepeatEligibility checkAwardEligibility at h
  rw [hmode] at h
  cases hsource : c.source with
  | worker =>
    rw [hsource] at h
    simp only [Bool.and_eq_true,decide_eq_true_eq] at h
    exact h.2
  | service =>
    rw [hsource] at h
    simp only [Bool.and_eq_true,decide_eq_true_eq] at h
    exact h.2.1

theorem year_of_passes (h : passes awards awardType c = true) (hmode : awardType.repeatMode = .oncePerYear) :
    countWhere awards c.studentId c.typeId (inYear c.academicYearId) = 0 := by
  unfold passes checkRepeatEligibility checkAwardEligibility at h
  rw [hmode] at h
  cases hsource : c.source with
  | worker =>
    rw [hsource] at h
    simp only [Bool.and_eq_true,decide_eq_true_eq] at h
    exact h.2.1
  | service =>
    rw [hsource] at h
    simp only [Bool.and_eq_true,decide_eq_true_eq] at h
    exact h.2.1

theorem period_of_passes (h : passes awards awardType c = true) (hmode : awardType.repeatMode = .oncePerPeriod)
    {period : AcademicPeriod} (hperiod : c.period = some period) :
    countWhere awards c.studentId c.typeId (inPeriodQuery c period) = 0 := by
  unfold passes checkRepeatEligibility checkAwardEligibility at h
  rw [hmode,hperiod] at h
  cases hsource : c.source with
  | worker =>
    rw [hsource] at h
    simp only [Bool.and_eq_true,decide_eq_true_eq] at h
    exact h.2.1
  | service =>
    rw [hsource] at h
    simp only [Bool.and_eq_true,decide_eq_true_eq] at h
    exact h.2.1

/-- Only the worker passes the maximum by: for a type awarded once ever, and without a period. -/
theorem maximum_of_passes (h : passes awards awardType c = true) (hever : awardType.repeatMode ≠ .onceEver)
    (hlooked : ¬(c.source = .worker ∧ awardType.repeatMode = .oncePerPeriod ∧ c.period = none)) :
    belowMaximum awards awardType c = true := by
  unfold passes at h
  cases hsource : c.source with
  | worker =>
    rw [hsource] at h
    simp only [Bool.and_eq_true] at h
    have heligible := h.2
    unfold checkRepeatEligibility at heligible
    cases hmode : awardType.repeatMode with
    | onceEver => exact absurd hmode hever
    | oncePerYear =>
      rw [hmode] at heligible
      simp only [Bool.and_eq_true] at heligible
      exact heligible.2
    | oncePerPeriod =>
      cases hperiod : c.period with
      | none => exact absurd ⟨hsource,hmode,hperiod⟩ hlooked
      | some period =>
        rw [hmode,hperiod] at heligible
        simp only [Bool.and_eq_true] at heligible
        exact heligible.2
    | unlimited =>
      rw [hmode] at heligible
      exact heligible
  | service =>
    rw [hsource] at h
    simp only [Bool.and_eq_true] at h
    have heligible := h.2
    unfold checkAwardEligibility at heligible
    simp only [Bool.and_eq_true] at heligible
    exact heligible.2

theorem belowMaximum_iff {most : ℕ} (hmost : awardType.repeatMaxPerYear = some most) :
    belowMaximum awards awardType c = true ↔
      countWhere awards c.studentId c.typeId (inYear c.academicYearId) < most := by
  rw [belowMaximum,hmost,Option.all_some,decide_eq_true_eq]

/-! ## Counting awards -/

theorem countWhere_pos {studentId typeId : ℕ} {p : Award → Bool} :
    0 < countWhere awards studentId typeId p ↔ ∃ i a,awards.get? i = some a ∧ a.studentId = studentId ∧
      a.typeId = typeId ∧ p a = true := by
  rw [countWhere,List.countP_pos_iff]
  constructor
  · rintro ⟨row,hrow,hp⟩
    simp only [Bool.and_eq_true,decide_eq_true_eq] at hp
    exact ⟨row.1,row.2,Table.get?_of_mem hrow,hp.1.1,hp.1.2,hp.2⟩
  · rintro ⟨i,a,ha,hs,ht,hp⟩
    exact ⟨(i,a),Table.mem_of_get? ha,by simp [hs,ht,hp]⟩

theorem countWhere_mono {studentId typeId : ℕ} {p q : Award → Bool} (h : ∀ a,p a = true → q a = true) :
    countWhere awards studentId typeId p ≤ countWhere awards studentId typeId q := by
  refine List.countP_mono_left fun row _ hp => ?_
  simp only [Bool.and_eq_true] at hp ⊢
  exact ⟨hp.1,h _ hp.2⟩

/-- The awards that a new one supersedes. -/
def superseded (types : Table AwardType) (awardType : AwardType) (c : Consideration) (a : Award) : Bool :=
  match awardType.supersedesLowerTiers,awardType.tierGroup,supersedingLevel awardType c.source with
  | true,some tierGroup,some tierLevel =>
    a.studentId = c.studentId && isLowerTier types tierGroup tierLevel a.typeId && a.supersededById = none
  | _,_,_ => false

theorem createAward_eq : createAward types awards awardType c = (awards.insert c.award).mapRows fun _ a =>
    if superseded types awardType c a = true then { a with supersededById := some awards.next } else a := by
  unfold createAward superseded
  dsimp only
  split
  · refine Table.mapRows_congr fun row _ => ?_
    simp only [Bool.and_eq_true,decide_eq_true_eq,and_assoc]
  · symm
    apply Table.mapRows_eq_self
    intro row _
    exact if_neg Bool.false_ne_true

/-- A window that does not look at the supersession counts the new award and otherwise what it counted. -/
theorem countWhere_createAward {studentId typeId : ℕ} {p : Award → Bool}
    (hp : ∀ a id,p { a with supersededById := id } = p a) :
    countWhere (createAward types awards awardType c) studentId typeId p = countWhere awards studentId typeId p +
      if c.studentId = studentId ∧ c.typeId = typeId ∧ p c.award = true then 1 else 0 := by
  have hmap : ∀ row : ℕ × Award,(fun row : ℕ × Award => decide (row.2.studentId = studentId) &&
      decide (row.2.typeId = typeId) && p row.2) (row.1,if superseded types awardType c row.2 = true then
        { row.2 with supersededById := some awards.next } else row.2) =
      (decide (row.2.studentId = studentId) && decide (row.2.typeId = typeId) && p row.2) := by
    intro row
    split
    · simp [hp]
    · rfl
  rw [createAward_eq,countWhere,countWhere,Table.mapRows,Table.insert]
  simp only [List.countP_map,Function.comp_def,hmap,List.countP_append,List.countP_singleton]
  congr 1
  simp only [Bool.and_eq_true,decide_eq_true_eq,and_assoc]
  rfl

/-! ## One award -/

/-- A type is no lower tier than itself. -/
theorem not_isLowerTier_self {tierGroup : ℕ} {tierLevel : ℤ} {typeId : ℕ} (h : types.get? typeId = some awardType)
    (hlevel : awardType.tierLevel = some tierLevel ∨ awardType.tierLevel = none) :
    isLowerTier types tierGroup tierLevel typeId = false := by
  rw [isLowerTier,h,Option.any_some]
  rcases hlevel with hlevel | hlevel <;> simp [hlevel]

theorem not_superseded_award (h : types.get? c.typeId = some awardType) :
    superseded types awardType c c.award = false := by
  have hlevel : ∀ tierLevel,supersedingLevel awardType c.source = some tierLevel →
      awardType.tierLevel = some tierLevel ∨ awardType.tierLevel = none := by
    intro tierLevel hlevel
    cases hsource : c.source with
    | worker =>
      rw [hsource] at hlevel
      exact .inl hlevel
    | service =>
      rw [hsource] at hlevel
      cases ht : awardType.tierLevel with
      | none => exact .inr rfl
      | some level =>
        rw [supersedingLevel,ht] at hlevel
        exact .inl hlevel
  unfold superseded
  split
  · rename_i tierGroup tierLevel _ _ hsuperseding
    rw [show c.award.typeId = c.typeId from rfl,not_isLowerTier_self h (hlevel tierLevel hsuperseding)]
    simp
  · rfl

/-- The rows after an award: the new one, and the old ones with what it supersedes marked. -/
theorem get?_createAward (h : types.get? c.typeId = some awardType) (i : ℕ) :
    (createAward types awards awardType c).get? i = if i = awards.next then some c.award
      else (awards.get? i).map fun a =>
        if superseded types awardType c a = true then { a with supersededById := some awards.next } else a := by
  rw [createAward_eq,Table.get?_mapRows,Table.get?_insert]
  split
  · rw [Option.map_some,not_superseded_award h,if_neg Bool.false_ne_true]
  · rfl

/-- An old row keeps all but its supersession. -/
theorem exists_of_get?_createAward (h : types.get? c.typeId = some awardType) {i : ℕ} {a : Award}
    (ha : (createAward types awards awardType c).get? i = some a) :
    i = awards.next ∧ a = c.award ∨
      ∃ old,awards.get? i = some old ∧ a.studentId = old.studentId ∧ a.typeId = old.typeId ∧
      a.awardedAt = old.awardedAt ∧ a.run = old.run ∧
      (a.supersededById = none → superseded types awardType c old = false ∧ old.supersededById = none) := by
  rw [get?_createAward h] at ha
  split at ha
  · exact .inl ⟨‹_›,(Option.some.inj ha).symm⟩
  · obtain ⟨old,hold,rfl⟩ := Option.map_eq_some_iff.mp ha
    refine .inr ⟨old,hold,?_⟩
    cases hs : superseded types awardType c old with
    | true =>
      rw [if_pos rfl]
      exact ⟨rfl,rfl,rfl,rfl,by simp⟩
    | false =>
      rw [if_neg Bool.false_ne_true]
      exact ⟨rfl,rfl,rfl,rfl,fun hnone => ⟨rfl,hnone⟩⟩

/-- A lower tier of the student that was not superseded before is superseded by the award. -/
theorem superseded_of_outranks (h : types.get? c.typeId = some awardType) {a : Award}
    (hs : a.studentId = c.studentId) (ho : Outranks types c.typeId a.typeId) (hnone : a.supersededById = none) :
    superseded types awardType c a = true := by
  obtain ⟨t,tierGroup,tierLevel,ht,hsupersedes,hgroup,hlevel,hlower⟩ := ho
  obtain rfl := Option.some.inj (h.symm.trans ht)
  have hsuperseding : supersedingLevel awardType c.source = some tierLevel := by
    cases c.source with
    | worker => exact hlevel
    | service => rw [supersedingLevel,hlevel,Option.getD_some]
  unfold superseded
  rw [hsupersedes,hgroup,hsuperseding]
  simp [hs,hlower,hnone]

theorem not_outranks_self (typeId : ℕ) : ¬Outranks types typeId typeId := by
  rintro ⟨t,tierGroup,tierLevel,ht,-,-,hlevel,hlower⟩
  rw [not_isLowerTier_self ht (.inl hlevel)] at hlower
  cases hlower

theorem tiers_createAward_iff (h : types.get? c.typeId = some awardType) (hkept : Kept types periods awards) :
    (∀ i a j b,(createAward types awards awardType c).get? i = some a →
      (createAward types awards awardType c).get? j = some b → a.studentId = b.studentId →
        Outranks types a.typeId b.typeId → b.supersededById = none → a.awardedAt < b.awardedAt ∧ a.run ≠ b.run) ↔
      ∀ i a,awards.get? i = some a → a.studentId = c.studentId → Outranks types a.typeId c.typeId →
        a.awardedAt < c.now ∧ a.run ≠ c.run := by
  constructor
  · intro hafter i a ha hs ho
    have hne : i ≠ awards.next := (Table.lt_next_of_get? ha).ne
    have hold : (createAward types awards awardType c).get? i = _ := get?_createAward h i
    rw [if_neg hne,ha,Option.map_some] at hold
    have hnew : (createAward types awards awardType c).get? awards.next = _ := get?_createAward h awards.next
    rw [if_pos rfl] at hnew
    have hpair := hafter i _ awards.next _ hold hnew
    cases hsup : superseded types awardType c a with
    | true =>
      rw [hsup,if_pos rfl] at hpair
      exact hpair hs ho rfl
    | false =>
      rw [hsup,if_neg Bool.false_ne_true] at hpair
      exact hpair hs ho rfl
  · intro hharmless i a j b ha hb hs ho hnone
    rcases exists_of_get?_createAward h hb with ⟨rfl,rfl⟩ | ⟨b',hb',hbs,hbt,hbat,hbr,hbnone⟩
    · rcases exists_of_get?_createAward h ha with ⟨rfl,rfl⟩ | ⟨a',ha',has,hat,haat,har,-⟩
      · exact absurd ho (not_outranks_self _)
      · rw [haat,har]
        exact hharmless i a' ha' (has.symm.trans hs) (hat ▸ ho)
    · obtain ⟨hnot,hbnone⟩ := hbnone hnone
      rcases exists_of_get?_createAward h ha with ⟨rfl,rfl⟩ | ⟨a',ha',has,hat,haat,har,-⟩
      · rw [superseded_of_outranks h (hbs.symm.trans hs.symm) (hbt ▸ ho) hbnone] at hnot
        cases hnot
      · rw [haat,har,hbat,hbr]
        exact hkept.tiers i a' j b' ha' hb' (has.symm.trans (hs.trans hbs)) (hat ▸ hbt ▸ ho) hbnone

theorem Limit.congr {typeId most : ℕ} {window : Award → Bool} (h : Limit types periods typeId window most) (a : Award)
    (id : Option ℕ) : window { a with supersededById := id } = window a := by
  cases h <;> rfl

theorem limits_createAward_iff (hkept : Kept types periods awards) :
    (∀ studentId typeId window most,Limit types periods typeId window most →
      countWhere (createAward types awards awardType c) studentId typeId window ≤ most) ↔
      ∀ window most,Limit types periods c.typeId window most → window c.award = true →
        countWhere awards c.studentId c.typeId window < most := by
  constructor
  · intro hafter window most hlimit hwindow
    have hcount := hafter c.studentId c.typeId window most hlimit
    rw [countWhere_createAward hlimit.congr,if_pos ⟨rfl,rfl,hwindow⟩] at hcount
    omega
  · intro hroom studentId typeId window most hlimit
    have hcount := hkept.limits studentId typeId window most hlimit
    rw [countWhere_createAward hlimit.congr]
    split
    · rename_i hnew
      obtain ⟨rfl,rfl,hwindow⟩ := hnew
      exact hroom window most hlimit hwindow
    · exact hcount

/-- Of the limits only those of a period, and a maximum that the worker does not come to, can be overstepped. -/
theorem room_iff (h : types.get? c.typeId = some awardType) (hp : passes awards awardType c = true) :
    (∀ window most,Limit types periods c.typeId window most → window c.award = true →
      countWhere awards c.studentId c.typeId window < most) ↔
      (∀ t,types.get? c.typeId = some t → t.repeatMode = .oncePerPeriod → ∀ period ∈ periods,period.Contains c.now →
        ∀ i a,awards.get? i = some a → a.studentId = c.studentId → a.typeId = c.typeId → period.Contains a.awardedAt →
          ∃ asked ∈ c.period,inPeriodQuery c asked a = true) ∧
      ∀ t,types.get? c.typeId = some t → t.repeatMode = .oncePerPeriod → c.source = .worker → c.period = none →
        belowMaximum awards t c = true := by
  constructor
  · intro hroom
    refine ⟨?_,?_⟩
    · intro t ht hmode period hperiod hnow i a ha hs htype hin
      have hcount := hroom _ _ (.period t ht hmode period hperiod) (decide_eq_true hnow)
      have hpos : 0 < countWhere awards c.studentId c.typeId fun a => period.Contains a.awardedAt :=
        countWhere_pos.mpr ⟨i,a,ha,hs,htype,decide_eq_true hin⟩
      omega
    · intro t ht _ _ _
      cases hmost : t.repeatMaxPerYear with
      | none => rw [belowMaximum,hmost,Option.all_none]
      | some most =>
        exact (belowMaximum_iff hmost).mpr (hroom _ _ (.maximum t ht most hmost c.academicYearId) (decide_eq_true rfl))
  · rintro ⟨hseen,hunseen⟩ window most hlimit hwindow
    cases hlimit with
    | ever t ht hmode =>
      obtain rfl := Option.some.inj (h.symm.trans ht)
      rw [ever_of_passes hp hmode]
      exact Nat.one_pos
    | year t ht hmode academicYearId =>
      obtain rfl := Option.some.inj (h.symm.trans ht)
      obtain rfl : c.academicYearId = academicYearId := of_decide_eq_true hwindow
      rw [year_of_passes hp hmode]
      exact Nat.one_pos
    | period t ht hmode period hperiod =>
      obtain rfl := Option.some.inj (h.symm.trans ht)
      by_contra hfull
      have hsome : 0 < countWhere awards c.studentId c.typeId fun a => period.Contains a.awardedAt := by omega
      obtain ⟨i,a,ha,hs,htype,hin⟩ := countWhere_pos.mp hsome
      obtain ⟨asked,hasked,hquery⟩ := hseen awardType h hmode period hperiod (of_decide_eq_true hwindow) i a ha hs htype
        (of_decide_eq_true hin)
      have hnone := period_of_passes hp hmode hasked
      have hpos := countWhere_pos.mpr ⟨i,a,ha,hs,htype,hquery⟩
      omega
    | maximum t ht most hmost academicYearId =>
      obtain rfl := Option.some.inj (h.symm.trans ht)
      obtain rfl : c.academicYearId = academicYearId := of_decide_eq_true hwindow
      by_cases hever : awardType.repeatMode = .onceEver
      · have hzero := ever_of_passes hp hever
        have hle : countWhere awards c.studentId c.typeId (inYear c.academicYearId) ≤
            countWhere awards c.studentId c.typeId fun _ => true := countWhere_mono fun _ _ => rfl
        have hpos := awardType.repeatMaxPerYear_pos most hmost
        omega
      · rw [← belowMaximum_iff hmost]
        by_cases hskipped : c.source = .worker ∧ awardType.repeatMode = .oncePerPeriod ∧ c.period = none
        · exact hunseen awardType h hskipped.2.1 hskipped.1 hskipped.2.2
        · exact maximum_of_passes hp hever hskipped

/-- Considering a type keeps the tiers and the limits just when the award that comes of it, if any, is harmless. -/
theorem kept_consider_iff (hkept : Kept types periods awards) (c : Consideration) :
    Kept types periods (consider types awards c) ↔ (Creates types awards c → Harmless types periods awards c) := by
  unfold consider Creates
  cases ht : types.get? c.typeId with
  | none => exact iff_of_true hkept (by rintro ⟨t,hnone,-⟩; cases hnone)
  | some t =>
    dsimp only
    cases hp : passes awards t c with
    | false =>
      rw [if_neg Bool.false_ne_true]
      refine iff_of_true hkept ?_
      rintro ⟨t',ht',hp'⟩
      rw [← Option.some.inj ht',hp] at hp'
      cases hp'
    | true =>
      rw [if_pos rfl]
      have hcreates : ∃ t',some t = some t' ∧ passes awards t' c = true := ⟨t,rfl,hp⟩
      rw [imp_iff_right hcreates]
      constructor
      · intro hafter
        obtain ⟨hseen,hunseen⟩ := (room_iff ht hp).mp ((limits_createAward_iff hkept).mp hafter.limits)
        exact ⟨(tiers_createAward_iff ht hkept).mp hafter.tiers,hseen,hunseen⟩
      · intro hharmless
        exact ⟨(tiers_createAward_iff ht hkept).mpr hharmless.tiers,
          (limits_createAward_iff hkept).mpr ((room_iff ht hp).mpr ⟨hharmless.seen,hharmless.unseen⟩)⟩

end

/-! ## Runs of checks and manual awards -/

theorem kept_empty (types : Table AwardType) (periods : List AcademicPeriod) : Kept types periods .empty where
  tiers := by simp
  limits := fun _ _ _ _ _ => Nat.zero_le _

/-- From no awards on, the tiers and the limits are kept along a sequence of checks and manual awards just when every
award they create is harmless. -/
theorem awardsKept_iff (types : Table AwardType) (periods : List AcademicPeriod) (commands : List Command) :
    (∀ awards ∈ trace (consider types) .empty (commands.flatMap (considerations types)),Kept types periods awards) ↔
      Guarded (consider types) (fun awards c => Creates types awards c → Harmless types periods awards c) .empty
        (commands.flatMap (considerations types)) :=
  trace_invariant_iff (J := fun _ => True) (fun _ _ _ => trivial) (fun _ c _ hkept => kept_consider_iff hkept c) trivial
    (kept_empty types periods)

/-- Two tiers of a group, reached at ten and at twenty points; the upper one supersedes the lower. -/
def twoTiers : Table AwardType :=
  (Table.empty.insert ⟨true,some 20,.unlimited,none,some 1,some 2,true,by simp,by simp⟩).insert
    ⟨true,some 10,.unlimited,none,some 1,some 1,false,by simp,by simp⟩

theorem autoAwardTypes_twoTiers : autoAwardTypes twoTiers = twoTiers.rows := by
  have hsorted : twoTiers.rows.Pairwise fun a b => (match a.2.tierLevel,b.2.tierLevel with
      | some l,some m => decide (m < l) || decide (l = m) &&
          decide (b.2.pointsThreshold.getD 0 ≤ a.2.pointsThreshold.getD 0)
      | some _,none => true
      | none,some _ => false
      | none,none => decide (b.2.pointsThreshold.getD 0 ≤ a.2.pointsThreshold.getD 0)) = true := by
    simp [twoTiers,Table.insert,Table.empty]
  have hall : (twoTiers.rows.filter fun row => row.2.isActive && row.2.pointsThreshold.isSome) = twoTiers.rows := rfl
  rw [autoAwardTypes,hall]
  exact List.mergeSort_of_pairwise hsorted

/-- One check at twenty points gives both awards, the upper one first, and the lower one stays. -/
theorem not_awardsKept : ¬∀ (types : Table AwardType) (periods : List AcademicPeriod) (commands : List Command),
    ∀ awards ∈ trace (consider types) .empty (commands.flatMap (considerations types)),Kept types periods awards := by
  intro h
  have hlast := h twoTiers [] [.checkAwards ⟨0,7,[1],2024,none⟩ (fun _ => 20) fun _ _ => 0] _ (foldl_mem_trace _ _)
  simp only [List.flatMap_cons,List.flatMap_nil,List.append_nil,considerations,autoAwardTypes_twoTiers] at hlast
  have hrun := hlast.tiers 0 _ 1 _ rfl rfl rfl ⟨_,1,2,rfl,rfl,rfl,rfl,by decide⟩ rfl
  exact hrun.2 rfl

end EduPod.Behaviour.AwardTiers
