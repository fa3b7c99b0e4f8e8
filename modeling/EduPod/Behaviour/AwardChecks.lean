import Mathlib
import EduPod.Behaviour.AwardTiers

/-! # Two award checks and the points they go by

The worker and the service each have an award check of their own, and the points of a student are computed in three
places: over all rows of the student, over those of a student participant, and over those in the tenant's reset scope.
-/
namespace EduPod.Behaviour.AwardChecks
open AwardTiers

inductive ParticipantType
  | student | staff | parent | visitor | unknown
  deriving DecidableEq

/-- A row with what its incident says; `counts` when that is neither a draft nor withdrawn nor archived. -/
structure IncidentParticipant where
  participantType : ParticipantType
  studentId : Option ℕ
  pointsAwarded : ℤ
  counts : Bool
  academicYearId : ℕ
  academicPeriodId : Option ℕ

inductive PointsResetFrequency
  | never | academicYear | academicPeriod

/-- The settings of the tenant and its current period and year, if it has any. -/
structure PointsScope where
  resetFrequency : Option PointsResetFrequency
  currentPeriod : Option ℕ
  currentYear : Option ℕ

section
variable (participants : List IncidentParticipant) (studentId : ℕ)

def sumPoints (p : IncidentParticipant → Bool) : ℤ :=
  ((participants.filter fun row => row.studentId = some studentId && row.counts && p row).map
    IncidentParticipant.pointsAwarded).sum

/-- The worker's aggregate. -/
def workerPoints : ℤ := sumPoints participants studentId fun _ => true

/-- `computeFreshStudentPoints` -/
def servicePoints : ℤ := sumPoints participants studentId fun row => row.participantType = .student

/-- `resolvePointsScope`: without a current period the year is taken, and without one of these everything. -/
def inScope (scope : PointsScope) (row : IncidentParticipant) : Bool :=
  let inYear := scope.currentYear.all fun year => row.academicYearId = year
  match scope.resetFrequency.getD .academicYear with
  | .never => true
  | .academicPeriod => scope.currentPeriod.elim inYear fun period => row.academicPeriodId = some period
  | .academicYear => inYear

/-- `computeStudentPointsFresh` -/
def reportedPoints (scope : PointsScope) : ℤ := sumPoints participants studentId (inScope scope)

end

section
variable (types : Table AwardType)

/-- The checks of `checkAndCreateAutoAwards` before it creates an award. -/
def servicePasses (awards : Table Award) (awardType : AwardType) (c : Consideration) : Bool :=
  awardType.isActive && awardType.pointsThreshold.any (fun threshold => threshold ≤ c.points) &&
    countWhere awards c.studentId c.typeId (fun a => a.triggeredByIncidentId = c.incidentId) = 0 &&
    checkAwardEligibility awards awardType c

def serviceConsider (awards : Table Award) (c : Consideration) : Table Award :=
  match types.get? c.typeId with
  | some awardType => if servicePasses awards awardType c then createAward types awards awardType c else awards
  | none => awards

/-- The active types with a threshold, those without a tier first. -/
def serviceAwardTypes : List (ℕ × AwardType) :=
  (types.rows.filter fun row => row.2.isActive && row.2.pointsThreshold.isSome).mergeSort fun a b =>
    match a.2.tierLevel,b.2.tierLevel with
    | some l,some m => m ≤ l
    | some _,none => false
    | none,_ => true

/-- What a check is asked for. -/
structure CheckRequest where
  run : ℕ
  incidentId : ℕ
  studentIds : List ℕ
  academicYearId : ℕ
  period : Option AcademicPeriod

variable (request : CheckRequest) (participants : List IncidentParticipant) (clock : ℕ → ℕ → ℤ)

def workerConsideration (studentId typeId : ℕ) : Consideration :=
  ⟨.worker,request.run,studentId,typeId,some request.incidentId,workerPoints participants studentId,
    request.academicYearId,request.period,clock studentId typeId⟩

def serviceConsideration (studentId typeId : ℕ) : Consideration :=
  ⟨.service,request.run,studentId,typeId,some request.incidentId,servicePoints participants studentId,
    request.academicYearId,request.period,clock studentId typeId⟩

/-- The worker's check. -/
def workerCheck (awards : Table Award) : Table Award :=
  request.studentIds.foldl (fun awards studentId => (autoAwardTypes types).foldl (fun awards row =>
    consider types awards (workerConsideration request participants clock studentId row.1)) awards) awards

/-- `checkAndCreateAutoAwards` -/
def checkAndCreateAutoAwards (awards : Table Award) : Table Award :=
  request.studentIds.foldl (fun awards studentId => (serviceAwardTypes types).foldl (fun awards row =>
    serviceConsider types awards (serviceConsideration request participants clock studentId row.1)) awards) awards

end

/-- Student, type and points of an award. -/
def entry (a : Award) : ℕ × ℕ × ℤ := (a.studentId,a.typeId,a.pointsAtAward)

/-- The awards created between two states: a table keeps the order of creation. -/
def createdAwards (before after : Table Award) : List (ℕ × ℕ × ℤ) :=
  (after.rows.drop before.rows.length).map fun row => entry row.2

/-- The row is superseded. -/
def Superseded (awards : Table Award) (i : ℕ) : Prop := ∃ a,awards.get? i = some a ∧ a.supersededById ≠ none

section
variable (types : Table AwardType) (request : CheckRequest) (participants : List IncidentParticipant)
  (scope : PointsScope) (workerClock serviceClock : ℕ → ℕ → ℤ) (awards : Table Award)

/-- Both checks create the same awards, with the points that are reported, and supersede the same earlier ones. -/
structure Agree : Prop where
  created : ∀ e,e ∈ createdAwards awards (workerCheck types request participants workerClock awards) ↔
    e ∈ createdAwards awards (checkAndCreateAutoAwards types request participants serviceClock awards)
  superseded : ∀ i a,awards.get? i = some a →
    (Superseded (workerCheck types request participants workerClock awards) i ↔
      Superseded (checkAndCreateAutoAwards types request participants serviceClock awards) i)
  reported : ∀ studentId typeId points,
    (studentId,typeId,points) ∈ createdAwards awards (workerCheck types request participants workerClock awards) →
      points = reportedPoints participants studentId scope

/-- A type once per period: without a period the maximum is not reached, and with one an award in its dates comes with
one of the academic year. -/
structure SameRules (awardType : AwardType) (c : Consideration) : Prop where
  unseen : awardType.repeatMode = .oncePerPeriod → c.period = none → belowMaximum awards awardType c = true
  year : awardType.repeatMode = .oncePerPeriod → ∀ period ∈ c.period,belowMaximum awards awardType c = true →
    countWhere awards c.studentId c.typeId (inPeriodQuery { c with source := .service } period) = 0 →
      countWhere awards c.studentId c.typeId (inPeriodQuery { c with source := .worker } period) = 0

/-- Wherever one of the checks creates an award, the student's rows of other participants and those out of the scope sum
to nothing, and the two repeat rules come to the same. -/
def Alike : Prop :=
  ∀ studentId ∈ request.studentIds,∀ row ∈ types.rows,
    passes awards row.2 (workerConsideration request participants workerClock studentId row.1) = true ∨
      servicePasses awards row.2 (serviceConsideration request participants serviceClock studentId row.1) = true →
    sumPoints participants studentId (fun p => p.participantType ≠ .student) = 0 ∧
      sumPoints participants studentId (fun p => !inScope scope p) = 0 ∧
      SameRules awards row.2 (workerConsideration request participants workerClock studentId row.1)

end

/-! ## A check as a list of considerations -/

section
variable (types : Table AwardType) (pass : Table Award → AwardType → Consideration → Bool)

def considerBy (awards : Table Award) (c : Consideration) : Table Award :=
  match types.get? c.typeId with
  | some awardType => if pass awards awardType c then createAward types awards awardType c else awards
  | none => awards

/-- The check looks at awards of the student and the type only, and not at their supersession. -/
def Local : Prop :=
  ∀ awards other awardType c,(∀ p : Award → Bool,(∀ a id,p { a with supersededById := id } = p a) →
    countWhere awards c.studentId c.typeId p = countWhere other c.studentId c.typeId p) →
      pass awards awardType c = pass other awardType c

def Passes (awards : Table Award) (c : Consideration) : Prop :=
  ∃ awardType,types.get? c.typeId = some awardType ∧ pass awards awardType c = true

/-- A check that goes by its own student and type, does not pass twice, and is the same wherever these two are. -/
structure Steady (cs : List Consideration) : Prop where
  isLocal : Local pass
  once : ∀ c ∈ cs,∀ awards awardType,pass awards awardType c = true →
    pass (createAward types awards awardType c) awardType c = false
  same : ∀ c ∈ cs,∀ d ∈ cs,(d.studentId,d.typeId) = (c.studentId,c.typeId) → d = c

end

section
variable {types : Table AwardType} {pass : Table Award → AwardType → Consideration → Bool}

theorem local_checkRepeat : ∀ awards other awardType c,(∀ p : Award → Bool,
    (∀ a id,p { a with supersededById := id } = p a) →
      countWhere awards c.studentId c.typeId p = countWhere other c.studentId c.typeId p) →
    checkRepeatEligibility awards awardType c = checkRepeatEligibility other awardType c ∧
      checkAwardEligibility awards awardType c = checkAwardEligibility other awardType c := by
  intro awards other awardType c h
  have hall := h (fun _ => true) fun _ _ => rfl
  have hyear := h (inYear c.academicYearId) fun _ _ => rfl
  have hperiod := fun period => h (inPeriodQuery c period) fun _ _ => rfl
  unfold checkRepeatEligibility checkAwardEligibility belowMaximum
  constructor <;> simp only [hall,hyear,hperiod]

theorem local_passes : Local passes := by
  intro awards other awardType c h
  have hdedup := h (fun a => a.triggeredByIncidentId = c.incidentId) fun _ _ => rfl
  obtain ⟨hworker,hservice⟩ := local_checkRepeat awards other awardType c h
  unfold passes
  rw [hdedup,hworker,hservice]

theorem local_servicePasses : Local servicePasses := by
  intro awards other awardType c h
  have hdedup := h (fun a => a.triggeredByIncidentId = c.incidentId) fun _ _ => rfl
  unfold servicePasses
  rw [hdedup,(local_checkRepeat awards other awardType c h).2]

/-- A check passes after a consideration what it passed before, except this one. -/
theorem passes_considerBy {cs : List Consideration} (h : Steady types pass cs) {c d : Consideration} (hc : c ∈ cs)
    (hd : d ∈ cs) (awards : Table Award) {awardType : AwardType} (ht : types.get? d.typeId = some awardType) :
    pass (considerBy types pass awards c) awardType d = true ↔ d ≠ c ∧ pass awards awardType d = true := by
  by_cases hkey : (d.studentId,d.typeId) = (c.studentId,c.typeId)
  · obtain rfl := h.same c hc d hd hkey
    unfold considerBy
    rw [ht]
    dsimp only
    cases hp : pass awards awardType d with
    | false => simp [hp]
    | true => simp [h.once d hd awards awardType hp]
  · have hcount : ∀ p : Award → Bool,(∀ a id,p { a with supersededById := id } = p a) →
        countWhere (considerBy types pass awards c) d.studentId d.typeId p =
          countWhere awards d.studentId d.typeId p := by
      intro p hp
      unfold considerBy
      split
      · split
        · rw [countWhere_createAward hp,if_neg fun h => hkey (Prod.ext h.1.symm h.2.1.symm),Nat.add_zero]
        · rfl
      · rfl
    have hne : d ≠ c := fun hdc => hkey (by rw [hdc])
    rw [h.isLocal _ _ awardType d hcount]
    exact (and_iff_right hne).symm

theorem Steady.tail {c : Consideration} {cs : List Consideration} (h : Steady types pass (c :: cs)) :
    Steady types pass cs where
  isLocal := h.isLocal
  once := fun d hd => h.once d (List.mem_cons_of_mem _ hd)
  same := fun d hd d' hd' => h.same d (List.mem_cons_of_mem _ hd) d' (List.mem_cons_of_mem _ hd')

theorem entries_considerBy (awards : Table Award) (c : Consideration) [Decidable (Passes types pass awards c)] :
    (considerBy types pass awards c).rows.map (fun row => entry row.2) = awards.rows.map (fun row => entry row.2) ++
      if Passes types pass awards c then [(c.studentId,c.typeId,c.points)] else [] := by
  unfold considerBy
  cases ht : types.get? c.typeId with
  | none =>
    rw [if_neg (by rintro ⟨t,h,-⟩; rw [ht] at h; cases h),List.append_nil]
  | some t =>
    dsimp only
    cases hp : pass awards t c with
    | false =>
      have hnot : ¬Passes types pass awards c := by
        rintro ⟨t',ht',hp'⟩
        rw [ht] at ht'
        rw [← Option.some.inj ht',hp] at hp'
        cases hp'
      rw [if_neg Bool.false_ne_true,if_neg hnot,List.append_nil]
    | true =>
      have hentry : ∀ a : Award,entry (if superseded types t c a = true then
          { a with supersededById := some awards.next } else a) = entry a := by
        intro a
        split <;> rfl
      have hpasses : Passes types pass awards c := ⟨t,ht,hp⟩
      rw [if_pos rfl,if_pos hpasses,createAward_eq,Table.mapRows,Table.insert]
      simp only [List.map_map,Function.comp_def,hentry,List.map_append,List.map_cons,List.map_nil]
      rfl

/-- The awards of a check are those that it passes in the state before it. -/
theorem entries_run (cs : List Consideration) (h : Steady types pass cs) (awards : Table Award) : ∃ created,
    (cs.foldl (considerBy types pass) awards).rows.map (fun row => entry row.2) =
      awards.rows.map (fun row => entry row.2) ++ created ∧
        ∀ e,e ∈ created ↔ ∃ c ∈ cs,Passes types pass awards c ∧ (c.studentId,c.typeId,c.points) = e := by
  classical
  induction cs generalizing awards with
  | nil => exact ⟨[],by simp,by simp⟩
  | cons c cs ih =>
    obtain ⟨created,hrows,hmem⟩ := ih h.tail (considerBy types pass awards c)
    rw [entries_considerBy,List.append_assoc] at hrows
    refine ⟨_,hrows,fun e => ?_⟩
    have hlater : ∀ d ∈ cs,Passes types pass (considerBy types pass awards c) d ↔
        d ≠ c ∧ Passes types pass awards d := by
      intro d hd
      constructor
      · rintro ⟨t,ht,hp⟩
        obtain ⟨hne,hp⟩ := (passes_considerBy h List.mem_cons_self (List.mem_cons_of_mem _ hd) awards ht).mp hp
        exact ⟨hne,t,ht,hp⟩
      · rintro ⟨hne,t,ht,hp⟩
        exact ⟨t,ht,(passes_considerBy h List.mem_cons_self (List.mem_cons_of_mem _ hd) awards ht).mpr ⟨hne,hp⟩⟩
    have hfirst : (e ∈ if Passes types pass awards c then [(c.studentId,c.typeId,c.points)] else []) ↔
        Passes types pass awards c ∧ (c.studentId,c.typeId,c.points) = e := by
      split
      · simp [*,eq_comm]
      · simp [*]
    rw [List.mem_append,hfirst,hmem,List.exists_mem_cons_iff]
    constructor
    · rintro (hc | ⟨d,hd,hp,he⟩)
      · exact .inl hc
      · exact .inr ⟨d,hd,((hlater d hd).mp hp).2,he⟩
    · rintro (hc | ⟨d,hd,hp,he⟩)
      · exact .inl hc
      · by_cases hdc : d = c
        · exact .inl ⟨hdc ▸ hp,hdc ▸ he⟩
        · exact .inr ⟨d,hd,(hlater d hd).mpr ⟨hdc,hp⟩,he⟩

theorem superseded_iff {awardType : AwardType} {c : Consideration} {a : Award} :
    superseded types awardType c a = true ↔ (∃ tierGroup tierLevel,awardType.supersedesLowerTiers = true ∧
      awardType.tierGroup = some tierGroup ∧ supersedingLevel awardType c.source = some tierLevel ∧
        a.studentId = c.studentId ∧ isLowerTier types tierGroup tierLevel a.typeId = true) ∧
          a.supersededById = none := by
  unfold superseded
  cases hs : awardType.supersedesLowerTiers <;> cases hg : awardType.tierGroup <;>
    cases hl : supersedingLevel awardType c.source <;> simp [and_assoc]

theorem superseded_considerBy (types : Table AwardType) (pass : Table Award → AwardType → Consideration → Bool)
    (awards : Table Award) (c : Consideration) {i : ℕ} {a : Award}
    (ha : awards.get? i = some a) : ∃ b,(considerBy types pass awards c).get? i = some b ∧
      b.studentId = a.studentId ∧ b.typeId = a.typeId ∧ (b.supersededById ≠ none ↔ a.supersededById ≠ none ∨
        ∃ awardType,types.get? c.typeId = some awardType ∧ pass awards awardType c = true ∧
          superseded types awardType c a = true) := by
  unfold considerBy
  cases ht : types.get? c.typeId with
  | none => exact ⟨a,ha,rfl,rfl,by simp⟩
  | some t =>
    dsimp only
    cases hp : pass awards t c with
    | false => exact ⟨a,by rw [if_neg Bool.false_ne_true,ha],rfl,rfl,by simp [hp]⟩
    | true =>
      rw [if_pos rfl,get?_createAward ht,if_neg (Table.lt_next_of_get? ha).ne,ha,Option.map_some]
      refine ⟨_,rfl,?_⟩
      cases hs : superseded types t c a with
      | true =>
        rw [if_pos rfl]
        exact ⟨rfl,rfl,iff_of_true (by simp) (.inr ⟨t,rfl,hp,hs⟩)⟩
      | false =>
        rw [if_neg Bool.false_ne_true]
        refine ⟨rfl,rfl,(or_iff_left ?_).symm⟩
        rintro ⟨t',ht',-,hs'⟩
        rw [← Option.some.inj ht',hs] at hs'
        cases hs'

/-- An earlier award is superseded after a check when it was before, or one of the awards created supersedes it. -/
theorem superseded_run (cs : List Consideration) (h : Steady types pass cs) (awards : Table Award) {i : ℕ} {a : Award}
    (ha : awards.get? i = some a) : Superseded (cs.foldl (considerBy types pass) awards) i ↔ a.supersededById ≠ none ∨
      ∃ c ∈ cs,∃ awardType,types.get? c.typeId = some awardType ∧ pass awards awardType c = true ∧
        superseded types awardType c a = true := by
  induction cs generalizing awards a with
  | nil =>
    constructor
    · rintro ⟨b,hb,hmarked⟩
      obtain rfl := Option.some.inj (ha.symm.trans hb)
      exact .inl hmarked
    · rintro (hmarked | ⟨c,hc,-⟩)
      · exact ⟨a,ha,hmarked⟩
      · cases hc
  | cons c cs ih =>
    obtain ⟨b,hb,hbs,hbt,hmarked⟩ := superseded_considerBy types pass awards c ha
    have hlast : ∀ d ∈ cs,∀ t,types.get? d.typeId = some t →
        (pass (considerBy types pass awards c) t d = true ↔ d ≠ c ∧ pass awards t d = true) := fun d hd t ht =>
      passes_considerBy h List.mem_cons_self (List.mem_cons_of_mem _ hd) awards ht
    -- whether a later award supersedes it depends on the row only where it is not superseded yet
    have hlater : ∀ awardType d,superseded types awardType d b = true ↔
        superseded types awardType d a = true ∧ b.supersededById = none := by
      intro awardType d
      rw [superseded_iff,superseded_iff,hbs,hbt]
      have hfree : b.supersededById = none → a.supersededById = none := by
        intro hnone
        by_contra h
        exact hmarked.mpr (.inl h) hnone
      tauto
    rw [List.foldl_cons,ih h.tail _ hb,List.exists_mem_cons_iff]
    constructor
    · rintro (hb | ⟨d,hd,t,ht,hp,hs⟩)
      · exact (hmarked.mp hb).imp_right .inl
      · exact .inr (.inr ⟨d,hd,t,ht,((hlast d hd t ht).mp hp).2,((hlater t d).mp hs).1⟩)
    · rintro (ha | hc | ⟨d,hd,t,ht,hp,hs⟩)
      · exact .inl (hmarked.mpr (.inl ha))
      · exact .inl (hmarked.mpr (.inr hc))
      · by_cases hdc : d = c
        · subst hdc
          exact .inl (hmarked.mpr (.inr ⟨t,ht,hp,hs⟩))
        · by_cases hnone : b.supersededById = none
          · exact .inr ⟨d,hd,t,ht,(hlast d hd t ht).mpr ⟨hdc,hp⟩,(hlater t d).mpr ⟨hs,hnone⟩⟩
          · exact .inl hnone

end

/-! ## The two rules and the three totals -/

section
variable {participants : List IncidentParticipant} {studentId : ℕ}

theorem sumPoints_split (p : IncidentParticipant → Bool) : sumPoints participants studentId (fun _ => true) =
    sumPoints participants studentId p + sumPoints participants studentId fun row => !p row := by
  unfold sumPoints
  induction participants with
  | nil => rfl
  | cons row rows ih =>
    simp only [Bool.and_true] at ih ⊢
    by_cases hrow : (row.studentId = some studentId && row.counts) = true
    · cases hp : p row <;> simp only [List.filter_cons,hrow,hp,Bool.and_true,Bool.and_false,Bool.not_true,
        Bool.not_false,if_true,if_false,List.map_cons,List.sum_cons,Bool.false_eq_true,ih] <;> ring
    · simp only [List.filter_cons,hrow,Bool.false_and,if_false,Bool.false_eq_true,ih]

theorem workerPoints_eq_servicePoints_iff : workerPoints participants studentId = servicePoints participants studentId ↔
    sumPoints participants studentId (fun p => p.participantType ≠ .student) = 0 := by
  have hnot : (fun p : IncidentParticipant => !decide (p.participantType = .student)) =
      fun p => decide (p.participantType ≠ .student) := by
    funext p
    exact (decide_not).symm
  rw [workerPoints,servicePoints,sumPoints_split fun p => p.participantType = .student,hnot]
  omega

theorem workerPoints_eq_reportedPoints_iff (scope : PointsScope) :
    workerPoints participants studentId = reportedPoints participants studentId scope ↔
      sumPoints participants studentId (fun p => !inScope scope p) = 0 := by
  rw [workerPoints,reportedPoints,sumPoints_split (inScope scope)]
  omega

end

section
variable {awards : Table Award} {awardType : AwardType} {c d : Consideration}

theorem countWhere_eq_zero_of_all {studentId typeId : ℕ} (p : Award → Bool)
    (h : countWhere awards studentId typeId (fun _ => true) = 0) : countWhere awards studentId typeId p = 0 := by
  have hle : countWhere awards studentId typeId p ≤ countWhere awards studentId typeId fun _ => true :=
    countWhere_mono fun _ _ => rfl
  omega

theorem sameRules_of_ne (hmode : awardType.repeatMode ≠ .oncePerPeriod) : SameRules awards awardType c :=
  ⟨fun h _ => absurd h hmode,fun h _ _ _ _ => absurd h hmode⟩

/-- The two eligibility checks come to the same just when the repeat rules do. -/
theorem eligible_iff_sameRules (hsource : c.source = .worker) :
    checkRepeatEligibility awards awardType c = checkAwardEligibility awards awardType { c with source := .service } ↔
      SameRules awards awardType c := by
  have hbelow : belowMaximum awards awardType { c with source := .service } = belowMaximum awards awardType c := rfl
  have hworker : ({ c with source := .worker } : Consideration) = c := by rw [← hsource]
  unfold checkRepeatEligibility checkAwardEligibility
  cases hmode : awardType.repeatMode with
  | onceEver =>
    refine iff_of_true ?_ (sameRules_of_ne (by simp [hmode]))
    dsimp only
    cases hall : decide (countWhere awards c.studentId c.typeId (fun _ => true) = 0) with
    | false => rw [Bool.false_and]
    | true =>
      have hyear := countWhere_eq_zero_of_all (inYear c.academicYearId) (of_decide_eq_true hall)
      have hmax : belowMaximum awards awardType { c with source := .service } = true := by
        rw [hbelow,belowMaximum,hyear]
        cases hmost : awardType.repeatMaxPerYear with
        | none => rfl
        | some most => exact decide_eq_true (awardType.repeatMaxPerYear_pos most hmost)
      rw [hmax]
      rfl
  | oncePerYear => exact iff_of_true rfl (sameRules_of_ne (by simp [hmode]))
  | unlimited =>
    refine iff_of_true ?_ (sameRules_of_ne (by simp [hmode]))
    exact (Bool.true_and _).symm
  | oncePerPeriod =>
    cases hperiod : c.period with
    | none =>
      change true = (true && belowMaximum awards awardType c) ↔ _
      rw [Bool.true_and]
      constructor
      · intro h
        exact ⟨fun _ _ => h.symm,fun _ period hp => by rw [hperiod] at hp; cases hp⟩
      · exact fun h => (h.unseen hmode hperiod).symm
    | some period =>
      change (decide (countWhere awards c.studentId c.typeId (inPeriodQuery c period) = 0) &&
        belowMaximum awards awardType c) = (decide (countWhere awards c.studentId c.typeId (inPeriodQuery
          { c with source := .service } period) = 0) && belowMaximum awards awardType c) ↔ _
      have hle : countWhere awards c.studentId c.typeId (inPeriodQuery { c with source := .service } period) ≤
          countWhere awards c.studentId c.typeId (inPeriodQuery c period) := by
        refine countWhere_mono fun a ha => ?_
        simp only [inPeriodQuery,hsource,Bool.and_eq_true,Bool.or_eq_true] at ha ⊢
        exact ⟨ha.1,.inl (decide_eq_true trivial)⟩
      have hrules : SameRules awards awardType c ↔ (belowMaximum awards awardType c = true →
          countWhere awards c.studentId c.typeId (inPeriodQuery { c with source := .service } period) = 0 →
            countWhere awards c.studentId c.typeId (inPeriodQuery c period) = 0) := by
        constructor
        · intro h
          have hyear := h.year hmode period hperiod
          rwa [hworker] at hyear
        · intro h
          refine ⟨fun _ hnone => ?_,fun _ other hother => ?_⟩
          · rw [hperiod] at hnone
            cases hnone
          · rw [hperiod] at hother
            obtain rfl := Option.some.inj hother
            rwa [hworker]
      rw [hrules]
      cases belowMaximum awards awardType c with
      | false => simp
      | true =>
        rw [Bool.and_true,Bool.and_true,decide_eq_decide,imp_iff_right rfl]
        omega

end

/-! ## The two checks side by side -/

section
variable {types : Table AwardType} {request : CheckRequest} {participants : List IncidentParticipant}
  {scope : PointsScope} {workerClock serviceClock : ℕ → ℕ → ℤ} {awards : Table Award}

/-- The considerations of a check, and those that it is made of. -/
theorem mem_considerations {students : List ℕ} {rows : List (ℕ × AwardType)} {make : ℕ → ℕ → Consideration}
    {c : Consideration} : c ∈ students.flatMap (fun studentId => rows.map fun row => make studentId row.1) ↔
      ∃ studentId ∈ students,∃ row ∈ rows,make studentId row.1 = c := by
  simp only [List.mem_flatMap,List.mem_map]

theorem mem_autoAwardTypes {row : ℕ × AwardType} : row ∈ autoAwardTypes types ↔
    row ∈ types.rows ∧ row.2.isActive = true ∧ row.2.pointsThreshold.isSome = true := by
  rw [autoAwardTypes,(List.mergeSort_perm _ _).mem_iff,List.mem_filter,Bool.and_eq_true]

theorem mem_serviceAwardTypes {row : ℕ × AwardType} : row ∈ serviceAwardTypes types ↔ row ∈ autoAwardTypes types := by
  rw [mem_autoAwardTypes,serviceAwardTypes,(List.mergeSort_perm _ _).mem_iff,List.mem_filter,Bool.and_eq_true]

/-- The new award is found by its incident. -/
theorem countWhere_incident_pos (types : Table AwardType) (awards : Table Award) (awardType : AwardType)
    (c : Consideration) :
    0 < countWhere (createAward types awards awardType c) c.studentId c.typeId
      fun a => a.triggeredByIncidentId = c.incidentId := by
  rw [countWhere_createAward fun _ _ => rfl,if_pos ⟨rfl,rfl,decide_eq_true rfl⟩]
  exact Nat.succ_pos _

/-- Considerations that name their student and type, under a check that passes no award of the same incident twice. -/
theorem steady_considerations {pass : Table Award → AwardType → Consideration → Bool} (hlocal : Local pass)
    {make : ℕ → ℕ → Consideration} (hmake : ∀ studentId typeId,(make studentId typeId).studentId = studentId ∧
      (make studentId typeId).typeId = typeId)
    (hdedup : ∀ awards awardType studentId typeId,pass awards awardType (make studentId typeId) = true →
      countWhere awards (make studentId typeId).studentId (make studentId typeId).typeId
        (fun a => a.triggeredByIncidentId = (make studentId typeId).incidentId) = 0)
    (students : List ℕ) (rows : List (ℕ × AwardType)) :
    Steady types pass (students.flatMap fun studentId => rows.map fun row => make studentId row.1) where
  isLocal := hlocal
  once := by
    intro c hc awards awardType _
    obtain ⟨studentId,-,row,-,rfl⟩ := mem_considerations.mp hc
    by_contra hpass
    have hzero := hdedup _ _ _ _ (Bool.not_eq_false _ ▸ hpass)
    have hpos := countWhere_incident_pos types awards awardType (make studentId row.1)
    omega
  same := by
    intro c hc d hd hkey
    obtain ⟨studentId,-,row,-,rfl⟩ := mem_considerations.mp hc
    obtain ⟨studentId',-,row',-,rfl⟩ := mem_considerations.mp hd
    obtain ⟨hstudent,htype⟩ := Prod.mk.inj hkey
    rw [(hmake _ _).1,(hmake _ _).1] at hstudent
    rw [(hmake _ _).2,(hmake _ _).2] at htype
    rw [hstudent,htype]

theorem workerPasses_dedup {awardType : AwardType} {studentId typeId : ℕ}
    (h : passes awards awardType (workerConsideration request participants workerClock studentId typeId) = true) :
    countWhere awards studentId typeId (fun a => a.triggeredByIncidentId = some request.incidentId) = 0 := by
  change (_ && _ && decide _ && _) = true at h
  simp only [Bool.and_eq_true,decide_eq_true_eq] at h
  exact h.1.2

theorem servicePasses_dedup {awardType : AwardType} {studentId typeId : ℕ} (h : servicePasses awards awardType
    (serviceConsideration request participants serviceClock studentId typeId) = true) :
    countWhere awards studentId typeId (fun a => a.triggeredByIncidentId = some request.incidentId) = 0 := by
  change (_ && _ && decide _ && _) = true at h
  simp only [Bool.and_eq_true,decide_eq_true_eq] at h
  exact h.1.2

theorem steady_worker (students : List ℕ) (rows : List (ℕ × AwardType)) : Steady types passes
    (students.flatMap fun studentId => rows.map fun row =>
      workerConsideration request participants workerClock studentId row.1) := by
  refine steady_considerations local_passes (fun _ _ => ⟨rfl,rfl⟩) (fun awards awardType studentId typeId hp => ?_) _ _
  exact workerPasses_dedup hp

theorem steady_service (students : List ℕ) (rows : List (ℕ × AwardType)) : Steady types servicePasses
    (students.flatMap fun studentId => rows.map fun row =>
      serviceConsideration request participants serviceClock studentId row.1) := by
  refine steady_considerations local_servicePasses (fun _ _ => ⟨rfl,rfl⟩)
    (fun awards awardType studentId typeId hp => ?_) _ _
  exact servicePasses_dedup hp

theorem workerCheck_eq : workerCheck types request participants workerClock awards =
    (request.studentIds.flatMap fun studentId => (autoAwardTypes types).map fun row =>
      workerConsideration request participants workerClock studentId row.1).foldl (considerBy types passes) awards := by
  rw [List.foldl_flatMap]
  simp only [List.foldl_map]
  rfl

theorem serviceCheck_eq : checkAndCreateAutoAwards types request participants serviceClock awards =
    (request.studentIds.flatMap fun studentId => (serviceAwardTypes types).map fun row =>
      serviceConsideration request participants serviceClock studentId row.1).foldl
        (considerBy types servicePasses) awards := by
  rw [List.foldl_flatMap]
  simp only [List.foldl_map]
  rfl

/-- The awards of a run of considerations, read off the state before it. -/
theorem mem_createdAwards {pass : Table Award → AwardType → Consideration → Bool} {cs : List Consideration}
    (h : Steady types pass cs) {e : ℕ × ℕ × ℤ} :
    e ∈ createdAwards awards (cs.foldl (considerBy types pass) awards) ↔
      ∃ c ∈ cs,∃ awardType,types.get? c.typeId = some awardType ∧ pass awards awardType c = true ∧
        (c.studentId,c.typeId,c.points) = e := by
  obtain ⟨created,hrows,hmem⟩ := entries_run cs h awards
  have hdrop : createdAwards awards (cs.foldl (considerBy types pass) awards) = created := by
    rw [createdAwards,List.map_drop,hrows,List.drop_left' (by rw [List.length_map])]
  rw [hdrop,hmem]
  refine exists_congr fun c => and_congr_right fun _ => ?_
  simp only [Passes,← exists_and_right,and_assoc]

/-- The considerations that pass are those of a student and a type for which the check passes. -/
theorem exists_passing {pass : Table Award → AwardType → Consideration → Bool} {make : ℕ → ℕ → Consideration}
    {rows : List (ℕ × AwardType)} (hrows : ∀ row,row ∈ rows ↔ row ∈ autoAwardTypes types)
    (hmake : ∀ studentId typeId,(make studentId typeId).typeId = typeId)
    (hauto : ∀ awardType studentId typeId,pass awards awardType (make studentId typeId) = true →
      awardType.isActive = true ∧ awardType.pointsThreshold.isSome = true)
    (students : List ℕ) (Q : AwardType → Consideration → Prop) :
    (∃ c ∈ students.flatMap fun studentId => rows.map fun row => make studentId row.1,∃ awardType,
      types.get? c.typeId = some awardType ∧ pass awards awardType c = true ∧ Q awardType c) ↔
      ∃ studentId ∈ students,∃ row ∈ types.rows,pass awards row.2 (make studentId row.1) = true ∧
        Q row.2 (make studentId row.1) := by
  constructor
  · rintro ⟨c,hc,t,ht,hp,hq⟩
    obtain ⟨studentId,hs,row,hrow,rfl⟩ := mem_considerations.mp hc
    have hmem := (mem_autoAwardTypes.mp ((hrows row).mp hrow)).1
    rw [hmake,Table.get?_of_mem hmem] at ht
    obtain rfl : row.2 = t := Option.some.inj ht
    exact ⟨studentId,hs,row,hmem,hp,hq⟩
  · rintro ⟨studentId,hs,row,hrow,hp,hq⟩
    have hauto := (hrows row).mpr (mem_autoAwardTypes.mpr ⟨hrow,hauto _ _ _ hp⟩)
    refine ⟨_,mem_considerations.mpr ⟨studentId,hs,row,hauto,rfl⟩,row.2,?_,hp,hq⟩
    rw [hmake]
    exact Table.get?_of_mem hrow

theorem any_threshold {awardType : AwardType} {points : ℤ}
    (h : awardType.pointsThreshold.any (fun threshold => threshold ≤ points) = true) :
    awardType.pointsThreshold.isSome = true := by
  cases hthreshold : awardType.pointsThreshold with
  | none => simp [hthreshold] at h
  | some threshold => rfl

theorem exists_workerPassing (Q : AwardType → Consideration → Prop) :
    (∃ c ∈ request.studentIds.flatMap fun studentId => (autoAwardTypes types).map fun row =>
        workerConsideration request participants workerClock studentId row.1,∃ awardType,
      types.get? c.typeId = some awardType ∧ passes awards awardType c = true ∧ Q awardType c) ↔
      ∃ studentId ∈ request.studentIds,∃ row ∈ types.rows,
        passes awards row.2 (workerConsideration request participants workerClock studentId row.1) = true ∧
          Q row.2 (workerConsideration request participants workerClock studentId row.1) := by
  refine exists_passing (fun _ => Iff.rfl) (fun _ _ => rfl) (fun awardType studentId typeId hp => ?_) _ Q
  change (awardType.isActive && _ && _ && _) = true at hp
  simp only [Bool.and_eq_true] at hp
  exact ⟨hp.1.1.1,any_threshold hp.1.1.2⟩

theorem exists_servicePassing (Q : AwardType → Consideration → Prop) :
    (∃ c ∈ request.studentIds.flatMap fun studentId => (serviceAwardTypes types).map fun row =>
        serviceConsideration request participants serviceClock studentId row.1,∃ awardType,
      types.get? c.typeId = some awardType ∧ servicePasses awards awardType c = true ∧ Q awardType c) ↔
      ∃ studentId ∈ request.studentIds,∃ row ∈ types.rows,
        servicePasses awards row.2 (serviceConsideration request participants serviceClock studentId row.1) = true ∧
          Q row.2 (serviceConsideration request participants serviceClock studentId row.1) := by
  refine exists_passing (fun _ => mem_serviceAwardTypes) (fun _ _ => rfl) (fun awardType studentId typeId hp => ?_) _ Q
  change (awardType.isActive && _ && _ && _) = true at hp
  simp only [Bool.and_eq_true] at hp
  exact ⟨hp.1.1.1,any_threshold hp.1.1.2⟩

theorem mem_workerAwards {e : ℕ × ℕ × ℤ} :
    e ∈ createdAwards awards (workerCheck types request participants workerClock awards) ↔
      ∃ studentId ∈ request.studentIds,∃ row ∈ types.rows,
        passes awards row.2 (workerConsideration request participants workerClock studentId row.1) = true ∧
          (studentId,row.1,workerPoints participants studentId) = e := by
  rw [workerCheck_eq,mem_createdAwards (steady_worker _ _),
    exists_workerPassing fun _ c => (c.studentId,c.typeId,c.points) = e]
  rfl

theorem mem_serviceAwards {e : ℕ × ℕ × ℤ} :
    e ∈ createdAwards awards (checkAndCreateAutoAwards types request participants serviceClock awards) ↔
      ∃ studentId ∈ request.studentIds,∃ row ∈ types.rows,
        servicePasses awards row.2 (serviceConsideration request participants serviceClock studentId row.1) = true ∧
          (studentId,row.1,servicePoints participants studentId) = e := by
  rw [serviceCheck_eq,mem_createdAwards (steady_service _ _),
    exists_servicePassing fun _ c => (c.studentId,c.typeId,c.points) = e]
  rfl

theorem superseded_workerCheck {i : ℕ} {a : Award} (ha : awards.get? i = some a) :
    Superseded (workerCheck types request participants workerClock awards) i ↔ a.supersededById ≠ none ∨
      ∃ studentId ∈ request.studentIds,∃ row ∈ types.rows,
        passes awards row.2 (workerConsideration request participants workerClock studentId row.1) = true ∧
          superseded types row.2 (workerConsideration request participants workerClock studentId row.1) a = true := by
  rw [workerCheck_eq,superseded_run _ (steady_worker _ _) awards ha,
    exists_workerPassing fun t c => superseded types t c a = true]

theorem superseded_serviceCheck {i : ℕ} {a : Award} (ha : awards.get? i = some a) :
    Superseded (checkAndCreateAutoAwards types request participants serviceClock awards) i ↔ a.supersededById ≠ none ∨
      ∃ studentId ∈ request.studentIds,∃ row ∈ types.rows,
        servicePasses awards row.2 (serviceConsideration request participants serviceClock studentId row.1) = true ∧
          superseded types row.2 (serviceConsideration request participants serviceClock studentId row.1) a = true := by
  rw [serviceCheck_eq,superseded_run _ (steady_service _ _) awards ha,
    exists_servicePassing fun t c => superseded types t c a = true]

/-- No tier is below 0. -/
theorem not_isLowerTier_zero (tierGroup typeId : ℕ) : isLowerTier types tierGroup 0 typeId = false := by
  rw [isLowerTier]
  cases types.get? typeId with
  | none => rfl
  | some other =>
    cases hlevel : other.tierLevel with
    | none => simp [hlevel]
    | some level =>
      have hpos := other.tierLevel_pos level hlevel
      have hnot : ¬level < 0 := by omega
      simp [hlevel,hnot]

/-- The service supersedes from a missing level as from 0, which comes to nothing. -/
theorem superseded_service (workerClock : ℕ → ℕ → ℤ) (studentId typeId : ℕ) (awardType : AwardType) (a : Award) :
    superseded types awardType (serviceConsideration request participants serviceClock studentId typeId) a = true ↔
      superseded types awardType (workerConsideration request participants workerClock studentId typeId) a = true := by
  rw [superseded_iff,superseded_iff]
  refine and_congr_left fun _ => ?_
  constructor
  · rintro ⟨tierGroup,tierLevel,hsupersedes,hgroup,hlevel,hstudent,hlower⟩
    change some (awardType.tierLevel.getD 0) = some tierLevel at hlevel
    cases hown : awardType.tierLevel with
    | some level =>
      rw [hown,Option.getD_some] at hlevel
      exact ⟨tierGroup,tierLevel,hsupersedes,hgroup,hown.trans hlevel,hstudent,hlower⟩
    | none =>
      rw [hown,Option.getD_none,Option.some.injEq] at hlevel
      rw [← hlevel,not_isLowerTier_zero] at hlower
      cases hlower
  · rintro ⟨tierGroup,tierLevel,hsupersedes,hgroup,hlevel,hstudent,hlower⟩
    change awardType.tierLevel = some tierLevel at hlevel
    refine ⟨tierGroup,tierLevel,hsupersedes,hgroup,?_,hstudent,hlower⟩
    change some (awardType.tierLevel.getD 0) = some tierLevel
    rw [hlevel,Option.getD_some]

/-- With equal points the two checks differ in their repeat rules only. -/
theorem passes_eq_servicePasses {studentId typeId : ℕ} {awardType : AwardType}
    (hpoints : workerPoints participants studentId = servicePoints participants studentId)
    (hrules : SameRules awards awardType (workerConsideration request participants workerClock studentId typeId)) :
    passes awards awardType (workerConsideration request participants workerClock studentId typeId) =
      servicePasses awards awardType (serviceConsideration request participants serviceClock studentId typeId) := by
  have heligible := (eligible_iff_sameRules rfl).mpr hrules
  change (_ && awardType.pointsThreshold.any (fun threshold => threshold ≤ workerPoints participants studentId) && _ &&
    checkRepeatEligibility awards awardType _) = (_ && awardType.pointsThreshold.any (fun threshold =>
      threshold ≤ servicePoints participants studentId) && _ && checkAwardEligibility awards awardType _)
  rw [heligible,hpoints]
  rfl

theorem sameRules_of_passes {studentId typeId : ℕ} {awardType : AwardType}
    (hworker : passes awards awardType (workerConsideration request participants workerClock studentId typeId) = true)
    (hservice : servicePasses awards awardType
      (serviceConsideration request participants serviceClock studentId typeId) = true) :
    SameRules awards awardType (workerConsideration request participants workerClock studentId typeId) := by
  refine (eligible_iff_sameRules rfl).mp ?_
  change (_ && checkRepeatEligibility awards awardType _) = true at hworker
  change (_ && checkAwardEligibility awards awardType _) = true at hservice
  rw [((Bool.and_eq_true _ _).mp hworker).2]
  exact ((Bool.and_eq_true _ _).mp hservice).2.symm

end

section
variable (types : Table AwardType) (request : CheckRequest) (participants : List IncidentParticipant)
  (scope : PointsScope) (workerClock serviceClock : ℕ → ℕ → ℤ) (awards : Table Award)

end

theorem pos_of_noMost : ∀ most ∈ (none : Option ℕ),1 ≤ most := by simp

theorem pos_of_noLevel : ∀ level ∈ (none : Option ℤ),1 ≤ level := by simp

/-- One type, reached at ten points. -/
def tenPoints : Table AwardType :=
  Table.empty.insert ⟨true,some 10,.unlimited,none,none,none,false,pos_of_noMost,pos_of_noLevel⟩

section
variable {types : Table AwardType} {pass : Table Award → AwardType → Consideration → Bool}

theorem passes_of_passes_run {cs : List Consideration} (h : Steady types pass cs) {ds : List Consideration}
    (hds : ds ⊆ cs) {d : Consideration} (hd : d ∈ cs) {awards : Table Award}
    (hp : Passes types pass (ds.foldl (considerBy types pass) awards) d) : Passes types pass awards d := by
  induction ds generalizing awards with
  | nil => exact hp
  | cons c ds ih =>
    obtain ⟨hc,hds⟩ := List.cons_subset.mp hds
    obtain ⟨t,ht,hp⟩ := ih hds hp
    exact ⟨t,ht,((passes_considerBy h hc hd awards ht).mp hp).2⟩

/-- No consideration of a run passes after it. -/
theorem not_passes_run {cs : List Consideration} (h : Steady types pass cs) {ds : List Consideration} (hds : ds ⊆ cs)
    {d : Consideration} (hd : d ∈ ds) (awards : Table Award) :
    ¬Passes types pass (ds.foldl (considerBy types pass) awards) d := by
  induction ds generalizing awards with
  | nil => cases hd
  | cons c ds ih =>
    obtain ⟨hc,hrest⟩ := List.cons_subset.mp hds
    rcases List.mem_cons.mp hd with rfl | hd
    · intro hp
      obtain ⟨t,ht,hp⟩ := passes_of_passes_run h hrest hc hp
      exact ((passes_considerBy h hc hc awards ht).mp hp).1 rfl
    · exact ih hrest hd _

theorem considerBy_of_not_passes {awards : Table Award} {c : Consideration} (h : ¬Passes types pass awards c) :
    considerBy types pass awards c = awards := by
  unfold considerBy
  cases ht : types.get? c.typeId with
  | none => rfl
  | some t =>
    refine if_neg fun hp => h ⟨t,ht,hp⟩

theorem foldl_considerBy_of_not_passes {awards : Table Award} (cs : List Consideration)
    (h : ∀ c ∈ cs,¬Passes types pass awards c) : cs.foldl (considerBy types pass) awards = awards := by
  induction cs with
  | nil => rfl
  | cons c cs ih =>
    obtain ⟨hc,hcs⟩ := List.forall_mem_cons.mp h
    rw [List.foldl_cons,considerBy_of_not_passes hc,ih hcs]

end

section
variable (types : Table AwardType) (request : CheckRequest) (participants : List IncidentParticipant)
  (clock later : ℕ → ℕ → ℤ) (awards : Table Award)

/-- Each of the two checks, repeated for the same incident at whatever time, changes nothing. -/
theorem repeatedChecks_idle :
    workerCheck types request participants later (workerCheck types request participants clock awards) =
        workerCheck types request participants clock awards ∧
      checkAndCreateAutoAwards types request participants later
          (checkAndCreateAutoAwards types request participants clock awards) =
        checkAndCreateAutoAwards types request participants clock awards := by
  constructor
  · rw [workerCheck_eq,workerCheck_eq]
    refine foldl_considerBy_of_not_passes _ fun c hc => ?_
    obtain ⟨studentId,hs,row,hrow,rfl⟩ := mem_considerations.mp hc
    have hfirst : workerConsideration request participants clock studentId row.1 ∈
        request.studentIds.flatMap fun studentId => (autoAwardTypes types).map fun row =>
          workerConsideration request participants clock studentId row.1 :=
      mem_considerations.mpr ⟨studentId,hs,row,hrow,rfl⟩
    exact not_passes_run (steady_worker _ _) (List.Subset.refl _) hfirst awards
  · rw [serviceCheck_eq,serviceCheck_eq]
    refine foldl_considerBy_of_not_passes _ fun c hc => ?_
    obtain ⟨studentId,hs,row,hrow,rfl⟩ := mem_considerations.mp hc
    have hfirst : serviceConsideration request participants clock studentId row.1 ∈
        request.studentIds.flatMap fun studentId => (serviceAwardTypes types).map fun row =>
          serviceConsideration request participants clock studentId row.1 :=
      mem_considerations.mpr ⟨studentId,hs,row,hrow,rfl⟩
    exact not_passes_run (steady_service _ _) (List.Subset.refl _) hfirst awards

end

/-- Checks of either kind, for any incidents, and considerations of the manual path. -/
inductive AwardStep
  | worker (request : CheckRequest) (participants : List IncidentParticipant) (clock : ℕ → ℕ → ℤ)
  | service (request : CheckRequest) (participants : List IncidentParticipant) (clock : ℕ → ℕ → ℤ)
  | manual (run studentId awardTypeId academicYearId : ℕ) (period : Option AcademicPeriod) (points now : ℤ)

section
variable (types : Table AwardType)

def awardStep (awards : Table Award) : AwardStep → Table Award
  | .worker request participants clock => workerCheck types request participants clock awards
  | .service request participants clock => checkAndCreateAutoAwards types request participants clock awards
  | .manual run studentId awardTypeId academicYearId period points now =>
    (considerations types (.createManualAward run studentId awardTypeId academicYearId period points now)).foldl
      (consider types) awards

/-- An incident gives a student at most one award of a type. -/
def OnePerIncident (awards : Table Award) : Prop :=
  ∀ studentId typeId incidentId,
    countWhere awards studentId typeId (fun a => a.triggeredByIncidentId = some incidentId) ≤ 1

variable {types} {pass : Table Award → AwardType → Consideration → Bool}

theorem OnePerIncident.considerBy {awards : Table Award} (h : OnePerIncident awards) {c : Consideration}
    (hdedup : ∀ awardType incidentId,pass awards awardType c = true → c.incidentId = some incidentId →
      countWhere awards c.studentId c.typeId (fun a => a.triggeredByIncidentId = some incidentId) = 0) :
    OnePerIncident (considerBy types pass awards c) := by
  intro studentId typeId incidentId
  unfold AwardChecks.considerBy
  cases ht : types.get? c.typeId with
  | none => exact h studentId typeId incidentId
  | some t =>
    dsimp only
    split
    · rename_i hp
      rw [countWhere_createAward fun _ _ => rfl]
      split
      · rename_i hnew
        obtain ⟨rfl,rfl,hincident⟩ := hnew
        rw [hdedup t incidentId hp (of_decide_eq_true hincident)]
      · exact h studentId typeId incidentId
    · exact h studentId typeId incidentId

theorem OnePerIncident.run {cs : List Consideration} (hdedup : ∀ c ∈ cs,∀ awards awardType incidentId,
    pass awards awardType c = true → c.incidentId = some incidentId →
      countWhere awards c.studentId c.typeId (fun a => a.triggeredByIncidentId = some incidentId) = 0)
    {awards : Table Award} (h : OnePerIncident awards) :
    OnePerIncident (cs.foldl (AwardChecks.considerBy types pass) awards) := by
  induction cs generalizing awards with
  | nil => exact h
  | cons c cs ih =>
    obtain ⟨hc,hcs⟩ := List.forall_mem_cons.mp hdedup
    exact ih hcs (h.considerBy (hc awards))

theorem OnePerIncident.awardStep {awards : Table Award} (h : OnePerIncident awards) (action : AwardStep) :
    OnePerIncident (awardStep types awards action) := by
  cases action with
  | worker request participants clock =>
    rw [AwardChecks.awardStep,workerCheck_eq]
    refine h.run fun c hc awards awardType incidentId hp hincident => ?_
    obtain ⟨studentId,-,row,-,rfl⟩ := mem_considerations.mp hc
    exact hincident ▸ workerPasses_dedup hp
  | service request participants clock =>
    rw [AwardChecks.awardStep,serviceCheck_eq]
    refine h.run fun c hc awards awardType incidentId hp hincident => ?_
    obtain ⟨studentId,-,row,-,rfl⟩ := mem_considerations.mp hc
    exact hincident ▸ servicePasses_dedup hp
  | manual run studentId awardTypeId academicYearId period points now =>
    have hrun : OnePerIncident ((considerations types (.createManualAward run studentId awardTypeId academicYearId
        period points now)).foldl (AwardChecks.considerBy types passes) awards) := by
      refine h.run fun c hc awards awardType incidentId _ hincident => ?_
      rw [List.mem_singleton.mp hc] at hincident
      cases hincident
    exact hrun

/-- However often and in whatever order the checks are run, with whatever points, an incident gives a student at most
one award of a type. -/
theorem onePerIncident_run (types : Table AwardType) (actions : List AwardStep) :
    OnePerIncident (actions.foldl (awardStep types) .empty) := by
  refine Runs.trace_invariant (I := OnePerIncident) (G := fun _ _ => True) (fun _ action h _ => h.awardStep action)
    (fun _ _ _ => Nat.zero_le _) ?_ _ (Runs.foldl_mem_trace _ _)
  exact Runs.guarded_of_forall fun _ _ => trivial

end

end EduPod.Behaviour.AwardChecks
