import Mathlib
import EduPod.Foundation.Overwriting
import EduPod.Foundation.Rounding
import EduPod.Foundation.UniqueIndex
import EduPod.Gradebook.Gpa

/-! # What is averaged over period grades

A computation writes a snapshot for every enrolled student. The overall of a period, that of a year and the grade
point average are each taken over the snapshots that are there. Numbers are exact.
-/
namespace EduPod.Gradebook.Aggregates
open Grouping PeriodGrades Rounding

structure SnapshotKey where
  studentId : ℕ
  classId : ℕ
  subjectId : ℕ
  academicPeriodId : ℕ
  deriving DecidableEq

/-- What the aggregates read of the configuration of a subject in a class. -/
structure ClassSubject where
  creditHours : Option ℚ
  scale : GpaScaleConfig

/-- A weight of a subject in a period or of a period in a year, for a class or for a year group. -/
structure ScopedWeight where
  yearGroupId : Option ℕ
  classId : Option ℕ
  id : ℕ
  weight : ℚ

/-- `books` is what the computation of a class, subject and period reads. -/
structure GradeRecords where
  books : ℕ → ℕ → ℕ → PeriodBook
  snapshots : UniqueIndex SnapshotKey ℚ
  classSubjects : UniqueIndex (ℕ × ℕ) ClassSubject
  yearGroupOf : ℕ → Option ℕ
  subjectPeriodWeights : ℕ → List ScopedWeight
  periodYearWeights : ℕ → List ScopedWeight
  periodsOfYear : ℕ → Finset ℕ
  gpaPrecision : Option ℕ

/-! ## Weights -/

def weightsOf (rows : List ScopedWeight) : List (ℕ × ℚ) := ofPairs (rows.map fun w => (w.id,w.weight))

/-- The weights of the class and, where there are none, those of its year group. -/
def resolveForClass (rows : List ScopedWeight) (classId : ℕ) (yearGroupId : Option ℕ) : List (ℕ × ℚ) :=
  let classWeights := rows.filter fun w => w.classId = some classId
  if !classWeights.isEmpty then weightsOf classWeights
  else yearGroupId.elim [] fun id => weightsOf (rows.filter fun w => w.yearGroupId = some id && w.classId = none)

/-- Equal weights where none are configured. -/
def orEqual (weights : List (ℕ × ℚ)) (ids : Finset ℕ) (id : ℕ) : ℚ :=
  if !weights.isEmpty then (weights.lookup id).getD 0 else if id ∈ ids then 100 / ids.card else 0

/-- `weightedAverage` of the aggregates; what is displayed is the same number with a percent sign. -/
def weightedAverageOf (weights : ℕ → ℚ) (values : ℕ → Option ℚ) (ids : Finset ℕ) : Option ℚ :=
  let activeIds := ids.filter fun id => (values id).isSome
  if activeIds.card = 0 then none
  else
    let activeTotalWeight := ∑ id ∈ activeIds, weights id
    if activeTotalWeight = 0 then none
    else
      let weightedSum := ∑ id ∈ activeIds, (values id).getD 0 * (weights id / activeTotalWeight * 100)
      some (nearest (weightedSum / 100 * 100) / 100)

structure GradePoint where
  gpaPoints : ℚ
  creditHours : Option ℚ

namespace GradeRecords
variable (g : GradeRecords) (classId subjectId periodId studentId academicYearId : ℕ)

/-! ## Computing -/

def key : SnapshotKey := ⟨studentId,classId,subjectId,periodId⟩

def computeSubject : GradeRecords :=
  match (g.books classId subjectId periodId).compute with
  | .error _ => g
  | .ok result =>
    { g with
      snapshots := result.data.foldl
        (fun t data => t.set (key classId subjectId periodId data.studentId) data.computedValue) g.snapshots }

def subjectIds : Finset ℕ :=
  ((g.classSubjects.rows.filter fun r => r.1.1 = classId).map fun r => r.1.2).toFinset

def resolveSubjectWeightsOrEqual : ℕ → ℚ :=
  orEqual (resolveForClass (g.subjectPeriodWeights periodId) classId (g.yearGroupOf classId)) (g.subjectIds classId)

def resolvePeriodWeightsOrEqual : ℕ → ℚ :=
  orEqual (resolveForClass (g.periodYearWeights academicYearId) classId (g.yearGroupOf classId))
    (g.periodsOfYear academicYearId)

/-- The overall of a student in a period, as `computeCrossSubject` and `computeYearOverview` have it. The one asks
whether a value is null and the other whether it is truthy, as every Decimal is. -/
def periodOverall : Option ℚ :=
  weightedAverageOf (g.resolveSubjectWeightsOrEqual classId periodId)
    (fun subjectId => g.snapshots.get? (key classId subjectId periodId studentId)) (g.subjectIds classId)

def yearOverall : Option ℚ :=
  weightedAverageOf (g.resolvePeriodWeightsOrEqual classId academicYearId)
    (fun periodId => g.periodOverall classId periodId studentId) (g.periodsOfYear academicYearId)

def gradePoint (row : SnapshotKey × ℚ) : GradePoint :=
  let gradeConfig := g.classSubjects.get? (row.1.classId,row.1.subjectId)
  ⟨gradeConfig.elim (proportional row.2) fun c => resolveGpaPoints row.2 c.scale,
    gradeConfig.bind ClassSubject.creditHours⟩

def snapshotsOf : List (SnapshotKey × ℚ) :=
  g.snapshots.rows.filter fun r => r.1.studentId = studentId && r.1.academicPeriodId = periodId

/-- One subject without credit hours makes all of them count the same. -/
def computeGpa : Option ℚ :=
  let snapshots := g.snapshotsOf periodId studentId
  if snapshots.isEmpty then none
  else
    let gradePoints := snapshots.map g.gradePoint
    let useEqualWeighting := gradePoints.any fun gp => gp.creditHours.isNone
    let weightedGpaSum :=
      if useEqualWeighting then (gradePoints.map GradePoint.gpaPoints).sum
      else (gradePoints.map fun gp => gp.gpaPoints * gp.creditHours.getD 1).sum
    let totalCreditHours : ℚ :=
      if useEqualWeighting then gradePoints.length else (gradePoints.map fun gp => gp.creditHours.getD 1).sum
    if totalCreditHours = 0 then none
    else
      let factor : ℚ := 10 ^ g.gpaPrecision.getD 2
      some (nearest (weightedGpaSum / totalCreditHours * factor) / factor)

/-! ## Removing a subject -/

/-- The gradebook without the assessments of a class, subject and period and without the student's snapshot. -/
def withoutSubject : GradeRecords :=
  { g with
    books := fun c k p => if c = classId ∧ k = subjectId ∧ p = periodId then { g.books c k p with assessments := [] }
      else g.books c k p
    snapshots := g.snapshots.erase (key classId subjectId periodId studentId) }

end GradeRecords

/-! ## Averages as tallies -/

/-- What an entry adds to the weighted sum and to the weight. -/
def contribution (weight : ℚ) (value : Option ℚ) : ℚ × ℚ := value.elim 0 fun x => (x * weight,weight)

def tally (weights : ℕ → ℚ) (values : ℕ → Option ℚ) (ids : Finset ℕ) : ℚ × ℚ :=
  ∑ id ∈ ids, contribution (weights id) (values id)

def average (factor : ℚ) (t : ℚ × ℚ) : Option ℚ :=
  if t.2 = 0 then none else some (nearest (t.1 / t.2 * factor) / factor)

/-- Both tallies average to nothing, or to numbers that are rounded alike. -/
def SameAverage (factor : ℚ) (t t' : ℚ × ℚ) : Prop :=
  (t.2 = 0 ↔ t'.2 = 0) ∧ (t.2 ≠ 0 → SameCell (t.1 / t.2 * factor) (t'.1 / t'.2 * factor))

theorem average_eq_iff {factor : ℚ} (hfactor : factor ≠ 0) (t t' : ℚ × ℚ) :
    average factor t = average factor t' ↔ SameAverage factor t t' := by
  unfold average SameAverage
  by_cases h : t.2 = 0 <;> by_cases h' : t'.2 = 0
  · simp [h,h']
  · simp [h,h']
  · simp [h,h']
  · rw [if_neg h,if_neg h',← nearest_eq_nearest_iff,Option.some_inj,div_left_inj' hfactor,Int.cast_inj]
    simp [h,h']

theorem tally_erase {weights : ℕ → ℚ} {values : ℕ → Option ℚ} {ids : Finset ℕ} {id : ℕ} (h : id ∈ ids) :
    tally weights values ids = contribution (weights id) (values id) + tally weights values (ids.erase id) :=
  (Finset.add_sum_erase ids _ h).symm

theorem tally_congr {weights : ℕ → ℚ} {values values' : ℕ → Option ℚ} {ids : Finset ℕ}
    (h : ∀ id ∈ ids, values id = values' id) : tally weights values ids = tally weights values' ids :=
  Finset.sum_congr rfl fun id hid => by rw [h id hid]

theorem weightedAverageOf_eq (weights : ℕ → ℚ) (values : ℕ → Option ℚ) (ids : Finset ℕ) :
    weightedAverageOf weights values ids = average 100 (tally weights values ids) := by
  have hsum : (tally weights values ids).1 =
      ∑ id ∈ ids.filter fun id => (values id).isSome, (values id).getD 0 * weights id := by
    rw [tally,Prod.fst_sum,Finset.sum_filter]
    refine Finset.sum_congr rfl fun id _ => ?_
    cases values id <;> rfl
  have hweight : (tally weights values ids).2 = ∑ id ∈ ids.filter fun id => (values id).isSome, weights id := by
    rw [tally,Prod.snd_sum,Finset.sum_filter]
    refine Finset.sum_congr rfl fun id _ => ?_
    cases values id <;> rfl
  unfold weightedAverageOf average
  rw [hweight]
  dsimp only
  split
  · rename_i hempty
    rw [Finset.card_eq_zero.mp hempty,Finset.sum_empty,if_pos rfl]
  · split
    · rfl
    · rw [hsum,Finset.sum_div,Finset.sum_div]
      congr 5
      refine Finset.sum_congr rfl fun id _ => ?_
      ring

/-! ## What a computation writes -/

/-- A computation runs through. -/
structure Computes (book : PeriodBook) : Prop where
  rawWeights : book.rawWeights ≠ []
  publishedAssessments : book.publishedAssessments ≠ []
  enrolled : book.enrolled ≠ []
  includedAssessments : book.includedAssessments ≠ []
  weightSum : totalWeight book.rawWeights ≠ 0

instance (book : PeriodBook) : Decidable (Computes book) :=
  decidable_of_iff (book.rawWeights ≠ [] ∧ ¬book.publishedAssessments.isEmpty ∧ book.enrolled ≠ [] ∧
    ¬book.includedAssessments.isEmpty ∧ totalWeight book.rawWeights ≠ 0)
    ⟨fun ⟨hr,hp,he,hi,hw⟩ => ⟨hr,by simpa using hp,he,by simpa using hi,hw⟩,
      fun ⟨hr,hp,he,hi,hw⟩ => ⟨hr,by simpa using hp,he,by simpa using hi,hw⟩⟩

section
variable {book : PeriodBook} {studentId : ℕ}

theorem resolveWeights_isOk_iff {rawWeights : List CategoryWeight} {types : List (ℕ × AssessmentType)}
    {cap : Option ℚ} :
    (∃ resolved, resolveWeightsWithFormativeCap rawWeights types cap = .ok resolved) ↔ totalWeight rawWeights ≠ 0 := by
  unfold resolveWeightsWithFormativeCap
  simp only [Fallible.ensure_bind_eq_ok]
  cases cap.filter fun cap => 0 ≤ cap with
  | none => simp
  | some cap => simp

theorem compute_eq_ok_iff {result : PeriodGradeResult} : book.compute = .ok result ↔
    book.rawWeights ≠ [] ∧ book.publishedAssessments ≠ [] ∧ book.enrolled ≠ [] ∧ book.includedAssessments ≠ [] ∧
      ∃ resolved, resolveWeightsWithFormativeCap book.rawWeights book.categoryTypes book.settings.formativeWeightCap =
        .ok resolved ∧ ⟨book.enrolled.map (book.snapshot resolved.1),resolved.2,book.includedAssessments.length,
          book.missingGradePolicy,book.settings.formativeWeightCap.isSome⟩ = result := by
  unfold PeriodBook.compute
  rw [Fallible.ensure_bind_eq_ok,Fallible.ensure_bind_eq_ok,Fallible.ensure_bind_eq_ok,Fallible.ensure_bind_eq_ok,
    Fallible.bind_eq_ok]
  simp

theorem computes_of_compute {result : PeriodGradeResult} (h : book.compute = .ok result) :
    Computes book ∧ ∃ weights, result.data = book.enrolled.map (book.snapshot weights) := by
  obtain ⟨hraw,hpublished,henrolled,hincluded,resolved,hresolved,rfl⟩ := compute_eq_ok_iff.mp h
  exact ⟨⟨hraw,hpublished,henrolled,hincluded,resolveWeights_isOk_iff.mp ⟨_,hresolved⟩⟩,resolved.1,rfl⟩

theorem Computes.exists_ok (h : Computes book) : ∃ result, book.compute = .ok result := by
  obtain ⟨resolved,hresolved⟩ : ∃ resolved, resolveWeightsWithFormativeCap book.rawWeights book.categoryTypes
      book.settings.formativeWeightCap = .ok resolved := resolveWeights_isOk_iff.mpr h.weightSum
  exact ⟨_,compute_eq_ok_iff.mpr ⟨h.rawWeights,h.publishedAssessments,h.enrolled,h.includedAssessments,resolved,
    hresolved,rfl⟩⟩

theorem tallyCategory_of_ungraded {assessments : List PeriodAssessment}
    (h : ∀ a ∈ assessments, a.scoreOf studentId = none) :
    tallyCategory .exclude studentId assessments = ⟨0,0,false⟩ := by
  unfold tallyCategory
  induction assessments with
  | nil => rfl
  | cons a rest ih =>
    obtain ⟨ha,hrest⟩ := List.forall_mem_cons.mp h
    have hadd : CategoryTally.add .exclude studentId ⟨0,0,false⟩ a = ⟨0,0,false⟩ := by
      simp only [CategoryTally.add,ha]
    rw [List.foldl_cons,hadd]
    exact ih hrest

theorem includedAssessments_subset : book.includedAssessments ⊆ book.publishedAssessments := by
  unfold PeriodBook.includedAssessments
  split
  · exact List.filter_subset_self _
  · exact List.Subset.refl _

/-- The average of nothing is stored as zero. -/
theorem computedValue_of_ungraded (hpolicy : book.missingGradePolicy = .exclude)
    (h : ∀ a ∈ book.publishedAssessments, a.scoreOf studentId = none) (weights : List CategoryWeight) :
    (book.snapshot weights studentId).computedValue = 0 := by
  have hused : book.usedCategories weights studentId = [] := by
    refine List.filterMap_eq_nil_iff.mpr fun group hgroup => ?_
    have hungraded : ∀ a ∈ group.2, a.scoreOf studentId = none := by
      intro a ha
      rw [(mem_groupBy.mp hgroup).2] at ha
      exact h a (includedAssessments_subset (List.mem_filter.mp ha).1)
    rw [usedCategory,hpolicy,tallyCategory_of_ungraded hungraded]
    cases (categoryWeightMap weights).lookup group.1 <;> simp [CategoryTally.Counts]
  have haverage : weightedAverage (book.usedCategories weights studentId) = 0 := by
    rw [hused]
    rfl
  have hzero : nearest 0 = 0 := by simpa using nearest_intCast 0
  change (nearest (weightedAverage (book.usedCategories weights studentId) * 10000) : ℚ) / 10000 = 0
  rw [haverage,zero_mul,hzero,Int.cast_zero,zero_div]

end

namespace GradeRecords
variable (g : GradeRecords) (classId subjectId periodId studentId academicYearId : ℕ)

/-- The student's snapshot after a computation where the student has no graded assessment. -/
def storedAfter : Option ℚ :=
  let book := g.books classId subjectId periodId
  if Computes book ∧ studentId ∈ book.enrolled then some 0
  else g.snapshots.get? (key classId subjectId periodId studentId)

/-- The records over other snapshots. -/
def withSnapshots (snapshots : UniqueIndex SnapshotKey ℚ) : GradeRecords := { g with snapshots := snapshots }

theorem computeSubject_eq : g.computeSubject classId subjectId periodId =
    g.withSnapshots (g.computeSubject classId subjectId periodId).snapshots := by
  unfold computeSubject
  split <;> rfl

variable {g classId subjectId periodId studentId}

theorem get?_computeSubject_ne {j : SnapshotKey} (h : j ≠ key classId subjectId periodId j.studentId) :
    (g.computeSubject classId subjectId periodId).snapshots.get? j = g.snapshots.get? j := by
  unfold computeSubject
  cases (g.books classId subjectId periodId).compute with
  | error e => rfl
  | ok result =>
    dsimp only
    have hnone : ∀ data ∈ result.data, key classId subjectId periodId data.studentId = j → data.computedValue = 0 := by
      rintro data - rfl
      exact absurd rfl h
    rw [UniqueIndex.get?_foldl_set _ _ hnone,if_neg]
    intro hmem
    obtain ⟨data,-,rfl⟩ := List.mem_map.mp hmem
    exact h rfl

theorem get?_computeSubject (hpolicy : (g.books classId subjectId periodId).missingGradePolicy = .exclude)
    (hungraded : ∀ a ∈ (g.books classId subjectId periodId).publishedAssessments, a.scoreOf studentId = none) :
    (g.computeSubject classId subjectId periodId).snapshots.get? (key classId subjectId periodId studentId) =
      g.storedAfter classId subjectId periodId studentId := by
  unfold computeSubject storedAfter
  cases hcompute : (g.books classId subjectId periodId).compute with
  | error e =>
    have hnot : ¬Computes (g.books classId subjectId periodId) := by
      intro h
      obtain ⟨result,hresult⟩ := h.exists_ok
      rw [hcompute] at hresult
      cases hresult
    rw [if_neg fun h => hnot h.1]
  | ok result =>
    obtain ⟨hcomputes,weights,hdata⟩ := computes_of_compute hcompute
    dsimp only
    have hzero : ∀ data ∈ result.data,
        key classId subjectId periodId data.studentId = key classId subjectId periodId studentId →
          data.computedValue = 0 := by
      intro data hmem hkey
      rw [hdata] at hmem
      obtain ⟨s,-,rfl⟩ := List.mem_map.mp hmem
      obtain rfl : s = studentId := (SnapshotKey.mk.inj hkey).1
      exact computedValue_of_ungraded hpolicy hungraded weights
    rw [UniqueIndex.get?_foldl_set _ _ hzero]
    have hmem : key classId subjectId periodId studentId ∈
        result.data.map (fun data => key classId subjectId periodId data.studentId) ↔
        studentId ∈ (g.books classId subjectId periodId).enrolled := by
      rw [hdata,List.map_map]
      constructor
      · intro h
        obtain ⟨s,hs,hkey⟩ := List.mem_map.mp h
        rwa [← (SnapshotKey.mk.inj hkey).1]
      · exact fun h => List.mem_map.mpr ⟨studentId,h,rfl⟩
    by_cases henrolled : studentId ∈ (g.books classId subjectId periodId).enrolled
    · rw [if_pos (hmem.mpr henrolled),if_pos ⟨hcomputes,henrolled⟩]
    · rw [if_neg fun h => henrolled (hmem.mp h),if_neg fun h => henrolled h.2]

/-- Without assessments there is nothing to compute. -/
theorem computeSubject_withoutSubject :
    (g.withoutSubject classId subjectId periodId studentId).computeSubject classId subjectId periodId =
      g.withoutSubject classId subjectId periodId studentId := by
  unfold computeSubject
  cases hcompute :
      ((g.withoutSubject classId subjectId periodId studentId).books classId subjectId periodId).compute with
  | error e => rfl
  | ok result =>
    have hpublished := (computes_of_compute hcompute).1.publishedAssessments
    refine absurd ?_ hpublished
    simp [withoutSubject,PeriodBook.publishedAssessments]

end GradeRecords

/-! ## The aggregates as tallies -/

def gpaTally (gradePoints : List GradePoint) : ℚ × ℚ :=
  if gradePoints.any fun gp => gp.creditHours.isNone then
    ((gradePoints.map GradePoint.gpaPoints).sum,gradePoints.length)
  else
    ((gradePoints.map fun gp => gp.gpaPoints * gp.creditHours.getD 1).sum,
      (gradePoints.map fun gp => gp.creditHours.getD 1).sum)

theorem gpaTally_perm {xs ys : List GradePoint} (h : xs.Perm ys) : gpaTally xs = gpaTally ys := by
  unfold gpaTally
  rw [h.any_eq,(h.map GradePoint.gpaPoints).sum_eq,h.length_eq,
    (h.map fun gp => gp.gpaPoints * gp.creditHours.getD 1).sum_eq,(h.map fun gp => gp.creditHours.getD 1).sum_eq]

namespace GradeRecords
variable (g : GradeRecords) (classId subjectId periodId studentId academicYearId : ℕ)

theorem computeGpa_eq : g.computeGpa periodId studentId =
    average (10 ^ g.gpaPrecision.getD 2) (gpaTally ((g.snapshotsOf periodId studentId).map g.gradePoint)) := by
  unfold computeGpa average gpaTally
  cases hsnapshots : g.snapshotsOf periodId studentId with
  | nil => simp
  | cons row rows =>
    dsimp only
    rw [List.isEmpty_cons,if_neg Bool.false_ne_true]
    split <;> rfl

/-- What the other subjects add to the overall of the period. -/
def otherSubjects : ℚ × ℚ :=
  tally (g.resolveSubjectWeightsOrEqual classId periodId)
    (fun k => g.snapshots.get? (key classId k periodId studentId)) ((g.subjectIds classId).erase subjectId)

/-- What the other periods add to the overall of the year. -/
def otherPeriods : ℚ × ℚ :=
  tally (g.resolvePeriodWeightsOrEqual classId academicYearId)
    (fun q => g.periodOverall classId q studentId) ((g.periodsOfYear academicYearId).erase periodId)

def otherGradePoints : List GradePoint :=
  ((g.snapshotsOf periodId studentId).filter fun r => r.1 ≠ key classId subjectId periodId studentId).map g.gradePoint

/-- The subject with a value, and the other subjects. -/
def withSubject (value : Option ℚ) : ℚ × ℚ :=
  contribution (g.resolveSubjectWeightsOrEqual classId periodId subjectId) value +
    g.otherSubjects classId subjectId periodId studentId

def withPeriod (value : Option ℚ) : ℚ × ℚ :=
  contribution (g.resolvePeriodWeightsOrEqual classId academicYearId periodId) value +
    g.otherPeriods classId periodId studentId academicYearId

/-- The snapshots of other classes, subjects and periods are the gradebook's. -/
def AgreeElsewhere (snapshots : UniqueIndex SnapshotKey ℚ) : Prop :=
  ∀ j, j ≠ key classId subjectId periodId j.studentId → snapshots.get? j = g.snapshots.get? j

variable {g classId subjectId periodId studentId academicYearId} {snapshots : UniqueIndex SnapshotKey ℚ}

theorem periodOverall_of_mem (h : AgreeElsewhere g classId subjectId periodId snapshots)
    (hmem : subjectId ∈ g.subjectIds classId) : (g.withSnapshots snapshots).periodOverall classId periodId studentId =
      average 100 (g.withSubject classId subjectId periodId studentId
        (snapshots.get? (key classId subjectId periodId studentId))) := by
  rw [periodOverall,weightedAverageOf_eq]
  change average 100 (tally (g.resolveSubjectWeightsOrEqual classId periodId)
    (fun k => snapshots.get? (key classId k periodId studentId)) (g.subjectIds classId)) = _
  rw [tally_erase hmem]
  congr 2
  refine tally_congr fun k hk => h _ fun heq => ?_
  exact (Finset.mem_erase.mp hk).1 (SnapshotKey.mk.inj heq).2.2.1

/-- Other periods, and subjects the class does not have, are left alone. -/
theorem periodOverall_of_ne (h : AgreeElsewhere g classId subjectId periodId snapshots)
    {q : ℕ} (hne : q ≠ periodId ∨ subjectId ∉ g.subjectIds classId) :
    (g.withSnapshots snapshots).periodOverall classId q studentId = g.periodOverall classId q studentId := by
  rw [periodOverall,periodOverall,weightedAverageOf_eq,weightedAverageOf_eq]
  change average 100 (tally (g.resolveSubjectWeightsOrEqual classId q)
    (fun k => snapshots.get? (key classId k q studentId)) (g.subjectIds classId)) = _
  congr 1
  refine tally_congr fun k hk => h _ fun heq => ?_
  obtain ⟨-,-,rfl,rfl⟩ := SnapshotKey.mk.inj heq
  rcases hne with hne | hne
  · exact hne rfl
  · exact hne hk

theorem yearOverall_eq (h : AgreeElsewhere g classId subjectId periodId snapshots)
    (hperiod : periodId ∈ g.periodsOfYear academicYearId) :
    (g.withSnapshots snapshots).yearOverall classId studentId academicYearId =
      average 100 (g.withPeriod classId periodId studentId academicYearId
        ((g.withSnapshots snapshots).periodOverall classId periodId studentId)) := by
  rw [yearOverall,weightedAverageOf_eq]
  change average 100 (tally (g.resolvePeriodWeightsOrEqual classId academicYearId)
    (fun q => (g.withSnapshots snapshots).periodOverall classId q studentId) (g.periodsOfYear academicYearId)) = _
  rw [tally_erase hperiod]
  congr 2
  exact tally_congr fun q hq => periodOverall_of_ne h (Or.inl (Finset.mem_erase.mp hq).1)

/-- A period of another year is not in the year's overall. -/
theorem yearOverall_of_notMem
    (h : AgreeElsewhere g classId subjectId periodId snapshots)
    (hperiod : periodId ∉ g.periodsOfYear academicYearId) :
    (g.withSnapshots snapshots).yearOverall classId studentId academicYearId =
      g.yearOverall classId studentId academicYearId := by
  rw [yearOverall,yearOverall,weightedAverageOf_eq,weightedAverageOf_eq]
  change average 100 (tally (g.resolvePeriodWeightsOrEqual classId academicYearId)
    (fun q => (g.withSnapshots snapshots).periodOverall classId q studentId) (g.periodsOfYear academicYearId)) = _
  congr 1
  refine tally_congr fun q hq => periodOverall_of_ne h (Or.inl ?_)
  rintro rfl
  exact hperiod hq

/-- The snapshots of a student in a period are that of the subject, if there is one, and the others. -/
theorem snapshotsOf_perm
    (h : AgreeElsewhere g classId subjectId periodId snapshots) :
    ((g.withSnapshots snapshots).snapshotsOf periodId studentId).Perm
      (((snapshots.get? (key classId subjectId periodId studentId)).map
          (Prod.mk (key classId subjectId periodId studentId))).toList ++
        (g.snapshotsOf periodId studentId).filter fun r => r.1 ≠ key classId subjectId periodId studentId) := by
  rw [snapshotsOf,snapshotsOf,List.filter_comm]
  refine UniqueIndex.perm_filter_rows (u := g.snapshots.erase (key classId subjectId periodId studentId)) ?_ ?_ ?_
  · exact Option.toList_nodup _
  · intro r hr
    obtain ⟨v,-,rfl⟩ := Option.map_eq_some_iff.mp (Option.mem_toList.mp hr)
    rw [UniqueIndex.get?_erase,if_pos rfl]
  · rintro ⟨j,v⟩
    change snapshots.get? j = some v ∧ _ ↔ _
    rw [Option.mem_toList,UniqueIndex.get?_erase,Option.map_eq_some_iff]
    by_cases hj : j = key classId subjectId periodId studentId
    · subst hj
      simp [key]
    · rw [if_neg hj,or_iff_right]
      · refine and_congr_left fun hrow => ?_
        obtain ⟨hstudent,-⟩ : j.studentId = studentId ∧ j.academicPeriodId = periodId := by simpa using hrow
        rw [h j]
        rwa [hstudent]
      · rintro ⟨_,_,heq⟩
        exact hj (Prod.mk.inj heq).1.symm

theorem computeGpa_withSnapshots
    (h : AgreeElsewhere g classId subjectId periodId snapshots) :
    (g.withSnapshots snapshots).computeGpa periodId studentId =
      average (10 ^ g.gpaPrecision.getD 2) (gpaTally
        (((snapshots.get? (key classId subjectId periodId studentId)).map fun v =>
          g.gradePoint (key classId subjectId periodId studentId,v)).toList ++
            g.otherGradePoints classId subjectId periodId studentId)) := by
  rw [computeGpa_eq,gpaTally_perm ((snapshotsOf_perm h).map _),List.map_append]
  cases snapshots.get? (key classId subjectId periodId studentId) <;> rfl

/-! ## Subjects without grades -/

/-- The three aggregates of a student are the same. -/
structure Unchanged (g g' : GradeRecords) (classId periodId studentId academicYearId : ℕ) : Prop where
  overall : g.periodOverall classId periodId studentId = g'.periodOverall classId periodId studentId
  yearOverall : g.yearOverall classId studentId academicYearId = g'.yearOverall classId studentId academicYearId
  gpa : g.computeGpa periodId studentId = g'.computeGpa periodId studentId

/-- A value of the subject is lost in both averages it goes into. -/
structure Absorbed (g : GradeRecords) (classId subjectId periodId studentId : ℕ) (value : ℚ) : Prop where
  overall : subjectId ∈ g.subjectIds classId →
    SameAverage 100 (g.withSubject classId subjectId periodId studentId (some value))
      (g.otherSubjects classId subjectId periodId studentId)
  gpa : SameAverage (10 ^ g.gpaPrecision.getD 2)
    (gpaTally (g.gradePoint (key classId subjectId periodId studentId,value) ::
      g.otherGradePoints classId subjectId periodId studentId))
    (gpaTally (g.otherGradePoints classId subjectId periodId studentId))

theorem withSubject_none :
    g.withSubject classId subjectId periodId studentId none = g.otherSubjects classId subjectId periodId studentId :=
  zero_add _

/-- The overall of the year follows that of the period. -/
theorem yearOverall_congr {snapshots' : UniqueIndex SnapshotKey ℚ}
    (h : AgreeElsewhere g classId subjectId periodId snapshots)
    (h' : AgreeElsewhere g classId subjectId periodId snapshots')
    (hoverall : (g.withSnapshots snapshots).periodOverall classId periodId studentId =
      (g.withSnapshots snapshots').periodOverall classId periodId studentId) :
    (g.withSnapshots snapshots).yearOverall classId studentId academicYearId =
      (g.withSnapshots snapshots').yearOverall classId studentId academicYearId := by
  by_cases hperiod : periodId ∈ g.periodsOfYear academicYearId
  · rw [yearOverall_eq h hperiod,yearOverall_eq h' hperiod,hoverall]
  · rw [yearOverall_of_notMem h hperiod,yearOverall_of_notMem h' hperiod]

/-- A snapshot is missed unless its value is absorbed. -/
theorem unchanged_withSnapshots_iff {snapshots' : UniqueIndex SnapshotKey ℚ}
    (h : AgreeElsewhere g classId subjectId periodId snapshots)
    (h' : AgreeElsewhere g classId subjectId periodId snapshots')
    (hremoved : snapshots'.get? (key classId subjectId periodId studentId) = none) :
    Unchanged (g.withSnapshots snapshots) (g.withSnapshots snapshots') classId periodId studentId academicYearId ↔
      ∀ value, snapshots.get? (key classId subjectId periodId studentId) = some value →
        Absorbed g classId subjectId periodId studentId value := by
  have hoverall : (g.withSnapshots snapshots).periodOverall classId periodId studentId =
      (g.withSnapshots snapshots').periodOverall classId periodId studentId ↔
      ∀ value, snapshots.get? (key classId subjectId periodId studentId) = some value →
        subjectId ∈ g.subjectIds classId →
          SameAverage 100 (g.withSubject classId subjectId periodId studentId (some value))
          (g.otherSubjects classId subjectId periodId studentId) := by
    by_cases hmem : subjectId ∈ g.subjectIds classId
    · rw [periodOverall_of_mem h hmem,periodOverall_of_mem h' hmem,hremoved,withSubject_none]
      cases snapshots.get? (key classId subjectId periodId studentId) with
      | none => simp [withSubject_none]
      | some value => simp [average_eq_iff,hmem]
    · rw [periodOverall_of_ne h (Or.inr hmem),periodOverall_of_ne h' (Or.inr hmem)]
      exact iff_of_true rfl fun _ _ hk => absurd hk hmem
  have hgpa : (g.withSnapshots snapshots).computeGpa periodId studentId =
      (g.withSnapshots snapshots').computeGpa periodId studentId ↔
      ∀ value, snapshots.get? (key classId subjectId periodId studentId) = some value →
        SameAverage (10 ^ g.gpaPrecision.getD 2)
          (gpaTally (g.gradePoint (key classId subjectId periodId studentId,value) ::
            g.otherGradePoints classId subjectId periodId studentId))
          (gpaTally (g.otherGradePoints classId subjectId periodId studentId)) := by
    rw [computeGpa_withSnapshots h,computeGpa_withSnapshots h',hremoved]
    cases snapshots.get? (key classId subjectId periodId studentId) with
    | none => simp
    | some value => simp [average_eq_iff]
  constructor
  · rintro ⟨ho,-,hg⟩ value hvalue
    exact ⟨hoverall.mp ho value hvalue,hgpa.mp hg value hvalue⟩
  · intro habsorbed
    have ho := hoverall.mpr fun value hvalue => (habsorbed value hvalue).overall
    exact ⟨ho,yearOverall_congr h h' ho,hgpa.mpr fun value hvalue => (habsorbed value hvalue).gpa⟩

theorem agreeElsewhere_erase :
    AgreeElsewhere g classId subjectId periodId (g.snapshots.erase (key classId subjectId periodId studentId)) := by
  intro j h
  rw [UniqueIndex.get?_erase,if_neg]
  rintro rfl
  exact h rfl

end GradeRecords

theorem sciencePaper_maxScore_nonneg : (0 : ℚ) ≤ 10 := by norm_num

theorem scienceWeights_nonneg : ∀ w ∈ [CategoryWeight.mk 1 100], 0 ≤ w.weight := by simp

/-- One paper, which the second of two students has handed in. -/
def scienceBook : PeriodBook where
  yearGroupId := none
  yearGroupWeights := fun _ => none
  config := some ⟨none,some ⟨[⟨1,100⟩],scienceWeights_nonneg⟩⟩
  settings := ⟨some .exclude,none,none⟩
  categoryType := fun _ => .summative
  assessments := [⟨.locked,1,10,[⟨2,some 8⟩],sciencePaper_maxScore_nonneg⟩]
  enrolled := [1,2]

/-- The first student has 80 in Maths. -/
def mathsAndScience : GradeRecords where
  books := fun _ _ _ => scienceBook
  snapshots := UniqueIndex.empty.set ⟨1,1,1,1⟩ 80
  classSubjects :=
    (UniqueIndex.empty.set (1,1) ⟨none,.numeric,none,none⟩).set (1,2) ⟨none,.numeric,none,none⟩
  yearGroupOf := fun _ => none
  subjectPeriodWeights := fun _ => []
  periodYearWeights := fun _ => []
  periodsOfYear := fun _ => {1}
  gpaPrecision := none

end EduPod.Gradebook.Aggregates
