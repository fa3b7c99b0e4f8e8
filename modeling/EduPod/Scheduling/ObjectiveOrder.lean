import EduPod.Scheduling.Objective

/-! # When more placements win

The placement weight is computed from the number of lessons. The gap terms are bounded by
the largest period of a day and the duty term by the number of duties instead, so the
weight need not exceed the span of the soft terms.
-/
namespace EduPod.Scheduling
open Grouping LinearModel

section
variable (input : SolverInputV2)

/-- The soft weights are not negative. -/
structure NonnegWeights : Prop where
  priority : ∀ p, 0 ≤ priorityWeight input.preferenceWeights p
  evenSubjectSpread : 0 ≤ input.globalSoftWeights.evenSubjectSpread
  minimiseTeacherGaps : 0 ≤ input.globalSoftWeights.minimiseTeacherGaps
  roomConsistency : 0 ≤ input.globalSoftWeights.roomConsistency
  workloadBalance : 0 ≤ input.globalSoftWeights.workloadBalance
  breakDutyBalance : 0 ≤ input.globalSoftWeights.breakDutyBalance

def spreadSpan : ℤ := ((spreadGroups input.lessons input.legal).map fun g => (demandOf input.lessons g.1 : ℤ)).sum

def gapSpan : ℤ := ((gapDays input input.slots input.legal).map fun g => (g.lastPeriod : ℤ)).sum

def workloadSpan : ℤ := if hasWorkload input input.legal then input.lessons.length else 0

def dutySpan : ℤ := if 1 < (dutiesByTeacher input input.slots).length then mostDuties input input.slots else 0

/-- The largest difference the soft terms can make. -/
def softSpan : ℤ :=
  prefSum input + input.globalSoftWeights.evenSubjectSpread * spreadSpan input +
  input.globalSoftWeights.minimiseTeacherGaps * gapSpan input +
  input.globalSoftWeights.workloadBalance * workloadSpan input +
  input.globalSoftWeights.breakDutyBalance * dutySpan input

end

section
variable {input : SolverInputV2} {v : Var → ℤ}

/-! ## One signal at a time -/

theorem satisfied_bool {legal : List LegalAssignment} {p : IndexedPref} (h : Sat v (prefConstraints legal p)) :
    (teacherPrefVar input p).satisfied.eval v = 0 ∨ (teacherPrefVar input p).satisfied.eval v = 1 := by
  unfold prefConstraints at h
  rw [teacherPrefVar]
  split
  · exact Or.inl (LinExpr.eval_ofInt v 0)
  · rename_i hne
    rw [if_neg hne] at h
    rw [LinExpr.eval_ofVar]
    split at h
    · exact bool_of_holds (sat_cons.mp h).1
    · exact bool_of_holds (sat_cons.mp h).1

theorem prefSignal_bounds (hw : NonnegWeights input) {legal : List LegalAssignment}
    (h : Sat v (prefSignal input legal).constraints) :
    0 ≤ value v (prefSignal input legal).terms ∧ value v (prefSignal input legal).terms ≤ prefSum input := by
  have hnn : ∀ p ∈ teacherPrefVars input, 0 ≤ p.weight := List.forall_mem_map.mpr fun p _ => hw.priority _
  have hbool : ∀ p ∈ teacherPrefVars input, p.satisfied.eval v = 0 ∨ p.satisfied.eval v = 1 :=
    List.forall_mem_map.mpr fun p hp => satisfied_bool (sat_flatMap.mp h p hp)
  have hterms : ∀ t ∈ (prefSignal input legal).terms, 0 ≤ t.1 ∧ (t.2.eval v = 0 ∨ t.2.eval v = 1) :=
    List.forall_mem_map.mpr fun p hp => ⟨hnn p (List.mem_filter.mp hp).1,hbool p (List.mem_filter.mp hp).1⟩
  obtain ⟨hlo,hhi⟩ := value_rewards hterms
  refine ⟨hlo,hhi.trans ?_⟩
  rw [prefSignal,List.map_map,prefSum]
  exact (List.filter_sublist.map _).sum_le_sum (List.forall_mem_map.mpr hnn)

/-- A difference of counts stays within its bound. -/
theorem spread_bounds {maxVar minVar diff : Var} {upper : ℤ} {counts : List (LinExpr Var)}
    (h : Sat v (spreadConstraints maxVar minVar diff upper counts)) :
    0 ≤ v diff ∧ v diff ≤ upper ∧ ∃ e ∈ counts, v diff ≤ e.eval v := by
  simp only [spreadConstraints,sat_cons,sat_nil,and_true,Constraint.Holds,LinExpr.eval_ofVar,LinExpr.eval_sub] at h
  obtain ⟨-,⟨hmin,-⟩,⟨⟨e,he,hmax⟩,-⟩,-,⟨hlo,hhi⟩,hdiff⟩ := h
  exact ⟨hlo,hhi,e,he,by omega⟩

theorem whenPositive_bounds {weight span : ℤ} {signal : ℤ → SoftSignal} (hw : 0 ≤ weight) (hspan : 0 ≤ span)
    (h : Sat v (whenPositive weight signal).constraints)
    (hsignal : Sat v (signal weight).constraints →
      -(weight * span) ≤ value v (signal weight).terms ∧ value v (signal weight).terms ≤ 0) :
    -(weight * span) ≤ value v (whenPositive weight signal).terms ∧ value v (whenPositive weight signal).terms ≤ 0 := by
  unfold whenPositive at h ⊢
  split
  · rename_i hpos
    rw [if_pos hpos] at h
    exact hsignal h
  · exact ⟨neg_nonpos.mpr (mul_nonneg hw hspan),le_rfl⟩

theorem evenSubjectSpread_bounds {weight : ℤ} (hw : 0 ≤ weight)
    (h : Sat v (evenSubjectSpread input.lessons input.legal weight).constraints) :
    -(weight * spreadSpan input) ≤ value v (evenSubjectSpread input.lessons input.legal weight).terms ∧
      value v (evenSubjectSpread input.lessons input.legal weight).terms ≤ 0 := by
  refine value_penalties hw fun g hg => ?_
  obtain ⟨hlo,hhi,-⟩ := spread_bounds (sat_flatMap.mp h g hg)
  exact ⟨hlo,hhi⟩

theorem teacherGaps_bounds {weight : ℤ} (hw : 0 ≤ weight)
    (h : Sat v (teacherGaps input input.slots input.legal weight).constraints) :
    -(weight * gapSpan input) ≤ value v (teacherGaps input input.slots input.legal weight).terms ∧
      value v (teacherGaps input input.slots input.legal weight).terms ≤ 0 := by
  refine value_penalties hw fun g hg => ?_
  have hg := sat_flatMap.mp h g hg
  simp only [gapConstraints,sat_cons] at hg
  exact hg.2.2.2.2.1

theorem workloadBalance_bounds {weight : ℤ} (hw : 0 ≤ weight) (hA : Sat v (sectionA input.lessons input.legal))
    (h : Sat v (workloadBalance input input.legal weight).constraints) :
    -(weight * workloadSpan input) ≤ value v (workloadBalance input input.legal weight).terms ∧
      value v (workloadBalance input input.legal weight).terms ≤ 0 := by
  unfold workloadBalance at h ⊢
  rw [workloadSpan]
  split
  · rename_i hwork
    rw [if_pos hwork] at h
    obtain ⟨hlo,-,e,he,hle⟩ := spread_bounds h
    obtain ⟨t,-,rfl⟩ := List.mem_map.mp he
    rw [LinExpr.eval_sumOf,byTeacher,sum_byTeacher (PlacementBool.of_sat hA)] at hle
    have hcount := List.countP_le_length (p := fun la : Indexed => la.1.teacherIdx = t) (l := placedRecords v input.legal)
    have hlen := (sound_placedRecords hA).length_le
    exact value_penalty hw hlo (by omega)
  · simp

theorem breakDutyBalance_bounds {weight : ℤ} (hw : 0 ≤ weight)
    (h : Sat v (breakDutyBalance input input.slots weight).constraints) :
    -(weight * dutySpan input) ≤ value v (breakDutyBalance input input.slots weight).terms ∧
      value v (breakDutyBalance input input.slots weight).terms ≤ 0 := by
  unfold breakDutyBalance at h ⊢
  rw [dutySpan]
  split
  · rename_i hduty
    rw [if_pos hduty] at h
    obtain ⟨hlo,hhi,-⟩ := spread_bounds h
    exact value_penalty hw hlo hhi
  · simp

/-! ## The soft terms together -/

theorem spreadSpan_nonneg : 0 ≤ spreadSpan input := List.sum_nonneg (List.forall_mem_map.mpr fun _ _ => by simp)

theorem gapSpan_nonneg : 0 ≤ gapSpan input := List.sum_nonneg (List.forall_mem_map.mpr fun _ _ => by simp)

theorem workloadSpan_nonneg : 0 ≤ workloadSpan input := by
  unfold workloadSpan
  split <;> simp

theorem dutySpan_nonneg : 0 ≤ dutySpan input := by
  unfold dutySpan
  split <;> simp

theorem soft_bounds (hw : NonnegWeights input) (h : Sat v (input.model ++ input.soft.constraints)) :
    prefSum input - softSpan input ≤ value v input.soft.terms ∧ value v input.soft.terms ≤ prefSum input := by
  obtain ⟨hmodel,hsoft⟩ := sat_append.mp h
  have hA := (sat_model_iff.mp hmodel).1
  simp only [SolverInputV2.soft,buildSoftConstraints,softSignals,List.flatMap_cons,List.flatMap_nil,List.append_nil,
    sat_append,value_append] at hsoft ⊢
  obtain ⟨hpref,hspread,hgap,hwork,hduty⟩ := hsoft
  obtain ⟨l1,u1⟩ := prefSignal_bounds hw hpref
  obtain ⟨l2,u2⟩ := whenPositive_bounds hw.evenSubjectSpread spreadSpan_nonneg hspread
    (evenSubjectSpread_bounds hw.evenSubjectSpread)
  obtain ⟨l3,u3⟩ := whenPositive_bounds hw.minimiseTeacherGaps gapSpan_nonneg hgap
    (teacherGaps_bounds hw.minimiseTeacherGaps)
  obtain ⟨l4,u4⟩ := whenPositive_bounds hw.workloadBalance workloadSpan_nonneg hwork
    (workloadBalance_bounds hw.workloadBalance hA)
  obtain ⟨l5,u5⟩ := whenPositive_bounds hw.breakDutyBalance dutySpan_nonneg hduty
    (breakDutyBalance_bounds hw.breakDutyBalance)
  rw [softSpan]
  constructor <;> omega

theorem eval_objective : (objective input).eval v =
    computePlacementWeight input * placements input v + value v input.soft.terms := by
  simp only [objective,LinExpr.eval_add,LinExpr.eval_scale,LinExpr.eval_sumOf,LinExpr.eval_sumAll,List.map_map,
    Function.comp_def,placements,mul_add,value]

theorem placementWeight_pos : 0 < computePlacementWeight input := by
  unfold computePlacementWeight
  omega

/-- When the placement weight exceeds the span of the soft terms, more placements win. -/
theorem objective_lt_of_placements_lt (hw : NonnegWeights input) (hspan : softSpan input < computePlacementWeight input)
    {u : Var → ℤ} (hv : Sat v (input.model ++ input.soft.constraints))
    (hu : Sat u (input.model ++ input.soft.constraints)) (h : placements input u < placements input v) :
    (objective input).eval u < (objective input).eval v := by
  obtain ⟨hlo,-⟩ := soft_bounds hw hv
  obtain ⟨-,hhi⟩ := soft_bounds hw hu
  rw [eval_objective,eval_objective]
  exact weighted_lt (show value u input.soft.terms - value v input.soft.terms ≤ softSpan input by omega) hspan
    placementWeight_pos h

end

/-! ## Where it fails -/

/-- Two lessons of one class and teacher, in the first period of a day and a later one. -/
def twoPeriods (later : ℕ) : SolverInputV2 :=
  { SolverInputV2.empty with
    yearGroups := [⟨"y",[⟨"a"⟩],[.teaching firstDay 0 "09:00" "10:00",.teaching firstDay later "16:00" "17:00"]⟩]
    curriculum := [⟨"y","maths",2,2,false,none,none,none,none⟩]
    teachers := [.plain "m" [⟨"maths","y",none⟩] []]
    rooms := [⟨"hall","hall",false⟩]
    globalSoftWeights := ⟨0,1,0,0,0⟩ }

def firstOnly : Var → ℤ
  | .placement 0 => 1
  | .placed 0 => 1
  | .gapLast 0 0 => 1
  | .gapFirst 0 0 => 1
  | _ => 0

def bothPeriods (later : ℤ) : Var → ℤ
  | .placement 0 => 1
  | .placement 3 => 1
  | .placed 0 => 1
  | .placed 1 => 1
  | .gapLast 0 0 => later + 1
  | .gapFirst 0 0 => 1
  | .gap 0 0 => later - 1
  | _ => 0

/-- A gap of six periods costs more than a placement brings. -/
theorem not_objective_lt_of_placements_lt : ¬∀ input, NonnegWeights input → ∀ v u : Var → ℤ,
    Sat v (input.model ++ input.soft.constraints) → Sat u (input.model ++ input.soft.constraints) →
    placements input u < placements input v → (objective input).eval u < (objective input).eval v := by
  intro h
  have hw : NonnegWeights (twoPeriods 7) :=
    ⟨by intro p; cases p <;> decide,by decide,by decide,by decide,by decide,by decide⟩
  exact absurd (h (twoPeriods 7) hw (bothPeriods 7) firstOnly (by decide) (by decide) (by decide)) (by decide)

theorem twoPeriods_objective_lt :
    (objective (twoPeriods 1)).eval firstOnly < (objective (twoPeriods 1)).eval (bothPeriods 1) :=
  objective_lt_of_placements_lt
    ⟨by intro p; cases p <;> decide,by decide,by decide,by decide,by decide,by decide⟩
    (by decide) (by decide) (by decide) (by decide)

end EduPod.Scheduling
