import Mathlib
import EduPod.Foundation.Statistics
import EduPod.Scheduling.ModelFacts
import EduPod.Scheduling.ObjectiveOrder
import EduPod.Scheduling.Solve

/-! # The better of two schedules

The choice counts entries. Pins are on both sides, but filled duties are entries of the
solver's schedule only, so they can stand in for lessons.
-/
namespace EduPod.Scheduling
open LinearModel Grouping Statistics

section
/-- The lessons a schedule places. -/
def placedCount (out : SolverOutputV2) : ℕ := out.entries.countP fun e => !e.isPinned && !e.isSupervision

section
variable {globalSoftScore : List SolverAssignmentV2 → ℤ} {input : SolverInputV2}

theorem length_scheduleEntries {slots : List PhysicalSlot} {placed : List Indexed}
    {duties : List (PhysicalSlot × TeacherInputV2)} : (scheduleEntries input slots placed duties).length =
      (pinnedToAssignments input slots).length + placed.length + duties.length := by
  rw [scheduleEntries,List.length_append,List.length_append,List.length_map,List.length_map]

theorem countP_lessonEntries {slots : List PhysicalSlot} {placed : List Indexed}
    {duties : List (PhysicalSlot × TeacherInputV2)} :
    (scheduleEntries input slots placed duties).countP (fun e => !e.isPinned && !e.isSupervision) = placed.length := by
  have hpins : (pinnedToAssignments input slots).countP (fun e => !e.isPinned && !e.isSupervision) = 0 := by
    rw [pinnedToAssignments,List.countP_map,List.countP_eq_zero]
    simp [pinEntry]
  have hduties : (duties.map fun d => supervisionEntry d.1 d.2).countP (fun e => !e.isPinned && !e.isSupervision) = 0 := by
    rw [List.countP_map,List.countP_eq_zero]
    simp [supervisionEntry]
  have hlessons : (placed.map (lessonEntry (assignRooms input slots placed))).countP
      (fun e => !e.isPinned && !e.isSupervision) = placed.length := by
    rw [List.countP_map,List.countP_eq_length]
    simp [lessonEntry]
  rw [scheduleEntries,List.countP_append,List.countP_append,hpins,hlessons,hduties,Nat.zero_add,Nat.add_zero]

theorem length_greedyRecords : (greedyRecords input).length = (greedyAssign input).length :=
  List.length_insertionSort ..

/-- The choice, with the pins on both sides cancelled. -/
theorem keyLe_iff {v : Var → ℤ} {status status' : CpSatStatus} :
    keyLe (buildGreedyOutput globalSoftScore input status) (buildSolutionOutput globalSoftScore input v status') ↔
      (greedyAssign input).length < (placedRecords v input.legal).length + (filledDuties input input.slots v).length ∨
      ((greedyAssign input).length = (placedRecords v input.legal).length + (filledDuties input input.slots v).length ∧
        globalSoftScore (greedyEntries input) ≤ reportedScore globalSoftScore input v (solutionEntries input v)) := by
  simp only [keyLe,buildGreedyOutput,buildSolutionOutput]
  rw [greedyEntries,solutionEntries,length_scheduleEntries,length_scheduleEntries,length_greedyRecords,
    List.length_nil]
  omega

/-- The schedule handed back places as many lessons as the greedy exactly when the solver's
does or loses the comparison. -/
theorem greedy_le_placedCount_iff (optimal : Bool) (v : Var → ℤ) :
    (greedyAssign input).length ≤ placedCount (bestOutput globalSoftScore input optimal v) ↔
      (greedyAssign input).length ≤ (placedRecords v input.legal).length ∨
      (placedRecords v input.legal).length + (filledDuties input input.slots v).length < (greedyAssign input).length ∨
      ((placedRecords v input.legal).length + (filledDuties input input.slots v).length = (greedyAssign input).length ∧
        reportedScore globalSoftScore input v (solutionEntries input v) < globalSoftScore (greedyEntries input)) := by
  have hsolution : ∀ status, placedCount (buildSolutionOutput globalSoftScore input v status) =
      (placedRecords v input.legal).length := fun _ => countP_lessonEntries
  have hgreedy : ∀ status, placedCount (buildGreedyOutput globalSoftScore input status) =
      (greedyAssign input).length := fun _ => countP_lessonEntries.trans length_greedyRecords
  rw [bestOutput]
  split
  · rename_i hkey
    rw [hsolution]
    rw [keyLe_iff] at hkey
    omega
  · rename_i hkey
    rw [hgreedy]
    rw [keyLe_iff] at hkey
    omega

end

/-- One lesson, while the only teacher has two duties in another year group, the first of
them at the time of the lesson. -/
def dutiesOnly : SolverInputV2 :=
  { SolverInputV2.empty with
    yearGroups := [⟨"y",[⟨"a"⟩],[.teaching firstDay 0 "09:00" "10:00"]⟩,
      ⟨"z",[],[⟨firstDay,0,"09:00","09:30",.breakSupervision,.yard,some "b"⟩,
        ⟨firstDay,1,"10:00","10:15",.breakSupervision,.yard,some "b"⟩]⟩]
    curriculum := [.single "y" "maths"]
    teachers := [.plain "m" [⟨"maths","y",none⟩] []]
    rooms := [⟨"hall","hall",false⟩]
    breakGroups := [⟨"b",1⟩] }

/-- Every duty variable is 1, every placement 0. -/
def dutiesFilled : Var → ℤ
  | .supervision _ _ _ => 1
  | _ => 0

/-- Two filled duties outweigh the lesson of the greedy. -/
theorem not_greedy_le_placedCount :
    ¬∀ (globalSoftScore : List SolverAssignmentV2 → ℤ) (input : SolverInputV2) (optimal : Bool) (v : Var → ℤ),
      Sat v (input.model ++ input.soft.constraints) →
      (greedyAssign input).length ≤ placedCount (bestOutput globalSoftScore input optimal v) := by
  intro h
  exact absurd (h (fun _ => 0) dutiesOnly true dutiesFilled (by decide)) (by decide)

end

/-! ## The reported score

The score of a schedule is the weight of the satisfied preferences and, for every global
signal, its weight times a fraction. The fractions are exact here: rationals, and reals where
a square root is taken. All of them are meant to lie between zero and one. That of the teacher
gaps does so unless the teachers are doubled up more often than they are idle.
-/

section
variable (input : SolverInputV2) (entries : List SolverAssignmentV2)

/-! ## Even spread and room consistency -/

/-- The entries of each section a curriculum row covers, where there are any. -/
def sectionEntries (row : CurriculumEntry) : List (List SolverAssignmentV2) :=
  match input.yearGroups.find? fun yg => yg.yearGroupId = row.yearGroupId with
  | none => []
  | some yg => (yg.sections.map fun s => entries.filter fun e =>
      e.classId = s.classId && e.subjectId = some row.subjectId).filter fun es => !es.isEmpty

def spreadScore (es : List SolverAssignmentV2) : ℚ :=
  if es.length ≤ 1 then 1
  else
    let counts : List ℚ := (groupBy (·.weekday) es).map fun g => (g.2.length : ℚ)
    let maxVariance : ℚ := es.length ^ 2
    if maxVariance = 0 then 1
    else max 0 (1 - varianceAbout ((es.length : ℚ) / counts.length) counts / maxVariance)

def scoreEvenSpread : ℚ :=
  let scores := (input.curriculum.flatMap (sectionEntries input entries)).map spreadScore
  if scores.isEmpty then 1 else mean scores

/-- For each row with a preferred room and each of its sections: all lessons are there. -/
def roomChecks : List Bool :=
  input.curriculum.flatMap fun row => match row.preferredRoomId with
    | none => []
    | some room => (sectionEntries input entries row).map fun es => es.all fun e => e.roomId = some room

def scoreRoomConsistency : ℚ :=
  let checks := roomChecks input entries
  if checks.isEmpty then 1 else (checks.countP id : ℚ) / checks.length

/-! ## Teacher gaps -/

/-- The period orders of every teacher's day with more than one entry. -/
def teacherDays : List (List ℕ) :=
  input.teachers.flatMap fun teacher =>
    ((groupBy (·.weekday) (entries.filter fun e => e.teacherStaffId = some teacher.staffProfileId)).map fun g =>
      g.2.map (·.periodOrder)).filter fun orders => 1 < orders.length

def firstOrder (orders : List ℕ) : ℕ := orders.min?.getD 0

def lastOrder (orders : List ℕ) : ℕ := orders.max?.getD 0

def daySpan (orders : List ℕ) : ℤ := (lastOrder orders : ℤ) - firstOrder orders + 1

def totalGaps (days : List (List ℕ)) : ℤ := (days.map fun orders => daySpan orders - orders.length).sum

def maxPossible (days : List (List ℕ)) : ℤ := (days.map fun orders => daySpan orders - 1).sum

def scoreMinimiseGaps : ℚ :=
  if input.teachers.isEmpty || entries.isEmpty then 1
  else
    let days := teacherDays input entries
    if maxPossible days = 0 then 1 else max 0 (1 - (totalGaps days : ℚ) / maxPossible days)

/-! ## Balance of workload and break duties -/

/-- One minus half the coefficient of variation. -/
noncomputable def balance (counts : List ℕ) : ℝ :=
  let xs : List ℝ := counts.map fun c : ℕ => (c : ℝ)
  if mean xs = 0 then 1 else max 0 (1 - √(varianceAbout (mean xs) xs) / mean xs / 2)

def teachingCounts : List ℕ :=
  input.teachers.map fun t => entries.countP fun e => e.teacherStaffId = some t.staffProfileId && !e.isSupervision

noncomputable def scoreWorkloadBalance : ℝ :=
  if input.teachers.length ≤ 1 then 1 else balance (teachingCounts input entries)

def dutyCounts : List ℕ :=
  (groupBy id ((entries.filter (·.isSupervision)).filterMap (·.teacherStaffId))).map fun g => g.2.length

noncomputable def scoreBreakDutyBalance : ℝ :=
  if (entries.filter (·.isSupervision)).isEmpty then 1
  else if (dutyCounts entries).length ≤ 1 then 1 else balance (dutyCounts entries)

/-! ## The contributions -/

noncomputable def contribution (weight : ℤ) (score : ℝ) : List ℤ :=
  if 0 < weight then [roundHalfEven (score * weight)] else []

noncomputable def globalSoftScore : List ℤ :=
  let g := input.globalSoftWeights
  contribution g.evenSubjectSpread (scoreEvenSpread input entries) ++
  contribution g.minimiseTeacherGaps (scoreMinimiseGaps input entries) ++
  contribution g.roomConsistency (scoreRoomConsistency input entries) ++
  contribution g.workloadBalance (scoreWorkloadBalance input entries) ++
  contribution g.breakDutyBalance (scoreBreakDutyBalance entries)

/-- What `solve` hands back, with the global signals computed exactly. -/
noncomputable def solveScored (result : CpResult) : Except String SolverOutputV2 :=
  solve (fun es => (globalSoftScore input es).sum) input result

/-! ## What the score should be -/

/-- The score is within its bounds and every signal between zero and one. -/
structure ScoreBounded (input : SolverInputV2) (out : SolverOutputV2) : Prop where
  nonneg : 0 ≤ out.score
  le : out.score ≤ out.maxScore
  evenSpread : scoreEvenSpread input out.entries ∈ Set.Icc (0 : ℚ) 1
  minimiseGaps : scoreMinimiseGaps input out.entries ∈ Set.Icc (0 : ℚ) 1
  roomConsistency : scoreRoomConsistency input out.entries ∈ Set.Icc (0 : ℚ) 1
  workloadBalance : scoreWorkloadBalance input out.entries ∈ Set.Icc (0 : ℝ) 1
  breakDutyBalance : scoreBreakDutyBalance out.entries ∈ Set.Icc (0 : ℝ) 1

/-- The periods between a day's first and last one that have no entry. -/
def idlePeriods (orders : List ℕ) : ℕ :=
  (Finset.Icc (firstOrder orders) (lastOrder orders) \ orders.toFinset).card

/-- The entries at a period order the day already has. -/
def doubledPeriods (orders : List ℕ) : ℕ := orders.length - orders.toFinset.card

/-- Every teacher's day stands at one period order, or the days together have at least as many
idle periods as doubled ones. -/
def IdleCoversDoubled : Prop :=
  (∀ orders ∈ teacherDays input entries, ∀ p ∈ orders, ∀ q ∈ orders, p = q) ∨
  ((teacherDays input entries).map doubledPeriods).sum ≤ ((teacherDays input entries).map idlePeriods).sum

end

/-! ## The signals that stay between zero and one -/

section
variable (input : SolverInputV2) (entries : List SolverAssignmentV2)

theorem spreadScore_mem_unit (es : List SolverAssignmentV2) : spreadScore es ∈ Set.Icc (0 : ℚ) 1 := by
  unfold spreadScore
  split
  · exact one_mem_unit
  · dsimp only
    split
    · exact one_mem_unit
    · exact cutOff_mem_unit_iff.mpr (div_nonneg (varianceAbout_nonneg _ _) (sq_nonneg _))

theorem scoreEvenSpread_mem_unit : scoreEvenSpread input entries ∈ Set.Icc (0 : ℚ) 1 := by
  unfold scoreEvenSpread
  dsimp only
  split
  · exact one_mem_unit
  · refine mean_mem_unit fun x hx => ?_
    obtain ⟨es,-,rfl⟩ := List.mem_map.mp hx
    exact spreadScore_mem_unit es

theorem scoreRoomConsistency_mem_unit : scoreRoomConsistency input entries ∈ Set.Icc (0 : ℚ) 1 := by
  unfold scoreRoomConsistency
  dsimp only
  split
  · exact one_mem_unit
  · exact share_mem_unit id _

theorem balance_mem_unit (counts : List ℕ) : balance counts ∈ Set.Icc (0 : ℝ) 1 := by
  unfold balance
  dsimp only
  split
  · exact one_mem_unit
  · have hmean : (0 : ℝ) ≤ mean (counts.map fun c : ℕ => (c : ℝ)) := by
      refine mean_nonneg fun x hx => ?_
      obtain ⟨c,-,rfl⟩ := List.mem_map.mp hx
      exact Nat.cast_nonneg c
    exact cutOff_mem_unit_iff.mpr (div_nonneg (div_nonneg (Real.sqrt_nonneg _) hmean) zero_le_two)

theorem scoreWorkloadBalance_mem_unit : scoreWorkloadBalance input entries ∈ Set.Icc (0 : ℝ) 1 := by
  unfold scoreWorkloadBalance
  split
  · exact one_mem_unit
  · exact balance_mem_unit _

theorem scoreBreakDutyBalance_mem_unit : scoreBreakDutyBalance entries ∈ Set.Icc (0 : ℝ) 1 := by
  unfold scoreBreakDutyBalance
  split
  · exact one_mem_unit
  · split
    · exact one_mem_unit
    · exact balance_mem_unit _

end

/-! ## Gaps: idle and doubled periods -/

section
variable {orders : List ℕ}

theorem firstOrder_spec (h : orders ≠ []) : firstOrder orders ∈ orders ∧ ∀ p ∈ orders, firstOrder orders ≤ p := by
  obtain ⟨a,ha⟩ := Option.isSome_iff_exists.mp (List.isSome_min?_iff.mpr h)
  rw [firstOrder,ha]
  exact List.min?_eq_some_iff.mp ha

theorem lastOrder_spec (h : orders ≠ []) : lastOrder orders ∈ orders ∧ ∀ p ∈ orders, p ≤ lastOrder orders := by
  obtain ⟨a,ha⟩ := Option.isSome_iff_exists.mp (List.isSome_max?_iff.mpr h)
  rw [lastOrder,ha]
  exact List.max?_eq_some_iff.mp ha

/-- A day's span is its entries, less the doubled ones, and its idle periods. -/
theorem daySpan_eq (h : orders ≠ []) : daySpan orders - orders.length = idlePeriods orders - doubledPeriods orders := by
  obtain ⟨hfirst,hfirstLe⟩ := firstOrder_spec h
  obtain ⟨-,hlastLe⟩ := lastOrder_spec h
  have hsub : orders.toFinset ⊆ Finset.Icc (firstOrder orders) (lastOrder orders) := by
    intro p hp
    have hmem := List.mem_toFinset.mp hp
    exact Finset.mem_Icc.mpr ⟨hfirstLe p hmem,hlastLe p hmem⟩
  have hcard := Finset.card_sdiff_add_card_eq_card hsub
  have hlen := List.toFinset_card_le orders
  have hle := hlastLe _ hfirst
  rw [Nat.card_Icc] at hcard
  unfold daySpan idlePeriods doubledPeriods
  omega

/-- The span is one when the day stands at one period order. -/
theorem daySpan_eq_one_iff (h : orders ≠ []) : daySpan orders = 1 ↔ ∀ p ∈ orders, ∀ q ∈ orders, p = q := by
  obtain ⟨hfirst,hfirstLe⟩ := firstOrder_spec h
  obtain ⟨hlast,hlastLe⟩ := lastOrder_spec h
  unfold daySpan
  constructor
  · intro hspan p hp q hq
    have h1 := hfirstLe p hp
    have h2 := hlastLe p hp
    have h3 := hfirstLe q hq
    have h4 := hlastLe q hq
    omega
  · intro hsame
    have heq := hsame _ hfirst _ hlast
    omega

theorem one_le_daySpan (h : orders ≠ []) : 1 ≤ daySpan orders := by
  have hle := (lastOrder_spec h).2 _ (firstOrder_spec h).1
  unfold daySpan
  omega

end

section
variable {days : List (List ℕ)} (h : ∀ orders ∈ days, orders ≠ [])
include h

theorem totalGaps_eq : totalGaps days = (days.map idlePeriods).sum - (days.map doubledPeriods).sum := by
  induction days with
  | nil => rfl
  | cons orders days ih =>
    obtain ⟨hne,hrest⟩ := List.forall_mem_cons.mp h
    have hday := daySpan_eq hne
    have hih := ih hrest
    simp only [totalGaps,List.map_cons,List.sum_cons] at hih ⊢
    omega

theorem maxPossible_nonneg : 0 ≤ maxPossible days := by
  refine List.sum_nonneg fun n hn => ?_
  obtain ⟨orders,horders,rfl⟩ := List.mem_map.mp hn
  have hspan := one_le_daySpan (h orders horders)
  omega

theorem maxPossible_eq_zero_iff : maxPossible days = 0 ↔ ∀ orders ∈ days, ∀ p ∈ orders, ∀ q ∈ orders, p = q := by
  induction days with
  | nil => simp [maxPossible]
  | cons orders days ih =>
    obtain ⟨hne,hrest⟩ := List.forall_mem_cons.mp h
    have hspan := one_le_daySpan hne
    have hnonneg := maxPossible_nonneg hrest
    have hcons : maxPossible (orders :: days) = daySpan orders - 1 + maxPossible days := List.sum_cons
    rw [List.forall_mem_cons,← ih hrest,← daySpan_eq_one_iff hne,hcons]
    omega

end

section
variable {input : SolverInputV2} {entries : List SolverAssignmentV2}

theorem ne_nil_of_mem_teacherDays {orders : List ℕ} (h : orders ∈ teacherDays input entries) : orders ≠ [] := by
  obtain ⟨teacher,-,hmem⟩ := List.mem_flatMap.mp h
  have hlen := of_decide_eq_true (List.mem_filter.mp hmem).2
  rintro rfl
  exact absurd hlen (by decide)

theorem teacherDays_eq_nil (h : (input.teachers.isEmpty || entries.isEmpty) = true) :
    teacherDays input entries = [] := by
  rw [Bool.or_eq_true,List.isEmpty_iff,List.isEmpty_iff] at h
  rcases h with h | h
  · simp [teacherDays,h]
  · simp [teacherDays,h,groupBy]

/-- The gap signal leaves the unit interval just when doubled periods outnumber idle ones. -/
theorem scoreMinimiseGaps_mem_unit_iff :
    scoreMinimiseGaps input entries ∈ Set.Icc (0 : ℚ) 1 ↔ IdleCoversDoubled input entries := by
  have hne : ∀ orders ∈ teacherDays input entries, orders ≠ [] := fun _ => ne_nil_of_mem_teacherDays
  unfold scoreMinimiseGaps IdleCoversDoubled
  split
  · rename_i hempty
    rw [teacherDays_eq_nil hempty]
    exact ⟨fun _ => Or.inl (List.forall_mem_nil _),fun _ => one_mem_unit⟩
  · dsimp only
    rw [← maxPossible_eq_zero_iff hne]
    split
    · rename_i hzero
      exact ⟨fun _ => Or.inl hzero,fun _ => one_mem_unit⟩
    · rename_i hzero
      have hpos : (0 : ℚ) < maxPossible (teacherDays input entries) := by
        have hnonneg := maxPossible_nonneg hne
        exact_mod_cast lt_of_le_of_ne hnonneg (Ne.symm hzero)
      have hgaps := totalGaps_eq hne
      rw [cutOff_mem_unit_iff,le_div_iff₀ hpos,zero_mul,or_iff_right hzero,Int.cast_nonneg_iff]
      omega

/-! ## The score -/

theorem contribution_mem {w : ℤ} (hw : 0 ≤ w) {score : ℝ} (hs : score ∈ Set.Icc (0 : ℝ) 1) :
    0 ≤ (contribution w score).sum ∧ (contribution w score).sum ≤ max w 0 := by
  unfold contribution
  split
  · rw [List.sum_singleton,max_eq_left hw]
    exact round_weighted_mem hs hw
  · exact ⟨le_rfl,le_max_right _ _⟩

theorem ratCast_mem_unit {x : ℚ} (h : x ∈ Set.Icc (0 : ℚ) 1) : (x : ℝ) ∈ Set.Icc (0 : ℝ) 1 :=
  ⟨by exact_mod_cast h.1,by exact_mod_cast h.2⟩

theorem globalSoftScore_bounds (hw : NonnegWeights input) (h : IdleCoversDoubled input entries) :
    0 ≤ (globalSoftScore input entries).sum ∧
      (globalSoftScore input entries).sum ≤ computeMaxScore input - prefSum input := by
  obtain ⟨l1,u1⟩ := contribution_mem hw.evenSubjectSpread (ratCast_mem_unit (scoreEvenSpread_mem_unit input entries))
  obtain ⟨l2,u2⟩ := contribution_mem hw.minimiseTeacherGaps
    (ratCast_mem_unit (scoreMinimiseGaps_mem_unit_iff.mpr h))
  obtain ⟨l3,u3⟩ := contribution_mem hw.roomConsistency
    (ratCast_mem_unit (scoreRoomConsistency_mem_unit input entries))
  obtain ⟨l4,u4⟩ := contribution_mem hw.workloadBalance (scoreWorkloadBalance_mem_unit input entries)
  obtain ⟨l5,u5⟩ := contribution_mem hw.breakDutyBalance (scoreBreakDutyBalance_mem_unit entries)
  simp only [globalSoftScore,List.sum_append,computeMaxScore]
  omega

theorem prefWeight_nonneg (hw : NonnegWeights input) : ∀ p ∈ teacherPrefVars input, 0 ≤ p.weight :=
  List.forall_mem_map.mpr fun _ _ => hw.priority _

theorem satisfiedSum_bounds (hw : NonnegWeights input) (q : TeacherPrefSatVar → Bool) :
    0 ≤ (((teacherPrefVars input).filter q).map (·.weight)).sum ∧
      (((teacherPrefVars input).filter q).map (·.weight)).sum ≤ prefSum input := by
  have hnn := prefWeight_nonneg hw
  constructor
  · refine List.sum_nonneg (List.forall_mem_map.mpr fun p hp => ?_)
    exact hnn p (List.mem_filter.mp hp).1
  · exact (List.filter_sublist.map _).sum_le_sum (List.forall_mem_map.mpr hnn)

theorem greedyOutput_bounds (hw : NonnegWeights input) {status : CpSatStatus} {out : SolverOutputV2}
    (hout : out = buildGreedyOutput (fun es => (globalSoftScore input es).sum) input status)
    (h : IdleCoversDoubled input out.entries) : 0 ≤ out.score ∧ out.score ≤ out.maxScore := by
  subst hout
  obtain ⟨hlo,hhi⟩ := globalSoftScore_bounds hw h
  obtain ⟨hpref,hle⟩ := satisfiedSum_bounds hw fun _ => true
  exact ⟨hlo,hhi.trans (sub_le_self _ (hpref.trans hle))⟩

theorem solutionOutput_bounds (hw : NonnegWeights input) {v : Var → ℤ} {status : CpSatStatus} {out : SolverOutputV2}
    (hout : out = buildSolutionOutput (fun es => (globalSoftScore input es).sum) input v status)
    (h : IdleCoversDoubled input out.entries) : 0 ≤ out.score ∧ out.score ≤ out.maxScore := by
  subst hout
  obtain ⟨hlo,hhi⟩ := globalSoftScore_bounds hw h
  obtain ⟨hpref,hle⟩ := satisfiedSum_bounds hw fun p => p.satisfied.eval v ≠ 0
  simp only [buildSolutionOutput,reportedScore] at hlo hhi ⊢
  omega

/-- Where idle periods cover the doubled ones, every outcome reports a score within its bounds. -/
theorem score_bounds (hw : NonnegWeights input) {result : CpResult} {out : SolverOutputV2}
    (hout : solveScored input result = .ok out) (h : IdleCoversDoubled input out.entries) :
    0 ≤ out.score ∧ out.score ≤ out.maxScore := by
  cases result with
  | modelInvalid => cases hout
  | infeasible =>
    obtain rfl := Except.ok.inj hout
    exact ⟨le_rfl,(satisfiedSum_bounds hw fun _ => true).1.trans (satisfiedSum_bounds hw fun _ => true).2⟩
  | unknown => exact greedyOutput_bounds hw (Except.ok.inj hout).symm h
  | found optimal v =>
    have hbest := Except.ok.inj hout
    rw [bestOutput] at hbest
    split at hbest
    · exact solutionOutput_bounds hw hbest.symm h
    · exact greedyOutput_bounds hw hbest.symm h

end

/-- With nonnegative weights the reported score and all its signals are within their bounds
just when the idle periods of the schedule cover the doubled ones. -/
theorem scoreBounded_iff {input : SolverInputV2} (hw : NonnegWeights input) {result : CpResult} {out : SolverOutputV2}
    (hout : solveScored input result = .ok out) : ScoreBounded input out ↔ IdleCoversDoubled input out.entries := by
  constructor
  · intro h
    exact scoreMinimiseGaps_mem_unit_iff.mp h.minimiseGaps
  · intro h
    obtain ⟨hlo,hhi⟩ := score_bounds hw hout h
    exact ⟨hlo,hhi,scoreEvenSpread_mem_unit input out.entries,scoreMinimiseGaps_mem_unit_iff.mpr h,
      scoreRoomConsistency_mem_unit input out.entries,scoreWorkloadBalance_mem_unit input out.entries,
      scoreBreakDutyBalance_mem_unit out.entries⟩

/-! One teacher and two year groups whose first periods of the first day follow each other. -/

def offsetGrids : SolverInputV2 :=
  { SolverInputV2.empty with
    yearGroups := [⟨"Y",[⟨"a"⟩],[.teaching firstDay 0 "09:00" "10:00",.teaching secondDay 0 "09:00" "10:00",
        .teaching secondDay 1 "10:00" "11:00"]⟩,
      ⟨"Z",[⟨"b"⟩],[.teaching firstDay 0 "10:00" "11:00"]⟩]
    curriculum := [⟨"Y","maths",3,2,false,none,none,none,none⟩,.single "Z" "maths"]
    teachers := [.plain "s" [⟨"maths","Y",none⟩,⟨"maths","Z",none⟩] []]
    rooms := [⟨"hall","hall",false⟩]
    globalSoftWeights := ⟨0,1,0,0,0⟩ }

/-- The same school with one period of maths in the first year group. -/
def oneEach : SolverInputV2 := { offsetGrids with curriculum := [.single "Y" "maths",.single "Z" "maths"] }

theorem nonnegWeights_oneEach : NonnegWeights oneEach :=
  ⟨fun p => by cases p <;> decide,by decide,by decide,by decide,by decide,by decide⟩

theorem scoreBounded_oneEach : ScoreBounded oneEach
    (buildGreedyOutput (fun es => (globalSoftScore oneEach es).sum) oneEach .unknown) :=
  (@scoreBounded_iff oneEach nonnegWeights_oneEach .unknown _ rfl).mpr (Or.inl (by decide +kernel))

theorem sum_globalSoftScore_offsetGrids : (globalSoftScore offsetGrids (greedyEntries offsetGrids)).sum = 2 := by
  have hweights : offsetGrids.globalSoftWeights = ⟨0,1,0,0,0⟩ := rfl
  have hscore : scoreMinimiseGaps offsetGrids (greedyEntries offsetGrids) = 2 := by decide +kernel
  have hround : roundHalfEven ((2 : ℝ) * (1 : ℤ)) = 2 := by
    have htwo : (2 : ℝ) * (1 : ℤ) = ((2 : ℤ) : ℝ) := by norm_num
    rw [htwo,roundHalfEven_intCast]
  simp only [globalSoftScore,hweights,hscore,contribution,lt_irrefl,if_false,zero_lt_one,if_true,List.nil_append,
    List.append_nil,List.sum_singleton,Rat.cast_ofNat,hround]

/-- The greedy places all four lessons. Two of the teacher's lessons share the order 0 of the
first day, no period is idle, and the gap signal is two. -/
theorem not_scoreBounded : ¬∀ (input : SolverInputV2) (result : CpResult) (out : SolverOutputV2),
    NonnegWeights input → solveScored input result = .ok out → ScoreBounded input out := by
  intro h
  have hw : NonnegWeights offsetGrids :=
    ⟨fun p => by cases p <;> decide,by decide,by decide,by decide,by decide,by decide⟩
  have hle := (h offsetGrids .unknown _ hw rfl).le
  have hscore : (buildGreedyOutput (fun es => (globalSoftScore offsetGrids es).sum) offsetGrids .unknown).score = 2 :=
    sum_globalSoftScore_offsetGrids
  rw [hscore] at hle
  exact absurd hle (by decide)

end EduPod.Scheduling
