import EduPod.Scheduling.Entries

/-! # What the model's constraints say about the chosen assignments

One statement a section: for a 0/1 valuation the section holds exactly when the chosen
legal assignments respect its counts.
-/
namespace EduPod.Scheduling
open Grouping LinearModel

section
variable {input : SolverInputV2} {lessons : List Lesson} {slots : List PhysicalSlot}
  {legal : List LegalAssignment} {v : Var → ℤ}

/-- Every placement variable is 0 or 1. -/
def PlacementBool (v : Var → ℤ) (legal : List LegalAssignment) : Prop :=
  ∀ la ∈ legal.zipIdx, v (placementVar la) = 0 ∨ v (placementVar la) = 1

theorem bool_of_holds {x : Var} (h : (boolVar x).Holds v) : v x = 0 ∨ v x = 1 := by
  simp only [boolVar,Constraint.Holds] at h
  omega

theorem boolVar_holds {x : Var} (h : v x = 0 ∨ v x = 1) : (boolVar x).Holds v := by
  simp only [boolVar,Constraint.Holds]
  omega

/-! ## A: a lesson is placed at most once -/

theorem sat_sectionA_iff : Sat v (sectionA lessons legal) ↔ PlacementBool v legal ∧
    ∀ l < lessons.length, legalByLesson legal l ≠ [] → (v (.placed l) = 0 ∨ v (.placed l) = 1) ∧
      ((placedRecords v legal).countP (fun la => la.1.lessonIdx = l) : ℤ) = v (.placed l) := by
  have hbool : Sat v ((placementVars legal.zipIdx).map boolVar) ↔ PlacementBool v legal := by
    rw [sat_map,placementVars,List.forall_mem_map]
    exact ⟨fun h la hla => bool_of_holds (h la hla),fun h la hla => boolVar_holds (h la hla)⟩
  rw [sectionA,sat_append,hbool,sat_flatMap]
  refine and_congr_right fun hb => forall_congr' fun l => ?_
  rw [List.mem_range]
  refine imp_congr_right fun hl => ?_
  by_cases he : legalByLesson legal l = []
  · simp [he]
  · have hsum : ((placementVars (legalByLesson legal l)).map v).sum =
        ((placedRecords v legal).countP (fun la => la.1.lessonIdx = l) : ℤ) := sum_filter_eq hb _
    simp only [List.isEmpty_iff,he,if_false,sat_cons,sat_nil,and_true,ne_eq,not_false_eq_true,true_implies,
      Constraint.Holds,LinExpr.eval_sumOf,LinExpr.eval_ofVar,hsum]
    exact and_congr_left fun _ => ⟨bool_of_holds,boolVar_holds⟩

theorem PlacementBool.of_sat (h : Sat v (sectionA lessons legal)) : PlacementBool v legal :=
  (sat_sectionA_iff.mp h).1

theorem wellFormed_of_zipIdx {la : Indexed} (h : la ∈ input.legal.zipIdx) :
    WellFormed input input.lessons input.slots la.1 :=
  wellFormed_of_mem (List.mem_of_getElem? (List.mem_zipIdx_iff_getElem?.mp h))

/-- The placed assignments are legal ones of different lessons. -/
structure Sound (input : SolverInputV2) (chosen : List Indexed) : Prop where
  legal : ∀ la ∈ chosen, la ∈ input.legal.zipIdx
  lessons : (chosen.map fun la => la.1.lessonIdx).Nodup

theorem Sound.lesson {placed : List Indexed} (hs : Sound input placed) {la : Indexed} (hla : la ∈ placed) :
    input.lessons[la.1.lessonIdx]? = some la.1.lesson := (wellFormed_of_zipIdx (hs.legal la hla)).lesson

/-- There are not more of them than lessons. -/
theorem Sound.length_le {placed : List Indexed} (hs : Sound input placed) : placed.length ≤ input.lessons.length := by
  have hsub : placed.map (fun la => la.1.lessonIdx) ⊆ List.range input.lessons.length := fun i hi => by
    obtain ⟨la,hla,rfl⟩ := List.mem_map.mp hi
    exact List.mem_range.mpr (List.getElem?_eq_some_iff.mp (hs.lesson hla)).1
  have hle := (List.subperm_of_subset hs.lessons hsub).length_le
  rwa [List.length_map,List.length_range] at hle

/-- The placement section places every lesson at most once. -/
theorem sound_placedRecords (h : Sat v (sectionA input.lessons input.legal)) :
    Sound input (placedRecords v input.legal) := by
  obtain ⟨-,hplaced⟩ := sat_sectionA_iff.mp h
  refine ⟨fun la hla => (mem_chosen.mp hla).1,nodup_map_of_countP_le fun la hla => ?_⟩
  have hlegal := (mem_chosen.mp hla).1
  have hlt := (List.getElem?_eq_some_iff.mp (wellFormed_of_zipIdx hlegal).lesson).1
  have hne : legalByLesson input.legal la.1.lessonIdx ≠ [] :=
    List.ne_nil_of_mem (List.mem_filter.mpr ⟨hlegal,by simp⟩)
  obtain ⟨hbool,hcount⟩ := hplaced _ hlt hne
  omega

/-- The valuation places exactly the picked assignments. -/
structure Places (v : Var → ℤ) (legal : List LegalAssignment) (picks : List Indexed) : Prop where
  legal : ∀ la ∈ picks, la ∈ legal.zipIdx
  placement : ∀ i, v (.placement i) = if i ∈ picks.map Prod.snd then 1 else 0

theorem Places.mem_placed {picks : List Indexed} (h : Places v legal picks) {la : Indexed} :
    la ∈ placedRecords v legal ↔ la ∈ picks := by
  rw [placedRecords,mem_chosen,placementVar,h.placement]
  constructor
  · rintro ⟨hla,hv⟩
    have hidx : la.2 ∈ picks.map Prod.snd := by
      by_contra hno
      simp [hno] at hv
    obtain ⟨m,hm,hm2⟩ := List.mem_map.mp hidx
    have h1 := List.mem_zipIdx_iff_getElem?.mp hla
    have h2 := List.mem_zipIdx_iff_getElem?.mp (h.legal m hm)
    rw [hm2,h1] at h2
    rw [Prod.ext (Option.some.inj h2) hm2.symm]
    exact hm
  · intro hla
    exact ⟨h.legal la hla,if_pos (List.mem_map_of_mem hla)⟩

theorem nodup_placedRecords (v : Var → ℤ) (legal : List LegalAssignment) : (placedRecords v legal).Nodup :=
  (List.Nodup.of_map Prod.snd (by rw [List.zipIdx_map_snd]; exact List.nodup_range' ..)).sublist chosen_sublist

theorem Places.placementBool {picks : List Indexed} (h : Places v legal picks) : PlacementBool v legal := by
  intro la _
  rw [placementVar,h.placement]
  split
  · exact Or.inr rfl
  · exact Or.inl rfl

/-- Picks of different lessons satisfy the placement section. -/
theorem Places.sat_sectionA {picks : List Indexed} (h : Places v legal picks)
    (hplaced : ∀ l, v (.placed l) = if ∃ la ∈ picks, la.1.lessonIdx = l then 1 else 0)
    (hinj : ∀ a ∈ picks, ∀ b ∈ picks, a.1.lessonIdx = b.1.lessonIdx → a = b) : Sat v (sectionA lessons legal) := by
  refine sat_sectionA_iff.mpr ⟨h.placementBool,fun l _ _ => ?_⟩
  have hle : (placedRecords v legal).countP (fun la => la.1.lessonIdx = l) ≤ 1 := by
    refine countP_le_one (nodup_placedRecords v legal) fun a ha b hb hal hbl => ?_
    exact hinj a (h.mem_placed.mp ha) b (h.mem_placed.mp hb)
      ((of_decide_eq_true hal).trans (of_decide_eq_true hbl).symm)
  rw [hplaced]
  split
  · rename_i hex
    obtain ⟨la,hla,hl⟩ := hex
    have hpos : 0 < (placedRecords v legal).countP fun la => la.1.lessonIdx = l :=
      List.countP_pos_iff.mpr ⟨la,h.mem_placed.mpr hla,by simpa using hl⟩
    exact ⟨Or.inr rfl,by omega⟩
  · rename_i hno
    have hzero : (placedRecords v legal).countP (fun la => la.1.lessonIdx = l) = 0 := by
      rw [List.countP_eq_zero]
      intro la hla
      simpa using fun hl => hno ⟨la,h.mem_placed.mp hla,hl⟩
    exact ⟨Or.inl rfl,by omega⟩

/-! ## B to D: capped groups -/

theorem sat_sectionB_iff (hb : PlacementBool v legal) : Sat v (sectionB input slots legal) ↔
    ∀ la ∈ legal.zipIdx, ((placedRecords v legal).countP (fun w => subjectDayKey w = subjectDayKey la) : ℤ) ≤
      max (capLookup legal la.1.lesson.classId la.1.lesson.subjectId -
        subjectClassDay input slots la.1.lesson.classId la.1.lesson.subjectId la.1.slot.weekday) 0 :=
  sat_groupBy_capNonneg_iff subjectDayKey (fun k => capLookup legal k.1 k.2.1 -
    subjectClassDay input slots k.1 k.2.1 k.2.2) hb

theorem sat_sectionC_iff (hb : PlacementBool v legal) : Sat v (sectionC input slots legal) ↔
    ((placedRecords v legal).map classKey).Nodup ∧
      ∀ la ∈ placedRecords v legal, classTg input slots la.1.lesson.classId la.1.slot.timeGroupId = 0 :=
  sat_iff_nodup classKey (fun k => classTg input slots k.1 k.2) hb

theorem sat_sectionD_iff (hb : PlacementBool v legal) : Sat v (sectionD input slots legal) ↔
    ∀ la ∈ legal.zipIdx, ((placedRecords v legal).countP (fun w => roomKey w = roomKey la) : ℤ) ≤
      max (roomCapacity input slots legal la.1.lesson.requiredRoomType la.1.slot.timeGroupId) 0 :=
  sat_groupBy_capPositive_iff roomKey (fun k => roomCapacity input slots legal k.1 k.2) hb

theorem roomCapacity_eq {t : Option String} {tg : ℕ} (h : hasNonexclusive input t = false) :
    roomCapacity input slots legal t tg = exclusiveSupply input t - pinnedRooms input slots t tg := by
  cases t <;> simp only [hasNonexclusive] at h <;> simp [roomCapacity,h,exclusiveSupply,pinnedRooms]

theorem roomCapacity_of_shared {t : Option String} {tg : ℕ} (h : hasNonexclusive input t = true) :
    roomCapacity input slots legal t tg = max (legal.length : ℤ) 1 := by
  cases t <;> simp only [hasNonexclusive] at h <;> simp [roomCapacity,h]

theorem countP_placed_le_length (p : Indexed → Bool) : (placedRecords v legal).countP p ≤ legal.length := by
  refine List.countP_le_length.trans (chosen_sublist.length_le.trans ?_)
  rw [List.length_zipIdx]

/-! ## E: teacher caps -/

theorem sum_byTeacher (hb : PlacementBool v legal) (p : Indexed → Bool) :
    ((placementVars (legal.zipIdx.filter p)).map v).sum = ((placedRecords v legal).countP p : ℤ) :=
  sum_filter_eq hb p

theorem nonneg_of_filter (hb : PlacementBool v legal) (p : Indexed → Bool) :
    ∀ x ∈ placementVars (legal.zipIdx.filter p), 0 ≤ v x := by
  intro x hx
  obtain ⟨la,hla,rfl⟩ := List.mem_map.mp hx
  rcases hb la (List.mem_filter.mp hla).1 with h | h <;> omega

theorem sat_sectionE_iff (hb : PlacementBool v legal) : Sat v (sectionE input slots legal) ↔
    ∀ t ∈ input.teachers.zipIdx,
      (∀ cap, t.1.maxPeriodsPerWeek = some cap →
        ((placedRecords v legal).countP (fun la => la.1.teacherIdx = t.2) : ℤ) ≤
          max (cap - teacherWeek input slots t.2) 0) ∧
      ∀ cap, t.1.maxPeriodsPerDay = some cap → ∀ weekday,
        ((placedRecords v legal).countP (fun la => la.1.teacherIdx = t.2 && la.1.slot.weekday = weekday) : ℤ) ≤
          max (cap - teacherDay input slots t.2 weekday) 0 := by
  rw [sectionE,sat_flatMap]
  refine forall_congr' fun t => imp_congr_right fun _ => ?_
  rw [sat_append]
  refine and_congr ?_ ?_
  · cases hw : t.1.maxPeriodsPerWeek with
    | none => simp [weekCap,hw]
    | some cap =>
      simp only [weekCap,hw,Option.some.injEq,forall_eq']
      rw [byTeacher,sat_capNonneg_iff (nonneg_of_filter hb _),sum_byTeacher hb]
  · cases hd : t.1.maxPeriodsPerDay with
    | none => simp [dayCap,hd]
    | some cap =>
      simp only [dayCap,hd,Option.some.injEq,forall_eq',sat_flatMap,List.mem_finRange,true_implies]
      refine forall_congr' fun weekday => ?_
      rw [byTeacherDay,sat_capNonneg_iff (nonneg_of_filter hb _),sum_byTeacher hb]

/-! ## G and H: duties and teachers -/

theorem supervision_bool (h : Sat v (sectionG input slots)) :
    ∀ e ∈ supervisionVars input slots, v e.2 = 0 ∨ v e.2 = 1 := by
  intro e he
  obtain ⟨bg,hbg,he⟩ := List.mem_flatMap.mp (mem_ofPairs he)
  obtain ⟨s,hs,he⟩ := List.mem_flatMap.mp he
  have hslot := sat_flatMap.mp (sat_flatMap.mp (sat_append.mp h).1 bg hbg) s hs
  have hvars := sat_map.mp (sat_append.mp hslot).1 e.2 (List.mem_map_of_mem he)
  exact bool_of_holds hvars

/-- A duty variable belongs to a yard slot of a break group and to a teacher who is free then. -/
theorem mem_supervisionVars {e : (ℕ × ℕ) × Var} (h : e ∈ supervisionVars input slots) :
    ∃ bg ∈ input.breakGroups.zipIdx, ∃ s ∈ supervisionSlotsByBreakGroup slots bg.1.breakGroupId,
      ∃ t ∈ input.teachers.zipIdx, availableForSupervision t.1 s = true ∧
        e = ((s.slotId,t.2),.supervision bg.2 s.slotId t.2) := by
  obtain ⟨bg,hbg,h⟩ := List.mem_flatMap.mp (mem_ofPairs h)
  obtain ⟨s,hs,h⟩ := List.mem_flatMap.mp h
  obtain ⟨t,ht,rfl⟩ := List.mem_map.mp h
  obtain ⟨ht,ha⟩ := List.mem_filter.mp ht
  exact ⟨bg,hbg,s,hs,t,ht,ha,rfl⟩

def teacherUses (input : SolverInputV2) (slots : List PhysicalSlot) (legal : List LegalAssignment) :
    List TeacherUse := teachingUses legal ++ supervisionUses input slots

theorem use_bool (hb : PlacementBool v legal) (hs : ∀ e ∈ supervisionVars input slots, v e.2 = 0 ∨ v e.2 = 1) :
    ∀ u ∈ teacherUses input slots legal, v u.var = 0 ∨ v u.var = 1 := by
  intro u hu
  rcases List.mem_append.mp hu with hu | hu
  · obtain ⟨la,hla,rfl⟩ := List.mem_map.mp hu
    exact hb la hla
  · obtain ⟨e,he,hu⟩ := List.mem_filterMap.mp hu
    obtain ⟨s,-,rfl⟩ := Option.map_eq_some_iff.mp hu
    exact hs e he

/-- The chosen uses are the placed lessons and the chosen duties. -/
theorem chosen_teacherUses : chosen v (·.var) (teacherUses input slots legal) =
    (placedRecords v legal).map (fun la => ⟨la.1.teacherIdx,la.1.slot.timeGroupId,.placement la.2⟩) ++
    (chosen v Prod.snd (supervisionVars input slots)).filterMap fun e =>
      (slots.find? fun s => s.slotId = e.1.1).map fun s => ⟨e.1.2,s.timeGroupId,e.2⟩ := by
  rw [teacherUses,chosen_append,teachingUses,chosen_map,supervisionUses]
  congr 1
  refine chosen_filterMap (fun e u hu => ?_) _
  obtain ⟨s,-,rfl⟩ := Option.map_eq_some_iff.mp hu
  rfl

theorem sat_sectionH_iff (hu : ∀ u ∈ teacherUses input slots legal, v u.var = 0 ∨ v u.var = 1) :
    Sat v (sectionH input slots legal) ↔
      ((chosen v (·.var) (teacherUses input slots legal)).map fun u => (u.teacherIdx,u.timeGroupId)).Nodup ∧
      ∀ u ∈ chosen v (·.var) (teacherUses input slots legal), teacherTg input slots u.teacherIdx u.timeGroupId = 0 :=
  sat_iff_nodup (fun u : TeacherUse => (u.teacherIdx,u.timeGroupId)) (fun k => teacherTg input slots k.1 k.2) hu

end

/-! ## The whole model -/

theorem sat_model_iff {input : SolverInputV2} {v : Var → ℤ} : Sat v input.model ↔
    Sat v (sectionA input.lessons input.legal) ∧ Sat v (sectionB input input.slots input.legal) ∧
    Sat v (sectionC input input.slots input.legal) ∧ Sat v (sectionD input input.slots input.legal) ∧
    Sat v (sectionE input input.slots input.legal) ∧
    Sat v (sectionF input.lessons input.slots input.legal) ∧
    Sat v (sectionG input input.slots) ∧ Sat v (sectionH input input.slots input.legal) := by
  simp only [SolverInputV2.model,buildModel,sat_append,and_assoc]

end EduPod.Scheduling
