import EduPod.Scheduling.GreedySound

/-! # The greedy's placement as a valuation of the model

Fitting assignments satisfy every section of the model that the greedy is responsible for.
-/
namespace EduPod.Scheduling
open Grouping LinearModel

/-- The sections about placements, and H with no duty filled. -/
def placementModel (input : SolverInputV2) : List (Constraint Var) :=
  sectionA input.lessons input.legal ++ sectionB input input.slots input.legal ++
  sectionC input input.slots input.legal ++ sectionD input input.slots input.legal ++
  sectionE input input.slots input.legal ++ sectionF input.lessons input.slots input.legal ++
  sectionH input input.slots input.legal

/-- The picked assignments as a 0/1 valuation; every other variable is 0. -/
def pickValuation (picks : List Indexed) : Var → ℤ
  | .placement i => if i ∈ picks.map Prod.snd then 1 else 0
  | .placed l => if ∃ la ∈ picks, la.1.lessonIdx = l then 1 else 0
  | _ => 0

theorem Places.perm {v : Var → ℤ} {legal : List LegalAssignment} {picks : List Indexed} (h : Places v legal picks)
    (hn : picks.Nodup) : (placedRecords v legal).Perm picks :=
  (List.perm_ext_iff_of_nodup (nodup_placedRecords v legal) hn).mpr fun _ => h.mem_placed

section
variable {input : SolverInputV2} {picks : List Indexed}

theorem Sound.places (hs : Sound input picks) : Places (pickValuation picks) input.legal picks :=
  ⟨hs.legal,fun _ => rfl⟩

theorem Sound.perm_placed (hs : Sound input picks) :
    (placedRecords (pickValuation picks) input.legal).Perm picks :=
  hs.places.perm (List.Nodup.of_map _ hs.lessons)

theorem sat_sectionA_picks (hs : Sound input picks) :
    Sat (pickValuation picks) (sectionA input.lessons input.legal) :=
  hs.places.sat_sectionA (fun _ => rfl) fun _ ha _ hb hab => List.inj_on_of_nodup_map hs.lessons ha hb hab

variable (input) in
/-- The yard pins count for the greedy only. -/
theorem subjectClassDay_le (k : String × String × Fin 7) :
    (subjectClassDay input input.slots k.1 k.2.1 k.2.2 : ℤ) ≤ (initialState input).subjectClassDayCount k := by
  refine Int.ofNat_le.mpr (List.countP_mono_left fun p _ hp => ?_)
  simp only [Bool.and_eq_true] at hp ⊢
  exact ⟨⟨hp.1.1.2,hp.1.2⟩,hp.2⟩

/-- A count that no pick adds to is zero. -/
theorem countP_eq_zero_of {κ : Type*} [DecidableEq κ] {f : Indexed → κ} {k : κ}
    (h : ¬∃ m ∈ picks, f m = k) : picks.countP (fun m => f m = k) = 0 := by
  rw [List.countP_eq_zero]
  intro m hm
  simpa using fun hk => h ⟨m,hm,hk⟩

theorem sat_sectionB_picks (hs : Sound input picks) (hf : Fits input picks) :
    Sat (pickValuation picks) (sectionB input input.slots input.legal) := by
  refine (sat_sectionB_iff hs.places.placementBool).mpr fun la _ => ?_
  rw [hs.perm_placed.countP_eq]
  by_cases h : ∃ m ∈ picks, subjectDayKey m = subjectDayKey la
  · obtain ⟨m,hm,hk⟩ := h
    have hfit := hf.subject m hm
    have hle := subjectClassDay_le input (subjectDayKey la)
    rw [hk] at hfit
    obtain ⟨hc,hsub⟩ := Prod.mk.inj hk
    rw [hc,(Prod.mk.inj hsub).1] at hfit
    simp only [subjectDayKey] at hle hfit ⊢
    omega
  · rw [countP_eq_zero_of h]
    omega

theorem classTg_eq_zero {classId : String} {tg : ℕ} (h : (classId,tg) ∉ (initialState input).classBusy) :
    classTg input input.slots classId tg = 0 := by
  rw [classTg,List.countP_eq_zero]
  intro p hp hload
  simp only [Bool.and_eq_true,decide_eq_true_eq] at hload
  exact h (List.mem_eraseDups.mpr (List.mem_map.mpr ⟨p,hp,by rw [hload.1.2,hload.2]⟩))

theorem sat_sectionC_picks (hs : Sound input picks) (hf : Fits input picks) :
    Sat (pickValuation picks) (sectionC input input.slots input.legal) := by
  refine (sat_sectionC_iff hs.places.placementBool).mpr ⟨?_,fun la hla => ?_⟩
  · exact (hs.perm_placed.map _).nodup_iff.mpr hf.classes
  · exact classTg_eq_zero (hf.classOpen la (hs.places.mem_placed.mp hla))

theorem sat_sectionD_picks (hs : Sound input picks) (hf : Fits input picks) :
    Sat (pickValuation picks) (sectionD input input.slots input.legal) := by
  refine (sat_sectionD_iff hs.places.placementBool).mpr fun la _ => ?_
  cases hne : hasNonexclusive input la.1.lesson.requiredRoomType with
  | true =>
    have hle : (placedRecords (pickValuation picks) input.legal).countP (fun w => roomKey w = roomKey la) ≤
        input.legal.length := countP_placed_le_length _
    rw [roomCapacity_of_shared hne]
    omega
  | false =>
    rw [hs.perm_placed.countP_eq,roomCapacity_eq hne]
    by_cases h : ∃ m ∈ picks, roomKey m = roomKey la
    · obtain ⟨m,hm,hk⟩ := h
      obtain ⟨ht,htg⟩ := Prod.mk.inj hk
      have hfit := (hf.rooms m hm).resolve_left (by rw [ht,hne]; exact Bool.false_ne_true)
      rw [ht,htg,hk] at hfit
      omega
    · rw [countP_eq_zero_of h]
      omega

theorem sat_sectionE_picks (hs : Sound input picks) (hf : Fits input picks) :
    Sat (pickValuation picks) (sectionE input input.slots input.legal) := by
  refine (sat_sectionE_iff hs.places.placementBool).mpr fun t ht => ?_
  have hteacher : ∀ m ∈ picks, m.1.teacherIdx = t.2 → m.1.teacher = t.1 := by
    intro m hm hk
    have hwf := (wellFormed_of_zipIdx (hs.legal m hm)).teacher
    rw [hk,List.mem_zipIdx_iff_getElem?.mp ht] at hwf
    exact (Option.some.inj hwf).symm
  refine ⟨fun cap hcap => ?_,fun cap hcap weekday => ?_⟩
  · rw [hs.perm_placed.countP_eq]
    by_cases h : ∃ m ∈ picks, m.1.teacherIdx = t.2
    · obtain ⟨m,hm,hk⟩ := h
      have hfit := hf.week m hm cap ((hteacher m hm hk).symm ▸ hcap)
      rw [hk] at hfit
      omega
    · rw [countP_eq_zero_of h]
      omega
  · rw [hs.perm_placed.countP_eq]
    have hkey : picks.countP (fun la => la.1.teacherIdx = t.2 && la.1.slot.weekday = weekday) =
        picks.countP fun la => teacherDayKey la = (t.2,weekday) :=
      List.countP_congr fun la _ => by simp [teacherDayKey]
    rw [hkey]
    by_cases h : ∃ m ∈ picks, teacherDayKey m = (t.2,weekday)
    · obtain ⟨m,hm,hk⟩ := h
      obtain ⟨hidx,hday⟩ := Prod.mk.inj hk
      have hfit := hf.day m hm cap ((hteacher m hm hidx).symm ▸ hcap)
      rw [hk,hidx,hday] at hfit
      omega
    · rw [countP_eq_zero_of h]
      omega

/-- An assignment that is half of a double period is not picked. -/
theorem pickValuation_double (hs : Sound input picks) (hf : Fits input picks) {la : Indexed}
    (hla : la ∈ input.legal.zipIdx) (hd : la.1.lesson.requiresDoublePeriod = true) :
    pickValuation picks (.placement la.2) = 0 := by
  refine if_neg fun hmem => ?_
  have hpicked := hs.places.mem_placed.mp (mem_chosen.mpr ⟨hla,if_pos hmem⟩)
  rw [hf.single la hpicked] at hd
  cases hd

theorem sat_sectionF_picks (hs : Sound input picks) (hf : Fits input picks) :
    Sat (pickValuation picks) (sectionF input.lessons input.slots input.legal) := by
  refine sat_flatMap.mpr fun pair hpair => ?_
  have hzero : ∀ i ∈ pair.2, ∀ la ∈ legalByLesson input.legal i, pickValuation picks (.placement la.2) = 0 := by
    intro i hi la hla
    obtain ⟨hlegal,hidx⟩ := mem_legalByLesson.mp hla
    obtain ⟨g,hg,rfl⟩ := List.mem_map.mp hpair
    obtain ⟨e,he,rfl⟩ := List.mem_map.mp hi
    rw [(mem_groupBy.mp hg).2] at he
    obtain ⟨l,hl,hel⟩ := List.mem_filterMap.mp (List.mem_filter.mp he).1
    obtain ⟨p,hp,rfl⟩ := Option.map_eq_some_iff.mp hel
    have hlesson := (wellFormed_of_zipIdx hlegal).lesson
    rw [hidx] at hlesson
    rw [Option.some.inj ((List.mem_zipIdx_iff_getElem?.mp hl).symm.trans hlesson)] at hp
    obtain ⟨d,-,ho⟩ := ofDemand_buildLessons (List.mem_of_getElem? hlesson)
    exact pickValuation_double hs hf hlegal (by rw [ho.double,hp]; rfl)
  split
  · rename_i anchor follower he
    rw [he,List.forall_mem_cons,List.forall_mem_singleton] at hzero
    obtain ⟨hanchor,hfollower⟩ := hzero
    refine sat_append.mpr ⟨sat_map.mpr fun la hla => ?_,sat_map.mpr fun m hm => ?_⟩
    · split
      · simpa [isZero,Constraint.Holds] using hanchor la hla
      · rename_i m hm
        obtain ⟨next,-,hlast⟩ := Option.bind_eq_some_iff.mp hm
        have hm0 := hfollower m (mem_of_lastWith hlast)
        simp [Constraint.Holds,hanchor la hla,hm0]
    · simpa [isZero,Constraint.Holds] using hfollower m (List.mem_filter.mp hm).1
  · exact sat_nil

theorem pickValuation_supervision {e : (ℕ × ℕ) × Var} (he : e ∈ supervisionVars input input.slots) :
    pickValuation picks e.2 = 0 := by
  obtain ⟨bg,-,s,-,t,-,-,rfl⟩ := mem_supervisionVars he
  rfl

theorem sat_sectionH_picks (hs : Sound input picks) (hf : Fits input picks) :
    Sat (pickValuation picks) (sectionH input input.slots input.legal) := by
  have hnone : chosen (pickValuation picks) Prod.snd (supervisionVars input input.slots) = [] := by
    rw [chosen,List.filter_eq_nil_iff]
    intro e he
    simp [pickValuation_supervision he]
  have hbool : ∀ u ∈ teacherUses input input.slots input.legal,
      pickValuation picks u.var = 0 ∨ pickValuation picks u.var = 1 :=
    use_bool hs.places.placementBool fun e he => Or.inl (pickValuation_supervision he)
  rw [sat_sectionH_iff hbool,chosen_teacherUses,hnone,List.filterMap_nil,List.append_nil]
  refine ⟨?_,List.forall_mem_map.mpr fun la hla => ?_⟩
  · rw [List.map_map]
    exact (hs.perm_placed.map _).nodup_iff.mpr hf.teachers
  · exact hf.teacherOpen la (hs.places.mem_placed.mp hla)

/-- Fitting assignments satisfy the model. -/
theorem sat_picks (hs : Sound input picks) (hf : Fits input picks) :
    Sat (pickValuation picks) (placementModel input) := by
  simp only [placementModel,sat_append]
  exact ⟨⟨⟨⟨⟨⟨sat_sectionA_picks hs,sat_sectionB_picks hs hf⟩,sat_sectionC_picks hs hf⟩,sat_sectionD_picks hs hf⟩,
    sat_sectionE_picks hs hf⟩,sat_sectionF_picks hs hf⟩,sat_sectionH_picks hs hf⟩

/-- When every commit of the greedy leaves the pinned load room and none is half of a double
period, what it places satisfies the model. -/
theorem greedyAssign_satisfies (hg : GuardedHistory input (greedyRun input)) :
    Sat (pickValuation (greedyAssign input)) (placementModel input) :=
  sat_picks (sound_greedyAssign input) (fits_greedyAssign hg)

end

/-! ## Where it fails -/

/-- Two consecutive teaching cells and a row that asks for one double period. -/
def oneDouble : SolverInputV2 :=
  { SolverInputV2.empty with
    yearGroups := [⟨"y",[⟨"a"⟩],[.teaching firstDay 0 "09:00" "10:00",.teaching firstDay 1 "10:00" "11:00"]⟩]
    curriculum := [⟨"y","science",2,2,true,some 1,none,none,none⟩]
    teachers := [.plain "s" [⟨"science","y",none⟩] []]
    rooms := [⟨"hall","hall",false⟩] }

/-- The greedy places one half of the double period alone. -/
theorem not_greedyAssign_satisfies :
    ¬∀ input, Sat (pickValuation (greedyAssign input)) (placementModel input) := by
  intro h
  exact absurd (h oneDouble) (by decide)

/-- Two cells, one of them pinned for the class and the teacher, who teaches two periods at most. -/
def onePinned : SolverInputV2 :=
  { SolverInputV2.empty with
    yearGroups := [⟨"y",[⟨"a"⟩],[.teaching firstDay 0 "09:00" "10:00",.teaching firstDay 1 "10:00" "11:00"]⟩]
    curriculum := [.single "y" "maths"]
    teachers := [{ TeacherInputV2.plain "m" [⟨"maths","y",none⟩] [] with maxPeriodsPerWeek := some 2 }]
    rooms := [⟨"hall","hall",false⟩]
    pinnedEntries := [⟨"a",some "art",some "y",none,some "m",firstDay,0⟩] }

theorem onePinned_satisfies : GuardedHistory onePinned (greedyRun onePinned) ∧
    Sat (pickValuation (greedyAssign onePinned)) (placementModel onePinned) :=
  ⟨by decide,greedyAssign_satisfies (by decide)⟩

end EduPod.Scheduling
