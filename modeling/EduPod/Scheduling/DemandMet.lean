import EduPod.Scheduling.HintsRun
import EduPod.Scheduling.Solve

/-! # Every period of demand is accounted for

Each lesson becomes an entry or an unassigned row, whatever the outcome, and the lessons of
a class and subject are the periods its row in force leaves after the pins.
-/
namespace EduPod.Scheduling
open Grouping LinearModel

/-! ## What the demand is -/

/-- The row in force: the override of the class, else the baseline of its year group. -/
def effectiveRow (input : SolverInputV2) (yearGroupId classId subjectId : String) : Option CurriculumEntry :=
  (input.curriculum.find? fun e => e.classId = some classId && e.subjectId = subjectId).or
    (input.curriculum.find? fun e => e.yearGroupId = yearGroupId && e.classId = none && e.subjectId = subjectId)

/-- The periods of the row in force without the pinned ones; none without a row. -/
def periodsToPlace (input : SolverInputV2) (yearGroupId classId subjectId : String) : ℕ :=
  ((effectiveRow input yearGroupId classId subjectId).elim 0 (·.minPeriodsPerWeek) -
    pinnedDemand input classId subjectId).toNat

/-- At most one baseline row a year group and subject, and one override row a class and subject. -/
structure OneRowEach (input : SolverInputV2) : Prop where
  baseline : ((input.curriculum.filter fun e => e.classId = none).map fun e => (e.yearGroupId,e.subjectId)).Nodup
  override : (overrideKeys input).Nodup

/-- The classes with the year group of the section that lists them. -/
def listedClasses (input : SolverInputV2) : List (String × String) :=
  input.yearGroups.flatMap fun yg => yg.sections.map fun s => (yg.yearGroupId,s.classId)

/-- Every class is listed once. -/
def ClassesOnce (input : SolverInputV2) : Prop := ((listedClasses input).map Prod.snd).Nodup

/-- An override row carries the year group its class is listed in. -/
def RowsInClassYear (input : SolverInputV2) : Prop :=
  ∀ e ∈ input.curriculum, ∀ k ∈ listedClasses input, e.classId = some k.2 → e.yearGroupId = k.1

/-! ## Lists with one element that counts -/

theorem flatMap_eq_of_unique {α β : Type*} {xs : List α} {f : α → List β} {x : α} (hn : xs.Nodup) (hx : x ∈ xs)
    (h : ∀ y ∈ xs, y ≠ x → f y = []) : xs.flatMap f = f x := by
  induction xs with
  | nil => cases hx
  | cons y ys ih =>
    obtain ⟨hy,hn⟩ := List.nodup_cons.mp hn
    rw [List.flatMap_cons]
    rcases List.mem_cons.mp hx with rfl | hx
    · have hrest : ys.flatMap f = [] := List.flatMap_eq_nil_iff.mpr fun z hz =>
        h z (List.mem_cons_of_mem _ hz) fun he => hy (he ▸ hz)
      rw [hrest,List.append_nil]
    · rw [h y List.mem_cons_self fun he => hy (he ▸ hx),List.nil_append]
      exact ih hn hx fun z hz => h z (List.mem_cons_of_mem _ hz)

theorem filter_eq_find? {α : Type*} {p : α → Bool} {xs : List α} (h : xs.countP p ≤ 1) :
    xs.filter p = (xs.find? p).toList := by
  induction xs with
  | nil => rfl
  | cons x xs ih =>
    rw [List.countP_cons] at h
    by_cases hx : p x = true
    · rw [if_pos hx] at h
      rw [List.filter_cons_of_pos hx,List.find?_cons_of_pos hx,
        List.filter_eq_nil_iff.mpr (List.countP_eq_zero.mp (by omega : xs.countP p = 0))]
      rfl
    · rw [List.filter_cons_of_neg hx,List.find?_cons_of_neg hx]
      exact ih (by rw [if_neg hx] at h; exact h)

section
variable {input : SolverInputV2}

theorem OneRowEach.countP_override (h : OneRowEach input) (classId subjectId : String) :
    input.curriculum.countP (fun e => e.classId = some classId && e.subjectId = subjectId) ≤ 1 := by
  have hcount := List.nodup_iff_count_le_one.mp h.override (classId,subjectId)
  rw [overrideKeys,List.count_filterMap] at hcount
  refine le_trans (List.countP_mono_left fun e _ he => ?_) hcount
  simp only [Bool.and_eq_true,decide_eq_true_eq] at he
  simp [he.1,he.2]

theorem OneRowEach.countP_baseline (h : OneRowEach input) (yearGroupId subjectId : String) :
    input.curriculum.countP (fun e => e.yearGroupId = yearGroupId && e.classId = none && e.subjectId = subjectId) ≤ 1 := by
  have hcount := List.nodup_iff_count_le_one.mp h.baseline (yearGroupId,subjectId)
  rw [List.count_eq_countP,List.countP_map,List.countP_filter] at hcount
  refine le_trans (List.countP_mono_left fun e _ he => ?_) hcount
  simp only [Bool.and_eq_true,decide_eq_true_eq] at he
  simp [he.1.1,he.1.2,he.2]

/-- The rows in force for a class and subject are its row in force. -/
theorem filter_curriculumForClass (h : OneRowEach input) (hyear : RowsInClassYear input) {k : String × String}
    (hk : k ∈ listedClasses input) (subjectId : String) :
    (curriculumForClass input k.2 k.1).filter (fun e => e.subjectId = subjectId) =
      (effectiveRow input k.1 k.2 subjectId).toList := by
  have hown : (input.curriculum.filter fun e => e.yearGroupId = k.1 && e.classId = some k.2).filter
      (fun e => e.subjectId = subjectId) =
        (input.curriculum.find? fun e => e.classId = some k.2 && e.subjectId = subjectId).toList := by
    rw [← filter_eq_find? (h.countP_override k.2 subjectId),List.filter_filter]
    refine List.filter_congr fun e he => ?_
    by_cases hc : e.classId = some k.2
    · simp [hc,hyear e he k hk hc]
    · simp [hc]
  rw [curriculumForClass,List.filter_append,hown,effectiveRow]
  cases hf : input.curriculum.find? fun e => e.classId = some k.2 && e.subjectId = subjectId with
  | some r =>
    have hr := List.find?_some hf
    simp only [Bool.and_eq_true,decide_eq_true_eq] at hr
    have hkey : (k.2,subjectId) ∈ overrideKeys input :=
      List.mem_filterMap.mpr ⟨r,List.mem_of_find?_eq_some hf,by simp [hr.1,hr.2]⟩
    rw [List.filter_filter,List.filter_eq_nil_iff.mpr fun e _ he => ?_]
    · rfl
    · simp only [Bool.and_eq_true,decide_eq_true_eq] at he
      exact he.2.2 (he.1 ▸ hkey)
  | none =>
    have hno : ∀ e ∈ input.curriculum, ¬(e.classId = some k.2 ∧ e.subjectId = subjectId) := by
      intro e he hce
      simpa [hce.1,hce.2] using List.find?_eq_none.mp hf e he
    rw [Option.toList_none,List.nil_append,Option.none_or,← filter_eq_find? (h.countP_baseline k.1 subjectId),
      List.filter_filter]
    refine List.filter_congr fun e _ => ?_
    by_cases hs : e.subjectId = subjectId
    · have hseen : subjectId ∉ (input.curriculum.filter fun e => e.yearGroupId = k.1 && e.classId = some k.2).map
          (·.subjectId) := by
        intro hmem
        obtain ⟨r,hr,hrs⟩ := List.mem_map.mp hmem
        obtain ⟨hr,hrc⟩ := List.mem_filter.mp hr
        simp only [Bool.and_eq_true,decide_eq_true_eq] at hrc
        exact hno r hr ⟨hrc.2,hrs⟩
      have hkeys : (k.2,subjectId) ∉ overrideKeys input := by
        intro hmem
        obtain ⟨r,hr,hrk⟩ := List.mem_filterMap.mp hmem
        obtain ⟨c,hc,hck⟩ := Option.map_eq_some_iff.mp hrk
        obtain ⟨rfl,hrs⟩ := Prod.mk.inj hck
        exact hno r hr ⟨hc,hrs⟩
      simp [hs,hseen,hkeys]
    · simp [hs]

theorem subjectId_effectiveRow {yearGroupId classId subjectId : String} {e : CurriculumEntry}
    (h : effectiveRow input yearGroupId classId subjectId = some e) : e.subjectId = subjectId := by
  rcases Option.or_eq_some_iff.mp h with h | ⟨-,h⟩
  all_goals
    have he := List.find?_some h
    simp only [Bool.and_eq_true,decide_eq_true_eq] at he
    exact he.2

theorem demands_eq : demands input = (listedClasses input).flatMap fun k =>
    (curriculumForClass input k.2 k.1).map fun e => ⟨k.1,k.2,e⟩ := by
  simp only [demands,listedClasses,List.flatMap_assoc,List.flatMap_map]

/-- The lessons of a listed class and subject. -/
theorem countP_lessons (h : OneRowEach input) (honce : ClassesOnce input) (hyear : RowsInClassYear input)
    {k : String × String} (hk : k ∈ listedClasses input) (subjectId : String) :
    input.lessons.countP (fun l => l.classId = k.2 && l.subjectId = subjectId) =
      periodsToPlace input k.1 k.2 subjectId := by
  have hrows : ((demands input).filter fun d => d.classId = k.2 && d.entry.subjectId = subjectId) =
      (effectiveRow input k.1 k.2 subjectId).toList.map fun e => ⟨k.1,k.2,e⟩ := by
    rw [demands_eq,List.filter_flatMap,flatMap_eq_of_unique (List.Nodup.of_map _ honce) hk,List.filter_map,
      ← filter_curriculumForClass h hyear hk]
    · congr 1
      exact List.filter_congr fun e _ => by simp
    · intro k' hk' hne
      rw [List.filter_eq_nil_iff]
      intro d hd hmatch
      obtain ⟨e,-,rfl⟩ := List.mem_map.mp hd
      simp only [Bool.and_eq_true,decide_eq_true_eq] at hmatch
      exact hne (List.inj_on_of_nodup_map honce hk' hk hmatch.1)
  rw [SolverInputV2.lessons,buildLessons,countP_lessonsFrom,hrows,periodsToPlace]
  cases he : effectiveRow input k.1 k.2 subjectId with
  | none => simp
  | some e => simp [remainingPeriods,subjectId_effectiveRow he]

/-! ## What becomes of a lesson -/

/-- Assignments of different lessons count as often as these lessons do. -/
theorem countP_placed_lessons {placed : List Indexed} (hs : Sound input placed) (q : Lesson → Bool) :
    placed.countP (fun la => q la.1.lesson) =
      input.lessons.zipIdx.countP fun l => q l.1 && l.2 ∈ lessonIds placed := by
  have hlesson : ∀ la ∈ placed, (la.1.lesson,la.1.lessonIdx) ∈ input.lessons.zipIdx := fun la hla =>
    List.mem_zipIdx_iff_getElem?.mpr (hs.lesson hla)
  have hperm : ((placed.filter fun la => q la.1.lesson).map fun la => (la.1.lesson,la.1.lessonIdx)).Perm
      (input.lessons.zipIdx.filter fun l => q l.1 && l.2 ∈ lessonIds placed) := by
    refine (List.perm_ext_iff_of_nodup ?_ ?_).mpr fun l => ?_
    · refine List.Nodup.of_map Prod.snd ?_
      rw [List.map_map]
      exact hs.lessons.sublist (List.filter_sublist.map _)
    · refine List.Nodup.filter _ (List.Nodup.of_map Prod.snd ?_)
      rw [List.zipIdx_map_snd]
      exact List.nodup_range' ..
    · simp only [List.mem_map,List.mem_filter,Bool.and_eq_true,decide_eq_true_eq,lessonIds]
      constructor
      · rintro ⟨la,⟨hla,hq⟩,rfl⟩
        exact ⟨hlesson la hla,hq,la,hla,rfl⟩
      · rintro ⟨hl,hq,la,hla,hidx⟩
        have h1 := List.mem_zipIdx_iff_getElem?.mp (hlesson la hla)
        have h2 := List.mem_zipIdx_iff_getElem?.mp hl
        rw [hidx,h2] at h1
        have hl : l.1 = la.1.lesson := Option.some.inj h1
        exact ⟨la,⟨hla,hl ▸ hq⟩,Prod.ext hl.symm hidx⟩
  rw [List.countP_eq_length_filter,List.countP_eq_length_filter,← hperm.length_eq,List.length_map]

/-- The entries of a class and subject that are not pinned. -/
def entryCount (out : SolverOutputV2) (classId subjectId : String) : ℕ :=
  out.entries.countP fun e => !e.isPinned && e.classId = classId && e.subjectId = some subjectId

def unassignedCount (out : SolverOutputV2) (classId subjectId : String) : ℕ :=
  out.unassigned.countP fun u => u.classId = some classId && u.subjectId = some subjectId

theorem countP_scheduleEntries {slots : List PhysicalSlot} {placed : List Indexed}
    {duties : List (PhysicalSlot × TeacherInputV2)} (classId subjectId : String) :
    (scheduleEntries input slots placed duties).countP
        (fun e => !e.isPinned && e.classId = classId && e.subjectId = some subjectId) =
      placed.countP fun la => la.1.lesson.classId = classId && la.1.lesson.subjectId = subjectId := by
  have hpins : (pinnedToAssignments input slots).countP
      (fun e => !e.isPinned && e.classId = classId && e.subjectId = some subjectId) = 0 := by
    rw [pinnedToAssignments,List.countP_map,List.countP_eq_zero]
    simp [pinEntry]
  have hduties : (duties.map fun d => supervisionEntry d.1 d.2).countP
      (fun e => !e.isPinned && e.classId = classId && e.subjectId = some subjectId) = 0 := by
    rw [List.countP_map,List.countP_eq_zero]
    simp [supervisionEntry]
  rw [scheduleEntries,List.countP_append,List.countP_append,hpins,hduties,List.countP_map,Nat.zero_add,Nat.add_zero]
  refine List.countP_congr fun la _ => ?_
  simp only [Function.comp_apply,Bool.and_eq_true,decide_eq_true_eq]
  simp [lessonEntry]

theorem countP_unassignedRows {placed : List ℕ} {reason : ℕ → String} (classId subjectId : String) :
    (unassignedRows input placed reason).countP
        (fun u => u.classId = some classId && u.subjectId = some subjectId) =
      input.lessons.zipIdx.countP fun l => (l.1.classId = classId && l.1.subjectId = subjectId) && l.2 ∉ placed := by
  rw [unassignedRows,List.countP_map,List.countP_filter]
  simp

/-- Every lesson is an entry or an unassigned row. -/
theorem entries_add_unassigned {placed : List Indexed} (hs : Sound input placed) {out : SolverOutputV2}
    {duties : List (PhysicalSlot × TeacherInputV2)} {reason : ℕ → String}
    (he : out.entries = scheduleEntries input input.slots placed duties)
    (hu : out.unassigned = unassignedRows input (lessonIds placed) reason) (classId subjectId : String) :
    entryCount out classId subjectId + unassignedCount out classId subjectId =
      input.lessons.countP fun l => l.classId = classId && l.subjectId = subjectId := by
  rw [entryCount,unassignedCount,he,hu,countP_scheduleEntries,countP_unassignedRows,
    countP_placed_lessons hs fun l => l.classId = classId && l.subjectId = subjectId]
  have hall : input.lessons.countP (fun l => l.classId = classId && l.subjectId = subjectId) =
      input.lessons.zipIdx.countP fun l => l.1.classId = classId && l.1.subjectId = subjectId := by
    conv_lhs => rw [← List.zipIdx_map_fst 0 input.lessons,List.countP_map]
    rfl
  have hsplit := List.countP_eq_countP_filter_add input.lessons.zipIdx
    (fun l => l.1.classId = classId && l.1.subjectId = subjectId) fun l => l.2 ∈ lessonIds placed
  rw [List.countP_filter,List.countP_filter] at hsplit
  rw [hall,hsplit]
  simp

theorem sound_greedyRecords : Sound input (greedyRecords input) :=
  (sound_greedyAssign input).perm (List.perm_insertionSort _ _)

end

/-! ## The outcomes of a solve -/

/-- A schedule the solver finds satisfies the model. -/
def CpResult.Meets (input : SolverInputV2) : CpResult → Prop
  | .found _ v => Sat v input.model
  | _ => True

/-- What is handed back accounts for the demand of every listed class and every subject. -/
def DemandMet (input : SolverInputV2) (out : SolverOutputV2) : Prop :=
  ∀ k ∈ listedClasses input, ∀ subjectId,
    entryCount out k.2 subjectId + unassignedCount out k.2 subjectId = periodsToPlace input k.1 k.2 subjectId

section
variable {globalSoftScore : List SolverAssignmentV2 → ℤ} {input : SolverInputV2}

/-- Whatever the outcome, entries and unassigned rows are the lessons. -/
theorem entryCount_add_unassignedCount {result : CpResult} (hr : result.Meets input) {out : SolverOutputV2}
    (h : solve globalSoftScore input result = .ok out) (classId subjectId : String) :
    entryCount out classId subjectId + unassignedCount out classId subjectId =
      input.lessons.countP fun l => l.classId = classId && l.subjectId = subjectId := by
  cases result with
  | modelInvalid => cases h
  | infeasible =>
    obtain rfl := Except.ok.inj h
    have hnil : pinnedToAssignments input input.slots = scheduleEntries input input.slots [] [] := by
      simp [scheduleEntries]
    exact entries_add_unassigned ⟨by simp,by simp⟩ hnil (by rw [buildInfeasibleOutput,lessonIds,List.map_nil]) classId subjectId
  | unknown =>
    obtain rfl := Except.ok.inj h
    exact entries_add_unassigned sound_greedyRecords rfl (by rw [buildGreedyOutput]) classId subjectId
  | found optimal v =>
    obtain rfl := Except.ok.inj h
    have hsound := sound_placedRecords (sat_model_iff.mp hr).1
    rw [bestOutput]
    split
    · exact entries_add_unassigned hsound rfl (by rw [buildSolutionOutput]) classId subjectId
    · exact entries_add_unassigned sound_greedyRecords rfl (by rw [buildGreedyOutput]) classId subjectId

/-- With one row each, classes listed once and override rows filed under the class's year
group, every outcome accounts for the demand. -/
theorem demandMet (h : OneRowEach input) (honce : ClassesOnce input) (hyear : RowsInClassYear input)
    {result : CpResult} (hr : result.Meets input) {out : SolverOutputV2}
    (hout : solve globalSoftScore input result = .ok out) : DemandMet input out := fun k hk subjectId =>
  (entryCount_add_unassignedCount hr hout k.2 subjectId).trans (countP_lessons h honce hyear hk subjectId)

end

/-! ## Where it fails -/

/-- One class with a row for one maths lesson. -/
def oneLesson : SolverInputV2 :=
  { SolverInputV2.empty with
    yearGroups := [⟨"y",[⟨"a"⟩],[.teaching firstDay 0 "09:00" "10:00"]⟩]
    curriculum := [.single "y" "maths"] }

/-- The class is listed twice. -/
def listedTwice : SolverInputV2 :=
  { oneLesson with yearGroups := [⟨"y",[⟨"a"⟩,⟨"a"⟩],[.teaching firstDay 0 "09:00" "10:00"]⟩] }

/-- The class has an override row that is filed under another year group. -/
def misfiledOverride : SolverInputV2 :=
  { oneLesson with
    curriculum := [.single "y" "maths",{ CurriculumEntry.single "z" "maths" with classId := some "a" }] }

/-- Neither condition can be dropped: a class listed twice has its lessons twice, and a
misfiled override takes the baseline's lessons away and brings none. -/
theorem not_demandMet :
    (¬∀ (globalSoftScore : List SolverAssignmentV2 → ℤ) (input : SolverInputV2) (result : CpResult) out,
      OneRowEach input → RowsInClassYear input → result.Meets input →
      solve globalSoftScore input result = .ok out → DemandMet input out) ∧
    ¬∀ (globalSoftScore : List SolverAssignmentV2 → ℤ) (input : SolverInputV2) (result : CpResult) out,
      OneRowEach input → ClassesOnce input → result.Meets input →
      solve globalSoftScore input result = .ok out → DemandMet input out := by
  constructor
  · intro h
    have hyear : RowsInClassYear listedTwice := by
      simp [RowsInClassYear,listedTwice,oneLesson,CurriculumEntry.single]
    have hmet := h (fun _ => 0) listedTwice .infeasible _ ⟨by decide,by decide⟩ hyear trivial rfl
      ("y","a") (by decide) "maths"
    exact absurd hmet (by decide)
  · intro h
    have hmet := h (fun _ => 0) misfiledOverride .infeasible _ ⟨by decide,by decide⟩
      (show (listedClasses misfiledOverride |>.map Prod.snd).Nodup by decide) trivial rfl ("y","a") (by decide) "maths"
    exact absurd hmet (by decide)

theorem oneLesson_demandMet : DemandMet oneLesson (buildInfeasibleOutput oneLesson) :=
  @demandMet (fun _ => 0) oneLesson ⟨by decide,by decide⟩
    (show (listedClasses oneLesson |>.map Prod.snd).Nodup by decide)
    (by simp [RowsInClassYear,oneLesson,CurriculumEntry.single]) .infeasible trivial _ rfl

end EduPod.Scheduling
