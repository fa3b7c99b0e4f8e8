import EduPod.Scheduling.Entries

/-! # Inputs over a given grid

A grid is judged by the inputs that can come with it. A probe puts one class into every
year group of a grid and asks for chosen subjects.
-/
namespace EduPod.Scheduling

/-- The year groups have the same ids and cells; their sections may differ. -/
def SameGrids (a b : List YearGroupInput) : Prop :=
  a.map (fun yg => (yg.yearGroupId,yg.periodGrid)) = b.map fun yg => (yg.yearGroupId,yg.periodGrid)

def withSection (yg : YearGroupInput) : YearGroupInput := { yg with sections := [⟨"class"⟩] }

/-- The rows, teachers, break groups and pins over the grids, with one hall for everyone. -/
def probe (yearGroups : List YearGroupInput) (rows : List CurriculumEntry) (teachers : List TeacherInputV2)
    (breakGroups : List BreakGroupInput) (pins : List PinnedEntryV2) : SolverInputV2 :=
  { SolverInputV2.empty with
    yearGroups := yearGroups.map withSection
    curriculum := rows
    teachers := teachers
    rooms := [⟨"hall","hall",false⟩]
    breakGroups := breakGroups
    pinnedEntries := pins }

theorem sameGrids_probe {yearGroups : List YearGroupInput} {rows : List CurriculumEntry}
    {teachers : List TeacherInputV2} {breakGroups : List BreakGroupInput} {pins : List PinnedEntryV2} :
    SameGrids (probe yearGroups rows teachers breakGroups pins).yearGroups yearGroups := by
  simp [SameGrids,probe,withSection]

theorem SameGrids.rawCells_eq {a b : List YearGroupInput} (h : SameGrids a b) : rawCells a = rawCells b := by
  have hcells : ∀ ygs : List YearGroupInput, rawCells ygs =
      (ygs.map fun yg => (yg.yearGroupId,yg.periodGrid)).flatMap fun g => g.2.map fun slot => ⟨g.1,slot⟩ := by
    intro ygs
    rw [rawCells,List.flatMap_map]
  rw [hcells,hcells,h]

theorem SameGrids.enumerateSlots_eq {a b : List YearGroupInput} (h : SameGrids a b) :
    enumerateSlots a = enumerateSlots b := by
  simp only [enumerateSlots,h.rawCells_eq]

section
variable {yearGroups : List YearGroupInput} {rows : List CurriculumEntry} {teachers : List TeacherInputV2}
  {breakGroups : List BreakGroupInput} {pins : List PinnedEntryV2}

/-- Every row asks for a plain period of the whole year group. -/
def PlainRows (rows : List CurriculumEntry) : Prop := ∀ row ∈ rows, row = .single row.yearGroupId row.subjectId

theorem slots_probe : (probe yearGroups rows teachers breakGroups pins).slots = enumerateSlots yearGroups :=
  sameGrids_probe.enumerateSlots_eq

/-- A row of a year group is in force for the class there. -/
theorem mem_demands_probe (hr : PlainRows rows) {y subject : String} (hrow : .single y subject ∈ rows)
    {yg : YearGroupInput} (hyg : yg ∈ yearGroups) (hy : yg.yearGroupId = y) :
    ⟨y,"class",.single y subject⟩ ∈ demands (probe yearGroups rows teachers breakGroups pins) := by
  have hkeys : overrideKeys (probe yearGroups rows teachers breakGroups pins) = [] := by
    rw [overrideKeys,List.filterMap_eq_nil_iff]
    intro row hmem
    rw [hr row hmem]
    rfl
  have hown : (probe yearGroups rows teachers breakGroups pins).curriculum.filter
      (fun e => e.yearGroupId = y && e.classId = some "class") = [] := by
    rw [List.filter_eq_nil_iff]
    intro row hmem
    rw [hr row hmem]
    simp [CurriculumEntry.single]
  have hforce : .single y subject ∈ curriculumForClass (probe yearGroups rows teachers breakGroups pins) "class" y := by
    simp only [curriculumForClass,hown,hkeys,List.map_nil,List.nil_append]
    exact List.mem_filter.mpr ⟨hrow,by simp [CurriculumEntry.single]⟩
  refine List.mem_flatMap.mpr ⟨withSection yg,List.mem_map_of_mem hyg,List.mem_flatMap.mpr ⟨⟨"class"⟩,?_,?_⟩⟩
  · exact List.mem_singleton.mpr rfl
  · rw [show (withSection yg).yearGroupId = y from hy]
    exact List.mem_map_of_mem hforce

variable (teachers breakGroups) in
/-- The class gets a lesson of the row, unless a pin already gives it. -/
theorem exists_lesson_probe (hr : PlainRows rows) (hp : ∀ pin ∈ pins, pin.subjectId = none) {y subject : String}
    (hrow : .single y subject ∈ rows) {yg : YearGroupInput} (hyg : yg ∈ yearGroups) (hy : yg.yearGroupId = y) :
    ∃ lesson ∈ (probe yearGroups rows teachers breakGroups pins).lessons,
      OfDemand ⟨y,"class",.single y subject⟩ lesson := by
  refine exists_lesson (mem_demands_probe hr hrow hyg hy) ?_
  have hzero : pinnedDemand (probe yearGroups rows teachers breakGroups pins) "class" subject = 0 := by
    rw [pinnedDemand,List.countP_eq_zero]
    intro pin hpin
    simp [hp pin hpin]
  simp only [remainingPeriods,CurriculumEntry.single,hzero]
  decide

/-- Without teachers reserved for a class, a teacher with the subject is competent. -/
theorem mem_competentTeachers_of_pool (ht : ∀ t ∈ teachers, ∀ c ∈ t.competencies, c.classId = none) {k : ℕ}
    {t : TeacherInputV2} (hk : teachers[k]? = some t) {classId y subject : String}
    (hcomp : ⟨subject,y,none⟩ ∈ t.competencies) : (t,k) ∈ competentTeachers teachers classId y subject := by
  have hnone : ∀ u ∈ teachers.zipIdx, ∀ c, decisiveCompetency u.1 classId y subject = some c → c.classId = none :=
    fun u hu c hc => ht u.1 (List.mem_of_getElem? (List.mem_zipIdx_iff_getElem?.mp hu)) c (List.mem_of_find?_eq_some hc)
  have hmem : (t,k) ∈ teachers.zipIdx := List.mem_zipIdx_iff_getElem?.mpr hk
  obtain ⟨c,hc⟩ : ∃ c, decisiveCompetency t classId y subject = some c :=
    Option.isSome_iff_exists.mp (List.find?_isSome.mpr ⟨_,hcomp,by simp⟩)
  have hpinned : teachers.zipIdx.filter (fun u =>
      (decisiveCompetency u.1 classId y subject).any fun c => c.classId = some classId) = [] := by
    rw [List.filter_eq_nil_iff]
    intro u hu
    cases hd : decisiveCompetency u.1 classId y subject with
    | none => simp
    | some c => simp [hnone u hu c hd]
  simp only [competentTeachers,hpinned,List.isEmpty_nil,if_true,List.mem_filter]
  exact ⟨hmem,by simp [hc,hnone _ hmem c hc]⟩

variable (breakGroups) in
/-- A teacher of the pool who covers a cell's window has a legal assignment there. -/
theorem exists_legal_probe (hr : PlainRows rows) (hp : ∀ pin ∈ pins, pin.subjectId = none)
    (ht : ∀ t ∈ teachers, ∀ c ∈ t.competencies, c.classId = none) {s : PhysicalSlot} {subject : String}
    (hs : s ∈ enumerateSlots yearGroups) (hteach : s.isTeaching = true)
    (hrow : .single s.yearGroupId subject ∈ rows) {k : ℕ} {t : TeacherInputV2} (hk : teachers[k]? = some t)
    (hcomp : ⟨subject,s.yearGroupId,none⟩ ∈ t.competencies)
    (hav : teacherAvailable t s.weekday
      (adjacentClassroomBreakWindow s (teachingSlotsByYearGroup (enumerateSlots yearGroups) s.yearGroupId)).1
      (adjacentClassroomBreakWindow s (teachingSlotsByYearGroup (enumerateSlots yearGroups) s.yearGroupId)).2 = true) :
    ∃ la ∈ (probe yearGroups rows teachers breakGroups pins).legal, la.slot = s ∧ la.teacherIdx = k ∧
      la.teacher = t ∧ OfDemand ⟨s.yearGroupId,"class",.single s.yearGroupId subject⟩ la.lesson := by
  obtain ⟨yg,hyg,hy⟩ : ∃ yg ∈ yearGroups, yg.yearGroupId = s.yearGroupId := by
    obtain ⟨cell,g,hc,-,he⟩ := mem_enumerateSlots.mp hs
    obtain ⟨yg,hyg,hcell⟩ := List.mem_flatMap.mp (List.mem_of_getElem? hc)
    obtain ⟨slot,-,rfl⟩ := List.mem_map.mp hcell
    exact ⟨yg,hyg,by rw [he]; rfl⟩
  obtain ⟨lesson,hl,hd⟩ := exists_lesson_probe teachers breakGroups hr hp hrow hyg hy
  obtain ⟨i,hi⟩ := List.mem_iff_getElem?.mp hl
  have hcompetent : (t,k) ∈ competentTeachers teachers lesson.classId lesson.yearGroupId lesson.subjectId := by
    rw [hd.classId,hd.yearGroupId,hd.subjectId]
    exact mem_competentTeachers_of_pool ht hk hcomp
  refine ⟨⟨i,lesson,s,k,t⟩,?_,rfl,rfl,rfl,hd⟩
  rw [SolverInputV2.legal,mem_buildLegalAssignments]
  refine ⟨hi,mem_pruneLesson.mpr ⟨mem_candidates.mpr ⟨?_,hcompetent,?_⟩,?_⟩⟩
  · rw [slots_probe,hd.yearGroupId]
    exact mem_teachingSlots.mpr ⟨hs,hteach,rfl⟩
  · rw [slots_probe,hd.yearGroupId]
    exact hav
  · intro r hroom
    rw [hd.requiredRoomType] at hroom
    cases hroom

end

end EduPod.Scheduling
