import EduPod.Foundation.Grouping
import EduPod.Scheduling.Lessons
import EduPod.Scheduling.Slots

/-! # Legal assignments

For each lesson the `(slot, teacher)` choices left after competency, availability and
room type. An assignment carries the lesson, slot and teacher its indices point to.
-/
namespace EduPod.Scheduling
open Grouping FirstFit

structure LegalAssignment where
  lessonIdx : ℕ
  lesson : Lesson
  slot : PhysicalSlot
  teacherIdx : ℕ
  teacher : TeacherInputV2
  deriving DecidableEq

/-- The first competency entry that is decisive for the class: one that pins the teacher to
it, or a pool entry. -/
def decisiveCompetency (teacher : TeacherInputV2) (classId yearGroupId subjectId : String) :
    Option TeacherCompetencyEntry :=
  teacher.competencies.find? fun comp => comp.subjectId = subjectId && comp.yearGroupId = yearGroupId &&
    (comp.classId = some classId || comp.classId = none)

/-- Competent teachers with their indices: the pinned ones if there are any, else the pool. -/
def competentTeachers (teachers : List TeacherInputV2) (classId yearGroupId subjectId : String) :
    List (TeacherInputV2 × ℕ) :=
  let decisive := fun t : TeacherInputV2 × ℕ => decisiveCompetency t.1 classId yearGroupId subjectId
  let pinned := teachers.zipIdx.filter fun t => (decisive t).any fun comp => comp.classId = some classId
  let pooled := teachers.zipIdx.filter fun t => (decisive t).any fun comp => comp.classId = none
  if pinned.isEmpty then pooled else pinned

/-- An empty list of windows means always available. -/
def teacherAvailable (teacher : TeacherInputV2) (weekday : Fin 7) (windowStart windowEnd : String) : Bool :=
  teacher.availability.isEmpty || teacher.availability.any fun av =>
    av.weekday = weekday && av.start ≤ windowStart && windowEnd ≤ av.stop

/-- The rooms outside every closure. -/
def openRooms (input : SolverInputV2) : List RoomInfoV2 :=
  input.rooms.filter fun room => room.roomId ∉ input.roomClosures

def eligibleRooms (input : SolverInputV2) (requiredType : Option String) : List RoomInfoV2 :=
  (openRooms input).filter fun room => requiredType.all fun t => room.roomType = t

/-- The `(slot, teacher)` pairs of a lesson whose teachers, slots and rooms exist. -/
def candidates (input : SolverInputV2) (lesson : Lesson) (slots : List PhysicalSlot) :
    List (PhysicalSlot × TeacherInputV2 × ℕ) :=
  let teachingSlots := teachingSlotsByYearGroup slots lesson.yearGroupId
  teachingSlots.flatMap fun slot =>
    let window := adjacentClassroomBreakWindow slot teachingSlots
    ((competentTeachers input.teachers lesson.classId lesson.yearGroupId lesson.subjectId).filter fun t =>
      teacherAvailable t.1 slot.weekday window.1 window.2).map fun t => (slot,t)

/-- The choices left for one lesson, or the diagnostic that explains why there are none. -/
def pruneLesson (input : SolverInputV2) (slots : List PhysicalSlot) (lesson : Lesson) :
    List (PhysicalSlot × TeacherInputV2 × ℕ) × Option String :=
  if (competentTeachers input.teachers lesson.classId lesson.yearGroupId lesson.subjectId).isEmpty then
    ([],some ("No competent teacher for class=" ++ lesson.classId ++ " subject=" ++ lesson.subjectId))
  else if (teachingSlotsByYearGroup slots lesson.yearGroupId).isEmpty then
    ([],some ("No teaching slots in year group " ++ lesson.yearGroupId))
  else
    match lesson.requiredRoomType with
    | some t =>
      if (eligibleRooms input (some t)).isEmpty then
        ([],some ("No room of required type '" ++ t ++ "' for class=" ++ lesson.classId ++ " subject=" ++
          lesson.subjectId))
      else legalOrDiagnostic lesson (candidates input lesson slots)
    | none => legalOrDiagnostic lesson (candidates input lesson slots)
where
  legalOrDiagnostic (lesson : Lesson) (choices : List (PhysicalSlot × TeacherInputV2 × ℕ)) :=
    if choices.isEmpty then
      ([],some ("No legal (slot, teacher, room) tuple for class=" ++ lesson.classId ++ " subject=" ++
        lesson.subjectId ++ " — every candidate teacher unavailable in every teaching slot"))
    else (choices,none)

/-- The flat list of legal assignments, lesson by lesson. -/
def buildLegalAssignments (input : SolverInputV2) (lessons : List Lesson) (slots : List PhysicalSlot) :
    List LegalAssignment :=
  lessons.zipIdx.flatMap fun l => (pruneLesson input slots l.1).1.map fun c => ⟨l.2,l.1,c.1,c.2.2,c.2.1⟩

def diagnostic (input : SolverInputV2) (slots : List PhysicalSlot) (lesson : Lesson) : Option String :=
  (pruneLesson input slots lesson).2

/-- The legal assignments of one lesson, with their positions in the flat list. -/
def legalByLesson (legal : List LegalAssignment) (lessonIdx : ℕ) : List (LegalAssignment × ℕ) :=
  legal.zipIdx.filter fun la => la.1.lessonIdx = lessonIdx

/-! ## What a legal assignment is -/

theorem mem_candidates {input : SolverInputV2} {lesson : Lesson} {slots : List PhysicalSlot}
    {c : PhysicalSlot × TeacherInputV2 × ℕ} : c ∈ candidates input lesson slots ↔
      c.1 ∈ teachingSlotsByYearGroup slots lesson.yearGroupId ∧
      c.2 ∈ competentTeachers input.teachers lesson.classId lesson.yearGroupId lesson.subjectId ∧
      teacherAvailable c.2.1 c.1.weekday
        (adjacentClassroomBreakWindow c.1 (teachingSlotsByYearGroup slots lesson.yearGroupId)).1
        (adjacentClassroomBreakWindow c.1 (teachingSlotsByYearGroup slots lesson.yearGroupId)).2 = true := by
  obtain ⟨s,t⟩ := c
  simp only [candidates,List.mem_flatMap,List.mem_map,List.mem_filter]
  constructor
  · rintro ⟨s',hs,t',⟨ht,ha⟩,he⟩
    cases he
    exact ⟨hs,ht,ha⟩
  · rintro ⟨hs,ht,ha⟩
    exact ⟨s,hs,t,⟨ht,ha⟩,rfl⟩

theorem mem_pruneLesson {input : SolverInputV2} {slots : List PhysicalSlot} {lesson : Lesson}
    {c : PhysicalSlot × TeacherInputV2 × ℕ} : c ∈ (pruneLesson input slots lesson).1 ↔
      c ∈ candidates input lesson slots ∧
        ∀ t, lesson.requiredRoomType = some t → (eligibleRooms input (some t)) ≠ [] := by
  have hlegal : ∀ choices, (pruneLesson.legalOrDiagnostic lesson choices).1 = choices := by
    intro choices
    unfold pruneLesson.legalOrDiagnostic
    split
    · simp_all
    · rfl
  unfold pruneLesson
  split
  · rename_i he
    rw [List.isEmpty_iff] at he
    simp [mem_candidates,he]
  split
  · rename_i he
    rw [List.isEmpty_iff] at he
    simp [mem_candidates,he]
  split
  · rename_i t ht
    split
    · rename_i he
      simp [ht,List.isEmpty_iff.mp he]
    · rename_i he
      simp only [hlegal,ht,Option.some.injEq,forall_eq',iff_self_and]
      exact fun _ h => he (by simp [h])
  · rename_i ht
    simp [hlegal,ht]

theorem mem_buildLegalAssignments {input : SolverInputV2} {lessons : List Lesson} {slots : List PhysicalSlot}
    {la : LegalAssignment} : la ∈ buildLegalAssignments input lessons slots ↔
      lessons[la.lessonIdx]? = some la.lesson ∧
        (la.slot,la.teacher,la.teacherIdx) ∈ (pruneLesson input slots la.lesson).1 := by
  simp only [buildLegalAssignments,List.mem_flatMap,List.mem_map]
  constructor
  · rintro ⟨l,hl,c,hc,rfl⟩
    exact ⟨List.mem_zipIdx_iff_getElem?.mp hl,hc⟩
  · rintro ⟨hl,hc⟩
    exact ⟨(la.lesson,la.lessonIdx),List.mem_zipIdx_iff_getElem?.mpr hl,_,hc,rfl⟩

theorem mem_competentTeachers {teachers : List TeacherInputV2} {classId yearGroupId subjectId : String}
    {t : TeacherInputV2 × ℕ} (h : t ∈ competentTeachers teachers classId yearGroupId subjectId) :
    teachers[t.2]? = some t.1 := by
  have hz : t ∈ teachers.zipIdx := by
    simp only [competentTeachers] at h
    split at h <;> exact (List.mem_filter.mp h).1
  exact List.mem_zipIdx_iff_getElem?.mp hz

/-- What the fields of a legal assignment are to each other. -/
structure WellFormed (input : SolverInputV2) (lessons : List Lesson) (slots : List PhysicalSlot)
    (la : LegalAssignment) : Prop where
  lesson : lessons[la.lessonIdx]? = some la.lesson
  teacher : input.teachers[la.teacherIdx]? = some la.teacher
  slot : la.slot ∈ teachingSlotsByYearGroup slots la.lesson.yearGroupId
  competent : (la.teacher,la.teacherIdx) ∈
    competentTeachers input.teachers la.lesson.classId la.lesson.yearGroupId la.lesson.subjectId
  available : teacherAvailable la.teacher la.slot.weekday
    (adjacentClassroomBreakWindow la.slot (teachingSlotsByYearGroup slots la.lesson.yearGroupId)).1
    (adjacentClassroomBreakWindow la.slot (teachingSlotsByYearGroup slots la.lesson.yearGroupId)).2 = true
  room : ∀ t, la.lesson.requiredRoomType = some t → eligibleRooms input (some t) ≠ []

theorem wellFormed_of_mem {input : SolverInputV2} {lessons : List Lesson} {slots : List PhysicalSlot}
    {la : LegalAssignment} (h : la ∈ buildLegalAssignments input lessons slots) :
    WellFormed input lessons slots la := by
  obtain ⟨hl,hc⟩ := mem_buildLegalAssignments.mp h
  obtain ⟨hcand,hroom⟩ := mem_pruneLesson.mp hc
  obtain ⟨hs,ht,ha⟩ := mem_candidates.mp hcand
  exact ⟨hl,mem_competentTeachers ht,hs,ht,ha,hroom⟩

/-! ## What the pinned entries take away

Every counter of the source is a count over the pins whose cell was found.
-/

section
def PhysicalSlot.isYard (s : PhysicalSlot) : Bool := s.supervisionMode = .yard

def slotAt (weekday : Fin 7) (periodOrder : ℕ) (s : PhysicalSlot) : Bool :=
  s.weekday = weekday && s.periodOrder = periodOrder

/-- The cell of a pin: the one of its year group, else the first one of any year group. -/
def resolvePin (slots : List PhysicalSlot) (pin : PinnedEntryV2) : Option PhysicalSlot :=
  (pin.yearGroupId.bind fun y =>
    lastWith (fun s => s.yearGroupId = y && slotAt pin.weekday pin.periodOrder s) slots).or
    (slots.find? (slotAt pin.weekday pin.periodOrder))

def resolvedPins (input : SolverInputV2) (slots : List PhysicalSlot) : List (PinnedEntryV2 × PhysicalSlot) :=
  input.pinnedEntries.filterMap fun pin => (resolvePin slots pin).map fun s => (pin,s)

/-- Of several teachers with one id, the last one counts. -/
def teacherIdToIdx (teachers : List TeacherInputV2) (id : String) : Option ℕ :=
  (lastWith (fun t => t.1.staffProfileId = id) teachers.zipIdx).map Prod.snd

def roomIdToIdx (rooms : List RoomInfoV2) (id : String) : Option ℕ :=
  (lastWith (fun r => r.1.roomId = id) rooms.zipIdx).map Prod.snd

def pinTeacher (input : SolverInputV2) (pin : PinnedEntryV2) : Option ℕ :=
  pin.teacherStaffId.bind (teacherIdToIdx input.teachers)

def pinRoom (input : SolverInputV2) (pin : PinnedEntryV2) : Option RoomInfoV2 :=
  (pin.roomId.bind (roomIdToIdx input.rooms)).bind fun k => input.rooms[k]?

section
variable (input : SolverInputV2) (slots : List PhysicalSlot)

def teacherTg (teacherIdx tg : ℕ) : ℕ :=
  (resolvedPins input slots).countP fun p => pinTeacher input p.1 = some teacherIdx && p.2.timeGroupId = tg

def classTg (classId : String) (tg : ℕ) : ℕ :=
  (resolvedPins input slots).countP fun p => !p.2.isYard && p.1.classId = classId && p.2.timeGroupId = tg

def teacherWeek (teacherIdx : ℕ) : ℕ :=
  (resolvedPins input slots).countP fun p => !p.2.isYard && pinTeacher input p.1 = some teacherIdx

def teacherDay (teacherIdx : ℕ) (weekday : Fin 7) : ℕ :=
  (resolvedPins input slots).countP fun p =>
    !p.2.isYard && pinTeacher input p.1 = some teacherIdx && p.2.weekday = weekday

def subjectClassDay (classId subjectId : String) (weekday : Fin 7) : ℕ :=
  (resolvedPins input slots).countP fun p =>
    !p.2.isYard && p.1.classId = classId && p.1.subjectId = some subjectId && p.2.weekday = weekday

def supPerTeacherWeek (teacherIdx : ℕ) : ℕ :=
  (resolvedPins input slots).countP fun p => p.2.isYard && pinTeacher input p.1 = some teacherIdx

def supervisorsAtSlot (breakGroupId : String) (slotId : ℕ) : ℕ :=
  (resolvedPins input slots).countP fun p =>
    p.2.isYard && p.2.breakGroupId = some breakGroupId && p.2.slotId = slotId

/-- The pins in exclusive rooms of a type, open or not. -/
def pinnedRoomLoadAtTg (roomType : String) (tg : ℕ) : ℕ :=
  (resolvedPins input slots).countP fun p =>
    p.2.timeGroupId = tg && (pinRoom input p.1).any fun r => r.isExclusive && r.roomType = roomType

end

/-! ## Where a pin ends up -/

theorem mem_of_resolvePin {slots : List PhysicalSlot} {pin : PinnedEntryV2} {s : PhysicalSlot}
    (h : resolvePin slots pin = some s) :
    s ∈ slots ∧ s.weekday = pin.weekday ∧ s.periodOrder = pin.periodOrder := by
  have hat : ∀ {t : PhysicalSlot}, slotAt pin.weekday pin.periodOrder t = true →
      t.weekday = pin.weekday ∧ t.periodOrder = pin.periodOrder := by
    intro t ht
    simpa [slotAt] using ht
  rcases Option.or_eq_some_iff.mp h with h | ⟨-,h⟩
  · obtain ⟨y,-,h⟩ := Option.bind_eq_some_iff.mp h
    have hs := lastWith_spec h
    rw [Bool.and_eq_true] at hs
    exact ⟨mem_of_lastWith h,hat hs.2⟩
  · exact ⟨List.mem_of_find?_eq_some h,hat (List.find?_some h)⟩

theorem mem_resolvedPins {input : SolverInputV2} {slots : List PhysicalSlot}
    {p : PinnedEntryV2 × PhysicalSlot} : p ∈ resolvedPins input slots ↔
      p.1 ∈ input.pinnedEntries ∧ resolvePin slots p.1 = some p.2 := by
  simp only [resolvedPins,List.mem_filterMap,Option.map_eq_some_iff]
  constructor
  · rintro ⟨pin,hp,s,hs,rfl⟩
    exact ⟨hp,hs⟩
  · rintro ⟨hp,hs⟩
    exact ⟨p.1,hp,p.2,hs,rfl⟩

theorem teacherIdToIdx_spec {teachers : List TeacherInputV2} {id : String} {k : ℕ}
    (h : teacherIdToIdx teachers id = some k) : ∃ t, teachers[k]? = some t ∧ t.staffProfileId = id := by
  obtain ⟨t,ht,rfl⟩ := Option.map_eq_some_iff.mp h
  exact ⟨t.1,List.mem_zipIdx_iff_getElem?.mp (mem_of_lastWith ht),by simpa using lastWith_spec ht⟩

/-- No two teachers have one staff id. -/
def DistinctStaff (input : SolverInputV2) : Prop := (input.teachers.map (·.staffProfileId)).Nodup

instance (input : SolverInputV2) : Decidable (DistinctStaff input) :=
  inferInstanceAs (Decidable (input.teachers.map (·.staffProfileId)).Nodup)

theorem DistinctStaff.idx_eq {input : SolverInputV2} (hd : DistinctStaff input) {j k : ℕ} {t u : TeacherInputV2}
    (hj : input.teachers[j]? = some t) (hk : input.teachers[k]? = some u)
    (hid : t.staffProfileId = u.staffProfileId) : j = k := by
  have h1 : (input.teachers.map (·.staffProfileId))[j]? = some u.staffProfileId := by simp [hj,hid]
  have h2 : (input.teachers.map (·.staffProfileId))[k]? = some u.staffProfileId := by simp [hk]
  exact (List.getElem?_inj (List.getElem?_eq_some_iff.mp h1).1 hd).mp (h1.trans h2.symm)

/-- With distinct staff ids a teacher's id leads back to the teacher. -/
theorem DistinctStaff.teacherIdToIdx_eq {input : SolverInputV2} (hd : DistinctStaff input) {k : ℕ}
    {t : TeacherInputV2} (h : input.teachers[k]? = some t) :
    teacherIdToIdx input.teachers t.staffProfileId = some k := by
  have hsome : (lastWith (fun u => u.1.staffProfileId = t.staffProfileId) input.teachers.zipIdx).isSome :=
    isSome_lastWith.mpr ⟨(t,k),List.mem_zipIdx_iff_getElem?.mpr h,by simp⟩
  obtain ⟨u,hu⟩ := Option.isSome_iff_exists.mp hsome
  have hid : u.1.staffProfileId = t.staffProfileId := by simpa using lastWith_spec hu
  have hk := List.mem_zipIdx_iff_getElem?.mp (mem_of_lastWith hu)
  simp [teacherIdToIdx,hu,hd.idx_eq hk h hid]

theorem DistinctStaff.find?_eq {input : SolverInputV2} (hd : DistinctStaff input) {k : ℕ} {t : TeacherInputV2}
    (h : input.teachers[k]? = some t) :
    input.teachers.find? (fun u => u.staffProfileId = t.staffProfileId) = some t := by
  obtain ⟨u,hu⟩ := Option.isSome_iff_exists.mp
    (List.find?_isSome.mpr ⟨t,List.mem_of_getElem? h,by simp⟩ :
      (input.teachers.find? fun u => u.staffProfileId = t.staffProfileId).isSome)
  obtain ⟨j,hj⟩ := List.mem_iff_getElem?.mp (List.mem_of_find?_eq_some hu)
  obtain rfl := hd.idx_eq hj h (by simpa using List.find?_some hu)
  rw [hu,← hj,h]

end

/-! ## Grids whose overlapping cells share a time group

The solver keeps occupants apart by time group only, so what it guarantees by the clock
depends on the grids: on which cells the single grouping pass puts together.
-/

def slotsOverlap (a b : PhysicalSlot) : Bool :=
  a.weekday = b.weekday && timesOverlap a.startTime a.endTime b.startTime b.endTime

/-- A lesson or a duty can be put in the cell. -/
def PhysicalSlot.Occupiable (s : PhysicalSlot) : Prop :=
  s.isTeaching = true ∨ (s.isYard = true ∧ s.breakGroupId.isSome)

instance (s : PhysicalSlot) : Decidable s.Occupiable :=
  inferInstanceAs (Decidable (s.isTeaching = true ∨ (s.isYard = true ∧ s.breakGroupId.isSome)))

/-- Some pin would be put in the cell. -/
def Pinnable (slots : List PhysicalSlot) (s : PhysicalSlot) : Prop := ∃ pin, resolvePin slots pin = some s

/-- The position of the cell that opened a cell's group: the first opening cell before it
that it overlaps, or the cell itself. -/
def founderOf (yearGroups : List YearGroupInput) (s : PhysicalSlot) : Option ℕ :=
  (founders cellsOverlap [] (rawCells yearGroups).zipIdx)[s.slotId]?

/-- Two overlapping cells have one founder, if one can be filled and the other filled or pinned. -/
def Aligned (yearGroups : List YearGroupInput) : Prop :=
  ∀ s ∈ enumerateSlots yearGroups, ∀ t ∈ enumerateSlots yearGroups, s.Occupiable →
    t.Occupiable ∨ Pinnable (enumerateSlots yearGroups) t → slotsOverlap s t = true →
    founderOf yearGroups s = founderOf yearGroups t

theorem slotsOverlap_comm (a b : PhysicalSlot) : slotsOverlap a b = slotsOverlap b a := by
  simp only [slotsOverlap,timesOverlap,eq_comm (a := a.weekday),Bool.and_comm]

theorem slotId_lt {yearGroups : List YearGroupInput} {s : PhysicalSlot} (hs : s ∈ enumerateSlots yearGroups) :
    s.slotId < (rawCells yearGroups).length := by
  obtain ⟨cell,g,hc,-⟩ := mem_enumerateSlots.mp hs
  exact (List.getElem?_eq_some_iff.mp hc).1

/-- The time group of a slot is that of its founder. -/
theorem timeGroupId_eq_iff {yearGroups : List YearGroupInput} {s t : PhysicalSlot}
    (hs : s ∈ enumerateSlots yearGroups) (ht : t ∈ enumerateSlots yearGroups) :
    s.timeGroupId = t.timeGroupId ↔ founderOf yearGroups s = founderOf yearGroups t := by
  rw [founderOf,founderOf,← firstFit_eq_iff cellsOverlap _ (slotId_lt hs) (slotId_lt ht)]
  obtain ⟨c,g,-,hg,he⟩ := mem_enumerateSlots.mp hs
  obtain ⟨c',g',-,hg',he'⟩ := mem_enumerateSlots.mp ht
  rw [hg,hg',Option.some_inj,he,he']
  rfl

/-- It is enough that any two overlapping cells have one founder. -/
theorem aligned_of_forall {yearGroups : List YearGroupInput} (h : ∀ s ∈ enumerateSlots yearGroups,
    ∀ t ∈ enumerateSlots yearGroups, slotsOverlap s t = true → founderOf yearGroups s = founderOf yearGroups t) :
    Aligned yearGroups := fun s hs t ht _ _ hov => h s hs t ht hov

theorem Aligned.timeGroupId_eq {yearGroups : List YearGroupInput} (ha : Aligned yearGroups) {s t : PhysicalSlot}
    (hs : s ∈ enumerateSlots yearGroups) (ht : t ∈ enumerateSlots yearGroups) (hso : s.Occupiable)
    (hto : t.Occupiable ∨ Pinnable (enumerateSlots yearGroups) t) (hov : slotsOverlap s t = true) :
    s.timeGroupId = t.timeGroupId := (timeGroupId_eq_iff hs ht).mpr (ha s hs t ht hso hto hov)

end EduPod.Scheduling
