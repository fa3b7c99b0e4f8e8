import EduPod.Scheduling.Probe
import EduPod.Scheduling.Validation

/-! # Pruner and validator on teacher availability

Both ask a lesson's teacher to stay for the classroom breaks next to the lesson. The
pruner looks for them among the teaching cells only, the validator in the whole grid.
-/
namespace EduPod.Scheduling

/-- The cells before and after a lesson's in the validator's grid. -/
def wholeNeighbours (yearGroups : List YearGroupInput) (s : PhysicalSlot) :
    Option PeriodSlotV2 × Option PeriodSlotV2 :=
  neighbours (fun p => p.periodOrder = s.periodOrder)
    (daySlots (getYearGroupGrid yearGroups s.yearGroupId) s.weekday)

/-- The teaching cells before and after a lesson's. -/
def teachingNeighbours (yearGroups : List YearGroupInput) (s : PhysicalSlot) :
    Option PhysicalSlot × Option PhysicalSlot :=
  neighbours (fun t => t.periodOrder = s.periodOrder) (teachingDay (enumerateSlots yearGroups) s)

/-- A start no earlier than the lesson's or a `classroom_next` teaching cell's just before it. -/
def StartReached (yearGroups : List YearGroupInput) (s : PhysicalSlot) (start : String) : Prop :=
  s.startTime ≤ start ∨ ∃ b, (teachingNeighbours yearGroups s).1 = some b ∧
    b.supervisionMode = .classroomNext ∧ b.startTime ≤ start

/-- An end no later than the lesson's or a `classroom_previous` teaching cell's just after it. -/
def StopReached (yearGroups : List YearGroupInput) (s : PhysicalSlot) (stop : String) : Prop :=
  stop ≤ s.endTime ∨ ∃ b, (teachingNeighbours yearGroups s).2 = some b ∧
    b.supervisionMode = .classroomPrevious ∧ stop ≤ b.endTime

/-- The cell of a lesson and the classroom breaks next to it stay within the lesson and its
teaching neighbours. -/
structure BreaksCovered (yearGroups : List YearGroupInput) (s : PhysicalSlot) (cell : PeriodSlotV2) : Prop where
  start : StartReached yearGroups s cell.startTime
  stop : StopReached yearGroups s cell.endTime
  before : ∀ b, (wholeNeighbours yearGroups s).1 = some b → b.supervisionMode = .classroomNext →
    StartReached yearGroups s b.startTime
  after : ∀ b, (wholeNeighbours yearGroups s).2 = some b → b.supervisionMode = .classroomPrevious →
    StopReached yearGroups s b.endTime

/-- No teaching cell has a classroom break beside it that the teaching cells do not show. -/
def NoHiddenBreak (yearGroups : List YearGroupInput) : Prop :=
  ∀ s ∈ enumerateSlots yearGroups, s.isTeaching = true → ∀ cell,
    getSlot (getYearGroupGrid yearGroups s.yearGroupId) s.weekday s.periodOrder = some cell →
    BreaksCovered yearGroups s cell

/-! ## The two windows, end by end -/

/-- The pruner's window of a slot. -/
def prunerWindow (yearGroups : List YearGroupInput) (s : PhysicalSlot) : String × String :=
  adjacentClassroomBreakWindow s (teachingSlotsByYearGroup (enumerateSlots yearGroups) s.yearGroupId)

theorem prunerWindow_start_le_iff {yearGroups : List YearGroupInput} {s : PhysicalSlot} {x : String} :
    (prunerWindow yearGroups s).1 ≤ x ↔ StartReached yearGroups s x := by
  simp only [prunerWindow,adjacentClassroomBreakWindow,StartReached,teachingNeighbours,teachingDay]
  cases (neighbours (fun t : PhysicalSlot => decide (t.periodOrder = s.periodOrder)) _).1 with
  | none => simp
  | some b =>
    by_cases hm : b.supervisionMode = .classroomNext <;> simp [hm]

theorem le_prunerWindow_stop_iff {yearGroups : List YearGroupInput} {s : PhysicalSlot} {x : String} :
    x ≤ (prunerWindow yearGroups s).2 ↔ StopReached yearGroups s x := by
  simp only [prunerWindow,adjacentClassroomBreakWindow,StopReached,teachingNeighbours,teachingDay]
  cases (neighbours (fun t : PhysicalSlot => decide (t.periodOrder = s.periodOrder)) _).2 with
  | none => simp
  | some b =>
    by_cases hm : b.supervisionMode = .classroomPrevious <;> simp [hm]

theorem extendRange_iff (range : String × String) (ab : AdjacentBreak) (x y : String) :
    (x ≤ (extendRange range ab).1 ↔ x ≤ range.1 ∧ (ab.direction = .before → x ≤ ab.slot.startTime)) ∧
    ((extendRange range ab).2 ≤ y ↔ range.2 ≤ y ∧ (ab.direction = .after → ab.slot.endTime ≤ y)) := by
  unfold extendRange
  cases hd : ab.direction with
  | before =>
    by_cases hlt : ab.slot.startTime < range.1
    · simpa [hlt] using fun h : x ≤ _ => h.trans hlt.le
    · simpa [hlt] using fun h : x ≤ _ => h.trans (not_lt.mp hlt)
  | after =>
    by_cases hlt : range.2 < ab.slot.endTime
    · simpa [hlt] using fun h : _ ≤ y => hlt.le.trans h
    · simpa [hlt] using fun h : _ ≤ y => (not_lt.mp hlt).trans h

theorem foldl_extendRange_iff (abs : List AdjacentBreak) (range : String × String) (x y : String) :
    (x ≤ (abs.foldl extendRange range).1 ↔ x ≤ range.1 ∧ ∀ ab ∈ abs, ab.direction = .before → x ≤ ab.slot.startTime) ∧
    ((abs.foldl extendRange range).2 ≤ y ↔ range.2 ≤ y ∧ ∀ ab ∈ abs, ab.direction = .after → ab.slot.endTime ≤ y) := by
  induction abs generalizing range with
  | nil => simp
  | cons ab rest ih =>
    obtain ⟨hstart,hstop⟩ := extendRange_iff range ab x y
    rw [List.foldl_cons,(ih _).1,(ih _).2,hstart,hstop]
    simp only [List.forall_mem_cons,and_assoc,and_self]

/-- The validator's range of a lesson entry, compared with a window. -/
theorem effectiveRange_iff (yearGroups : List YearGroupInput) {s : PhysicalSlot} {a : SolverAssignmentV2}
    (hy : a.yearGroupId = s.yearGroupId) (hw : a.weekday = s.weekday) (hp : a.periodOrder = s.periodOrder)
    (hs : a.isSupervision = false) (cell : PeriodSlotV2) (x y : String) :
    (x ≤ (effectiveRange (getYearGroupGrid yearGroups a.yearGroupId) a cell).1 ↔ x ≤ cell.startTime ∧
      ∀ b, (wholeNeighbours yearGroups s).1 = some b → b.supervisionMode = .classroomNext → x ≤ b.startTime) ∧
    ((effectiveRange (getYearGroupGrid yearGroups a.yearGroupId) a cell).2 ≤ y ↔ cell.endTime ≤ y ∧
      ∀ b, (wholeNeighbours yearGroups s).2 = some b → b.supervisionMode = .classroomPrevious → b.endTime ≤ y) := by
  obtain ⟨hstart,hstop⟩ := foldl_extendRange_iff
    (findAdjacentBreaks (getYearGroupGrid yearGroups s.yearGroupId) s.weekday s.periodOrder)
    (cell.startTime,cell.endTime) x y
  rw [effectiveRange,hy,hw,hp,hs,if_neg Bool.false_ne_true,hstart,hstop]
  simp only [findAdjacentBreaks,wholeNeighbours,List.mem_append,List.mem_map,Option.mem_toList,
    Option.filter_eq_some_iff]
  constructor
  · refine and_congr_right fun _ => ⟨fun h b hb hm => ?_,?_⟩
    · exact h ⟨b,.before⟩ (Or.inr ⟨b,⟨hb,by simpa using hm⟩,rfl⟩) rfl
    · rintro h _ (⟨b,-,rfl⟩ | ⟨b,⟨hb,hm⟩,rfl⟩) hd
      · cases hd
      · exact h b hb (by simpa using hm)
  · refine and_congr_right fun _ => ⟨fun h b hb hm => ?_,?_⟩
    · exact h ⟨b,.after⟩ (Or.inl ⟨b,⟨hb,by simpa using hm⟩,rfl⟩) rfl
    · rintro h _ (⟨b,⟨hb,hm⟩,rfl⟩ | ⟨b,-,rfl⟩) hd
      · exact h b hb (by simpa using hm)
      · cases hd

/-- The pruner's window contains the validator's range exactly when no break is hidden. -/
theorem window_covers_iff {yearGroups : List YearGroupInput} {s : PhysicalSlot} {a : SolverAssignmentV2}
    (hy : a.yearGroupId = s.yearGroupId) (hw : a.weekday = s.weekday) (hp : a.periodOrder = s.periodOrder)
    (hs : a.isSupervision = false) (cell : PeriodSlotV2) :
    ((prunerWindow yearGroups s).1 ≤ (effectiveRange (getYearGroupGrid yearGroups a.yearGroupId) a cell).1 ∧
      (effectiveRange (getYearGroupGrid yearGroups a.yearGroupId) a cell).2 ≤ (prunerWindow yearGroups s).2) ↔
    BreaksCovered yearGroups s cell := by
  obtain ⟨hstart,hstop⟩ := effectiveRange_iff yearGroups hy hw hp hs cell
    (prunerWindow yearGroups s).1 (prunerWindow yearGroups s).2
  rw [hstart,hstop]
  simp only [prunerWindow_start_le_iff,le_prunerWindow_stop_iff]
  constructor
  · rintro ⟨⟨h1,h2⟩,h3,h4⟩
    exact ⟨h1,h3,h2,h4⟩
  · rintro ⟨h1,h3,h2,h4⟩
    exact ⟨⟨h1,h2⟩,h3,h4⟩

/-! ## No violation for a legal assignment -/

theorem SameGrids.getYearGroupGrid_eq {a b : List YearGroupInput} (h : SameGrids a b) (y : String) :
    getYearGroupGrid a y = getYearGroupGrid b y := by
  have hgrid : ∀ ygs : List YearGroupInput, getYearGroupGrid ygs y =
      (((ygs.map fun yg => (yg.yearGroupId,yg.periodGrid)).find? fun g => g.1 = y).map Prod.snd).getD [] := by
    intro ygs
    rw [getYearGroupGrid,List.find?_map,Option.map_map]
    rfl
  rw [hgrid,hgrid,h]

/-- What the validator says about the entry of a legal assignment. -/
theorem violations_eq_nil_iff {input : SolverInputV2} (hd : DistinctStaff input) {la : Indexed}
    (hla : la.1 ∈ input.legal) (rooms : List (ℕ × Option String)) :
    availabilityViolations input (lessonEntry rooms la) = [] ↔ la.1.teacher.staffProfileId = "" ∨
      la.1.teacher.availability = [] ∨ CoversRange input (lessonEntry rooms la) la.1.teacher :=
  availabilityViolations_eq_nil_iff rfl (hd.find?_eq (wellFormed_of_mem hla).teacher)

theorem no_violation_of_covered {input : SolverInputV2} (hd : DistinctStaff input)
    (hn : NoHiddenBreak input.yearGroups) {la : Indexed} (hla : la.1 ∈ input.legal)
    (rooms : List (ℕ × Option String)) : availabilityViolations input (lessonEntry rooms la) = [] := by
  have hwf := wellFormed_of_mem hla
  obtain ⟨hs,hteach,hy⟩ := mem_teachingSlots.mp hwf.slot
  rw [violations_eq_nil_iff hd hla]
  by_cases hav : la.1.teacher.availability = []
  · exact Or.inr (Or.inl hav)
  refine Or.inr (Or.inr fun cell hcell => ?_)
  have hy' : (lessonEntry rooms la).yearGroupId = la.1.slot.yearGroupId := hy.symm
  rw [hy'] at hcell
  obtain ⟨hstart,hstop⟩ := (window_covers_iff hy' rfl rfl rfl cell).mpr (hn _ hs hteach cell hcell)
  have hwin := hwf.available
  rw [← hy,teacherAvailable,Bool.or_eq_true,List.isEmpty_iff,List.any_eq_true] at hwin
  obtain ⟨av,hmem,hcov⟩ := hwin.resolve_left hav
  rw [Bool.and_eq_true,Bool.and_eq_true,decide_eq_true_eq,decide_eq_true_eq,decide_eq_true_eq] at hcov
  exact ⟨av,hmem,hcov.1.1,hcov.1.2.trans hstart,hstop.trans hcov.2⟩

theorem SameGrids.noHiddenBreak {a b : List YearGroupInput} (h : SameGrids a b) (hn : NoHiddenBreak b) :
    NoHiddenBreak a := by
  intro s hs ht cell hcell
  rw [h.enumerateSlots_eq] at hs
  rw [h.getYearGroupGrid_eq] at hcell
  have hstart : StartReached a s = StartReached b s := by
    simp only [funext_iff,StartReached,teachingNeighbours,h.enumerateSlots_eq,implies_true]
  have hstop : StopReached a s = StopReached b s := by
    simp only [funext_iff,StopReached,teachingNeighbours,h.enumerateSlots_eq,implies_true]
  have hwhole : wholeNeighbours a s = wholeNeighbours b s := by
    simp only [wholeNeighbours,h.getYearGroupGrid_eq]
  obtain ⟨h1,h2,h3,h4⟩ := hn s hs ht cell hcell
  rw [← hstart] at h1 h3
  rw [← hstop] at h2 h4
  rw [← hwhole] at h3 h4
  exact ⟨h1,h2,h3,h4⟩

/-- A teacher of one year group, available in exactly one window. -/
def windowTeacher (yearGroups : List YearGroupInput) (s : PhysicalSlot) : TeacherInputV2 :=
  .plain "teacher" [⟨"maths",s.yearGroupId,none⟩]
    [⟨s.weekday,(prunerWindow yearGroups s).1,(prunerWindow yearGroups s).2⟩]

def windowProbe (yearGroups : List YearGroupInput) (s : PhysicalSlot) : SolverInputV2 :=
  probe yearGroups [.single s.yearGroupId "maths"] [windowTeacher yearGroups s] [] []

/-- The teacher of a window is legal in the slot the window was made for. -/
theorem exists_legal_windowProbe {yearGroups : List YearGroupInput} {s : PhysicalSlot}
    (hs : s ∈ enumerateSlots yearGroups) (ht : s.isTeaching = true) :
    ∃ la ∈ (windowProbe yearGroups s).legal, la.slot = s ∧ la.teacher = windowTeacher yearGroups s ∧
      la.lesson.yearGroupId = s.yearGroupId := by
  have hrows : PlainRows [.single s.yearGroupId "maths"] := List.forall_mem_singleton.mpr rfl
  have hpool : ∀ t ∈ [windowTeacher yearGroups s], ∀ c ∈ t.competencies, c.classId = none := by
    simp [windowTeacher,TeacherInputV2.plain]
  have hav : teacherAvailable (windowTeacher yearGroups s) s.weekday (prunerWindow yearGroups s).1
      (prunerWindow yearGroups s).2 = true := by
    simp [teacherAvailable,windowTeacher,TeacherInputV2.plain]
  obtain ⟨la,hla,hslot,-,hteacher,hd⟩ := exists_legal_probe [] (k := 0) hrows
    (List.forall_mem_nil fun pin : PinnedEntryV2 => pin.subjectId = none) hpool hs ht List.mem_cons_self rfl List.mem_cons_self hav
  exact ⟨la,hla,hslot,hteacher,hd.yearGroupId⟩

/-- The grids on which the validator never finds a legal assignment's teacher unavailable,
whatever else the input holds, are those without a hidden classroom break. -/
theorem legal_raises_nothing_iff (yearGroups : List YearGroupInput) :
    (∀ input, SameGrids input.yearGroups yearGroups → DistinctStaff input → ∀ la : Indexed, la.1 ∈ input.legal →
      ∀ rooms, availabilityViolations input (lessonEntry rooms la) = []) ↔ NoHiddenBreak yearGroups := by
  constructor
  · intro h s hs ht cell hcell
    obtain ⟨la,hla,hslot,hteacher,hy⟩ := exists_legal_windowProbe hs ht
    have hd : DistinctStaff (windowProbe yearGroups s) := List.nodup_singleton _
    have hgrid : SameGrids (windowProbe yearGroups s).yearGroups yearGroups := sameGrids_probe
    have hlegal : ((la,0) : Indexed).1 ∈ (windowProbe yearGroups s).legal := hla
    have hnone := (violations_eq_nil_iff hd hlegal []).mp (h _ hgrid hd (la,0) hla [])
    rw [hteacher] at hnone
    have hcov := (hnone.resolve_left (show "teacher" ≠ "" by decide)).resolve_left (List.cons_ne_nil _ _)
    obtain ⟨av,hav,-,hstart,hstop⟩ := hcov cell (by
      rw [hgrid.getYearGroupGrid_eq]
      simpa [lessonEntry,hslot,hy] using hcell)
    obtain rfl := List.mem_singleton.mp hav
    rw [hgrid.getYearGroupGrid_eq] at hstart hstop
    have hw : (lessonEntry [] (la,0)).weekday = s.weekday := congrArg PhysicalSlot.weekday hslot
    have hp : (lessonEntry [] (la,0)).periodOrder = s.periodOrder := congrArg PhysicalSlot.periodOrder hslot
    exact (window_covers_iff hy hw hp rfl cell).mp ⟨hstart,hstop⟩
  · intro hn input hgrid hd la hla rooms
    exact no_violation_of_covered hd (hgrid.noHiddenBreak hn) hla rooms

/-- A lesson before a break that the lesson's teacher supervises in the classroom. -/
def breakAfterLesson : List YearGroupInput :=
  [⟨"Y",[],[.teaching firstDay 0 "09:00" "10:00",⟨firstDay,1,"10:00","10:20",.breakSupervision,.classroomPrevious,none⟩]⟩]

/-- The teacher who leaves at ten is legal for the lesson and the validator objects. -/
theorem not_legal_raises_nothing : ¬∀ input : SolverInputV2, ∀ la : Indexed, la.1 ∈ input.legal → ∀ rooms,
    availabilityViolations input (lessonEntry rooms la) = [] := by
  intro h
  have hone : ((windowProbe breakAfterLesson
      (physicalSlot ⟨"Y",.teaching firstDay 0 "09:00" "10:00"⟩ 0 0)).legal.flatMap fun la => availabilityViolations
        (windowProbe breakAfterLesson (physicalSlot ⟨"Y",.teaching firstDay 0 "09:00" "10:00"⟩ 0 0))
        (lessonEntry [] (la,0))) = [] :=
    List.flatMap_eq_nil_iff.mpr fun la hla => h _ (la,0) hla []
  revert hone
  decide

end EduPod.Scheduling
