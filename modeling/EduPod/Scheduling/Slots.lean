import EduPod.Foundation.FirstFit
import EduPod.Scheduling.Schema

/-! # Physical slots and time groups

The cells of all year-group grids in one list. Cells of one weekday whose clock
intervals overlap are meant to share a time group.
-/
namespace EduPod.Scheduling
open FirstFit

structure PhysicalSlot where
  slotId : ℕ
  yearGroupId : String
  weekday : Fin 7
  periodOrder : ℕ
  startTime : String
  endTime : String
  periodType : PeriodType
  supervisionMode : SupervisionMode
  breakGroupId : Option String
  timeGroupId : ℕ
  deriving DecidableEq

def timesOverlap (aStart aEnd bStart bEnd : String) : Bool := aStart < bEnd && bStart < aEnd

/-- A grid cell with the year group it belongs to. -/
structure RawCell where
  yearGroupId : String
  slot : PeriodSlotV2
  deriving DecidableEq

/-- Same weekday and overlapping clock intervals. -/
def cellsOverlap (a b : RawCell) : Bool :=
  a.slot.weekday = b.slot.weekday &&
    timesOverlap a.slot.startTime a.slot.endTime b.slot.startTime b.slot.endTime

def rawCells (yearGroups : List YearGroupInput) : List RawCell :=
  yearGroups.flatMap fun yg => yg.periodGrid.map fun slot => ⟨yg.yearGroupId,slot⟩

/-- The group of each cell; the unassigned mark of the source is `none`. -/
def buildTimeGroups (cells : List RawCell) : List ℕ :=
  markLoop cellsOverlap 0 cells (List.replicate cells.length none)

def physicalSlot (cell : RawCell) (slotId timeGroupId : ℕ) : PhysicalSlot where
  slotId := slotId
  yearGroupId := cell.yearGroupId
  weekday := cell.slot.weekday
  periodOrder := cell.slot.periodOrder
  startTime := cell.slot.startTime
  endTime := cell.slot.endTime
  periodType := cell.slot.periodType
  supervisionMode := cell.slot.supervisionMode
  breakGroupId := cell.slot.breakGroupId
  timeGroupId := timeGroupId

def enumerateSlots (yearGroups : List YearGroupInput) : List PhysicalSlot :=
  let cells := rawCells yearGroups
  List.zipWith (fun cell timeGroup => physicalSlot cell.1 cell.2 timeGroup) cells.zipIdx
    (buildTimeGroups cells)

def PhysicalSlot.isTeaching (s : PhysicalSlot) : Bool := s.periodType = .teaching

def teachingSlotsByYearGroup (slots : List PhysicalSlot) (yearGroupId : String) : List PhysicalSlot :=
  slots.filter fun s => s.isTeaching && s.yearGroupId = yearGroupId

def supervisionSlotsByBreakGroup (slots : List PhysicalSlot) (breakGroupId : String) : List PhysicalSlot :=
  slots.filter fun s => s.breakGroupId = some breakGroupId && s.supervisionMode = .yard

/-- The element before and the one after the first element that satisfies `p`. -/
def neighbours {α : Type*} (p : α → Bool) (xs : List α) : Option α × Option α :=
  match xs.findIdx? p with
  | none => (none,none)
  | some i => (if i = 0 then none else xs[i - 1]?,xs[i + 1]?)

/-- The window a teacher of a lesson has to be available in: the slot, extended by a
`classroom_next` neighbour before and a `classroom_previous` neighbour after it. -/
def adjacentClassroomBreakWindow (slot : PhysicalSlot) (allSlotsForYg : List PhysicalSlot) :
    String × String :=
  let sameDay := allSlotsForYg.filter fun s => s.weekday = slot.weekday
  let sameDaySorted := sameDay.insertionSort fun a b => a.periodOrder ≤ b.periodOrder
  let (prev,next) := neighbours (fun s => s.periodOrder = slot.periodOrder) sameDaySorted
  let start := match prev with
    | some prev => if prev.supervisionMode = .classroomNext then min slot.startTime prev.startTime
        else slot.startTime
    | none => slot.startTime
  let stop := match next with
    | some next => if next.supervisionMode = .classroomPrevious then max slot.endTime next.endTime
        else slot.endTime
    | none => slot.endTime
  (start,stop)

/-! ## What the slots are -/

@[simp] theorem length_buildTimeGroups (cells : List RawCell) : (buildTimeGroups cells).length = cells.length := by
  rw [buildTimeGroups,markLoop_replicate,length_firstFit]

@[simp] theorem length_enumerateSlots (yearGroups : List YearGroupInput) :
    (enumerateSlots yearGroups).length = (rawCells yearGroups).length := by
  simp [enumerateSlots]

/-- The slot of a cell carries its position and its first-fit group. -/
theorem getElem?_enumerateSlots (yearGroups : List YearGroupInput) (i : ℕ) :
    (enumerateSlots yearGroups)[i]? = (rawCells yearGroups)[i]?.bind fun cell =>
      (firstFit cellsOverlap [] (rawCells yearGroups))[i]?.map fun g => physicalSlot cell i g := by
  rw [enumerateSlots,List.getElem?_zipWith,List.getElem?_zipIdx,buildTimeGroups,markLoop_replicate]
  cases (rawCells yearGroups)[i]? <;>
    cases (firstFit cellsOverlap [] (rawCells yearGroups))[i]? <;> simp

theorem mem_enumerateSlots {yearGroups : List YearGroupInput} {s : PhysicalSlot} :
    s ∈ enumerateSlots yearGroups ↔ ∃ cell g, (rawCells yearGroups)[s.slotId]? = some cell ∧
      (firstFit cellsOverlap [] (rawCells yearGroups))[s.slotId]? = some g ∧
      s = physicalSlot cell s.slotId g := by
  rw [List.mem_iff_getElem?]
  constructor
  · rintro ⟨i,hi⟩
    rw [getElem?_enumerateSlots] at hi
    obtain ⟨cell,hc,hi⟩ := Option.bind_eq_some_iff.mp hi
    obtain ⟨g,hg,rfl⟩ := Option.map_eq_some_iff.mp hi
    exact ⟨cell,g,hc,hg,rfl⟩
  · rintro ⟨cell,g,hc,hg,hs⟩
    refine ⟨s.slotId,?_⟩
    rw [getElem?_enumerateSlots,hc,hg]
    exact congrArg some hs.symm

/-- The slot is the cell's. -/
structure PhysicalSlot.IsAt (s : PhysicalSlot) (cell : RawCell) : Prop where
  yearGroupId : s.yearGroupId = cell.yearGroupId
  weekday : s.weekday = cell.slot.weekday
  periodOrder : s.periodOrder = cell.slot.periodOrder

theorem exists_cell {yearGroups : List YearGroupInput} {s : PhysicalSlot} (h : s ∈ enumerateSlots yearGroups) :
    ∃ cell ∈ rawCells yearGroups, s.IsAt cell := by
  obtain ⟨cell,g,hcell,-,hs⟩ := mem_enumerateSlots.mp h
  refine ⟨cell,List.mem_of_getElem? hcell,?_⟩
  rw [hs]
  exact ⟨rfl,rfl,rfl⟩

theorem exists_slot {yearGroups : List YearGroupInput} {cell : RawCell} (h : cell ∈ rawCells yearGroups) :
    ∃ s ∈ enumerateSlots yearGroups, s.IsAt cell := by
  obtain ⟨i,hi⟩ := List.mem_iff_getElem?.mp h
  have hlt : i < (firstFit cellsOverlap [] (rawCells yearGroups)).length := by
    rw [length_firstFit]
    exact (List.getElem?_eq_some_iff.mp hi).1
  have hgroup := List.getElem?_eq_getElem hlt
  exact ⟨physicalSlot cell i _,mem_enumerateSlots.mpr ⟨cell,_,hi,hgroup,rfl⟩,rfl,rfl,rfl⟩

/-- Two slots with the same id are the same slot. -/
theorem eq_of_slotId_eq {yearGroups : List YearGroupInput} {s t : PhysicalSlot}
    (hs : s ∈ enumerateSlots yearGroups) (ht : t ∈ enumerateSlots yearGroups) (h : s.slotId = t.slotId) :
    s = t := by
  obtain ⟨c,g,hc,hg,hs⟩ := mem_enumerateSlots.mp hs
  obtain ⟨c',g',hc',hg',ht⟩ := mem_enumerateSlots.mp ht
  rw [h,hc'] at hc
  rw [h,hg'] at hg
  rw [hs,ht,← Option.some.inj hc,← Option.some.inj hg,h]

theorem mem_teachingSlots {slots : List PhysicalSlot} {yearGroupId : String} {s : PhysicalSlot} :
    s ∈ teachingSlotsByYearGroup slots yearGroupId ↔
      s ∈ slots ∧ s.isTeaching = true ∧ s.yearGroupId = yearGroupId := by
  simp [teachingSlotsByYearGroup]

end EduPod.Scheduling
