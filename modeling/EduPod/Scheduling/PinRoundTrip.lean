import Mathlib
import EduPod.Scheduling.Assembly
import EduPod.Scheduling.Scores

/-! # Pins there and back

A pin of a version 3 input names its slot by an index. On the way through the solver the index
becomes a cell, the cell a slot, the slot an entry and the entry an index again. Pins that name
a slot come back as they went in; one that names none is given the cell of the default.
-/
namespace EduPod.Scheduling
open Grouping

/-! ## The version 3 output -/

inductive SolveStatusV3
  | optimal | feasible | infeasible | unknown
  deriving DecidableEq

structure AssignmentV3 where
  classId : String
  subjectId : Option String
  yearGroupId : String
  periodIndex : ℕ
  weekday : Fin 7
  periodOrder : ℕ
  startTime : String
  endTime : String
  teacherStaffId : Option String
  roomId : Option String
  isPinned : Bool
  isSupervision : Bool
  breakGroupId : Option String
  deriving DecidableEq

structure UnassignedDemandV3 where
  classId : String
  subjectId : Option String
  yearGroupId : String
  lessonIndex : ℕ
  reason : String
  deriving DecidableEq

structure SolverOutputV3 where
  solveStatus : SolveStatusV3
  entries : List AssignmentV3
  unassigned : List UnassignedDemandV3
  softScore : ℤ
  softMaxScore : ℤ

def statusMap : CpSatStatus → SolveStatusV3
  | .optimal => .optimal
  | .feasible => .feasible
  | .infeasible => .infeasible
  | .unknown => .unknown

/-- The index of an entry's cell, else that of any year group's slot at the time, else 0. -/
def periodIndexOf (v3 : SolverInputV3) (e : SolverAssignmentV2) : ℕ :=
  ((slotLookup v3.periodSlots e.yearGroupId e.weekday e.periodOrder).or
    (fallbackLookup v3.periodSlots e.weekday e.periodOrder)).getD 0

def assignmentV3 (v3 : SolverInputV3) (e : SolverAssignmentV2) : AssignmentV3 where
  classId := e.classId
  subjectId := e.subjectId
  yearGroupId := e.yearGroupId
  periodIndex := periodIndexOf v3 e
  weekday := e.weekday
  periodOrder := e.periodOrder
  startTime := e.startTime
  endTime := e.endTime
  teacherStaffId := e.teacherStaffId
  roomId := e.roomId
  isPinned := e.isPinned
  isSupervision := e.isSupervision
  breakGroupId := e.breakGroupId

def v2OutputToV3 (v2 : SolverOutputV2) (v3 : SolverInputV3) : SolverOutputV3 where
  solveStatus := statusMap v2.cpSatStatus
  entries := v2.entries.map (assignmentV3 v3)
  unassigned := v2.unassigned.zipIdx.map fun u =>
    ⟨u.1.classId.getD "",u.1.subjectId,u.1.yearGroupId,u.2,u.1.reason⟩
  softScore := v2.score
  softMaxScore := v2.maxScore

/-- `v2_output_to_v3(solve(v3_input_to_v2(input)))`. -/
noncomputable def solveV3 (v3 : SolverInputV3) (result : CpResult) : Except String SolverOutputV3 :=
  (solveScored (v3InputToV2 v3) result).map fun v2 => v2OutputToV3 v2 v3

/-! ## What should come back -/

/-- Slots have an index and a cell of their own. -/
structure DistinctSlots (v3 : SolverInputV3) : Prop where
  indices : (v3.periodSlots.map (·.index)).Nodup
  cells : (v3.periodSlots.map fun s => (s.yearGroupId,s.slot.weekday,s.slot.periodOrder)).Nodup

/-- What a pin says: class, subject, teacher, room and slot. -/
structure PinContent where
  classId : String
  subjectId : Option String
  teacherStaffId : Option String
  roomId : Option String
  periodIndex : ℕ
  deriving DecidableEq

def PinnedAssignmentV3.content (p : PinnedAssignmentV3) : PinContent :=
  ⟨p.classId,p.subjectId,p.teacherStaffId,p.roomId,p.periodIndex⟩

def AssignmentV3.content (e : AssignmentV3) : PinContent :=
  ⟨e.classId,e.subjectId,e.teacherStaffId,e.roomId,e.periodIndex⟩

/-- The pinned entries are the pins of the input, each once and in order. -/
def KeepsPins (v3 : SolverInputV3) (out : SolverOutputV3) : Prop :=
  (out.entries.filter (·.isPinned)).map AssignmentV3.content = v3.pinned.map PinnedAssignmentV3.content

/-- Every pin names a slot of the input. -/
def PinsNameSlots (v3 : SolverInputV3) : Prop := ∀ p ∈ v3.pinned, ∃ s ∈ v3.periodSlots, s.index = p.periodIndex

/-! ## Cells of the version 2 input -/

section
variable {v3 : SolverInputV3} {s : PeriodSlotV3} {phys : PhysicalSlot}

/-- A physical slot in the cell of a version 3 slot. -/
structure StandsFor (phys : PhysicalSlot) (s : PeriodSlotV3) : Prop where
  yearGroupId : phys.yearGroupId = s.yearGroupId
  weekday : phys.weekday = s.slot.weekday
  periodOrder : phys.periodOrder = s.slot.periodOrder

theorem mem_rawCells_v3InputToV2 {cell : RawCell} :
    cell ∈ rawCells (v3InputToV2 v3).yearGroups ↔ ∃ s ∈ v3.periodSlots, cell = ⟨s.yearGroupId,s.slot⟩ := by
  simp only [rawCells,v3InputToV2,List.mem_flatMap,List.mem_map]
  constructor
  · rintro ⟨yg,⟨ygId,-,rfl⟩,slot,hslot,rfl⟩
    obtain ⟨s,hs,rfl⟩ := List.mem_map.mp hslot
    obtain ⟨hs,hyg⟩ := List.mem_filter.mp hs
    exact ⟨s,hs,by rw [← of_decide_eq_true hyg]⟩
  · rintro ⟨s,hs,rfl⟩
    refine ⟨_,⟨s.yearGroupId,?_,rfl⟩,s.slot,?_,rfl⟩
    · rw [yearGroupIds,List.mem_eraseDups,List.mem_append]
      exact Or.inr (List.mem_map_of_mem hs)
    · exact List.mem_map.mpr ⟨s,List.mem_filter.mpr ⟨hs,decide_eq_true rfl⟩,rfl⟩

theorem exists_slotV3 (h : phys ∈ (v3InputToV2 v3).slots) : ∃ s ∈ v3.periodSlots, StandsFor phys s := by
  obtain ⟨cell,hcell,hat⟩ := exists_cell h
  obtain ⟨s,hs,rfl⟩ := mem_rawCells_v3InputToV2.mp hcell
  exact ⟨s,hs,hat.yearGroupId,hat.weekday,hat.periodOrder⟩

theorem exists_physicalSlot (hs : s ∈ v3.periodSlots) : ∃ phys ∈ (v3InputToV2 v3).slots, StandsFor phys s := by
  obtain ⟨phys,hphys,hat⟩ := exists_slot (mem_rawCells_v3InputToV2.mpr ⟨s,hs,rfl⟩)
  exact ⟨phys,hphys,hat.yearGroupId,hat.weekday,hat.periodOrder⟩

/-! ## From the index to the slot -/

/-- A pin that names a slot has the slot's cell in the version 2 input. -/
theorem pinnedEntry_eq (hd : DistinctSlots v3) (hs : s ∈ v3.periodSlots) {p : PinnedAssignmentV3}
    (hp : s.index = p.periodIndex) : pinnedEntry v3 p =
      ⟨p.classId,p.subjectId,some s.yearGroupId,p.roomId,p.teacherStaffId,s.slot.weekday,s.slot.periodOrder⟩ := by
  have hfound : (v3.periodSlots.filter fun t => t.index = p.periodIndex).getLast? = some s :=
    getLast?_filter_eq hs (decide_eq_true hp) fun t ht hidx =>
      List.inj_on_of_nodup_map hd.indices ht hs ((of_decide_eq_true hidx).trans hp.symm)
  simp only [pinnedEntry,hfound,Option.map_some,Option.getD_some]

/-- Its cell leads to a slot in that cell. -/
theorem resolvePin_pinnedEntry (hd : DistinctSlots v3) (hs : s ∈ v3.periodSlots) {p : PinnedAssignmentV3}
    (hp : s.index = p.periodIndex) :
    ∃ phys, resolvePin (v3InputToV2 v3).slots (pinnedEntry v3 p) = some phys ∧ StandsFor phys s := by
  obtain ⟨phys,hphys,hstands⟩ := exists_physicalSlot hs
  obtain ⟨found,hfound⟩ : ∃ found, lastWith (fun t : PhysicalSlot => t.yearGroupId = s.yearGroupId &&
      slotAt s.slot.weekday s.slot.periodOrder t) (v3InputToV2 v3).slots = some found :=
    Option.isSome_iff_exists.mp (isSome_lastWith.mpr ⟨phys,hphys,by
      simp [slotAt,hstands.yearGroupId,hstands.weekday,hstands.periodOrder]⟩)
  have hkey := lastWith_spec hfound
  simp only [slotAt,Bool.and_eq_true,decide_eq_true_eq] at hkey
  refine ⟨found,?_,hkey.1,hkey.2.1,hkey.2.2⟩
  rw [pinnedEntry_eq hd hs hp,resolvePin]
  simp only [Option.bind_some,hfound,Option.some_or]

/-! ## From the slot to the index -/

theorem slotLookup_eq (hd : DistinctSlots v3) (hs : s ∈ v3.periodSlots) :
    slotLookup v3.periodSlots s.yearGroupId s.slot.weekday s.slot.periodOrder = some s.index := by
  have hfound : (v3.periodSlots.filter fun t => t.yearGroupId = s.yearGroupId ∧ t.slot.weekday = s.slot.weekday ∧
      t.slot.periodOrder = s.slot.periodOrder).getLast? = some s := by
    refine getLast?_filter_eq hs (by simp) fun t ht hcell => ?_
    obtain ⟨hyg,hweekday,horder⟩ := of_decide_eq_true hcell
    exact List.inj_on_of_nodup_map hd.cells ht hs (by rw [hyg,hweekday,horder])
  rw [slotLookup,hfound,Option.map_some]

/-- The entry of a pin keeps its content. -/
theorem content_pinEntry (hd : DistinctSlots v3) (hs : s ∈ v3.periodSlots) {p : PinnedAssignmentV3}
    (hp : s.index = p.periodIndex) (hstands : StandsFor phys s) :
    (assignmentV3 v3 (pinEntry (pinnedEntry v3 p,phys))).content = p.content := by
  rw [pinnedEntry_eq hd hs hp]
  simp only [AssignmentV3.content,assignmentV3,pinEntry,periodIndexOf,hstands.yearGroupId,slotLookup_eq hd hs,
    Option.some_or,Option.getD_some,hp,PinnedAssignmentV3.content]

/-- The index of an entry in some slot's cell is that of a slot of the input. -/
theorem periodIndexOf_mem {e : SolverAssignmentV2} (hs : s ∈ v3.periodSlots) (hyg : e.yearGroupId = s.yearGroupId)
    (hweekday : e.weekday = s.slot.weekday) (horder : e.periodOrder = s.slot.periodOrder) :
    ∃ t ∈ v3.periodSlots, t.index = periodIndexOf v3 e := by
  have hmem : s ∈ v3.periodSlots.filter fun t => t.yearGroupId = e.yearGroupId ∧ t.slot.weekday = e.weekday ∧
      t.slot.periodOrder = e.periodOrder := by
    simp [hs,hyg,hweekday,horder]
  have hlast := List.getLast?_eq_some_getLast (List.ne_nil_of_mem hmem)
  refine ⟨_,(List.mem_filter.mp (List.mem_of_getLast? hlast)).1,?_⟩
  rw [periodIndexOf,slotLookup,hlast]
  rfl

/-! ## The entries of an outcome -/

theorem filter_isPinned_scheduleEntries {input : SolverInputV2} {slots : List PhysicalSlot} {placed : List Indexed}
    {duties : List (PhysicalSlot × TeacherInputV2)} :
    (scheduleEntries input slots placed duties).filter (·.isPinned) = pinnedToAssignments input slots := by
  have hpins : (pinnedToAssignments input slots).filter (·.isPinned) = pinnedToAssignments input slots := by
    refine List.filter_eq_self.mpr fun e he => ?_
    obtain ⟨p,-,rfl⟩ := List.mem_map.mp he
    rfl
  have hlessons : (placed.map (lessonEntry (assignRooms input slots placed))).filter (·.isPinned) = [] := by
    refine List.filter_eq_nil_iff.mpr fun e he => ?_
    obtain ⟨la,-,rfl⟩ := List.mem_map.mp he
    exact Bool.false_ne_true
  have hduties : (duties.map fun d => supervisionEntry d.1 d.2).filter (·.isPinned) = [] := by
    refine List.filter_eq_nil_iff.mpr fun e he => ?_
    obtain ⟨d,-,rfl⟩ := List.mem_map.mp he
    exact Bool.false_ne_true
  rw [scheduleEntries,List.filter_append,List.filter_append,hpins,hlessons,hduties,List.append_nil,List.append_nil]

/-- Whatever the outcome, its pinned entries are the pins whose cell was found. -/
theorem filter_isPinned_solve {globalSoftScore : List SolverAssignmentV2 → ℤ} {input : SolverInputV2} {result : CpResult}
    {out : SolverOutputV2} (hout : solve globalSoftScore input result = .ok out) :
    out.entries.filter (·.isPinned) = pinnedToAssignments input input.slots := by
  cases result with
  | modelInvalid => cases hout
  | infeasible =>
    obtain rfl := Except.ok.inj hout
    have hnil : pinnedToAssignments input input.slots = scheduleEntries input input.slots [] [] := by
      simp [scheduleEntries]
    rw [buildInfeasibleOutput]
    dsimp only
    conv_lhs => rw [hnil]
    exact filter_isPinned_scheduleEntries
  | unknown =>
    obtain rfl := Except.ok.inj hout
    exact filter_isPinned_scheduleEntries
  | found optimal v =>
    obtain rfl := Except.ok.inj hout
    rw [bestOutput]
    split
    · exact filter_isPinned_scheduleEntries
    · exact filter_isPinned_scheduleEntries

/-- The pinned entries of a version 3 output are those of the version 2 one, translated. -/
theorem filter_isPinned_v2OutputToV3 (v2 : SolverOutputV2) (v3 : SolverInputV3) :
    (v2OutputToV3 v2 v3).entries.filter (·.isPinned) = (v2.entries.filter (·.isPinned)).map (assignmentV3 v3) := by
  rw [v2OutputToV3]
  dsimp only
  rw [List.filter_map]
  rfl

theorem content_pinned {result : CpResult} {out : SolverOutputV3} (hout : solveV3 v3 result = .ok out) :
    (out.entries.filter (·.isPinned)).map AssignmentV3.content =
      (resolvedPins (v3InputToV2 v3) (v3InputToV2 v3).slots).map fun p => (assignmentV3 v3 (pinEntry p)).content := by
  rw [solveV3] at hout
  cases hsolved : solveScored (v3InputToV2 v3) result with
  | error message =>
    rw [hsolved] at hout
    cases hout
  | ok v2 =>
    rw [hsolved] at hout
    obtain rfl := Except.ok.inj hout
    rw [filter_isPinned_v2OutputToV3,filter_isPinned_solve hsolved,pinnedToAssignments,List.map_map,List.map_map]
    rfl

/-- Pins that name slots come back unchanged. -/
theorem keepsPins_of_pinsNameSlots (hd : DistinctSlots v3) (hnames : PinsNameSlots v3) {result : CpResult}
    {out : SolverOutputV3} (hout : solveV3 v3 result = .ok out) : KeepsPins v3 out := by
  have hpins : ∀ pins : List PinnedAssignmentV3, (∀ p ∈ pins, ∃ s ∈ v3.periodSlots, s.index = p.periodIndex) →
      ((pins.map (pinnedEntry v3)).filterMap fun pin =>
        (resolvePin (v3InputToV2 v3).slots pin).map fun phys => (pin,phys)).map
          (fun p => (assignmentV3 v3 (pinEntry p)).content) = pins.map PinnedAssignmentV3.content := by
    intro pins hall
    induction pins with
    | nil => rfl
    | cons p rest ih =>
      obtain ⟨⟨s,hs,hidx⟩,hrest⟩ := List.forall_mem_cons.mp hall
      obtain ⟨phys,hresolved,hstands⟩ := resolvePin_pinnedEntry hd hs hidx
      have hcontent := content_pinEntry hd hs hidx hstands
      rw [List.map_cons,List.filterMap_cons,hresolved,Option.map_some]
      dsimp only
      rw [List.map_cons,List.map_cons,hcontent,ih hrest]
  exact (content_pinned hout).trans (hpins v3.pinned hnames)

/-- Every pinned entry of the output stands at the index of a slot. -/
theorem periodIndex_content_mem {result : CpResult} {out : SolverOutputV3} (hout : solveV3 v3 result = .ok out)
    {content : PinContent} (h : content ∈ (out.entries.filter (·.isPinned)).map AssignmentV3.content) :
    ∃ s ∈ v3.periodSlots, s.index = content.periodIndex := by
  rw [content_pinned hout] at h
  obtain ⟨p,hp,rfl⟩ := List.mem_map.mp h
  obtain ⟨hphys,hweekday,horder⟩ := mem_of_resolvePin (mem_resolvedPins.mp hp).2
  obtain ⟨s,hs,hstands⟩ := exists_slotV3 hphys
  exact periodIndexOf_mem (e := pinEntry p) hs hstands.yearGroupId (hweekday.symm.trans hstands.weekday)
    (horder.symm.trans hstands.periodOrder)

end

/-- An output holds the pins of its input just when all of them name slots. -/
theorem keepsPins_iff {v3 : SolverInputV3} (hd : DistinctSlots v3) {result : CpResult} {out : SolverOutputV3}
    (hout : solveV3 v3 result = .ok out) : KeepsPins v3 out ↔ PinsNameSlots v3 := by
  constructor
  · intro hkeeps p hp
    have hmem : p.content ∈ v3.pinned.map PinnedAssignmentV3.content := List.mem_map_of_mem hp
    rw [← hkeeps] at hmem
    exact periodIndex_content_mem hout hmem
  · exact fun hnames => keepsPins_of_pinsNameSlots hd hnames hout

/-! One class with one slot, and a pin at an index. -/

def onePin (periodIndex : ℕ) : SolverInputV3 where
  periodSlots := [⟨0,"Y",.teaching firstDay 0 "09:00" "10:00"⟩]
  classes := [⟨"a","Y"⟩]
  teachers := []
  rooms := []
  roomClosures := []
  breakGroups := []
  demand := []
  preferences := ⟨[],[],⟨0,0,0,0,0⟩,⟨0,0,0⟩⟩
  pinned := [⟨"schedule","a",some "maths",periodIndex,some "t",none⟩]

theorem distinctSlots_onePin (periodIndex : ℕ) : DistinctSlots (onePin periodIndex) :=
  ⟨List.nodup_singleton _,List.nodup_singleton _⟩

theorem keepsPins_onePin :
    KeepsPins (onePin 0) (v2OutputToV3 (buildInfeasibleOutput (v3InputToV2 (onePin 0))) (onePin 0)) :=
  (@keepsPins_iff _ (distinctSlots_onePin 0) .infeasible _ rfl).mpr fun _ hp =>
    ⟨_,List.mem_singleton_self _,by rw [List.mem_singleton.mp hp]⟩

/-- A pin at the index 7 is neither rejected nor kept: it comes back at the index 0. -/
theorem not_keepsPins : ¬∀ (v3 : SolverInputV3) (result : CpResult) (out : SolverOutputV3),
    DistinctSlots v3 → solveV3 v3 result = .ok out → KeepsPins v3 out := by
  intro h
  have hkeeps : (((greedyEntries (v3InputToV2 (onePin 7))).map (assignmentV3 (onePin 7))).filter (·.isPinned)).map
      AssignmentV3.content = (onePin 7).pinned.map PinnedAssignmentV3.content :=
    h (onePin 7) .unknown _ (distinctSlots_onePin 7) rfl
  exact absurd hkeeps (by decide +kernel)

end EduPod.Scheduling
