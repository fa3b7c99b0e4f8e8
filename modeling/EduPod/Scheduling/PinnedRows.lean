import EduPod.Scheduling.StoredRuns

/-! # Pinned lessons across an apply

Pins of any source go into a run, and its result brings them back as entries. Applying the run clears only the
schedules that an earlier run inserted, so a pin of another source stays beside the row written for it.
-/
namespace EduPod.Scheduling
open Fallible

/-- A lesson as a row of the timetable shows it. -/
structure PlacedLesson where
  classId : String
  weekday : Fin 7
  periodOrder : ℕ
  teacherStaffId : Option String
  roomId : Option String
  deriving DecidableEq

def ScheduleRow.lesson (r : ScheduleRow) : PlacedLesson := ⟨r.classId,r.weekday,r.periodOrder,r.teacherStaffId,r.roomId⟩

def SolverAssignmentV2.lesson (e : SolverAssignmentV2) : PlacedLesson :=
  ⟨e.classId,e.weekday,e.periodOrder,e.teacherStaffId,e.roomId⟩

def PinnedEntryV2.lesson (p : PinnedEntryV2) : PlacedLesson :=
  ⟨p.classId,p.weekday,p.periodOrder,p.teacherStaffId,p.roomId⟩

def ScheduleRow.inForce (r : ScheduleRow) (day : ℤ) : Bool := r.effectiveStart ≤ day && r.effectiveEnd.all (day ≤ ·)

/-! ## From rows to pins -/

/-- Pinned rows that have not ended. -/
def findPinnedEntries (today : ℤ) (schedules : List ScheduleRow) : List ScheduleRow :=
  schedules.filter fun r => r.isPinned && r.effectiveEnd.all (today ≤ ·)

def SchoolYear.yearGroupOf (year : SchoolYear) (r : ScheduleRow) : Option String :=
  (year.classes r.classId).bind (·.yearGroupId)

def SchoolYear.pinnedRecord (year : SchoolYear) (scheduleId : ScheduleRow → String) (r : ScheduleRow) : PinnedScheduleRecord where
  scheduleId := scheduleId r
  classId := r.classId
  subjectId := (year.classes r.classId).bind (·.subjectId)
  yearGroupId := year.yearGroupOf r
  roomId := r.roomId
  teacherStaffId := r.teacherStaffId
  weekday := r.weekday
  periodOrder := r.periodOrder

/-- The input assembled on a day from a year's tables, each pin in a cell of its own year group's grid. -/
structure AssembledFrom (year : SchoolYear) (scheduleId : ScheduleRow → String) (assembledOn : ℤ) (data : TenantData)
    (v3 : SolverInputV3) : Prop where
  templates : data.periodTemplates = year.periodTemplates
  pins : data.pinnedSchedules = (findPinnedEntries assembledOn year.schedules).map (year.pinnedRecord scheduleId)
  assembled : assembleSolverInput data = .ok v3
  onGrid : ∀ r ∈ findPinnedEntries assembledOn year.schedules, ∃ yg ∈ data.yearGroups, year.yearGroupOf r = some yg.id ∧
    ∃ slot ∈ templatesFor year.periodTemplates yg.id, slot.weekday = r.weekday ∧ slot.periodOrder = r.periodOrder

/-- The entries hold every pin once, as a pin, and its lesson in no other entry. -/
def HoldsPins (v3 : SolverInputV3) (entries : List SolverAssignmentV2) : Prop :=
  ∀ p ∈ v3.pinned.map (pinnedEntry v3), (entries.filter fun e => e.lesson = p.lesson).map (·.isPinned) =
    List.replicate ((v3.pinned.map (pinnedEntry v3)).countP fun q => q.lesson = p.lesson) true

/-! ## What is in force afterwards -/

/-- From the next day on each of the lessons is in force exactly once, and pinned. -/
def InForceOnce (pins : List ScheduleRow) (today : ℤ) (schedules : List ScheduleRow) : Prop :=
  ∀ r ∈ pins, ∀ day > today,
    (schedules.filter fun s => s.lesson = r.lesson && s.inForce day).map (·.isPinned) = [true]

namespace SchoolYear
variable (year : SchoolYear)

/-- The rows of a lesson in force on a day that no run inserted. -/
def standing (lesson : PlacedLesson) (day : ℤ) : List ScheduleRow :=
  year.schedules.filter fun s => s.source ≠ .autoGenerated && s.lesson = lesson && s.inForce day

/-- `apply` writes a lesson again if its class is active and the last entry in the cell has it, with times. -/
def rewrittenByApply (entries : List SolverAssignmentV2) (lesson : PlacedLesson) : ℕ :=
  ((((entries.filter fun e => e.classId = lesson.classId && e.weekday = lesson.weekday &&
    e.periodOrder = lesson.periodOrder).getLast?).filter fun e => e.lesson = lesson && year.isActive lesson.classId &&
      ((ownTimes e).or (year.templateTimes (fun _ => true) e.weekday e.periodOrder)).isSome).toList).length

/-- `applyRun` writes it once for each entry with times. -/
def rewrittenByRun (entries : List SolverAssignmentV2) (lesson : PlacedLesson) : ℕ :=
  entries.countP fun e => !e.isSupervision && e.lesson = lesson &&
    ((ownTimes e).or ((year.templateTimes (· = some e.yearGroupId) e.weekday e.periodOrder).or
      (year.templateTimes (· = none) e.weekday e.periodOrder))).isSome

/-- A lesson is written again once and no other row of it is in force on a later day, or it is not written again
and on every later day exactly one is, pinned. -/
def StaysOnce (today : ℤ) (lesson : PlacedLesson) (rewritten : ℕ) : Prop :=
  (rewritten = 1 ∧ ∀ day > today, year.standing lesson day = []) ∨
    (rewritten = 0 ∧ ∀ day > today, (year.standing lesson day).map (·.isPinned) = [true])

end SchoolYear

/-! ## A pin keeps its cell -/

section
variable {data : TenantData} {v3 : SolverInputV3} {periodSlots : List PeriodSlotV3}

/-- Slots are numbered by their positions. -/
def Numbered (periodSlots : List PeriodSlotV3) : Prop := (periodSlots.map (·.index)).Nodup

theorem numbered_buildPeriodSlots (yearGroups : List YearGroupWithClasses) (periodTemplates : List PeriodTemplate) :
    Numbered (buildPeriodSlots yearGroups periodTemplates) := by
  unfold Numbered buildPeriodSlots
  rw [List.map_map]
  have hindex : (PeriodSlotV3.index ∘ fun row : (String × PeriodSlotV2) × ℕ => (⟨row.2,row.1.1,row.1.2⟩ : PeriodSlotV3)) =
      Prod.snd := rfl
  rw [hindex,List.zipIdx_map_snd]
  exact List.nodup_range'

theorem mem_buildPeriodSlots {yearGroups : List YearGroupWithClasses} {periodTemplates : List PeriodTemplate}
    {yg : YearGroupWithClasses} {slot : PeriodSlotV2} (hyg : yg ∈ yearGroups) (hslot : slot ∈ templatesFor periodTemplates yg.id) :
    ∃ s ∈ buildPeriodSlots yearGroups periodTemplates, s.yearGroupId = yg.id ∧ s.slot = slot := by
  have hmem : (yg.id,slot) ∈ yearGroups.flatMap fun yg => (templatesFor periodTemplates yg.id).map fun slot => (yg.id,slot) :=
    List.mem_flatMap.mpr ⟨yg,hyg,List.mem_map_of_mem hslot⟩
  obtain ⟨i,hi⟩ := List.getElem?_of_mem hmem
  exact ⟨_,List.mem_map_of_mem (List.mk_mem_zipIdx_iff_getElem?.mpr hi),rfl,rfl⟩

/-- The number that the lookup finds belongs to a slot of that cell, and to no other slot. -/
theorem slotLookup_spec (hn : Numbered periodSlots) {s : PeriodSlotV3} (hs : s ∈ periodSlots) :
    ∃ i, slotLookup periodSlots s.yearGroupId s.slot.weekday s.slot.periodOrder = some i ∧
      ∃ s', (periodSlots.filter fun t => t.index = i).getLast? = some s' ∧ s'.slot.weekday = s.slot.weekday ∧
        s'.slot.periodOrder = s.slot.periodOrder := by
  have hmem : s ∈ periodSlots.filter fun t =>
      t.yearGroupId = s.yearGroupId ∧ t.slot.weekday = s.slot.weekday ∧ t.slot.periodOrder = s.slot.periodOrder := by
    simp [hs]
  have ht := List.getLast?_eq_some_getLast (List.ne_nil_of_mem hmem)
  set t := List.getLast _ (List.ne_nil_of_mem hmem)
  have htmem := List.mem_filter.mp (List.mem_of_getLast? ht)
  obtain ⟨-,hweekday,horder⟩ := of_decide_eq_true htmem.2
  refine ⟨t.index,by rw [slotLookup,ht]; rfl,t,?_,hweekday,horder⟩
  exact Grouping.getLast?_filter_eq htmem.1 (decide_eq_true rfl) fun t' ht' hidx =>
    List.inj_on_of_nodup_map hn ht' htmem.1 (of_decide_eq_true hidx)

/-- A pin on its own year group's grid is handed to the solver in its own cell. -/
theorem lesson_pinnedEntry {pin : PinnedScheduleRecord} {pins : List PinnedScheduleRecord} (hn : Numbered v3.periodSlots)
    (hpinned : v3.pinned = buildPinned pins v3.periodSlots) (hpin : pin ∈ pins) {s : PeriodSlotV3}
    (hs : s ∈ v3.periodSlots) (hyg : pin.yearGroupId = some s.yearGroupId) (hweekday : s.slot.weekday = pin.weekday)
    (horder : s.slot.periodOrder = pin.periodOrder) :
    ∃ p ∈ v3.pinned, (pinnedEntry v3 p).lesson =
      ⟨pin.classId,pin.weekday,pin.periodOrder,pin.teacherStaffId,pin.roomId⟩ := by
  obtain ⟨i,hi,s',hs',hweekday',horder'⟩ := slotLookup_spec hn hs
  rw [hweekday,horder] at hi
  rw [hpinned]
  refine ⟨_,List.mem_map_of_mem hpin,?_⟩
  simp only [hyg,Option.getD_some,hi,Option.some_or,pinnedEntry,hs',Option.map_some,PinnedEntryV2.lesson,hweekday',horder',
    hweekday,horder]

end
/-! ## What a later day shows -/

section
variable {year : SchoolYear} {today day : ℤ} {entries : List SolverAssignmentV2} {lesson : PlacedLesson}

/-- On a later day the rows of earlier runs are gone and the others are untouched. -/
theorem filter_withInserted (hday : today < day) (inserted : List ScheduleRow) :
    (year.withInserted today inserted).filter (fun s => s.lesson = lesson && s.inForce day) =
      year.standing lesson day ++ inserted.filter fun s => s.lesson = lesson && s.inForce day := by
  have hkept : ∀ r : ScheduleRow, ((endAutoGenerated today r).filter fun s => s.lesson = lesson && s.inForce day) =
      Option.guard (fun s : ScheduleRow => s.source ≠ .autoGenerated && s.lesson = lesson && s.inForce day) r := by
    intro r
    unfold endAutoGenerated
    by_cases hsource : r.source = .autoGenerated
    · have hended : ¬ day ≤ today := not_le.mpr hday
      rw [if_pos hsource]
      split <;> simp [hsource,ScheduleRow.inForce,hended,Option.filter,Option.guard]
    · simp [hsource,Option.guard,Option.filter]
  unfold SchoolYear.withInserted SchoolYear.standing
  rw [List.filter_append,List.filter_filterMap,List.filterMap_congr fun r _ => hkept r,List.filterMap_eq_filter]

/-- The rows written for a pinned lesson, one for each of its entries with times. -/
theorem map_isPinned_inserted (hday : today < day) (times : SolverAssignmentV2 → Option (String × String))
    {es : List SolverAssignmentV2} (hpinned : ∀ e ∈ es, e.lesson = lesson → e.isPinned = true) :
    ((es.filterMap fun e => (times e).map (newSchedule today e)).filter fun s =>
      s.lesson = lesson && s.inForce day).map (·.isPinned) =
        List.replicate (es.countP fun e => e.lesson = lesson && (times e).isSome) true := by
  induction es with
  | nil => rfl
  | cons e es ih =>
    have hrest := ih fun e' he' => hpinned e' (List.mem_cons_of_mem e he')
    cases ht : times e with
    | none => simpa [ht] using hrest
    | some t =>
      by_cases hl : e.lesson = lesson
      · have hrow : (newSchedule today e t).lesson = lesson := hl
        have hforce : (newSchedule today e t).inForce day = true := by
          simp [ScheduleRow.inForce,newSchedule,hday.le]
        have hflag : (newSchedule today e t).isPinned = true := hpinned e List.mem_cons_self hl
        simpa [ht,hl,hrow,hforce,hflag,List.replicate_succ] using hrest
      · have hrow : ¬ (newSchedule today e t).lesson = lesson := hl
        simpa [ht,hl,hrow] using hrest

theorem countP_run : (entries.filter fun e => !e.isSupervision).countP (fun e => e.lesson = lesson &&
    ((ownTimes e).or ((year.templateTimes (· = some e.yearGroupId) e.weekday e.periodOrder).or
      (year.templateTimes (· = none) e.weekday e.periodOrder))).isSome) = year.rewrittenByRun entries lesson := by
  rw [List.countP_filter]
  refine List.countP_congr fun e _ => ?_
  cases e.isSupervision <;> simp

def SolverAssignmentV2.cell (e : SolverAssignmentV2) : String × Fin 7 × ℕ := (e.classId,e.weekday,e.periodOrder)

def PlacedLesson.cell (lesson : PlacedLesson) : String × Fin 7 × ℕ := (lesson.classId,lesson.weekday,lesson.periodOrder)

theorem countP_apply : (((UniqueIndex.load (entries.map fun e => (e.cell,e))).rows.map Prod.snd).filter fun e =>
    year.isActive e.classId).countP (fun e => e.lesson = lesson &&
      ((ownTimes e).or (year.templateTimes (fun _ => true) e.weekday e.periodOrder)).isSome) =
        year.rewrittenByApply entries lesson := by
  let counts (e : SolverAssignmentV2) : Bool := e.lesson = lesson && year.isActive lesson.classId &&
    ((ownTimes e).or (year.templateTimes (fun _ => true) e.weekday e.periodOrder)).isSome
  have hcell : ∀ e : SolverAssignmentV2, (decide (e.cell = lesson.cell)) = (e.classId = lesson.classId &&
      e.weekday = lesson.weekday && e.periodOrder = lesson.periodOrder) := by
    intro e
    simp only [SolverAssignmentV2.cell,PlacedLesson.cell,Prod.mk.injEq,Bool.decide_and,Bool.and_assoc]
  have hlast : ((entries.map fun e => (e.cell,e)).filter fun r => r.1 = lesson.cell).getLast? =
      ((entries.filter fun e => e.classId = lesson.classId && e.weekday = lesson.weekday &&
        e.periodOrder = lesson.periodOrder).getLast?).map fun e => (e.cell,e) := by
    rw [List.filter_map,List.getLast?_map]
    congr 2
    exact List.filter_congr fun e _ => hcell e
  rw [List.countP_filter,List.countP_map]
  have hcounts : ∀ r ∈ (UniqueIndex.load (entries.map fun e => (e.cell,e))).rows,
      ((fun e => (decide (e.lesson = lesson) && ((ownTimes e).or (year.templateTimes (fun _ => true) e.weekday
        e.periodOrder)).isSome) && year.isActive e.classId) ∘ Prod.snd) r = true ↔
          (counts r.2 && decide (r.1 = lesson.cell)) = true := by
    intro r hr
    obtain ⟨e,-,rfl⟩ := List.mem_map.mp (UniqueIndex.mem_of_mem_load hr)
    by_cases hl : e.lesson = lesson
    · subst hl
      simp [counts,SolverAssignmentV2.cell,PlacedLesson.cell,SolverAssignmentV2.lesson,and_comm]
    · simp [counts,hl]
  rw [List.countP_congr hcounts,← List.countP_filter,UniqueIndex.filter_rows,UniqueIndex.get?_load,hlast,
    SchoolYear.rewrittenByApply]
  cases (entries.filter fun e => e.classId = lesson.classId && e.weekday = lesson.weekday &&
    e.periodOrder = lesson.periodOrder).getLast? with
  | none => rfl
  | some e =>
    change [(lesson.cell,e)].countP (fun r => counts r.2) = ((some e).filter counts).toList.length
    cases hc : counts e <;> simp [hc,Option.filter]

theorem append_replicate_iff {flags : List Bool} {k : ℕ} : flags ++ List.replicate k true = [true] ↔
    (k = 1 ∧ flags = []) ∨ (k = 0 ∧ flags = [true]) := by
  constructor
  · intro h
    have hlength := congrArg List.length h
    rw [List.length_append,List.length_replicate,List.length_singleton] at hlength
    by_cases hk : k = 0
    · subst hk
      exact .inr ⟨rfl,(List.append_nil flags).symm.trans h⟩
    · exact .inl ⟨by omega,List.length_eq_zero_iff.mp (by omega)⟩
  · rintro (⟨rfl,rfl⟩ | ⟨rfl,rfl⟩) <;> rfl

theorem inForceOnce_iff_staysOnce {pins inserted : List ScheduleRow} {rewritten : PlacedLesson → ℕ}
    (hinserted : ∀ r ∈ pins, ∀ day > today, (inserted.filter fun s => s.lesson = r.lesson && s.inForce day).map (·.isPinned) =
      List.replicate (rewritten r.lesson) true) :
    InForceOnce pins today (year.withInserted today inserted) ↔
      ∀ r ∈ pins, year.StaysOnce today r.lesson (rewritten r.lesson) := by
  refine forall₂_congr fun r hr => ?_
  have hday : ∀ day > today, (((year.withInserted today inserted).filter fun s =>
      s.lesson = r.lesson && s.inForce day).map (·.isPinned) = [true] ↔
        (rewritten r.lesson = 1 ∧ year.standing r.lesson day = []) ∨
          (rewritten r.lesson = 0 ∧ (year.standing r.lesson day).map (·.isPinned) = [true])) := by
    intro day hday
    rw [filter_withInserted hday,List.map_append,hinserted r hr day hday,append_replicate_iff,List.map_eq_nil_iff]
  rw [forall₂_congr hday]
  constructor
  · intro h
    obtain ⟨hone,-⟩ | ⟨hzero,-⟩ := h (today + 1) (lt_add_one today)
    · exact .inl ⟨hone,fun day hlt => ((h day hlt).resolve_right fun hz => by omega).2⟩
    · exact .inr ⟨hzero,fun day hlt => ((h day hlt).resolve_left fun ho => by omega).2⟩
  · rintro (⟨hone,hnone⟩ | ⟨hzero,hflag⟩) day hlt
    · exact .inl ⟨hone,hnone day hlt⟩
    · exact .inr ⟨hzero,hflag day hlt⟩

end

/-! ## Runs assembled from pins -/

section
variable {before year : SchoolYear} {scheduleId : ScheduleRow → String} {assembledOn today : ℤ} {data : TenantData}
  {v3 : SolverInputV3} {entries : List SolverAssignmentV2} {run : StoredRun}

theorem assemble_slots (hok : assembleSolverInput data = .ok v3) :
    v3.periodSlots = buildPeriodSlots data.yearGroups data.periodTemplates ∧
      v3.pinned = buildPinned data.pinnedSchedules v3.periodSlots := by
  unfold assembleSolverInput at hok
  obtain ⟨_,-,h⟩ := bind_eq_ok.mp hok
  obtain rfl := pure_eq_ok.mp h
  exact ⟨rfl,rfl⟩

/-- Every pinned row comes to the solver as the lesson that it is. -/
theorem exists_pin_of_row (h : AssembledFrom before scheduleId assembledOn data v3) {r : ScheduleRow}
    (hr : r ∈ findPinnedEntries assembledOn before.schedules) :
    ∃ p ∈ v3.pinned.map (pinnedEntry v3), p.lesson = r.lesson := by
  obtain ⟨hslots,hpinned⟩ := assemble_slots h.assembled
  obtain ⟨yg,hyg,hyear,slot,hslot,hweekday,horder⟩ := h.onGrid r hr
  rw [← h.templates] at hslot
  obtain ⟨s,hs,hid,rfl⟩ := mem_buildPeriodSlots hyg hslot
  rw [← hslots] at hs
  have hn : Numbered v3.periodSlots := by
    rw [hslots]
    exact numbered_buildPeriodSlots _ _
  have hrecord : before.pinnedRecord scheduleId r ∈ data.pinnedSchedules := by
    rw [h.pins]
    exact List.mem_map_of_mem hr
  have hgroup : (before.pinnedRecord scheduleId r).yearGroupId = some s.yearGroupId := hyear.trans (congrArg some hid.symm)
  obtain ⟨p,hp,hlesson⟩ := lesson_pinnedEntry hn hpinned hrecord hs hgroup hweekday horder
  exact ⟨_,List.mem_map_of_mem hp,hlesson⟩

theorem isPinned_of_holdsPins (hheld : HoldsPins v3 entries) {lesson : PlacedLesson}
    (hpin : ∃ p ∈ v3.pinned.map (pinnedEntry v3), p.lesson = lesson) :
    ∀ e ∈ entries, e.lesson = lesson → e.isPinned = true := by
  obtain ⟨p,hp,rfl⟩ := hpin
  intro e he hlesson
  have hmem : e.isPinned ∈ (entries.filter fun e => e.lesson = p.lesson).map (·.isPinned) :=
    List.mem_map_of_mem (List.mem_filter.mpr ⟨he,decide_eq_true hlesson⟩)
  rw [hheld p hp] at hmem
  exact List.eq_of_mem_replicate hmem

theorem apply_eq_ok_inserts {expectedUpdatedAt : ℤ} {currentGridHash : String} {inserted : List ScheduleRow}
    (hentries : run.entries = some entries)
    (h : year.apply today (some run) expectedUpdatedAt currentGridHash = .ok inserted) :
    inserted = year.applyInserts today entries := by
  unfold SchoolYear.apply at h
  obtain ⟨r,hr,h⟩ := require_bind_eq_ok.mp h
  obtain rfl := Option.some.inj hr
  obtain ⟨-,h⟩ := ensure_bind_eq_ok.mp h
  obtain ⟨-,h⟩ := ensure_bind_eq_ok.mp h
  obtain ⟨-,h⟩ := ensure_bind_eq_ok.mp h
  obtain ⟨es,hes,h⟩ := require_bind_eq_ok.mp h
  obtain rfl := Option.some.inj (hentries.symm.trans hes)
  exact (pure_eq_ok.mp h).symm

theorem applyRun_eq_ok_inserts {acknowledgedViolations : Bool} {inserted : List ScheduleRow}
    (hentries : run.entries = some entries)
    (h : year.applyRun today (some run) acknowledgedViolations = .ok (.applied inserted)) :
    inserted = year.applyRunInserts today entries := by
  unfold SchoolYear.applyRun at h
  obtain ⟨r,hr,h⟩ := require_bind_eq_ok.mp h
  obtain rfl := Option.some.inj hr
  obtain ⟨-,h⟩ := ensure_bind_eq_ok.mp h
  obtain ⟨es,hes,h⟩ := require_bind_eq_ok.mp h
  obtain rfl := Option.some.inj (hentries.symm.trans hes)
  obtain ⟨violations,-,h⟩ := bind_eq_ok.mp h
  unfold SchoolYear.decideOn at h
  dsimp only at h
  split at h
  · cases h
  · split at h
    · cases h
    · cases h
      rfl

/-- After an apply of either kind each pinned lesson is in force exactly once from the next day on, if and only if
each is written again once and has no row of another source in force by then, or is not written again and has exactly
one such row on each of these days, pinned. -/
theorem inForceOnce_iff (before year : SchoolYear) (scheduleId : ScheduleRow → String) (assembledOn today : ℤ)
    (data : TenantData) (v3 : SolverInputV3) (entries : List SolverAssignmentV2) (run : StoredRun)
    (h : AssembledFrom before scheduleId assembledOn data v3) (hheld : HoldsPins v3 entries)
    (hentries : run.entries = some entries) :
    (∀ expectedUpdatedAt currentGridHash inserted,
      year.apply today (some run) expectedUpdatedAt currentGridHash = .ok inserted →
        (InForceOnce (findPinnedEntries assembledOn before.schedules) today (year.withInserted today inserted) ↔
          ∀ r ∈ findPinnedEntries assembledOn before.schedules,
            year.StaysOnce today r.lesson (year.rewrittenByApply entries r.lesson))) ∧
    ∀ acknowledgedViolations inserted,
      year.applyRun today (some run) acknowledgedViolations = .ok (.applied inserted) →
        (InForceOnce (findPinnedEntries assembledOn before.schedules) today (year.withInserted today inserted) ↔
          ∀ r ∈ findPinnedEntries assembledOn before.schedules,
            year.StaysOnce today r.lesson (year.rewrittenByRun entries r.lesson)) := by
  have hflags : ∀ r ∈ findPinnedEntries assembledOn before.schedules, ∀ e ∈ entries, e.lesson = r.lesson →
      e.isPinned = true := fun r hr => isPinned_of_holdsPins hheld (exists_pin_of_row h hr)
  constructor
  · intro expectedUpdatedAt currentGridHash inserted hok
    rw [apply_eq_ok_inserts hentries hok]
    refine inForceOnce_iff_staysOnce fun r hr day hday => ?_
    rw [← countP_apply]
    refine map_isPinned_inserted hday _ fun e he => hflags r hr e ?_
    obtain ⟨row,hrow,rfl⟩ := List.mem_map.mp (List.mem_filter.mp he).1
    obtain ⟨e,hmem,rfl⟩ := List.mem_map.mp (UniqueIndex.mem_of_mem_load hrow)
    exact hmem
  · intro acknowledgedViolations inserted hok
    rw [applyRun_eq_ok_inserts hentries hok]
    refine inForceOnce_iff_staysOnce fun r hr day hday => ?_
    rw [← countP_run]
    exact map_isPinned_inserted hday _ fun e he => hflags r hr e (List.mem_filter.mp he).1

end
/-! ## One pinned lesson of either source -/

def artPin (source : ScheduleSource) : ScheduleRow :=
  ⟨"a",none,some "t",firstDay,0,"09:00","10:00",0,none,true,source,0⟩

def artYear (source : ScheduleSource) : SchoolYear := { classOfOne with schedules := [artPin source] }

def artYearGroup : List YearGroupWithClasses := [⟨"y",["a"]⟩]

theorem nodup_artYearGroup : (artYearGroup.map (·.id)).Nodup := by decide

theorem nodup_classes_artYearGroup : (artYearGroup.flatMap (·.classes)).Nodup := by decide

def artData (source : ScheduleSource) : TenantData where
  yearGroups := artYearGroup
  periodTemplates := classOfOne.periodTemplates
  curriculum := []
  classSubjectOverrides := []
  classSubjectAssignments := []
  teachers := []
  rooms := []
  roomClosures := []
  breakGroups := []
  pinnedSchedules := [(artYear source).pinnedRecord (fun _ => "r") (artPin source)]
  classRoomOverrides := []
  preferenceWeights := ⟨none,none,none⟩
  globalSoftWeights := ⟨none,none,none,none,none⟩
  strictClassSubjectOverride := false
  yearGroupsOnce := nodup_artYearGroup
  classesOnce := nodup_classes_artYearGroup

def artInput : SolverInputV3 where
  periodSlots := [⟨0,"y",.teaching firstDay 0 "09:00" "10:00"⟩]
  classes := [⟨"a","y"⟩]
  teachers := []
  rooms := []
  roomClosures := []
  breakGroups := []
  demand := []
  preferences := ⟨[],[],⟨2,1,1,1,1⟩,⟨1,2,3⟩⟩
  pinned := [⟨"r","a",some "s",0,some "t",none⟩]

def artEntry : SolverAssignmentV2 := ⟨"a",some "s","y",none,some "t",firstDay,0,"09:00","10:00",true,none,false⟩

def artRun : StoredRun := producedRun artInput [] [artEntry] 0

theorem findPinnedEntries_artYear (source : ScheduleSource) :
    findPinnedEntries 0 (artYear source).schedules = [artPin source] := rfl

theorem assembledFrom_artYear (source : ScheduleSource) :
    AssembledFrom (artYear source) (fun _ => "r") 0 (artData source) artInput where
  templates := rfl
  pins := rfl
  assembled := rfl
  onGrid := by
    intro r hr
    rw [findPinnedEntries_artYear,List.mem_singleton] at hr
    subst hr
    exact ⟨⟨"y",["a"]⟩,List.mem_singleton_self _,rfl,_,List.mem_cons_self,rfl,rfl⟩

theorem holdsPins_art : HoldsPins artInput [artEntry] := by
  unfold HoldsPins
  decide

/-- A row pinned by hand stays beside the row that the run writes for it. -/
theorem duplicated_artPin :
    AssembledFrom (artYear .pinned) (fun _ => "r") 0 (artData .pinned) artInput ∧ HoldsPins artInput [artEntry] ∧
      ∃ inserted, (artYear .pinned).apply 0 (some artRun) 0 "" = .ok inserted ∧
        ¬ InForceOnce (findPinnedEntries 0 (artYear .pinned).schedules) 0 ((artYear .pinned).withInserted 0 inserted) := by
  refine ⟨assembledFrom_artYear .pinned,holdsPins_art,[newSchedule 0 artEntry ("09:00","10:00")],rfl,fun h => ?_⟩
  have hday := h (artPin .pinned) List.mem_cons_self 1 (by decide)
  revert hday
  decide

/-- A row that an earlier run inserted is replaced by one of its kind. -/
theorem inForceOnce_artPin :
    InForceOnce (findPinnedEntries 0 (artYear .autoGenerated).schedules) 0
      ((artYear .autoGenerated).withInserted 0 [newSchedule 0 artEntry ("09:00","10:00")]) := by
  refine ((inForceOnce_iff (artYear .autoGenerated) (artYear .autoGenerated) (fun _ => "r") 0 0 (artData .autoGenerated)
    artInput [artEntry] artRun (assembledFrom_artYear .autoGenerated) holdsPins_art rfl).1 0 "" _ rfl).mpr ?_
  intro r hr
  rw [findPinnedEntries_artYear,List.mem_singleton] at hr
  subst hr
  exact .inl ⟨by decide,fun _ _ => rfl⟩

end EduPod.Scheduling
