import EduPod.Scheduling.Pruning
import EduPod.Scheduling.ModelFacts
import EduPod.Scheduling.Probe

/-! # Scenes: one teacher in chosen cells of a grid

A scene is an input over given grids together with a valuation of its model that puts the
first teacher into chosen cells of different time groups. All other yard cells are held by
a teacher of their own.
-/
namespace EduPod.Scheduling
open Grouping LinearModel

/-- Distinct ids for any number of teachers. -/
def staffId (k : ℕ) : String := String.ofList (List.replicate k 'x')

theorem staffId_injective : Function.Injective staffId := by
  intro j k h
  have := congrArg String.toList h
  simpa [staffId] using congrArg List.length this

/-- The cells the first teacher fills, each with a subject for it, and the pins. -/
structure Scene (yearGroups : List YearGroupInput) where
  cells : List (PhysicalSlot × String)
  pins : List PinnedEntryV2
  mem : ∀ c ∈ cells, c.1 ∈ enumerateSlots yearGroups
  group_inj : ∀ c ∈ cells, ∀ d ∈ cells, c.1.timeGroupId = d.1.timeGroupId → c = d
  subject_inj : ∀ c ∈ cells, ∀ d ∈ cells, c.2 = d.2 → c = d
  pin_plain : ∀ pin ∈ pins, pin.subjectId = none ∧ pin.classId ≠ "class"
  pin_cell : ∀ pin ∈ pins, ∀ s, resolvePin (enumerateSlots yearGroups) pin = some s →
    ¬(s.isYard = true ∧ s.breakGroupId.isSome) ∧ ∀ c ∈ cells, c.1.timeGroupId ≠ s.timeGroupId
  pin_teacher : ∀ pin ∈ pins, pin.teacherStaffId = some (staffId 0)

namespace Scene
variable {yearGroups : List YearGroupInput} (sc : Scene yearGroups)

/-- The teacher of the scene, and one for every slot. -/
def staff : List TeacherInputV2 := (List.range ((enumerateSlots yearGroups).length + 1)).map fun k =>
  .plain (staffId k) (if k = 0 then sc.cells.map fun c => ⟨c.2,c.1.yearGroupId,none⟩ else []) []

def input : SolverInputV2 :=
  probe yearGroups (sc.cells.map fun c => .single c.1.yearGroupId c.2) sc.staff
    (sc.cells.filterMap fun c => c.1.breakGroupId.map fun g => ⟨g,1⟩) sc.pins

/-- Who stands at a yard cell. -/
def holder (slotId : ℕ) : ℕ :=
  if ∃ c ∈ sc.cells, c.1.isTeaching = false ∧ c.1.slotId = slotId then 0 else slotId + 1

/-- The legal assignments of the teaching cells. -/
structure Picks (picks : List Indexed) : Prop where
  legal : ∀ la ∈ picks, la ∈ sc.input.legal.zipIdx
  teacher : ∀ la ∈ picks, la.1.teacherIdx = 0
  cell : ∀ la ∈ picks, ∃ c ∈ sc.cells, c.1.isTeaching = true ∧ la.1.slot = c.1 ∧ la.1.lesson.subjectId = c.2
  inj : ∀ a ∈ picks, ∀ b ∈ picks, a.1.slot = b.1.slot → a = b
  complete : ∀ c ∈ sc.cells, c.1.isTeaching = true → ∃ la ∈ picks, la.1.slot = c.1 ∧ la.1.lesson.subjectId = c.2

/-- The picks are placed and every duty has its holder. -/
def valuation (picks : List Indexed) : Var → ℤ
  | .placement i => if i ∈ picks.map Prod.snd then 1 else 0
  | .placed l => if ∃ la ∈ picks, la.1.lessonIdx = l then 1 else 0
  | .supervision _ slotId k => if k = sc.holder slotId then 1 else 0
  | _ => 0

/-! ## The input -/

theorem getElem?_staff {k : ℕ} (hk : k ≤ (enumerateSlots yearGroups).length) : sc.staff[k]? = some (.plain (staffId k)
    (if k = 0 then sc.cells.map fun c => ⟨c.2,c.1.yearGroupId,none⟩ else []) []) := by
  rw [staff,List.getElem?_map,List.getElem?_range (by omega)]
  rfl

theorem mem_staff {t : TeacherInputV2} (h : t ∈ sc.staff) : ∃ k comps, t = .plain (staffId k) comps [] ∧
    ∀ c ∈ comps, c.classId = none := by
  obtain ⟨k,-,rfl⟩ := List.mem_map.mp h
  refine ⟨k,_,rfl,?_⟩
  split
  · intro c hc
    obtain ⟨d,-,rfl⟩ := List.mem_map.mp hc
    rfl
  · exact List.forall_mem_nil _

theorem distinctStaff : DistinctStaff sc.input := by
  have hids : sc.input.teachers.map (·.staffProfileId) =
      (List.range ((enumerateSlots yearGroups).length + 1)).map staffId := by
    rw [show sc.input.teachers = sc.staff from rfl,staff,List.map_map]
    rfl
  rw [DistinctStaff,hids]
  exact List.Nodup.map staffId_injective List.nodup_range

theorem slots_eq : sc.input.slots = enumerateSlots yearGroups := slots_probe

theorem plainRows : PlainRows (sc.cells.map fun c => .single c.1.yearGroupId c.2) := by
  intro row hrow
  obtain ⟨c,-,rfl⟩ := List.mem_map.mp hrow
  rfl

/-- Every lesson is a plain one of the class. -/
theorem lesson_plain {lesson : Lesson} (h : lesson ∈ sc.input.lessons) : lesson.classId = "class" ∧
    lesson.maxPeriodsPerDay = 1 ∧ lesson.requiredRoomType = none ∧ lesson.doublePairIndex = none := by
  have hrow : ∀ d ∈ demands sc.input, d.classId = "class" ∧ d.entry = .single d.entry.yearGroupId d.entry.subjectId := by
    intro d hd
    obtain ⟨yg,hyg,hd⟩ := List.mem_flatMap.mp hd
    obtain ⟨yg,-,rfl⟩ := List.mem_map.mp hyg
    obtain ⟨sec,hsec,hd⟩ := List.mem_flatMap.mp hd
    obtain ⟨entry,hentry,rfl⟩ := List.mem_map.mp hd
    obtain rfl := List.mem_singleton.mp hsec
    refine ⟨rfl,sc.plainRows entry ?_⟩
    rcases List.mem_append.mp hentry with h | h <;> exact (List.mem_filter.mp h).1
  obtain ⟨d,hd,ho⟩ := ofDemand_buildLessons h
  obtain ⟨hclass,hentry⟩ := hrow d hd
  refine ⟨ho.classId.trans hclass,?_,?_,?_⟩
  · rw [ho.maxPeriodsPerDay,hentry]
    rfl
  · rw [ho.requiredRoomType,hentry]
    rfl
  · refine doublePairIndex_eq_none (fun d hd => ?_) h
    rw [(hrow d hd).2]
    rfl

theorem legal_lesson_plain {la : Indexed} (h : la ∈ sc.input.legal.zipIdx) : la.1.lesson.classId = "class" ∧
    la.1.lesson.maxPeriodsPerDay = 1 ∧ la.1.lesson.requiredRoomType = none ∧ la.1.lesson.doublePairIndex = none := by
  have hmem : la.1 ∈ sc.input.legal := List.mem_of_getElem? (List.mem_zipIdx_iff_getElem?.mp h)
  exact sc.lesson_plain (List.mem_of_getElem? (wellFormed_of_mem hmem).lesson)

theorem exists_picks : ∃ picks, sc.Picks picks := by
  have hone : ∀ c, ∃ la : Indexed, c ∈ sc.cells → c.1.isTeaching = true → la ∈ sc.input.legal.zipIdx ∧
      la.1.teacherIdx = 0 ∧ la.1.slot = c.1 ∧ la.1.lesson.subjectId = c.2 := by
    intro c
    by_cases hc : c ∈ sc.cells ∧ c.1.isTeaching = true
    · have hpool : ∀ t ∈ sc.staff, ∀ comp ∈ t.competencies, comp.classId = none := by
        intro t ht
        obtain ⟨k,comps,rfl,hnone⟩ := sc.mem_staff ht
        exact hnone
      obtain ⟨la,hla,hslot,hk,-,hd⟩ := exists_legal_probe
        (sc.cells.filterMap fun c => c.1.breakGroupId.map fun g => ⟨g,1⟩) sc.plainRows
        (fun pin hpin => (sc.pin_plain pin hpin).1) hpool (sc.mem c hc.1) hc.2
        (List.mem_map_of_mem hc.1) (sc.getElem?_staff (Nat.zero_le _))
        (by rw [TeacherInputV2.plain,if_pos rfl]; exact List.mem_map.mpr ⟨c,hc.1,rfl⟩) rfl
      obtain ⟨i,hi⟩ := List.mem_iff_getElem?.mp hla
      exact ⟨(la,i),fun _ _ => ⟨List.mem_zipIdx_iff_getElem?.mpr hi,hk,hslot,hd.subjectId⟩⟩
    · exact ⟨(⟨0,⟨"","","","",0,none,none,false,none⟩,c.1,0,.plain "" [] []⟩,0),fun h1 h2 => absurd ⟨h1,h2⟩ hc⟩
  choose f hf using hone
  have hpick : ∀ {la : Indexed}, la ∈ (sc.cells.filter fun c => c.1.isTeaching).map f →
      ∃ c ∈ sc.cells, c.1.isTeaching = true ∧ f c = la := by
    intro la hla
    obtain ⟨c,hc,rfl⟩ := List.mem_map.mp hla
    obtain ⟨hmem,ht⟩ := List.mem_filter.mp hc
    exact ⟨c,hmem,ht,rfl⟩
  refine ⟨(sc.cells.filter fun c => c.1.isTeaching).map f,?_,?_,?_,?_,?_⟩
  · rintro la hla
    obtain ⟨c,hc,ht,rfl⟩ := hpick hla
    exact (hf c hc ht).1
  · rintro la hla
    obtain ⟨c,hc,ht,rfl⟩ := hpick hla
    exact (hf c hc ht).2.1
  · rintro la hla
    obtain ⟨c,hc,ht,rfl⟩ := hpick hla
    exact ⟨c,hc,ht,(hf c hc ht).2.2⟩
  · intro a ha b hb hab
    obtain ⟨c,hc,ht,rfl⟩ := hpick ha
    obtain ⟨d,hd,ht',rfl⟩ := hpick hb
    rw [(hf c hc ht).2.2.1,(hf d hd ht').2.2.1] at hab
    rw [sc.group_inj c hc d hd (congrArg _ hab)]
  · intro c hc ht
    exact ⟨f c,List.mem_map_of_mem (List.mem_filter.mpr ⟨hc,ht⟩),(hf c hc ht).2.2⟩

/-! ## The valuation satisfies the model, section by section -/

theorem valuation_bool (picks : List Indexed) (x : Var) : sc.valuation picks x = 0 ∨ sc.valuation picks x = 1 := by
  cases x <;> simp only [valuation] <;> first | (split <;> simp) | simp

section
variable {sc} {picks : List Indexed}

theorem places (hp : sc.Picks picks) : Places (sc.valuation picks) sc.input.legal picks := ⟨hp.legal,fun _ => rfl⟩

theorem mem_placed (hp : sc.Picks picks) {la : Indexed} :
    la ∈ placedRecords (sc.valuation picks) sc.input.legal ↔ la ∈ picks := (places hp).mem_placed

/-- A key that tells the picks apart is used at most once. -/
theorem countP_placed_le (hp : sc.Picks picks) (p : Indexed → Bool) (h : ∀ a ∈ picks, ∀ b ∈ picks, p a = true → p b = true → a = b) :
    (placedRecords (sc.valuation picks) sc.input.legal).countP p ≤ 1 := by
  exact countP_le_one (nodup_placedRecords _ _) fun a ha b hb => h a ((mem_placed hp).mp ha) b ((mem_placed hp).mp hb)

theorem eq_of_subject (hp : sc.Picks picks) {a b : Indexed} (ha : a ∈ picks) (hb : b ∈ picks)
    (h : a.1.lesson.subjectId = b.1.lesson.subjectId) : a = b := by
  obtain ⟨c,hc,-,hcs,hcu⟩ := hp.cell a ha
  obtain ⟨d,hd,-,hds,hdu⟩ := hp.cell b hb
  refine hp.inj a ha b hb ?_
  rw [hcs,hds,sc.subject_inj c hc d hd (hcu ▸ hdu ▸ h)]

theorem eq_of_group (hp : sc.Picks picks) {a b : Indexed} (ha : a ∈ picks) (hb : b ∈ picks)
    (h : a.1.slot.timeGroupId = b.1.slot.timeGroupId) : a = b := by
  obtain ⟨c,hc,-,hcs,-⟩ := hp.cell a ha
  obtain ⟨d,hd,-,hds,-⟩ := hp.cell b hb
  refine hp.inj a ha b hb ?_
  rw [hcs,hds] at h ⊢
  rw [sc.group_inj c hc d hd h]

theorem placementBool : PlacementBool (sc.valuation picks) sc.input.legal := fun _ _ => valuation_bool sc picks _

theorem sat_sectionA (hp : sc.Picks picks) : Sat (sc.valuation picks) (sectionA sc.input.lessons sc.input.legal) := by
  refine (places hp).sat_sectionA (fun _ => rfl) fun a ha b hb hab => ?_
  have hla := (wellFormed_of_zipIdx (hp.legal a ha)).lesson
  have hlb := (wellFormed_of_zipIdx (hp.legal b hb)).lesson
  rw [hab] at hla
  exact eq_of_subject hp ha hb (congrArg Lesson.subjectId (Option.some.inj (hla.symm.trans hlb)))

theorem sat_sectionB (hp : sc.Picks picks) : Sat (sc.valuation picks) (sectionB sc.input sc.input.slots sc.input.legal) := by
  refine (sat_sectionB_iff placementBool).mpr fun la hla => ?_
  have hcap : capLookup sc.input.legal la.1.lesson.classId la.1.lesson.subjectId = 1 := by
    have hmem : la.1 ∈ sc.input.legal := List.mem_of_getElem? (List.mem_zipIdx_iff_getElem?.mp hla)
    obtain ⟨m,hm⟩ := Option.isSome_iff_exists.mp (isSome_lastWith
      (p := fun m : LegalAssignment => m.lesson.classId = la.1.lesson.classId &&
        m.lesson.subjectId = la.1.lesson.subjectId) |>.mpr ⟨la.1,hmem,by simp⟩)
    obtain ⟨i,hi⟩ := List.mem_iff_getElem?.mp (mem_of_lastWith hm)
    rw [capLookup,hm,Option.map_some,Option.getD_some]
    have hmi : (m,i) ∈ sc.input.legal.zipIdx := List.mem_zipIdx_iff_getElem?.mpr hi
    exact (sc.legal_lesson_plain hmi).2.1
  have hload : subjectClassDay sc.input sc.input.slots la.1.lesson.classId la.1.lesson.subjectId
      la.1.slot.weekday = 0 := by
    rw [subjectClassDay,List.countP_eq_zero]
    intro q hq
    simp [(sc.pin_plain q.1 (mem_resolvedPins.mp hq).1).1]
  have hle := countP_placed_le hp (fun w => subjectDayKey w = subjectDayKey la) fun a ha b hb hak hbk => by
    have hab := (of_decide_eq_true hak).trans (of_decide_eq_true hbk).symm
    simp only [subjectDayKey,Prod.mk.injEq] at hab
    exact eq_of_subject hp ha hb hab.2.1
  rw [hcap,hload]
  omega

theorem sat_sectionC (hp : sc.Picks picks) : Sat (sc.valuation picks) (sectionC sc.input sc.input.slots sc.input.legal) := by
  refine (sat_sectionC_iff placementBool).mpr ⟨?_,fun la hla => ?_⟩
  · refine List.Nodup.map_on (fun a ha b hb hab => ?_) (nodup_placedRecords _ _)
    simp only [classKey,Prod.mk.injEq] at hab
    exact eq_of_group hp ((mem_placed hp).mp ha) ((mem_placed hp).mp hb) hab.2
  · rw [(sc.legal_lesson_plain (mem_chosen.mp hla).1).1,classTg,List.countP_eq_zero]
    intro q hq
    simp [(sc.pin_plain q.1 (mem_resolvedPins.mp hq).1).2]

theorem sat_sectionD : Sat (sc.valuation picks) (sectionD sc.input sc.input.slots sc.input.legal) := by
  refine (sat_sectionD_iff placementBool).mpr fun la hla => ?_
  have hle : (placedRecords (sc.valuation picks) sc.input.legal).countP (fun w => roomKey w = roomKey la) ≤
      sc.input.legal.length := countP_placed_le_length _
  rw [(sc.legal_lesson_plain hla).2.2.1,roomCapacity_of_shared rfl]
  omega

theorem sat_sectionE : Sat (sc.valuation picks) (sectionE sc.input sc.input.slots sc.input.legal) := by
  refine (sat_sectionE_iff placementBool).mpr fun t ht => ?_
  obtain ⟨k,comps,he,-⟩ := sc.mem_staff (List.mem_of_getElem? (List.mem_zipIdx_iff_getElem?.mp ht))
  rw [he]
  exact ⟨fun _ h => absurd h (by simp [TeacherInputV2.plain]),fun _ h => absurd h (by simp [TeacherInputV2.plain])⟩

theorem sat_sectionF {v : Var → ℤ} : Sat v (sectionF sc.input.lessons sc.input.slots sc.input.legal) := by
  have hnone : (sc.input.lessons.zipIdx.filterMap fun l => l.1.doublePairIndex.map fun p => (p,l.2)) = [] := by
    rw [List.filterMap_eq_nil_iff]
    intro l hl
    rw [(sc.lesson_plain (List.mem_of_getElem? (List.mem_zipIdx_iff_getElem?.mp hl))).2.2.2]
    rfl
  rw [sectionF,doublePairs,hnone]
  exact sat_nil

/-! ### Duties -/

/-- A yard cell with a break group holds no pin. -/
theorem supervisorsAtSlot_eq_zero (bg : String) (slotId : ℕ) :
    supervisorsAtSlot sc.input sc.input.slots bg slotId = 0 := by
  rw [supervisorsAtSlot,List.countP_eq_zero]
  intro q hq hb
  obtain ⟨hpin,hres⟩ := mem_resolvedPins.mp hq
  rw [slots_eq] at hres
  rw [Bool.and_eq_true,Bool.and_eq_true,decide_eq_true_eq] at hb
  exact (sc.pin_cell q.1 hpin q.2 hres).1 ⟨hb.1.1,by simp [hb.1.2]⟩

theorem holder_lt {s : PhysicalSlot} (hs : s ∈ sc.input.slots) : sc.holder s.slotId < sc.input.teachers.length := by
  have hlen : sc.input.teachers.length = (enumerateSlots yearGroups).length + 1 := by
    rw [show sc.input.teachers = sc.staff from rfl,staff,List.length_map,List.length_range]
  have hlt := slotId_lt (sc.slots_eq ▸ hs)
  rw [hlen,length_enumerateSlots]
  unfold holder
  split <;> omega

/-- Exactly one teacher holds a yard cell. -/
theorem sum_slotSupervision (picks : List Indexed) (bg : ℕ) {s : PhysicalSlot} (hs : s ∈ sc.input.slots) :
    (((slotSupervision sc.input bg s).map Prod.snd).map (sc.valuation picks)).sum = 1 := by
  have hall : sc.input.teachers.zipIdx.filter (fun t => availableForSupervision t.1 s) = sc.input.teachers.zipIdx := by
    rw [List.filter_eq_self]
    intro t ht
    obtain ⟨k,comps,he,-⟩ := sc.mem_staff (List.mem_of_getElem? (List.mem_zipIdx_iff_getElem?.mp ht))
    rw [he]
    rfl
  have hcount : sc.input.teachers.zipIdx.countP (fun t => t.2 = sc.holder s.slotId) = 1 := by
    have hrange : sc.input.teachers.zipIdx.countP (fun t => t.2 = sc.holder s.slotId) =
        (sc.input.teachers.zipIdx.map Prod.snd).count (sc.holder s.slotId) := by
      rw [List.count_eq_countP,List.countP_map]
      rfl
    rw [hrange,List.zipIdx_map_snd]
    exact List.count_eq_one_of_mem (List.nodup_range' ..) (by simpa using holder_lt hs)
  rw [slotSupervision,hall,sum_eq_countP fun x _ => valuation_bool sc picks x,List.map_map,List.countP_map]
  refine congrArg Nat.cast ((List.countP_congr fun t _ => ?_).trans hcount)
  by_cases h : t.2 = sc.holder s.slotId <;> simp [valuation,h]

theorem sat_sectionG : Sat (sc.valuation picks) (sectionG sc.input sc.input.slots) := by
  rw [sectionG,sat_append,sat_flatMap,sat_flatMap]
  constructor
  · intro bg hbg
    rw [sat_flatMap]
    intro s hs
    have hmem : s ∈ sc.input.slots := (List.mem_filter.mp hs).1
    have hone : bg.1.requiredSupervisorCount = 1 := by
      obtain ⟨c,-,hc⟩ := List.mem_filterMap.mp (List.mem_of_getElem? (List.mem_zipIdx_iff_getElem?.mp hbg))
      obtain ⟨g,-,hg⟩ := Option.map_eq_some_iff.mp hc
      rw [← hg]
    have hneed : supervisorNeed sc.input sc.input.slots bg.1 s = 1 := by
      simp [supervisorNeed,hone,supervisorsAtSlot_eq_zero]
    have hsum := sum_slotSupervision picks bg.2 hmem
    simp only [slotNeed,sat_append,sat_map,hneed]
    refine ⟨fun x _ => boolVar_holds (valuation_bool sc picks x),?_⟩
    split
    · exact sat_nil
    · rw [sat_singleton]
      simpa only [Constraint.Holds,LinExpr.eval_sumOf,LinExpr.eval_ofInt] using hsum
  · intro t ht
    obtain ⟨k,comps,he,-⟩ := sc.mem_staff (List.mem_of_getElem? (List.mem_zipIdx_iff_getElem?.mp ht))
    rw [he]
    exact sat_nil

/-- A chosen duty is its holder's. -/
theorem mem_chosen_duty {e : (ℕ × ℕ) × Var}
    (he : e ∈ chosen (sc.valuation picks) Prod.snd (supervisionVars sc.input sc.input.slots)) {s : PhysicalSlot}
    (hs : sc.input.slots.find? (fun s => s.slotId = e.1.1) = some s) :
    e.1 = (s.slotId,sc.holder s.slotId) ∧ s ∈ enumerateSlots yearGroups := by
  obtain ⟨hmem,hv⟩ := mem_chosen.mp he
  have hid : s.slotId = e.1.1 := by simpa using List.find?_some hs
  obtain ⟨bg,-,s',-,t,-,-,rfl⟩ := mem_supervisionVars hmem
  refine ⟨?_,sc.slots_eq ▸ List.mem_of_find?_eq_some hs⟩
  have hk : t.2 = sc.holder s'.slotId := by
    by_contra hno
    simp [valuation,hno] at hv
  rw [hid]
  exact Prod.ext rfl hk

/-- The first teacher holds only the yard cells of the scene. -/
theorem holder_eq_zero {s : PhysicalSlot} (hs : s ∈ enumerateSlots yearGroups) (h : sc.holder s.slotId = 0) :
    ∃ c ∈ sc.cells, c.1.isTeaching = false ∧ c.1 = s := by
  unfold holder at h
  split at h
  · rename_i hex
    obtain ⟨c,hc,ht,hid⟩ := hex
    exact ⟨c,hc,ht,eq_of_slotId_eq (sc.mem c hc) hs hid⟩
  · omega

theorem holder_injective {s t : PhysicalSlot} (hs : s ∈ enumerateSlots yearGroups) (ht : t ∈ enumerateSlots yearGroups)
    (hh : sc.holder s.slotId = sc.holder t.slotId) (hg : s.timeGroupId = t.timeGroupId) : s = t := by
  by_cases hz : sc.holder s.slotId = 0
  · obtain ⟨c,hc,-,rfl⟩ := holder_eq_zero hs hz
    obtain ⟨d,hd,-,rfl⟩ := holder_eq_zero ht (hh ▸ hz)
    rw [sc.group_inj c hc d hd hg]
  · refine eq_of_slotId_eq hs ht ?_
    unfold holder at hh hz
    split at hh <;> split at hh <;> simp_all

/-- The pins keep the first teacher away from the time groups of the scene, and nobody else. -/
theorem teacherTg_eq_zero {k tg : ℕ} (h : k = 0 → ∃ c ∈ sc.cells, c.1.timeGroupId = tg) :
    teacherTg sc.input sc.input.slots k tg = 0 := by
  rw [teacherTg,List.countP_eq_zero]
  intro q hq hb
  obtain ⟨hpin,hres⟩ := mem_resolvedPins.mp hq
  rw [slots_eq] at hres
  rw [Bool.and_eq_true,decide_eq_true_eq,decide_eq_true_eq] at hb
  have hzero : pinTeacher sc.input q.1 = some 0 := by
    rw [pinTeacher,sc.pin_teacher q.1 hpin]
    exact sc.distinctStaff.teacherIdToIdx_eq (sc.getElem?_staff (Nat.zero_le _))
  obtain ⟨c,hc,htg⟩ := h (Option.some.inj (hb.1.symm.trans hzero))
  exact (sc.pin_cell q.1 hpin q.2 hres).2 c hc (htg.trans hb.2.symm)

theorem sat_sectionH (hp : sc.Picks picks) : Sat (sc.valuation picks) (sectionH sc.input sc.input.slots sc.input.legal) := by
  refine (sat_sectionH_iff (use_bool placementBool fun _ _ => valuation_bool sc picks _)).mpr ?_
  rw [chosen_teacherUses,List.map_append,List.map_map]
  refine ⟨List.nodup_append.mpr ⟨?_,?_,?_⟩,?_⟩
  · refine List.Nodup.map_on (fun a ha b hb hab => ?_) (nodup_placedRecords _ _)
    simp only [Function.comp,Prod.mk.injEq] at hab
    exact eq_of_group hp ((mem_placed hp).mp ha) ((mem_placed hp).mp hb) hab.2
  · have hkeys : (chosen (sc.valuation picks) Prod.snd (supervisionVars sc.input sc.input.slots)).Pairwise
        fun a b => a.1 ≠ b.1 := (List.pairwise_map.mp (nodup_ofPairs _)).sublist chosen_sublist
    rw [List.Nodup,List.pairwise_map,List.pairwise_filterMap]
    refine hkeys.imp_of_mem fun {a b} ha hb hne x hx y hy hxy => ?_
    obtain ⟨s,hs,rfl⟩ := Option.map_eq_some_iff.mp hx
    obtain ⟨t,ht,rfl⟩ := Option.map_eq_some_iff.mp hy
    obtain ⟨hae,hsm⟩ := mem_chosen_duty ha hs
    obtain ⟨hbe,htm⟩ := mem_chosen_duty hb ht
    simp only [hae,hbe,Prod.mk.injEq] at hxy
    rw [hae,hbe,holder_injective hsm htm hxy.1 hxy.2] at hne
    exact hne rfl
  · intro x hx y hy hxy
    obtain ⟨la,hla,rfl⟩ := List.mem_map.mp hx
    obtain ⟨u,hu,rfl⟩ := List.mem_map.mp hy
    obtain ⟨e,he,hu⟩ := List.mem_filterMap.mp hu
    obtain ⟨s,hs,rfl⟩ := Option.map_eq_some_iff.mp hu
    obtain ⟨hee,hsm⟩ := mem_chosen_duty he hs
    have hpick := (mem_placed hp).mp hla
    simp only [Function.comp,hp.teacher la hpick,hee,Prod.mk.injEq] at hxy
    obtain ⟨c,hc,hct,hcs⟩ := holder_eq_zero hsm hxy.1.symm
    obtain ⟨d,hd,hdt,hds,-⟩ := hp.cell la hpick
    have hcd := sc.group_inj d hd c hc (by rw [← hds,hcs]; exact hxy.2)
    rw [hcd,hct] at hdt
    cases hdt
  · intro u hu
    rcases List.mem_append.mp hu with hu | hu
    · obtain ⟨la,hla,rfl⟩ := List.mem_map.mp hu
      obtain ⟨c,hc,-,hcs,-⟩ := hp.cell la ((mem_placed hp).mp hla)
      exact teacherTg_eq_zero fun _ => ⟨c,hc,by rw [hcs]⟩
    · obtain ⟨e,he,hu⟩ := List.mem_filterMap.mp hu
      obtain ⟨s,hs,rfl⟩ := Option.map_eq_some_iff.mp hu
      obtain ⟨hee,hsm⟩ := mem_chosen_duty he hs
      refine teacherTg_eq_zero fun hz => ?_
      obtain ⟨c,hc,-,rfl⟩ := holder_eq_zero hsm (by simpa [hee] using hz)
      exact ⟨c,hc,rfl⟩

theorem sat_model (hp : sc.Picks picks) : Sat (sc.valuation picks) sc.input.model := sat_model_iff.mpr ⟨sat_sectionA hp,sat_sectionB hp,
  sat_sectionC hp,sat_sectionD,sat_sectionE,sat_sectionF,sat_sectionG,sat_sectionH hp⟩

end

end Scene

end EduPod.Scheduling
