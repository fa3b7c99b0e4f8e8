import EduPod.Scheduling.Scene
import EduPod.Scheduling.TeacherClash

/-! # Which grids keep teachers apart

On aligned grids no teacher is double-booked; on any other grids some input and some
satisfying valuation double-book one.
-/
namespace EduPod.Scheduling
open Grouping LinearModel

theorem TeacherClash.symm {a b : SolverAssignmentV2} (h : TeacherClash a b) : TeacherClash b a := by
  obtain ⟨⟨id,ha,hb⟩,hw,hov,hpin⟩ := h
  refine ⟨⟨id,hb,ha⟩,hw.symm,?_,fun hp => hpin hp.symm⟩
  rwa [timesOverlap,Bool.and_comm]

/-- Two entries that show one teacher in overlapping cells clash. -/
theorem Shows.clash {input : SolverInputV2} {k : ℕ} {s t : PhysicalSlot} {e e' : SolverAssignmentV2}
    (h : Shows input k s e) (h' : Shows input k t e') (hov : slotsOverlap s t = true) (hpin : e.isPinned = false) :
    TeacherClash e e' := by
  obtain ⟨u,hu,he⟩ := h.teacher
  obtain ⟨u',hu',he'⟩ := h'.teacher
  rw [hu] at hu'
  obtain rfl := Option.some.inj hu'
  rw [slotsOverlap,Bool.and_eq_true,decide_eq_true_eq] at hov
  refine ⟨⟨_,he,he'⟩,?_,?_,fun hp => ?_⟩
  · rw [h.weekday,h'.weekday,hov.1]
  · rw [h.startTime,h.endTime,h'.startTime,h'.endTime]
    exact hov.2
  · rw [hpin] at hp
    exact Bool.false_ne_true hp.1

section
variable {input : SolverInputV2} {v : Var → ℤ} (hno : NoTeacherClash (solutionEntries input v))
include hno

theorem not_clash_lessons {a b : Indexed} (ha : a ∈ placedRecords v input.legal)
    (hb : b ∈ placedRecords v input.legal) (hne : a ≠ b) : ¬TeacherClash
      (lessonEntry (assignRooms input input.slots (placedRecords v input.legal)) a)
      (lessonEntry (assignRooms input input.slots (placedRecords v input.legal)) b) := by
  have hpw := List.pairwise_map.mp (List.pairwise_append.mp (List.pairwise_append.mp hno).1).2.1
  have : Std.Symm fun a b : Indexed => ¬TeacherClash
      (lessonEntry (assignRooms input input.slots (placedRecords v input.legal)) a)
      (lessonEntry (assignRooms input input.slots (placedRecords v input.legal)) b) := ⟨fun _ _ h hc => h hc.symm⟩
  exact hpw.forall ha hb hne

theorem not_clash_duties {e e' : (ℕ × ℕ) × Var} (he : e ∈ chosen v Prod.snd (supervisionVars input input.slots))
    (he' : e' ∈ chosen v Prod.snd (supervisionVars input input.slots)) (hne : e ≠ e')
    {d d' : PhysicalSlot × TeacherInputV2} (hd : dutyOf input input.slots e = some d) (hd' : dutyOf input input.slots e' = some d') :
    ¬TeacherClash (supervisionEntry d.1 d.2) (supervisionEntry d'.1 d'.2) := by
  have hpw := List.pairwise_filterMap.mp (List.pairwise_map.mp (List.pairwise_append.mp hno).2.1)
  have : Std.Symm fun e e' : (ℕ × ℕ) × Var => ∀ d, dutyOf input input.slots e = some d → ∀ d', dutyOf input input.slots e' = some d' →
      ¬TeacherClash (supervisionEntry d.1 d.2) (supervisionEntry d'.1 d'.2) :=
    ⟨fun _ _ h d hd d' hd' hc => h d' hd' d hd hc.symm⟩
  exact hpw.forall he he' hne d hd d' hd'

theorem not_clash_lesson_duty {a : Indexed} (ha : a ∈ placedRecords v input.legal) {e : (ℕ × ℕ) × Var}
    (he : e ∈ chosen v Prod.snd (supervisionVars input input.slots)) {d : PhysicalSlot × TeacherInputV2}
    (hd : dutyOf input input.slots e = some d) : ¬TeacherClash
      (lessonEntry (assignRooms input input.slots (placedRecords v input.legal)) a) (supervisionEntry d.1 d.2) :=
  (List.pairwise_append.mp hno).2.2 _ (List.mem_append_right _ (List.mem_map_of_mem ha)) _
    (List.mem_map_of_mem (List.mem_filterMap.mpr ⟨e,he,hd⟩))

end

namespace Scene
variable {yearGroups : List YearGroupInput} {sc : Scene yearGroups} {picks : List Indexed}

variable (picks) in
/-- A yard cell of the scene is the first teacher's duty. -/
theorem exists_duty {c : PhysicalSlot × String} (hc : c ∈ sc.cells) (hocc : c.1.Occupiable)
    (ht : c.1.isTeaching = false) : ∃ e ∈ chosen (sc.valuation picks) Prod.snd (supervisionVars sc.input sc.input.slots),
      ∃ t, dutyOf sc.input sc.input.slots e = some (c.1,t) ∧ sc.input.teachers[0]? = some t ∧ e.1 = (c.1.slotId,0) := by
  have hyard := hocc.resolve_left (by rw [ht]; exact Bool.false_ne_true)
  obtain ⟨g,hg⟩ := Option.isSome_iff_exists.mp hyard.2
  have hslots : c.1 ∈ sc.input.slots := sc.slots_eq ▸ sc.mem c hc
  have hteacher := sc.getElem?_staff (Nat.zero_le _)
  -- the key of the duty is among the variables
  have hkey : (c.1.slotId,0) ∈ (supervisionVars sc.input sc.input.slots).map Prod.fst := by
    rw [supervisionVars,mem_keys_ofPairs]
    obtain ⟨i,hi⟩ := List.mem_iff_getElem?.mp (show (⟨g,1⟩ : BreakGroupInput) ∈ sc.input.breakGroups from
      List.mem_filterMap.mpr ⟨c,hc,by rw [hg]; rfl⟩)
    refine List.mem_map.mpr ⟨((c.1.slotId,0),.supervision i c.1.slotId 0),?_,rfl⟩
    refine List.mem_flatMap.mpr ⟨(⟨g,1⟩,i),List.mem_zipIdx_iff_getElem?.mpr hi,List.mem_flatMap.mpr ⟨c.1,?_,?_⟩⟩
    · exact List.mem_filter.mpr ⟨hslots,by simpa [hg,PhysicalSlot.isYard] using hyard.1⟩
    · refine List.mem_map.mpr ⟨(_,0),List.mem_filter.mpr ⟨List.mem_zipIdx_iff_getElem?.mpr hteacher,?_⟩,rfl⟩
      rfl
  obtain ⟨e,he,hek⟩ := List.mem_map.mp hkey
  have hholder : sc.holder c.1.slotId = 0 := if_pos ⟨c,hc,ht,rfl⟩
  have hv : sc.valuation picks e.2 = 1 := by
    obtain ⟨bg,-,s,-,t,-,-,rfl⟩ := mem_supervisionVars he
    obtain ⟨hs,ht0⟩ := Prod.mk.inj hek
    simp [valuation,hs,ht0,hholder]
  have hfind : sc.input.slots.find? (fun s => s.slotId = e.1.1) = some c.1 := by
    obtain ⟨s,hs⟩ := Option.isSome_iff_exists.mp (List.find?_isSome.mpr ⟨c.1,hslots,by simp [hek]⟩ :
      (sc.input.slots.find? fun s => s.slotId = e.1.1).isSome)
    have hid : s.slotId = c.1.slotId := by simpa [hek] using List.find?_some hs
    rw [hs,eq_of_slotId_eq (List.mem_of_find?_eq_some hs) hslots hid]
  refine ⟨e,mem_chosen.mpr ⟨he,hv⟩,_,?_,hteacher,hek⟩
  rw [dutyOf,hfind,hek]
  exact congrArg (Option.map _) hteacher

/-- Two cells of the scene that overlap make the first teacher clash. -/
theorem clash_of_overlap (hp : sc.Picks picks) {c d : PhysicalSlot × String} (hc : c ∈ sc.cells) (hd : d ∈ sc.cells)
    (hcd : c ≠ d) (hco : c.1.Occupiable) (hdo : d.1.Occupiable) (hov : slotsOverlap c.1 d.1 = true) :
    ¬NoTeacherClash (solutionEntries sc.input (sc.valuation picks)) := by
  intro hno
  have hlesson : ∀ c ∈ sc.cells, c.1.isTeaching = true →
      ∃ la ∈ placedRecords (sc.valuation picks) sc.input.legal, la.1.slot = c.1 ∧ ∀ rooms,
        Shows sc.input 0 c.1 (lessonEntry rooms la) := by
    intro c hc ht
    obtain ⟨la,hla,hslot,-⟩ := hp.complete c hc ht
    refine ⟨la,(mem_placed hp).mpr hla,hslot,fun rooms => ?_⟩
    have hshow := shows_lessonEntry (hp.legal la hla) rooms
    rwa [hp.teacher la hla,hslot] at hshow
  by_cases hct : c.1.isTeaching = true
  · obtain ⟨a,ha,has,hashow⟩ := hlesson c hc hct
    by_cases hdt : d.1.isTeaching = true
    · obtain ⟨b,hb,hbs,hbshow⟩ := hlesson d hd hdt
      refine not_clash_lessons hno ha hb (fun hab => hcd ?_) ((hashow _).clash (hbshow _) hov rfl)
      exact sc.group_inj c hc d hd (by rw [← has,← hbs,hab])
    · obtain ⟨e,he,t,hdty,ht,-⟩ := exists_duty picks hd hdo (Bool.eq_false_iff.mpr hdt)
      exact not_clash_lesson_duty hno ha he hdty ((hashow _).clash (shows_supervisionEntry (d := (d.1,t)) ht) hov rfl)
  · obtain ⟨e,he,t,hdty,ht,hek⟩ := exists_duty picks hc hco (Bool.eq_false_iff.mpr hct)
    by_cases hdt : d.1.isTeaching = true
    · obtain ⟨b,hb,-,hbshow⟩ := hlesson d hd hdt
      refine not_clash_lesson_duty hno hb he hdty ((hbshow _).clash (shows_supervisionEntry (d := (c.1,t)) ht) ?_ rfl)
      rwa [slotsOverlap_comm]
    · obtain ⟨e',he',t',hdty',ht',hek'⟩ := exists_duty picks hd hdo (Bool.eq_false_iff.mpr hdt)
      refine not_clash_duties hno he he' (fun hee => hcd ?_) hdty hdty'
        ((shows_supervisionEntry (d := (c.1,t)) ht).clash (shows_supervisionEntry (d := (d.1,t')) ht') hov rfl)
      rw [hee,hek'] at hek
      have hid := eq_of_slotId_eq (sc.mem d hd) (sc.mem c hc) (Prod.mk.inj hek).1
      exact sc.group_inj c hc d hd (by rw [hid])

/-- A cell of the scene that overlaps a pin's cell makes the first teacher clash with the pin. -/
theorem clash_with_pin (hp : sc.Picks picks) {c : PhysicalSlot × String} (hc : c ∈ sc.cells) (hco : c.1.Occupiable)
    {pin : PinnedEntryV2} (hpin : pin ∈ sc.pins) {t : PhysicalSlot}
    (ht : resolvePin (enumerateSlots yearGroups) pin = some t) (hov : slotsOverlap c.1 t = true) :
    ¬NoTeacherClash (solutionEntries sc.input (sc.valuation picks)) := by
  intro hno
  have hpw := List.pairwise_append.mp hno
  have hmem : pinEntry (pin,t) ∈ pinnedToAssignments sc.input sc.input.slots :=
    List.mem_map_of_mem (mem_resolvedPins.mpr ⟨hpin,by rw [slots_eq]; exact ht⟩)
  have hshow : Shows sc.input 0 t (pinEntry (pin,t)) :=
    ⟨⟨_,sc.getElem?_staff (Nat.zero_le _),sc.pin_teacher pin hpin⟩,(mem_of_resolvePin ht).2.1.symm,rfl,rfl⟩
  by_cases hct : c.1.isTeaching = true
  · obtain ⟨la,hla,hslot,-⟩ := hp.complete c hc hct
    have hlesson := shows_lessonEntry (hp.legal la hla)
      (assignRooms sc.input sc.input.slots (placedRecords (sc.valuation picks) sc.input.legal))
    rw [hp.teacher la hla,hslot] at hlesson
    exact (List.pairwise_append.mp hpw.1).2.2 _ hmem _ (List.mem_map_of_mem ((mem_placed hp).mpr hla))
      (hlesson.clash hshow hov rfl).symm
  · obtain ⟨e,he,u,hdty,hu,-⟩ := exists_duty picks hc hco (Bool.eq_false_iff.mpr hct)
    exact hpw.2.2 _ (List.mem_append_left _ hmem) _ (List.mem_map_of_mem (List.mem_filterMap.mpr ⟨e,he,hdty⟩))
      ((shows_supervisionEntry (d := (c.1,u)) hu).clash hshow hov rfl).symm

/-- Two cells of different time groups. -/
def pair {s t : PhysicalSlot} (hs : s ∈ enumerateSlots yearGroups) (ht : t ∈ enumerateSlots yearGroups)
    (hg : s.timeGroupId ≠ t.timeGroupId) : Scene yearGroups where
  cells := [(s,"maths"),(t,"art")]
  pins := []
  mem := by simp [hs,ht]
  group_inj := by simp [hg,hg.symm]
  subject_inj := by simp
  pin_plain := List.forall_mem_nil _
  pin_cell := List.forall_mem_nil _
  pin_teacher := List.forall_mem_nil _

/-- One cell, and the first teacher pinned in a cell of another time group. -/
def pinned {s t : PhysicalSlot} {pin : PinnedEntryV2} (hs : s ∈ enumerateSlots yearGroups)
    (ht : resolvePin (enumerateSlots yearGroups) pin = some t) (hto : ¬t.Occupiable)
    (hg : s.timeGroupId ≠ t.timeGroupId) : Scene yearGroups where
  cells := [(s,"maths")]
  pins := [⟨"pinned",none,pin.yearGroupId,none,some (staffId 0),pin.weekday,pin.periodOrder⟩]
  mem := by simp [hs]
  group_inj := by simp
  subject_inj := by simp
  pin_plain := by simp
  pin_cell := by
    intro p hp r hr
    obtain rfl := List.mem_singleton.mp hp
    obtain rfl := Option.some.inj (ht.symm.trans hr)
    exact ⟨fun h => hto (Or.inr h),by simpa using hg⟩
  pin_teacher := by simp

end Scene

/-- The grids on which no satisfying valuation double-books a teacher, whatever else the
input holds, are the aligned ones. -/
theorem noTeacherClash_iff_aligned (yearGroups : List YearGroupInput) :
    (∀ input, SameGrids input.yearGroups yearGroups → DistinctStaff input → ∀ v, Sat v input.model →
      NoTeacherClash (solutionEntries input v)) ↔ Aligned yearGroups := by
  constructor
  · intro h s hs t ht hso hto hov
    rw [← timeGroupId_eq_iff hs ht]
    by_contra hg
    by_cases hocc : t.Occupiable
    · obtain ⟨picks,hp⟩ := (Scene.pair hs ht hg).exists_picks
      have hne : ((s,"maths") : PhysicalSlot × String) ≠ (t,"art") := fun he => hg (congrArg (·.1.timeGroupId) he)
      exact Scene.clash_of_overlap hp List.mem_cons_self (List.mem_cons_of_mem _ List.mem_cons_self) hne hso hocc hov
        (h _ sameGrids_probe (Scene.distinctStaff _) _ (Scene.sat_model hp))
    · obtain ⟨pin,hpin⟩ := hto.resolve_left hocc
      obtain ⟨picks,hp⟩ := (Scene.pinned hs hpin hocc hg).exists_picks
      exact Scene.clash_with_pin hp List.mem_cons_self hso List.mem_cons_self hpin hov
        (h _ sameGrids_probe (Scene.distinctStaff _) _ (Scene.sat_model hp))
  · intro ha input hgrid hd v hsat
    refine noTeacherClash_of_aligned hd ?_ hsat
    simp only [Aligned,founderOf,hgrid.enumerateSlots_eq,hgrid.rawCells_eq]
    exact ha

/-! A chain of three grids: the second cell overlaps the first and the third, which do not
overlap each other, so the third opens a group of its own. -/

def chainedGrids : SolverInputV2 :=
  { SolverInputV2.empty with
    yearGroups := [⟨"A",[],[.teaching firstDay 0 "09:00" "10:00"]⟩,⟨"B",[⟨"b"⟩],[.teaching firstDay 0 "09:30" "10:30"]⟩,
      ⟨"C",[⟨"c"⟩],[.teaching firstDay 0 "10:00" "11:00"]⟩]
    curriculum := [.single "B" "maths",.single "C" "maths"]
    teachers := [.plain "teacher" [⟨"maths","B",none⟩,⟨"maths","C",none⟩] []]
    rooms := [⟨"hall","hall",false⟩] }

/-- The valuation that places both lessons satisfies the model and double-books the teacher. -/
theorem not_noTeacherClash : ¬∀ input v, Sat v input.model → NoTeacherClash (solutionEntries input v) := by
  intro h
  have hno := h chainedGrids (fun _ => 1) (by decide)
  rw [NoTeacherClash,List.pairwise_iff_getElem] at hno
  refine hno 0 1 (by decide) (by decide) (by decide) ⟨⟨"teacher",?_,?_⟩,?_,?_,?_⟩ <;> decide

end EduPod.Scheduling
