import Mathlib
import EduPod.Foundation.Fallible
import EduPod.Foundation.Table

/-! # Swapping two schedules

A swap exchanges the teacher and the room of two rows. The four queries of its validation compare clock times, weekdays
and end dates, never start dates, and leave both rows of the swap out.
-/
namespace EduPod.Scheduling.ScheduleSwaps
open Fallible

structure Schedule where
  teacherStaffId : Option ℕ
  roomId : Option ℕ
  weekday : ℕ
  startTime : ℤ
  endTime : ℤ
  effectiveStartDate : ℤ
  effectiveEndDate : Option ℤ
  deriving DecidableEq

structure ConflictOptions where
  excludeIds : List ℕ
  teacherStaffId : Option ℕ := none
  roomId : Option ℕ := none
  weekday : ℕ
  startTime : ℤ
  endTime : ℤ

/-- Whose conflict a violation reports. -/
inductive Violation
  | teacher (teacherStaffId : ℕ)
  | room (roomId : ℕ)
  deriving DecidableEq

structure SwapValidationResult where
  valid : Bool
  violations : List Violation
  teachersAffected : List ℕ
  roomsChanged : Bool
  deriving DecidableEq

inductive SwapError
  | scheduleANotFound | scheduleBNotFound | scheduleNotFound
  | swapConstraintViolation (violations : List Violation)
  deriving DecidableEq

section
variable (db : Table Schedule) (today : ℤ)

def hasConflict (opts : ConflictOptions) : Bool :=
  if opts.teacherStaffId = none ∧ opts.roomId = none then false
  else db.rows.any fun row =>
    !opts.excludeIds.contains row.1 && row.2.weekday = opts.weekday && row.2.startTime < opts.endTime &&
      opts.startTime < row.2.endTime && row.2.effectiveEndDate.all (fun endDate => today ≤ endDate) &&
      opts.teacherStaffId.all (fun teacher => row.2.teacherStaffId = some teacher) &&
      opts.roomId.all (fun room => row.2.roomId = some room)

/-- The teacher of `moved` at the slot of `target`. -/
def teacherViolations (excludeIds : List ℕ) (moved target : Schedule) : List Violation :=
  match moved.teacherStaffId with
  | none => []
  | some teacher =>
    if hasConflict db today ⟨excludeIds,some teacher,none,target.weekday,target.startTime,target.endTime⟩ then
      [.teacher teacher]
    else []

/-- The room of `moved` at the slot of `target`. -/
def roomViolations (excludeIds : List ℕ) (moved target : Schedule) : List Violation :=
  match moved.roomId with
  | none => []
  | some room =>
    if hasConflict db today ⟨excludeIds,none,some room,target.weekday,target.startTime,target.endTime⟩ then [.room room]
    else []

def teachersAffected (scheduleA scheduleB : Schedule) : List ℕ :=
  scheduleA.teacherStaffId.toList ++
    if scheduleB.teacherStaffId = scheduleA.teacherStaffId then [] else scheduleB.teacherStaffId.toList

def validateSwap (idA idB : ℕ) : Except SwapError SwapValidationResult := do
  let scheduleA ← require (db.get? idA) .scheduleANotFound
  let scheduleB ← require (db.get? idB) .scheduleBNotFound
  let violations := teacherViolations db today [idA,idB] scheduleA scheduleB ++
    teacherViolations db today [idA,idB] scheduleB scheduleA ++ roomViolations db today [idA,idB] scheduleA scheduleB ++
    roomViolations db today [idA,idB] scheduleB scheduleA
  .ok ⟨violations.isEmpty,violations,teachersAffected scheduleA scheduleB,scheduleA.roomId ≠ scheduleB.roomId⟩

/-- The row keeps its slot and takes the teacher and the room of another. -/
def takeOver (schedule other : Schedule) : Schedule :=
  { schedule with teacherStaffId := other.teacherStaffId,roomId := other.roomId }

def executeSwap (idA idB : ℕ) : Except SwapError (Table Schedule) := do
  let validation ← validateSwap db today idA idB
  ensure (validation.valid = true) (.swapConstraintViolation validation.violations)
  let scheduleA ← require (db.get? idA) .scheduleNotFound
  let scheduleB ← require (db.get? idB) .scheduleNotFound
  .ok ((db.modify idA fun row => takeOver row scheduleB).modify idB fun row => takeOver row scheduleA)

end

section
variable (dayOf : ℤ → ℕ) (today : ℤ)

structure HeldOn (date : ℤ) (schedule : Schedule) : Prop where
  started : schedule.effectiveStartDate ≤ date
  notEnded : ∀ endDate ∈ schedule.effectiveEndDate,date ≤ endDate
  weekday : dayOf date = schedule.weekday

structure Overlap (s t : Schedule) : Prop where
  fst_lt : s.startTime < t.endTime
  snd_lt : t.startTime < s.endTime

def Shares (s t : Schedule) : Prop :=
  (∃ teacher,s.teacherStaffId = some teacher ∧ t.teacherStaffId = some teacher) ∨
    ∃ room,s.roomId = some room ∧ t.roomId = some room

/-- Both rows are held on a date to come, at overlapping times, and one person or one room is needed for both. -/
def Clash (s t : Schedule) : Prop :=
  ∃ date,today < date ∧ HeldOn dayOf date s ∧ HeldOn dayOf date t ∧ Overlap s t ∧ Shares s t

def NoDoubleBooking (db : Table Schedule) : Prop :=
  ∀ i j s t,i ≠ j → db.get? i = some s → db.get? j = some t → ¬Clash dayOf today s t

end

section
variable {db : Table Schedule} {dayOf : ℤ → ℕ} {today : ℤ} {excludeIds : List ℕ} {i idA idB : ℕ} {s t u : Schedule}

theorem Shares.symm (h : Shares s t) : Shares t s := by
  rcases h with ⟨x,hs,ht⟩ | ⟨x,hs,ht⟩
  · exact .inl ⟨x,ht,hs⟩
  · exact .inr ⟨x,ht,hs⟩

theorem Clash.symm (h : Clash dayOf today s t) : Clash dayOf today t s := by
  obtain ⟨date,hd,hs,ht,ho,hx⟩ := h
  exact ⟨date,hd,ht,hs,⟨ho.snd_lt,ho.fst_lt⟩,hx.symm⟩

theorem Clash.sameSlot (h : Clash dayOf today s t) :
    s.weekday = t.weekday ∧ Overlap s t ∧ ∀ endDate ∈ t.effectiveEndDate,today ≤ endDate := by
  obtain ⟨date,hd,hs,ht,ho,_⟩ := h
  refine ⟨hs.weekday.symm.trans ht.weekday,ho,?_⟩
  intro endDate he
  have := ht.notEnded endDate he
  omega

/-- Both rows of a swap clash afterwards exactly when they did before. -/
theorem clash_takeOver_iff : Clash dayOf today (takeOver s t) (takeOver t s) ↔ Clash dayOf today s t := by
  constructor
  · rintro ⟨date,hd,hs,ht,ho,hx⟩
    exact ⟨date,hd,⟨hs.1,hs.2,hs.3⟩,⟨ht.1,ht.2,ht.3⟩,⟨ho.1,ho.2⟩,Shares.symm hx⟩
  · rintro ⟨date,hd,hs,ht,ho,hx⟩
    exact ⟨date,hd,⟨hs.1,hs.2,hs.3⟩,⟨ht.1,ht.2,ht.3⟩,⟨ho.1,ho.2⟩,hx.symm⟩

/-- A row outside the swap that is not over and meets the query is a conflict. -/
theorem hasConflict_of {opts : ConflictOptions} (hi : db.get? i = some u) (hout : i ∉ opts.excludeIds)
    (hask : ¬(opts.teacherStaffId = none ∧ opts.roomId = none)) (hday : u.weekday = opts.weekday)
    (hstart : u.startTime < opts.endTime) (hend : opts.startTime < u.endTime)
    (hlast : ∀ endDate ∈ u.effectiveEndDate,today ≤ endDate)
    (hteacher : ∀ teacher ∈ opts.teacherStaffId,u.teacherStaffId = some teacher)
    (hroom : ∀ room ∈ opts.roomId,u.roomId = some room) : hasConflict db today opts = true := by
  unfold hasConflict
  rw [if_neg hask,List.any_eq_true]
  refine ⟨(i,u),Table.mem_of_get? hi,?_⟩
  simp only [Bool.and_eq_true,Bool.not_eq_true',List.contains_eq_mem,decide_eq_false_iff_not,decide_eq_true_eq,
    Option.all_eq_true]
  exact ⟨⟨⟨⟨⟨⟨hout,hday⟩,hstart⟩,hend⟩,hlast⟩,hteacher⟩,hroom⟩

/-- When neither query for the people of `t` at the slot of `s` finds anything, no row outside the swap clashes with the
row that takes them over. -/
theorem not_clash_takeOver (hi : db.get? i = some u) (hout : i ∉ excludeIds)
    (ht : teacherViolations db today excludeIds t s = []) (hr : roomViolations db today excludeIds t s = []) :
    ¬Clash dayOf today (takeOver s t) u := by
  intro h
  obtain ⟨hday,ho,hlast⟩ := h.sameSlot
  obtain ⟨_,_,_,_,_,⟨teacher,hs,hu⟩ | ⟨room,hs,hu⟩⟩ := h
  · have hs : t.teacherStaffId = some teacher := hs
    have hc : hasConflict db today ⟨excludeIds,some teacher,none,s.weekday,s.startTime,s.endTime⟩ = true :=
      hasConflict_of hi hout (by simp) hday.symm ho.snd_lt ho.fst_lt hlast (by simpa using hu) (by simp)
    simp [teacherViolations,hs,hc] at ht
  · have hs : t.roomId = some room := hs
    have hc : hasConflict db today ⟨excludeIds,none,some room,s.weekday,s.startTime,s.endTime⟩ = true :=
      hasConflict_of hi hout (by simp) hday.symm ho.snd_lt ho.fst_lt hlast (by simp) (by simpa using hu)
    simp [roomViolations,hs,hc] at hr

/-- What a valid verdict says: both rows exist and none of the four queries found anything. -/
theorem validateSwap_valid {result : SwapValidationResult} (h : validateSwap db today idA idB = .ok result)
    (hvalid : result.valid = true) :
    ∃ s t,db.get? idA = some s ∧ db.get? idB = some t ∧
      (teacherViolations db today [idA,idB] s t = [] ∧ roomViolations db today [idA,idB] s t = []) ∧
      teacherViolations db today [idA,idB] t s = [] ∧ roomViolations db today [idA,idB] t s = [] := by
  unfold validateSwap at h
  obtain ⟨s,hs,h⟩ := require_bind_eq_ok.mp h
  obtain ⟨t,ht,h⟩ := require_bind_eq_ok.mp h
  have hresult := Except.ok.inj h
  subst hresult
  simp only [List.isEmpty_iff,List.append_eq_nil_iff] at hvalid
  obtain ⟨⟨⟨hst,hts⟩,hsr⟩,htr⟩ := hvalid
  exact ⟨s,t,hs,ht,⟨hst,hsr⟩,hts,htr⟩

/-- The rows after a swap, also of a row with itself. -/
theorem get?_swapped (hs : db.get? idA = some s) (ht : db.get? idB = some t) (j : ℕ) :
    ((db.modify idA fun row => takeOver row t).modify idB fun row => takeOver row s).get? j =
      if j = idB then some (takeOver t s) else if j = idA then some (takeOver s t) else db.get? j := by
  rw [Table.get?_modify,Table.get?_modify]
  by_cases hb : j = idB
  · subst hb
    rw [if_pos rfl,if_pos rfl,ht]
    split <;> rfl
  · rw [if_neg hb,if_neg hb]
    split
    · next ha => rw [ha,hs,Option.map_some]
    · rfl

/-- A swap that the validation calls valid goes through and leaves nobody and no room booked twice on a date to come. -/
theorem executeSwap_noDoubleBooking {result : SwapValidationResult} (h : NoDoubleBooking dayOf today db)
    (hv : validateSwap db today idA idB = .ok result) (hvalid : result.valid = true) :
    ∃ after,executeSwap db today idA idB = .ok after ∧ NoDoubleBooking dayOf today after := by
  obtain ⟨s,t,hs,ht,⟨hst,hsr⟩,hts,htr⟩ := validateSwap_valid hv hvalid
  refine ⟨(db.modify idA fun row => takeOver row t).modify idB fun row => takeOver row s,?_,?_⟩
  · unfold executeSwap
    rw [hv,ok_bind,ensure_bind_eq_ok]
    exact ⟨hvalid,require_bind_eq_ok.mpr ⟨s,hs,require_bind_eq_ok.mpr ⟨t,ht,rfl⟩⟩⟩
  intro i j u v hij hu hv
  rw [get?_swapped hs ht] at hu hv
  have outside : ∀ {k : ℕ},k ≠ idB → k ≠ idA → k ∉ [idA,idB] := by
    intro k hb ha
    simp [ha,hb]
  -- by which of the two rows is a row of the swap; the others are as they were
  by_cases hib : i = idB
  · rw [if_pos hib] at hu
    obtain rfl := Option.some.inj hu
    rw [if_neg (fun hj => hij (hib.trans hj.symm))] at hv
    by_cases hja : j = idA
    · rw [if_pos hja] at hv
      obtain rfl := Option.some.inj hv
      rw [clash_takeOver_iff]
      exact h idB idA t s (fun he => hij (hib.trans (he.trans hja.symm))) ht hs
    · rw [if_neg hja] at hv
      exact not_clash_takeOver hv (outside (fun hj => hij (hib.trans hj.symm)) hja) hst hsr
  rw [if_neg hib] at hu
  by_cases hia : i = idA
  · rw [if_pos hia] at hu
    obtain rfl := Option.some.inj hu
    by_cases hjb : j = idB
    · rw [if_pos hjb] at hv
      obtain rfl := Option.some.inj hv
      rw [clash_takeOver_iff]
      exact h idA idB s t (fun he => hij (hia.trans (he.trans hjb.symm))) hs ht
    · rw [if_neg hjb,if_neg (fun hj => hij (hia.trans hj.symm))] at hv
      exact not_clash_takeOver hv (outside hjb fun hj => hij (hia.trans hj.symm)) hts htr
  rw [if_neg hia] at hu
  by_cases hjb : j = idB
  · rw [if_pos hjb] at hv
    obtain rfl := Option.some.inj hv
    exact fun hc => not_clash_takeOver hu (outside hib hia) hst hsr hc.symm
  rw [if_neg hjb] at hv
  by_cases hja : j = idA
  · rw [if_pos hja] at hv
    obtain rfl := Option.some.inj hv
    exact fun hc => not_clash_takeOver hu (outside hib hia) hts htr hc.symm
  rw [if_neg hja] at hv
  exact h i j u v hij hu hv

end

/-- One teacher with two lessons on one day and a colleague in the second room at a third time. -/
def threeLessons : Table Schedule :=
  ((Table.empty.insert ⟨some 1,some 1,1,540,600,0,none⟩).insert ⟨some 1,some 2,1,600,660,0,some 90⟩).insert
    ⟨some 2,some 2,1,660,720,0,none⟩

theorem noDoubleBooking_threeLessons (dayOf : ℤ → ℕ) : NoDoubleBooking dayOf 10 threeLessons := by
  intro i j s t hij hi hj
  have hi := Table.mem_of_get? hi
  have hj := Table.mem_of_get? hj
  simp only [threeLessons,Table.insert,Table.empty,List.nil_append,List.cons_append,List.mem_cons,Prod.mk.injEq,
    List.not_mem_nil,or_false] at hi hj
  rintro ⟨_,_,_,_,⟨hl,hr⟩,_⟩
  obtain ⟨rfl,rfl⟩ | ⟨rfl,rfl⟩ | ⟨rfl,rfl⟩ := hi <;> obtain ⟨rfl,rfl⟩ | ⟨rfl,rfl⟩ | ⟨rfl,rfl⟩ := hj <;>
    simp at hij hl hr

/-- The swapped rows share their teacher. -/
theorem executeSwap_threeLessons : ∃ after,executeSwap threeLessons 10 0 1 = .ok after ∧
    NoDoubleBooking (fun _ => 1) 10 after := by
  have hvalid : validateSwap threeLessons 10 0 1 = .ok ⟨true,[],[1],true⟩ := by decide +kernel
  exact executeSwap_noDoubleBooking (noDoubleBooking_threeLessons _) hvalid rfl

/-! ## Any number of swaps -/

structure SwapRequest where
  today : ℤ
  idA : ℕ
  idB : ℕ

/-- A refused swap changes nothing. -/
def swapStep (db : Table Schedule) (request : SwapRequest) : Table Schedule :=
  match executeSwap db request.today request.idA request.idB with
  | .ok after => after
  | .error _ => db

/-- A row without its teacher and room. -/
def slotOf (row : ℕ × Schedule) : ℕ × Schedule := (row.1,{ row.2 with teacherStaffId := none,roomId := none })

def peopleOf (s : Schedule) : Option ℕ × Option ℕ := (s.teacherStaffId,s.roomId)

/-- The same slots, and the teachers with their rooms shared out over them anew. -/
structure Rearranges (before after : Table Schedule) : Prop where
  slots : after.rows.map slotOf = before.rows.map slotOf
  people : (after.rows.map fun row => peopleOf row.2).Perm (before.rows.map fun row => peopleOf row.2)

section
variable {db after : Table Schedule} {today : ℤ} {idA idB : ℕ} {s t : Schedule}

theorem Rearranges.refl (db : Table Schedule) : Rearranges db db := ⟨rfl,List.Perm.refl _⟩

theorem Rearranges.trans {other : Table Schedule} (h : Rearranges db after) (h' : Rearranges after other) :
    Rearranges db other := ⟨h'.slots.trans h.slots,h'.people.trans h.people⟩

theorem executeSwap_eq_ok (h : executeSwap db today idA idB = .ok after) : ∃ s t,db.get? idA = some s ∧
    db.get? idB = some t ∧
      after = (db.modify idA fun row => takeOver row t).modify idB fun row => takeOver row s := by
  unfold executeSwap at h
  cases hv : validateSwap db today idA idB with
  | error e =>
    rw [hv] at h
    cases h
  | ok result =>
    rw [hv,ok_bind,ensure_bind_eq_ok] at h
    obtain ⟨s,hs,h⟩ := require_bind_eq_ok.mp h.2
    obtain ⟨t,ht,h⟩ := require_bind_eq_ok.mp h
    exact ⟨s,t,hs,ht,(Except.ok.inj h).symm⟩

theorem slots_modify (id : ℕ) (other : Schedule) :
    ((db.modify id fun row => takeOver row other).rows).map slotOf = db.rows.map slotOf := by
  rw [Table.modify,List.map_map]
  refine List.map_congr_left fun row _ => ?_
  rw [Function.comp_apply]
  split <;> rfl

/-- The people of the rows, read off by their identifiers. -/
theorem map_peopleOf (db : Table Schedule) : (db.rows.map fun row => peopleOf row.2).map some =
    (db.rows.map Prod.fst).map fun id => (db.get? id).map peopleOf := by
  rw [List.map_map,List.map_map]
  refine List.map_congr_left fun row hrow => ?_
  rw [Function.comp_apply,Function.comp_apply,Table.get?_of_mem hrow,Option.map_some]

theorem keys_modify (db : Table Schedule) (id : ℕ) (g : Schedule → Schedule) :
    (db.modify id g).rows.map Prod.fst = db.rows.map Prod.fst := by
  rw [Table.modify,List.map_map]
  refine List.map_congr_left fun row _ => ?_
  rw [Function.comp_apply]
  split <;> rfl

theorem mem_keys {i : ℕ} (h : db.get? i = some s) : i ∈ db.rows.map Prod.fst :=
  List.mem_map.mpr ⟨(i,s),Table.mem_of_get? h,rfl⟩

theorem mem_swap {ids : List ℕ} {i : ℕ} (ha : idA ∈ ids) (hb : idB ∈ ids) (hi : i ∈ ids) :
    Equiv.swap idA idB i ∈ ids := by
  rw [Equiv.swap_apply_def]
  split
  · exact hb
  · split
    · exact ha
    · exact hi

/-- Two identifiers that are there, exchanged. -/
theorem perm_map_swap {ids : List ℕ} (hn : ids.Nodup) (ha : idA ∈ ids) (hb : idB ∈ ids) :
    (ids.map (Equiv.swap idA idB)).Perm ids := by
  refine (List.perm_ext_iff_of_nodup (hn.map (Equiv.swap idA idB).injective) hn).mpr fun i => ?_
  rw [List.mem_map]
  constructor
  · rintro ⟨j,hj,rfl⟩
    exact mem_swap ha hb hj
  · intro hi
    exact ⟨Equiv.swap idA idB i,mem_swap ha hb hi,Equiv.swap_apply_self _ _ _⟩

/-- After a swap an identifier has the people of the one it was exchanged with. -/
theorem peopleOf_swapped (hs : db.get? idA = some s) (ht : db.get? idB = some t) (i : ℕ) :
    (((db.modify idA fun row => takeOver row t).modify idB fun row => takeOver row s).get? i).map peopleOf =
      (db.get? (Equiv.swap idA idB i)).map peopleOf := by
  rw [get?_swapped hs ht,Equiv.swap_apply_def]
  by_cases hb : i = idB
  · subst hb
    rw [if_pos rfl]
    split
    · next ha =>
      subst ha
      rw [ht,Option.map_some,Option.map_some]
      obtain rfl := Option.some.inj (hs.symm.trans ht)
      rfl
    · rw [if_pos rfl,hs]
      rfl
  · rw [if_neg hb,if_neg hb]
    split
    · rw [ht]
      rfl
    · rfl

theorem rearranges_executeSwap (h : executeSwap db today idA idB = .ok after) : Rearranges db after := by
  obtain ⟨s,t,hs,ht,rfl⟩ := executeSwap_eq_ok h
  refine ⟨(slots_modify _ _).trans (slots_modify _ _),?_⟩
  refine (List.map_perm_map_iff (Option.some_injective _)).mp ?_
  rw [map_peopleOf,map_peopleOf,keys_modify,keys_modify]
  have hswap : (db.rows.map Prod.fst).map (fun id =>
      (((db.modify idA fun row => takeOver row t).modify idB fun row => takeOver row s).get? id).map peopleOf) =
        ((db.rows.map Prod.fst).map (Equiv.swap idA idB)).map fun id => (db.get? id).map peopleOf := by
    refine (List.map_congr_left fun id _ => ?_).trans List.map_map.symm
    exact peopleOf_swapped hs ht id
  rw [hswap]
  exact (perm_map_swap db.nodup (mem_keys hs) (mem_keys ht)).map _

theorem rows_eq_of_get? {other : Table Schedule} (hkeys : other.rows.map Prod.fst = db.rows.map Prod.fst)
    (hget : ∀ i,other.get? i = db.get? i) : other.rows = db.rows := by
  have hread : ∀ table : Table Schedule,table.rows.map some =
      (table.rows.map Prod.fst).map fun id => (table.get? id).map (Prod.mk id) := by
    intro table
    rw [List.map_map]
    refine List.map_congr_left fun row hrow => ?_
    rw [Function.comp_apply,Table.get?_of_mem hrow,Option.map_some]
  refine List.map_injective_iff.mpr (Option.some_injective _) ?_
  rw [hread,hread,hkeys]
  simp only [hget]

theorem executeSwap_twice {later : ℤ} {back : Table Schedule} (hfirst : executeSwap db today idA idB = .ok after)
    (hsecond : executeSwap after later idA idB = .ok back) : back.rows = db.rows := by
  obtain ⟨s,t,hs,ht,rfl⟩ := executeSwap_eq_ok hfirst
  obtain ⟨s',t',hs',ht',rfl⟩ := executeSwap_eq_ok hsecond
  refine rows_eq_of_get? (by rw [keys_modify,keys_modify,keys_modify,keys_modify]) fun i => ?_
  rw [get?_swapped hs' ht',get?_swapped hs ht]
  rw [get?_swapped hs ht] at hs' ht'
  rw [if_pos rfl] at ht'
  obtain rfl := Option.some.inj ht'
  by_cases hab : idA = idB
  · subst hab
    rw [if_pos rfl] at hs'
    obtain rfl := Option.some.inj hs'
    obtain rfl := Option.some.inj (hs.symm.trans ht)
    by_cases hi : i = idA
    · subst hi
      rw [if_pos rfl,hs]
      rfl
    · rw [if_neg hi,if_neg hi,if_neg hi,if_neg hi]
  · rw [if_neg hab,if_pos rfl] at hs'
    obtain rfl := Option.some.inj hs'
    by_cases hb : i = idB
    · subst hb
      rw [if_pos rfl,ht]
      rfl
    · rw [if_neg hb,if_neg hb]
      by_cases ha : i = idA
      · subst ha
        rw [if_pos rfl,hs]
        rfl
      · rw [if_neg ha,if_neg ha]

/-- Whatever swaps are asked for, on whatever days, the slots stay as they are and the pairs of a teacher and a room are
shared out over them; and the same swap made twice over gives the timetable back. -/
theorem swaps_rearrange (db : Table Schedule) :
    (∀ requests,Rearranges db (List.foldl swapStep db requests)) ∧
      ∀ today later idA idB after back,executeSwap db today idA idB = .ok after →
        executeSwap after later idA idB = .ok back → back.rows = db.rows := by
  constructor
  · intro requests
    induction requests generalizing db with
    | nil => exact .refl db
    | cons request requests ih =>
      have hstep : Rearranges db (swapStep db request) := by
        unfold swapStep
        split
        · next after h => exact rearranges_executeSwap h
        · exact .refl db
      exact hstep.trans (ih _)
  · intro today later idA idB after back hfirst hsecond
    exact executeSwap_twice hfirst hsecond

end

end EduPod.Scheduling.ScheduleSwaps
