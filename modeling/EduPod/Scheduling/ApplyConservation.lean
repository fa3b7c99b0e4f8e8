import EduPod.Foundation.Runs
import EduPod.Scheduling.ApplyRun

/-! # What applying a run conserves

The merge keeps one entry a cell, so a move, a swap or an addition onto a taken cell loses the
entry there, and an entry that is moved or swapped carries its clock times along.
-/
namespace EduPod.Scheduling.ApplyRun
open Runs Fallible

/-- The times of a schedule are those of a period stored under its weekday and number in the grid
of its class. -/
def School.IsPeriod (school : School) (s : Schedule) : Prop :=
  ∃ pt ∈ school.periodTemplates, pt.weekday = s.weekday ∧ pt.periodOrder = s.periodOrder ∧
    (pt.yearGroupId = none ∨ pt.yearGroupId = (school.classes s.classId).bind (·.yearGroupId)) ∧
    pt.startTime = s.startTime ∧ pt.endTime = s.endTime

/-- A merge under way: the entries, and how many lessons of active classes there should be. -/
structure Merge where
  entries : EntriesMap
  lessons : ℤ

def School.lessonsAdded (school : School) (m : EntriesMap) : Adjustment → ℤ
  | .add classId _ _ _ _ => if school.isActive classId then 1 else 0
  | .remove classId weekday periodOrder =>
    if (m.get? ⟨classId,weekday,periodOrder⟩).isSome ∧ school.isActive classId then -1 else 0
  | _ => 0

def Merge.start (school : School) (entries : List ResultEntry) : Merge where
  entries := entries.foldl setEntry UniqueIndex.empty
  lessons := (entries.map (·.key)).countP fun k => school.isActive k.classId

def Merge.adjust (school : School) (m : Merge) (adjustment : Adjustment) : Merge where
  entries := applyAdjustment m.entries adjustment
  lessons := m.lessons + school.lessonsAdded m.entries adjustment

/-- As many schedules as lessons, each at the times of its period. -/
def Conserving (school : School) (m : Merge) : Prop :=
  ((school.insertedSchedules m.entries).length : ℤ) = m.lessons ∧
    ∀ s ∈ school.insertedSchedules m.entries, school.IsPeriod s

/-! ## What a step may do -/

/-- An entry that is inserted, at the times of its period. -/
def School.Timely (school : School) (e : ResultEntry) : Prop := ∃ s, school.scheduleOf e = some s ∧ school.IsPeriod s

/-- The entries of active classes stand in distinct cells, each at the times of its period. -/
def StartsApart (school : School) (entries : List ResultEntry) : Prop :=
  ((entries.map (·.key)).filter fun k => school.isActive k.classId).Nodup ∧
    ∀ e ∈ entries, school.isActive e.classId = true → school.Timely e

/-- A free cell, or one the adjustment empties. -/
def Vacant (m : EntriesMap) (leaving : List EntryKey) (k : EntryKey) : Prop := k ∈ leaving ∨ m.get? k = none

/-- An entry of an active class is only put into a vacant cell with the times it then has. -/
def Placed (school : School) (m : EntriesMap) (leaving : List EntryKey) (e : ResultEntry) : Prop :=
  school.isActive e.classId = true → Vacant m leaving e.key ∧ school.Timely e

def Fits (school : School) (m : Merge) : Adjustment → Prop
  | .move classId fromWeekday fromPeriodOrder toWeekday toPeriodOrder toRoomId =>
    ∀ existing, m.entries.get? ⟨classId,fromWeekday,fromPeriodOrder⟩ = some existing →
      Placed school m.entries [⟨classId,fromWeekday,fromPeriodOrder⟩] (moved existing toWeekday toPeriodOrder toRoomId)
  | .swap entryA entryB =>
    ∀ a b, m.entries.get? entryA = some a → m.entries.get? entryB = some b →
      Placed school m.entries [entryA,entryB] (putAt a b) ∧ Placed school m.entries [entryA,entryB] (putAt b a)
  | .remove _ _ _ => True
  | .add classId roomId teacherStaffId weekday periodOrder =>
    Placed school m.entries [] (added classId roomId teacherStaffId weekday periodOrder)

/-! ## Counting entries instead of schedules -/

/-- Every entry stands under its own key. -/
def Keyed (m : EntriesMap) : Prop := ∀ k e, m.get? k = some e → e.key = k

def AllTimely (school : School) (m : EntriesMap) : Prop :=
  ∀ k e, m.get? k = some e → school.isActive e.classId = true → school.Timely e

section
variable {school : School} {m : Merge} {t : EntriesMap} {k : EntryKey} {e : ResultEntry}

/-- The cells of active classes. -/
abbrev School.ofActive (school : School) (k : EntryKey) : Bool := school.isActive k.classId

theorem keyed_set (h : Keyed t) (e : ResultEntry) : Keyed (t.set e.key e) := by
  intro j e' he'
  rw [UniqueIndex.get?_set] at he'
  split at he'
  · rename_i hj
    rw [hj,Option.some.inj he']
  · exact h j e' he'

theorem keyed_erase (h : Keyed t) (k : EntryKey) : Keyed (t.erase k) := by
  intro j e' he'
  rw [UniqueIndex.get?_erase] at he'
  split at he'
  · cases he'
  · exact h j e' he'

theorem allTimely_erase (h : AllTimely school t) (k : EntryKey) : AllTimely school (t.erase k) := by
  intro j e' he'
  rw [UniqueIndex.get?_erase] at he'
  split at he'
  · cases he'
  · exact h j e' he'

theorem allTimely_set_iff (h : AllTimely school t) :
    AllTimely school (t.set k e) ↔ (school.isActive e.classId = true → school.Timely e) := by
  constructor
  · exact fun hset => hset k e (UniqueIndex.get?_set.trans (if_pos rfl))
  · intro he j e' he'
    rw [UniqueIndex.get?_set] at he'
    split at he'
    · obtain rfl := Option.some.inj he'
      exact he
    · exact h j e' he'

theorem length_active (h : Keyed t) :
    ((t.rows.map Prod.snd).filter fun e => school.isActive e.classId).length = t.count school.ofActive := by
  unfold UniqueIndex.count
  rw [← List.countP_eq_length_filter,List.countP_map,List.countP_map]
  refine List.countP_congr fun r hr => ?_
  have hk := h r.1 r.2 (UniqueIndex.get?_eq_some_iff.mpr hr)
  simp only [Function.comp,← hk,ResultEntry.key]

variable (school) in
theorem insertedSchedules_le (h : Keyed t) : (school.insertedSchedules t).length ≤ t.count school.ofActive := by
  rw [← length_active h]
  exact List.length_filterMap_le _ _

/-- Where no entry is lost, the run is conserved precisely when every entry is timely; an entry lost
is never made up for. -/
theorem conserving_iff (hk : Keyed m.entries) (hle : (m.entries.count school.ofActive : ℤ) ≤ m.lessons) :
    Conserving school m ↔ (m.entries.count school.ofActive : ℤ) = m.lessons ∧ AllTimely school m.entries := by
  have hins := insertedSchedules_le school hk
  have hmem : ∀ e, e ∈ (m.entries.rows.map Prod.snd).filter (fun e => school.isActive e.classId) ↔
      m.entries.get? e.key = some e ∧ school.isActive e.classId = true := by
    intro e
    rw [List.mem_filter,List.mem_map]
    refine and_congr_left fun _ => ⟨?_,fun h => ⟨_,UniqueIndex.get?_eq_some_iff.mp h,rfl⟩⟩
    rintro ⟨⟨k,e⟩,hr,rfl⟩
    have hget := UniqueIndex.get?_eq_some_iff.mpr hr
    rw [hk k e hget,hget]
  constructor
  · rintro ⟨hlen,hperiod⟩
    have hcount : (m.entries.count school.ofActive : ℤ) = m.lessons := by omega
    refine ⟨hcount,fun k e he hactive => ?_⟩
    have hall : (school.insertedSchedules m.entries).length =
        ((m.entries.rows.map Prod.snd).filter fun e => school.isActive e.classId).length := by
      rw [length_active hk]
      omega
    have he' : e ∈ (m.entries.rows.map Prod.snd).filter fun e => school.isActive e.classId := by
      rw [hmem,hk k e he]
      exact ⟨he,hactive⟩
    obtain ⟨s,hs⟩ := Option.isSome_iff_exists.mp (List.filterMap_length_eq_length.mp hall e he')
    exact ⟨s,hs,hperiod s (List.mem_filterMap.mpr ⟨e,he',hs⟩)⟩
  · rintro ⟨hcount,htimely⟩
    have hsome : ∀ e ∈ (m.entries.rows.map Prod.snd).filter (fun e => school.isActive e.classId), school.Timely e := by
      intro e he
      obtain ⟨hget,hactive⟩ := (hmem e).mp he
      exact htimely _ e hget hactive
    constructor
    · rw [← hcount,← length_active hk]
      refine congrArg _ (List.filterMap_length_eq_length.mpr fun e he => ?_)
      obtain ⟨s,hs,-⟩ := hsome e he
      rw [hs]
      rfl
    · intro s hs
      obtain ⟨e,he,hs⟩ := List.mem_filterMap.mp hs
      obtain ⟨s',hs',hperiod⟩ := hsome e he
      rw [hs] at hs'
      obtain rfl := Option.some.inj hs'
      exact hperiod

/-! ## One adjustment -/

/-- What every merge keeps. -/
structure Kept (school : School) (m : Merge) : Prop where
  keyed : Keyed m.entries
  le : (m.entries.count school.ofActive : ℤ) ≤ m.lessons

/-- No entry lost so far, and none with the wrong times. -/
def Whole (school : School) (m : Merge) : Prop :=
  (m.entries.count school.ofActive : ℤ) = m.lessons ∧ AllTimely school m.entries

theorem vacant_nil : Vacant t [] k ↔ t.get? k = none := by simp [Vacant]

variable (school) in
/-- Putting an entry down after others have left: one more counts if its cell is vacant. -/
theorem count_put (gone : EntriesMap) (leaving : List EntryKey)
    (hgone : ∀ j, gone.get? j = none ↔ Vacant t leaving j) (e : ResultEntry) :
    (gone.set e.key e).count school.ofActive ≤
        gone.count school.ofActive + (if school.isActive e.classId = true then 1 else 0) ∧
      ((gone.set e.key e).count school.ofActive =
          gone.count school.ofActive + (if school.isActive e.classId = true then 1 else 0) ↔
        (school.isActive e.classId = true → Vacant t leaving e.key)) := by
  have hp : school.ofActive e.key = school.isActive e.classId := rfl
  rw [UniqueIndex.count_set,← hgone,hp]
  cases school.isActive e.classId <;> by_cases hv : gone.get? e.key = none <;> simp [hv]

variable (school) in
theorem count_leave {e : ResultEntry} (hk : Keyed t) (he : t.get? k = some e) :
    (t.erase k).count school.ofActive + (if school.isActive e.classId = true then 1 else 0) =
      t.count school.ofActive := by
  have hcount := UniqueIndex.count_erase (t := t) (k := k) (p := school.ofActive)
  have hsome : (t.get? k).isSome = true := by rw [he]; rfl
  have hp : school.ofActive k = school.isActive e.classId := by rw [← hk k e he]; rfl
  simpa only [hsome,hp,true_and] using hcount

theorem get?_erase_eq_none (j : EntryKey) : (t.erase k).get? j = none ↔ Vacant t [k] j := by
  rw [UniqueIndex.get?_erase,Vacant,List.mem_singleton]
  split <;> simp_all

theorem get?_erase_erase_eq_none {k' : EntryKey} (j : EntryKey) :
    ((t.erase k).erase k').get? j = none ↔ Vacant t [k,k'] j := by
  rw [UniqueIndex.get?_erase,UniqueIndex.get?_erase,Vacant]
  split <;> rename_i h₁ <;> [skip;split] <;> simp_all

variable (school) in
/-- What putting entries down means, once the count and the times are known. -/
theorem whole_iff {t' : EntriesMap} {n : ℕ} {lessons : ℤ} {P Q : Prop}
    (hn : (n : ℤ) = lessons) (hcount : t'.count school.ofActive = n ↔ P) (htimely : AllTimely school t' ↔ Q) :
    Whole school ⟨t',lessons⟩ ↔ P ∧ Q := by
  refine and_congr ?_ htimely
  rw [← hcount]
  change (t'.count school.ofActive : ℤ) = lessons ↔ _
  omega

theorem add_step {classId : ℕ} {roomId teacherStaffId : Option ℕ} {weekday periodOrder : ℤ} (h : Kept school m) :
    Kept school (m.adjust school (.add classId roomId teacherStaffId weekday periodOrder)) ∧
      (Whole school m → (Whole school (m.adjust school (.add classId roomId teacherStaffId weekday periodOrder)) ↔
        Fits school m (.add classId roomId teacherStaffId weekday periodOrder))) := by
  obtain ⟨hle,hiff⟩ := count_put school m.entries [] (fun _ => vacant_nil.symm)
    (added classId roomId teacherStaffId weekday periodOrder)
  have hlessons : (m.adjust school (.add classId roomId teacherStaffId weekday periodOrder)).lessons =
      m.lessons + ((if school.isActive classId = true then 1 else 0 : ℕ) : ℤ) := by
    simp only [Merge.adjust,School.lessonsAdded]
    split <;> rfl
  refine ⟨⟨keyed_set h.keyed _,?_⟩,fun hw => ?_⟩
  · have := h.le
    rw [hlessons]
    change ((_ : ℕ) : ℤ) ≤ _
    have hc : (added classId roomId teacherStaffId weekday periodOrder).classId = classId := rfl
    rw [hc] at hle
    calc _ ≤ _ := Int.ofNat_le.mpr hle
      _ ≤ _ := by push_cast; omega
  · refine (whole_iff school ?_ hiff (allTimely_set_iff hw.2)).trans forall_and.symm
    have := hw.1
    change _ = (m.adjust school (.add classId roomId teacherStaffId weekday periodOrder)).lessons
    rw [hlessons,← this]
    push_cast
    rfl

theorem remove_step {classId : ℕ} {weekday periodOrder : ℤ} (h : Kept school m) :
    Kept school (m.adjust school (.remove classId weekday periodOrder)) ∧
      (Whole school m → Whole school (m.adjust school (.remove classId weekday periodOrder))) := by
  have hcount := UniqueIndex.count_erase (t := m.entries) (k := ⟨classId,weekday,periodOrder⟩) (p := school.ofActive)
  have hp : school.ofActive ⟨classId,weekday,periodOrder⟩ = school.isActive classId := rfl
  rw [hp] at hcount
  have hsame : (((m.entries.erase ⟨classId,weekday,periodOrder⟩).count school.ofActive : ℕ) : ℤ) =
      (m.entries.count school.ofActive : ℤ) + school.lessonsAdded m.entries (.remove classId weekday periodOrder) := by
    simp only [School.lessonsAdded]
    split at hcount <;> rename_i hc
    · rw [if_pos hc]
      omega
    · rw [if_neg hc]
      omega
  refine ⟨⟨keyed_erase h.keyed _,?_⟩,fun hw => ⟨?_,allTimely_erase hw.2 _⟩⟩
  · have := h.le
    change (((m.entries.erase ⟨classId,weekday,periodOrder⟩).count school.ofActive : ℕ) : ℤ) ≤ m.lessons + _
    omega
  · have := hw.1
    change (((m.entries.erase ⟨classId,weekday,periodOrder⟩).count school.ofActive : ℕ) : ℤ) = m.lessons + _
    omega

theorem move_step {classId : ℕ} {fw fp tw tp : ℤ} {room : Option ℕ} (h : Kept school m) :
    Kept school (m.adjust school (.move classId fw fp tw tp room)) ∧
      (Whole school m → (Whole school (m.adjust school (.move classId fw fp tw tp room)) ↔
        Fits school m (.move classId fw fp tw tp room))) := by
  have hlessons : (m.adjust school (.move classId fw fp tw tp room)).lessons = m.lessons := Int.add_zero _
  cases he : m.entries.get? ⟨classId,fw,fp⟩ with
  | none =>
    have hsame : m.adjust school (.move classId fw fp tw tp room) = m := by
      simp [Merge.adjust,applyAdjustment,he,School.lessonsAdded]
    rw [hsame]
    exact ⟨h,fun hw => iff_of_true hw fun existing hex => by rw [he] at hex; cases hex⟩
  | some e =>
    have hclass : e.classId = classId := congrArg EntryKey.classId (h.keyed _ _ he)
    have hentries : (m.adjust school (.move classId fw fp tw tp room)).entries =
        (m.entries.erase ⟨classId,fw,fp⟩).set (moved e tw tp room).key (moved e tw tp room) := by
      simp only [Merge.adjust,applyAdjustment,he,ResultEntry.key,moved,hclass]
    obtain ⟨hle,hiff⟩ := count_put school _ [⟨classId,fw,fp⟩] (fun j => get?_erase_eq_none j) (moved e tw tp room)
    have hleave := count_leave school h.keyed he
    rw [show (moved e tw tp room).classId = e.classId from rfl,hleave] at hle hiff
    refine ⟨⟨?_,?_⟩,fun hw => ?_⟩
    · rw [hentries]
      exact keyed_set (keyed_erase h.keyed _) _
    · rw [hentries,hlessons]
      exact (Int.ofNat_le.mpr hle).trans h.le
    · have hfits : Fits school m (.move classId fw fp tw tp room) ↔
          Placed school m.entries [⟨classId,fw,fp⟩] (moved e tw tp room) := by
        constructor
        · exact fun hf => hf e he
        · intro hp existing hex
          rw [he] at hex
          obtain rfl := Option.some.inj hex
          exact hp
      rw [hfits]
      have hwhole := whole_iff school (hw.1.trans hlessons.symm) hiff
        (allTimely_set_iff (allTimely_erase hw.2 _))
      rw [← hentries] at hwhole
      exact hwhole.trans forall_and.symm

theorem putAt_key (a b : ResultEntry) : (putAt a b).key = ⟨a.classId,b.weekday,b.periodOrder⟩ := rfl

variable (school) in
/-- Two entries that change cells: both cells are vacant unless another entry of the class is there. -/
theorem count_swap {ka kb : EntryKey} {a b : ResultEntry} (hk : Keyed t) (ha : t.get? ka = some a) (hb : t.get? kb = some b) :
    (setEntry (setEntry ((t.erase ka).erase kb) (putAt a b)) (putAt b a)).count school.ofActive ≤ t.count school.ofActive ∧
      ((setEntry (setEntry ((t.erase ka).erase kb) (putAt a b)) (putAt b a)).count school.ofActive = t.count school.ofActive ↔
        (school.isActive a.classId = true → Vacant t [ka,kb] (putAt a b).key) ∧
          (school.isActive b.classId = true → Vacant t [ka,kb] (putAt b a).key)) := by
  have hka := hk ka a ha
  have hkb := hk kb b hb
  have hleave := count_leave school hk ha
  obtain ⟨hle,hiff⟩ := count_put school _ [ka,kb] (fun j => get?_erase_erase_eq_none j) (putAt a b)
  rw [show (putAt a b).classId = a.classId from rfl] at hle hiff
  by_cases hsame : ka = kb
  · -- the entry is swapped with itself
    subst hsame
    rw [ha] at hb
    obtain rfl := Option.some.inj hb
    have hput : putAt a a = a := rfl
    have herase : (t.erase ka).erase ka = t.erase ka := by
      unfold UniqueIndex.erase
      congr 1
      rw [List.filter_filter]
      simp
    have hvacant : Vacant t [ka,ka] a.key := .inl (by simp [hka])
    have htwice : (setEntry (setEntry (t.erase ka) a) a).count school.ofActive = (setEntry (t.erase ka) a).count school.ofActive := by
      unfold setEntry
      rw [UniqueIndex.count_set,UniqueIndex.get?_set]
      simp
    rw [hput,herase] at hle hiff ⊢
    rw [htwice]
    have hone := hiff.mpr fun _ => hvacant
    change (setEntry (t.erase ka) a).count school.ofActive = _ at hone
    exact ⟨by omega,iff_of_true (by omega) ⟨fun _ => hvacant,fun _ => hvacant⟩⟩
  · have hb' : (t.erase ka).get? kb = some b := by
      rw [UniqueIndex.get?_erase,if_neg fun h => hsame h.symm,hb]
    have hleave' := count_leave school (keyed_erase hk ka) hb'
    have hne : (putAt b a).key ≠ (putAt a b).key := by
      intro he
      apply hsame
      rw [← hka,← hkb]
      rw [putAt_key,putAt_key,EntryKey.mk.injEq] at he
      simp only [ResultEntry.key,EntryKey.mk.injEq]
      exact ⟨he.1.symm,he.2.1,he.2.2⟩
    have hgone : ∀ j, (setEntry ((t.erase ka).erase kb) (putAt a b)).get? j = none ↔
        j ≠ (putAt a b).key ∧ Vacant t [ka,kb] j := by
      intro j
      rw [setEntry,UniqueIndex.get?_set,← get?_erase_erase_eq_none]
      split <;> simp_all
    have hnone := (hgone (putAt b a).key).trans (and_iff_right hne)
    have hset := UniqueIndex.count_set (t := setEntry ((t.erase ka).erase kb) (putAt a b)) (k := (putAt b a).key)
      (a := putAt b a) (p := school.ofActive)
    rw [show school.ofActive (putAt b a).key = school.isActive b.classId from rfl] at hset
    change (setEntry (setEntry ((t.erase ka).erase kb) (putAt a b)) (putAt b a)).count school.ofActive = _ at hset
    change (setEntry ((t.erase ka).erase kb) (putAt a b)).count school.ofActive ≤ _ at hle
    change (setEntry ((t.erase ka).erase kb) (putAt a b)).count school.ofActive = _ ↔ _ at hiff
    by_cases hv : Vacant t [ka,kb] (putAt b a).key
    · simp only [hnone.mpr hv,true_and] at hset
      simp only [hv,implies_true,and_true,← hiff]
      constructor <;> omega
    · rw [if_neg fun h => hv (hnone.mp h.1),Nat.add_zero] at hset
      simp only [hv,imp_false,Bool.not_eq_true,← hiff]
      cases hb : school.isActive b.classId with
      | false =>
        simp only [hb,Bool.false_eq_true,if_false,Nat.add_zero] at hleave'
        rw [and_iff_left rfl]
        constructor <;> omega
      | true =>
        simp only [hb,if_true] at hleave'
        exact ⟨by omega,iff_of_false (by omega) (by simp)⟩

theorem swap_step {ka kb : EntryKey} (h : Kept school m) :
    Kept school (m.adjust school (.swap ka kb)) ∧
      (Whole school m → (Whole school (m.adjust school (.swap ka kb)) ↔ Fits school m (.swap ka kb))) := by
  have hlessons : (m.adjust school (.swap ka kb)).lessons = m.lessons := Int.add_zero _
  by_cases hfound : ∃ a b, m.entries.get? ka = some a ∧ m.entries.get? kb = some b
  · obtain ⟨a,b,ha,hb⟩ := hfound
    have hentries : (m.adjust school (.swap ka kb)).entries =
        setEntry (setEntry ((m.entries.erase ka).erase kb) (putAt a b)) (putAt b a) := by
      simp only [Merge.adjust,applyAdjustment,ha,hb]
    obtain ⟨hle,hiff⟩ := count_swap school h.keyed ha hb
    refine ⟨⟨?_,?_⟩,fun hw => ?_⟩
    · rw [hentries]
      exact keyed_set (keyed_set (keyed_erase (keyed_erase h.keyed _) _) _) _
    · rw [hentries,hlessons]
      exact (Int.ofNat_le.mpr hle).trans h.le
    · have hfits : Fits school m (.swap ka kb) ↔
          Placed school m.entries [ka,kb] (putAt a b) ∧ Placed school m.entries [ka,kb] (putAt b a) := by
        constructor
        · exact fun hf => hf a b ha hb
        · intro hp a' b' ha' hb'
          rw [ha] at ha'
          rw [hb] at hb'
          obtain rfl := Option.some.inj ha'
          obtain rfl := Option.some.inj hb'
          exact hp
      have hgone := allTimely_erase (allTimely_erase hw.2 ka) kb
      have htimely : AllTimely school (setEntry (setEntry ((m.entries.erase ka).erase kb) (putAt a b)) (putAt b a)) ↔
          (school.isActive a.classId = true → school.Timely (putAt a b)) ∧
            (school.isActive b.classId = true → school.Timely (putAt b a)) := by
        constructor
        · intro hall
          have hb' : school.isActive b.classId = true → school.Timely (putAt b a) :=
            hall _ _ (UniqueIndex.get?_set.trans (if_pos rfl))
          refine ⟨?_,hb'⟩
          by_cases hkey : (putAt a b).key = (putAt b a).key
          · -- only the same class in the same cell gives one key, and then one entry
            have hcells := hkey
            rw [putAt_key,putAt_key,EntryKey.mk.injEq] at hcells
            have hkk : ka = kb := by
              rw [← h.keyed ka a ha,← h.keyed kb b hb]
              simp only [ResultEntry.key,EntryKey.mk.injEq]
              exact ⟨hcells.1,hcells.2.1.symm,hcells.2.2.symm⟩
            subst hkk
            rw [ha] at hb
            obtain rfl := Option.some.inj hb
            exact hb'
          · exact hall (putAt a b).key (putAt a b)
              ((UniqueIndex.get?_set.trans (if_neg hkey)).trans (UniqueIndex.get?_set.trans (if_pos rfl)))
        · rintro ⟨ha',hb'⟩
          exact (allTimely_set_iff ((allTimely_set_iff hgone).mpr ha')).mpr hb'
      have hwhole := whole_iff school (hw.1.trans hlessons.symm) hiff htimely
      rw [← hentries] at hwhole
      rw [hfits]
      refine hwhole.trans ?_
      unfold Placed
      rw [forall_and,forall_and]
      exact and_and_and_comm
  · have hsame : m.adjust school (.swap ka kb) = m := by
      simp only [Merge.adjust,applyAdjustment,School.lessonsAdded,Int.add_zero]
      cases ha : m.entries.get? ka with
      | none => rfl
      | some a =>
        cases hb : m.entries.get? kb with
        | none => rfl
        | some b => exact absurd ⟨a,b,ha,hb⟩ hfound
    rw [hsame]
    exact ⟨h,fun hw => iff_of_true hw fun a b ha hb => absurd ⟨a,b,ha,hb⟩ hfound⟩

theorem kept_adjust (h : Kept school m) (adjustment : Adjustment) : Kept school (m.adjust school adjustment) := by
  cases adjustment with
  | move => exact (move_step h).1
  | swap => exact (swap_step h).1
  | remove => exact (remove_step h).1
  | add => exact (add_step h).1

theorem whole_adjust_iff (h : Kept school m) (hw : Whole school m) (adjustment : Adjustment) :
    Whole school (m.adjust school adjustment) ↔ Fits school m adjustment := by
  cases adjustment with
  | move => exact (move_step h).2 hw
  | swap => exact (swap_step h).2 hw
  | remove => exact iff_of_true ((remove_step h).2 hw) trivial
  | add => exact (add_step h).2 hw

/-! ## Whole runs -/

theorem keyed_start (entries : List ResultEntry) : Keyed (Merge.start school entries).entries := by
  have hgen : ∀ t, Keyed t → Keyed (entries.foldl setEntry t) := by
    induction entries with
    | nil => exact fun _ ht => ht
    | cons e rest ih => exact fun t ht => ih _ (keyed_set ht e)
  exact hgen _ fun k e he => by cases he

theorem count_start (entries : List ResultEntry) :
    ((Merge.start school entries).entries.count school.ofActive : ℤ) ≤ (Merge.start school entries).lessons ∧
      (((Merge.start school entries).entries.count school.ofActive : ℤ) = (Merge.start school entries).lessons ↔
        ((entries.map (·.key)).filter fun k => school.isActive k.classId).Nodup) := by
  have hload := UniqueIndex.count_foldl_set (p := school.ofActive) (entries.map fun e => (e.key,e))
    (UniqueIndex.empty : EntriesMap)
  rw [List.foldl_map,List.map_map] at hload
  simp only [UniqueIndex.get?_empty,implies_true,and_true,UniqueIndex.count_empty,Nat.zero_add] at hload
  exact ⟨Int.ofNat_le.mpr hload.1,Int.ofNat_inj.trans hload.2⟩

theorem kept_start (entries : List ResultEntry) : Kept school (Merge.start school entries) :=
  ⟨keyed_start entries,(count_start entries).1⟩

theorem get?_start_of_mem {entries : List ResultEntry}
    (hn : ((entries.map (·.key)).filter fun k => school.isActive k.classId).Nodup) {e : ResultEntry} (he : e ∈ entries)
    (hactive : school.isActive e.classId = true) : (Merge.start school entries).entries.get? e.key = some e := by
  have hgen : ∀ t : EntriesMap, (entries.foldl setEntry t).get? e.key = some e := by
    induction entries with
    | nil => cases he
    | cons e' rest ih =>
      intro t
      rw [List.map_cons,List.filter_cons] at hn
      by_cases hin : e ∈ rest
      · refine ih ?_ hin _
        split at hn
        · exact (List.nodup_cons.mp hn).2
        · exact hn
      · obtain rfl : e = e' := (List.mem_cons.mp he).resolve_right hin
        have hk : school.isActive e.key.classId = true := hactive
        rw [if_pos hk] at hn
        have hnot := (List.nodup_cons.mp hn).1
        have hlast : ∀ (es : List ResultEntry) (t : EntriesMap), (∀ e₁ ∈ es, e₁.key ≠ e.key) →
            (es.foldl setEntry t).get? e.key = t.get? e.key := by
          intro es
          induction es with
          | nil => exact fun _ _ => rfl
          | cons e₁ es ih =>
            intro t hes
            rw [List.foldl_cons,ih _ fun e₂ h₂ => hes e₂ (List.mem_cons_of_mem _ h₂),setEntry,UniqueIndex.get?_set,
              if_neg fun h => hes e₁ List.mem_cons_self h.symm]
        rw [List.foldl_cons,hlast rest _ fun e₁ h₁ h => hnot ?_]
        · exact UniqueIndex.get?_set.trans (if_pos rfl)
        · exact List.mem_filter.mpr ⟨List.mem_map.mpr ⟨e₁,h₁,h⟩,hk⟩
  exact hgen _

theorem mem_of_get?_start {entries : List ResultEntry} {k : EntryKey} {e : ResultEntry}
    (h : (Merge.start school entries).entries.get? k = some e) : e ∈ entries := by
  have hgen : ∀ (es : List ResultEntry) (t : EntriesMap), (es.foldl setEntry t).get? k = some e → e ∈ es ∨ t.get? k = some e := by
    intro es
    induction es with
    | nil => exact fun _ h => .inr h
    | cons e' rest ih =>
      intro t ht
      rcases ih _ ht with hm | hm
      · exact .inl (List.mem_cons_of_mem _ hm)
      · rw [setEntry,UniqueIndex.get?_set] at hm
        split at hm
        · obtain rfl := Option.some.inj hm
          exact .inl List.mem_cons_self
        · exact .inr hm
  exact (hgen _ _ h).resolve_right (by simp)

theorem whole_start_iff (entries : List ResultEntry) :
    Whole school (Merge.start school entries) ↔ StartsApart school entries := by
  unfold Whole StartsApart
  rw [(count_start entries).2]
  refine and_congr_right fun hn => ⟨?_,?_⟩
  · intro h e he hactive
    exact h e.key e (get?_start_of_mem hn he hactive) hactive
  · intro h k e he hactive
    exact h e (mem_of_get?_start he) hactive

/-- A run and every shorter one with the same result insert as many schedules as there are lessons, at
the times of their periods, precisely when the entries start apart and every adjustment fits. -/
theorem trace_conserving_iff (school : School) (entries : List ResultEntry) (adjustments : List Adjustment) :
    (∀ m ∈ trace (Merge.adjust school) (Merge.start school entries) adjustments, Conserving school m) ↔
      StartsApart school entries ∧
        Guarded (Merge.adjust school) (Fits school) (Merge.start school entries) adjustments := by
  have hkept : ∀ m ∈ trace (Merge.adjust school) (Merge.start school entries) adjustments, Kept school m :=
    trace_invariant (G := fun _ _ => True) (fun _ a h _ => kept_adjust h a) (kept_start entries)
      (guarded_of_invariant (J := Kept school) (fun _ a h => kept_adjust h a) (fun _ _ _ => trivial) (kept_start entries))
  have hsame : (∀ m ∈ trace (Merge.adjust school) (Merge.start school entries) adjustments, Conserving school m) ↔
      ∀ m ∈ trace (Merge.adjust school) (Merge.start school entries) adjustments, Whole school m :=
    forall₂_congr fun m hm => conserving_iff (hkept m hm).keyed (hkept m hm).le
  have hrun : Whole school (Merge.start school entries) →
      ((∀ m ∈ trace (Merge.adjust school) (Merge.start school entries) adjustments, Whole school m) ↔
        Guarded (Merge.adjust school) (Fits school) (Merge.start school entries) adjustments) :=
    trace_invariant_iff (J := Kept school) (fun _ a hk => kept_adjust hk a)
      (fun _ a hk hw => whole_adjust_iff hk hw a) (kept_start entries)
  rw [hsame,← whole_start_iff]
  constructor
  · intro h
    have hstart := h _ (head_mem_trace _ _)
    exact ⟨hstart,(hrun hstart).mp h⟩
  · rintro ⟨hstart,hg⟩
    exact (hrun hstart).mpr hg

end

/-! One class with two lessons on Monday, the second moved onto the first. -/

def mondayLesson (periodOrder : ℤ) (startTime : ℕ) : ResultEntry where
  classId := 1
  roomId := none
  teacherStaffId := none
  weekday := 1
  periodOrder
  startTime := some startTime
  endTime := some (startTime + 40)
  isPinned := false

def twoPeriods : School where
  classes := fun _ => some ⟨none,true⟩
  periodTemplates := [⟨1,0,none,540,580⟩,⟨1,1,none,580,620⟩]

/-- The run inserts one schedule for two lessons, at the times of the other period. -/
theorem not_conserving :
    ¬ ∀ (school : School) (entries : List ResultEntry) (adjustments : List Adjustment),
      Conserving school (adjustments.foldl (Merge.adjust school) (Merge.start school entries)) := by
  intro h
  have hlen := (h twoPeriods [mondayLesson 0 540,mondayLesson 1 580] [.move 1 1 1 1 0 none]).1
  revert hlen
  decide +kernel

end EduPod.Scheduling.ApplyRun
