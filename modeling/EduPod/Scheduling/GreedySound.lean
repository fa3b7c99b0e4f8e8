import EduPod.Scheduling.HintsRun

/-! # When the greedy satisfies the model

The greedy keeps counters of its own. They agree with the placed assignments, but they
leave the pinned load of teachers and rooms out, and the second half of a double period
never fits. Where no commit runs into either, the placed assignments satisfy the model.
-/
namespace EduPod.Scheduling
open LinearModel

/-! ## The counters -/

/-- The counters say what is placed, on top of what the pins put there. -/
structure Represents (input : SolverInputV2) (st : GreedyState) (chosen : List Indexed) : Prop where
  classBusy : ∀ x, x ∈ st.classBusy ↔ x ∈ (initialState input).classBusy ∨ x ∈ chosen.map classKey
  teacherBusy : ∀ x, x ∈ st.teacherBusy ↔ x ∈ chosen.map teacherKey
  week : ∀ k, st.teacherWeekCount k =
    (initialState input).teacherWeekCount k + chosen.countP fun la => la.1.teacherIdx = k
  day : ∀ k, st.teacherDayCount k =
    (initialState input).teacherDayCount k + chosen.countP fun la => teacherDayKey la = k
  subject : ∀ k, st.subjectClassDayCount k =
    (initialState input).subjectClassDayCount k + chosen.countP fun la => subjectDayKey la = k
  rooms : ∀ k, st.roomsUsedAtTg k =
    (initialState input).roomsUsedAtTg k + chosen.countP fun la => roomKey la = k

section
variable {α κ : Type*} [DecidableEq κ]

theorem bump_count {f : α → κ} {d base : κ → ℤ} {xs : List α}
    (h : ∀ k, d k = base k + xs.countP fun x => f x = k) (a : α) (k : κ) :
    bump d (f a) 1 k = base k + (xs ++ [a]).countP fun x => f x = k := by
  rw [List.countP_append,List.countP_singleton,bump]
  by_cases hk : k = f a
  · subst hk
    rw [Function.update_self,h]
    simp
    omega
  · rw [Function.update_of_ne hk,h,if_neg (by simpa using fun he => hk he.symm)]
    simp

theorem unbump_count {f : α → κ} {d base : κ → ℤ} {xs ys : List α} {a : α} (hp : (ys ++ [a]).Perm xs)
    (h : ∀ k, d k = base k + xs.countP fun x => f x = k) (k : κ) :
    bump d (f a) (-1) k = base k + ys.countP fun x => f x = k := by
  have hcount := hp.countP_eq fun x => f x = k
  rw [List.countP_append,List.countP_singleton] at hcount
  rw [bump]
  by_cases hk : k = f a
  · subst hk
    rw [if_pos (by simp)] at hcount
    rw [Function.update_self,h]
    omega
  · rw [if_neg (by simpa using fun he => hk he.symm)] at hcount
    rw [Function.update_of_ne hk,h]
    omega

end

section
variable {input : SolverInputV2}

theorem represents_initial : Represents input (initialState input) [] :=
  ⟨by simp,by simp [initialState],by simp,by simp,by simp,by simp⟩

theorem Represents.commit {st : GreedyState} {chosen : List Indexed} (h : Represents input st chosen) (la : Indexed) :
    Represents input (commit st la) (chosen ++ [la]) where
  classBusy x := by
    simp only [EduPod.Scheduling.commit,List.mem_insert_iff,h.classBusy,List.map_append,List.mem_append,List.map_cons,
      List.map_nil,List.mem_singleton]
    tauto
  teacherBusy x := by
    simp only [EduPod.Scheduling.commit,List.mem_insert_iff,h.teacherBusy,List.map_append,List.mem_append,
      List.map_cons,List.map_nil,List.mem_singleton]
    tauto
  week k := bump_count h.week la k
  day k := bump_count h.day la k
  subject k := bump_count h.subject la k
  rooms k := bump_count h.rooms la k

/-- Taking a key back that one placed assignment holds alone. -/
theorem mem_discard_iff {α κ : Type*} [DecidableEq κ] {f : α → κ} {xs ys : List α} {a : α} {busy : List κ}
    (base : κ → Prop) (hp : (ys ++ [a]).Perm xs) (hn : (xs.map f).Nodup) (hbase : ¬base (f a))
    (h : ∀ x, x ∈ busy ↔ base x ∨ x ∈ xs.map f) (x : κ) : x ∈ discard (f a) busy ↔ base x ∨ x ∈ ys.map f := by
  have hperm := hp.map f
  rw [List.map_append,List.map_singleton] at hperm
  have hout := (List.nodup_append.mp (hperm.nodup_iff.mpr hn)).2.2
  rw [discard,List.mem_filter,h,← hperm.mem_iff,List.mem_append,List.mem_singleton,decide_eq_true_eq]
  constructor
  · rintro ⟨hb | hy | rfl,hne⟩
    · exact Or.inl hb
    · exact Or.inr hy
    · exact absurd rfl hne
  · rintro (hb | hy)
    · exact ⟨Or.inl hb,fun he => hbase (he ▸ hb)⟩
    · exact ⟨Or.inr (Or.inl hy),hout x hy _ (List.mem_singleton.mpr rfl)⟩

/-! ## What the model asks of the placed assignments -/

structure Fits (input : SolverInputV2) (chosen : List Indexed) : Prop where
  single : ∀ la ∈ chosen, la.1.lesson.requiresDoublePeriod = false
  classes : (chosen.map classKey).Nodup
  classOpen : ∀ la ∈ chosen, classKey la ∉ (initialState input).classBusy
  teachers : (chosen.map teacherKey).Nodup
  teacherOpen : ∀ la ∈ chosen, teacherTg input input.slots la.1.teacherIdx la.1.slot.timeGroupId = 0
  week : ∀ la ∈ chosen, ∀ cap, la.1.teacher.maxPeriodsPerWeek = some cap →
    ((chosen.countP fun m => m.1.teacherIdx = la.1.teacherIdx) : ℤ) +
      teacherWeek input input.slots la.1.teacherIdx ≤ cap
  day : ∀ la ∈ chosen, ∀ cap, la.1.teacher.maxPeriodsPerDay = some cap →
    ((chosen.countP fun m => teacherDayKey m = teacherDayKey la) : ℤ) +
      teacherDay input input.slots la.1.teacherIdx la.1.slot.weekday ≤ cap
  subject : ∀ la ∈ chosen, (initialState input).subjectClassDayCount (subjectDayKey la) +
    (chosen.countP fun m => subjectDayKey m = subjectDayKey la) ≤
      capLookup input.legal la.1.lesson.classId la.1.lesson.subjectId
  rooms : ∀ la ∈ chosen, hasNonexclusive input la.1.lesson.requiredRoomType = true ∨
    (chosen.countP fun m => roomKey m = roomKey la) +
      pinnedRooms input input.slots la.1.lesson.requiredRoomType la.1.slot.timeGroupId ≤
        exclusiveSupply input la.1.lesson.requiredRoomType

theorem fits_nil : Fits input [] :=
  ⟨by simp,by simp,by simp,by simp,by simp,by simp,by simp,by simp,by simp⟩

/-- Fewer placed assignments fit as well. -/
theorem Fits.subperm {xs ys : List Indexed} (h : Fits input ys) (hs : xs.Subperm ys) : Fits input xs := by
  obtain ⟨zs,hz,hzs⟩ := hs
  have hmem : ∀ la ∈ xs, la ∈ ys := fun la hla => hzs.subset (hz.mem_iff.mpr hla)
  have hle : ∀ p : Indexed → Bool, xs.countP p ≤ ys.countP p := fun p => hz.countP_eq p ▸ hzs.countP_le
  refine ⟨fun la hla => h.single la (hmem la hla),(hz.map _).nodup_iff.mp (h.classes.sublist (hzs.map _)),
    fun la hla => h.classOpen la (hmem la hla),(hz.map _).nodup_iff.mp (h.teachers.sublist (hzs.map _)),
    fun la hla => h.teacherOpen la (hmem la hla),fun la hla cap hcap => ?_,fun la hla cap hcap => ?_,
    fun la hla => ?_,fun la hla => ?_⟩
  · have := h.week la (hmem la hla) cap hcap
    have := hle fun m => m.1.teacherIdx = la.1.teacherIdx
    omega
  · have := h.day la (hmem la hla) cap hcap
    have := hle fun m => teacherDayKey m = teacherDayKey la
    omega
  · have := h.subject la (hmem la hla)
    have := hle fun m => subjectDayKey m = subjectDayKey la
    omega
  · have := hle fun m => roomKey m = roomKey la
    refine (h.rooms la (hmem la hla)).imp_right fun hr => ?_
    omega

theorem Represents.rollback {st : GreedyState} {xs ys : List Indexed} {la : Indexed} (hp : (ys ++ [la]).Perm xs)
    (hclasses : (xs.map classKey).Nodup) (hopen : classKey la ∉ (initialState input).classBusy)
    (hteachers : (xs.map teacherKey).Nodup) (h : Represents input st xs) : Represents input (rollback st la) ys where
  classBusy := mem_discard_iff _ hp hclasses hopen h.classBusy
  teacherBusy x := by
    have hbusy : ∀ x, x ∈ st.teacherBusy ↔ False ∨ x ∈ xs.map teacherKey := fun x => by
      rw [false_or]
      exact h.teacherBusy x
    have hiff := mem_discard_iff (fun _ => False) hp hteachers id hbusy x
    rwa [false_or] at hiff
  week k := unbump_count hp h.week k
  day k := unbump_count hp h.day k
  subject k := unbump_count hp h.subject k
  rooms k := unbump_count hp h.rooms k

/-! ## Commits with headroom -/

/-- The commit leaves the pinned load room: not half of a double period, no pin of the teacher
at that time, and the caps still hold with the pins counted in. -/
structure Headroom (input : SolverInputV2) (st : GreedyState) (la : Indexed) : Prop where
  single : la.1.lesson.requiresDoublePeriod = false
  teacherOpen : teacherTg input input.slots la.1.teacherIdx la.1.slot.timeGroupId = 0
  week : teacherWeek input input.slots la.1.teacherIdx = 0 ∨ ∀ cap, la.1.teacher.maxPeriodsPerWeek = some cap →
    st.teacherWeekCount la.1.teacherIdx + teacherWeek input input.slots la.1.teacherIdx < cap
  day : teacherDay input input.slots la.1.teacherIdx la.1.slot.weekday = 0 ∨
    ∀ cap, la.1.teacher.maxPeriodsPerDay = some cap →
      st.teacherDayCount (teacherDayKey la) + teacherDay input input.slots la.1.teacherIdx la.1.slot.weekday < cap
  rooms : pinnedRooms input input.slots la.1.lesson.requiredRoomType la.1.slot.timeGroupId = 0 ∨
    hasNonexclusive input la.1.lesson.requiredRoomType = true ∨
    st.roomsUsedAtTg (roomKey la) + pinnedRooms input input.slots la.1.lesson.requiredRoomType
      la.1.slot.timeGroupId < exclusiveSupply input la.1.lesson.requiredRoomType
  subject : la.1.lesson.maxPeriodsPerDay ≤ capLookup input.legal la.1.lesson.classId la.1.lesson.subjectId ∨
    st.subjectClassDayCount (subjectDayKey la) < capLookup input.legal la.1.lesson.classId la.1.lesson.subjectId

instance (input : SolverInputV2) (st : GreedyState) (la : Indexed) : Decidable (Headroom input st la) :=
  decidable_of_iff (la.1.lesson.requiresDoublePeriod = false ∧
    teacherTg input input.slots la.1.teacherIdx la.1.slot.timeGroupId = 0 ∧
    (teacherWeek input input.slots la.1.teacherIdx = 0 ∨ ∀ cap ∈ la.1.teacher.maxPeriodsPerWeek,
      st.teacherWeekCount la.1.teacherIdx + teacherWeek input input.slots la.1.teacherIdx < cap) ∧
    (teacherDay input input.slots la.1.teacherIdx la.1.slot.weekday = 0 ∨ ∀ cap ∈ la.1.teacher.maxPeriodsPerDay,
      st.teacherDayCount (teacherDayKey la) + teacherDay input input.slots la.1.teacherIdx la.1.slot.weekday < cap) ∧
    (pinnedRooms input input.slots la.1.lesson.requiredRoomType la.1.slot.timeGroupId = 0 ∨
      hasNonexclusive input la.1.lesson.requiredRoomType = true ∨
      st.roomsUsedAtTg (roomKey la) + pinnedRooms input input.slots la.1.lesson.requiredRoomType
        la.1.slot.timeGroupId < exclusiveSupply input la.1.lesson.requiredRoomType) ∧
    (la.1.lesson.maxPeriodsPerDay ≤ capLookup input.legal la.1.lesson.classId la.1.lesson.subjectId ∨
      st.subjectClassDayCount (subjectDayKey la) < capLookup input.legal la.1.lesson.classId la.1.lesson.subjectId))
    ⟨fun ⟨h1,h2,h3,h4,h5,h6⟩ => ⟨h1,h2,h3,h4,h5,h6⟩,
      fun h => ⟨h.single,h.teacherOpen,h.week,h.day,h.rooms,h.subject⟩⟩

/-- What the greedy's own test says. -/
structure Passes (input : SolverInputV2) (st : GreedyState) (la : Indexed) : Prop where
  classOpen : classKey la ∉ st.classBusy
  teacherOpen : teacherKey la ∉ st.teacherBusy
  week : ∀ cap, la.1.teacher.maxPeriodsPerWeek = some cap → st.teacherWeekCount la.1.teacherIdx < cap
  day : ∀ cap, la.1.teacher.maxPeriodsPerDay = some cap → st.teacherDayCount (teacherDayKey la) < cap
  subject : st.subjectClassDayCount (subjectDayKey la) < la.1.lesson.maxPeriodsPerDay
  rooms : hasNonexclusive input la.1.lesson.requiredRoomType = true ∨
    st.roomsUsedAtTg (roomKey la) < exclusiveSupply input la.1.lesson.requiredRoomType

theorem passes_of_isLegal {st : GreedyState} {la : Indexed} (h : isLegal input st la = true) : Passes input st la := by
  simp only [isLegal,Bool.and_eq_true,decide_eq_true_eq,Bool.not_eq_true'] at h
  obtain ⟨⟨⟨⟨⟨⟨hclass,hteacher⟩,hweek⟩,hday⟩,hsubject⟩,hpool⟩,-⟩ := h
  refine ⟨hclass,hteacher,fun cap hcap => ?_,fun cap hcap => ?_,hsubject,?_⟩
  · rw [hcap] at hweek
    simpa using hweek
  · rw [hcap] at hday
    simpa using hday
  · unfold poolFull at hpool
    cases ht : la.1.lesson.requiredRoomType with
    | none =>
      rw [ht] at hpool
      cases hne : hasAnyNonexclusive input with
      | true => exact Or.inl hne
      | false =>
        have hlt : st.roomsUsedAtTg (roomKey la) < totalExclusive input := by simpa [hne] using hpool
        exact Or.inr hlt
    | some t =>
      rw [ht] at hpool
      cases hne : hasNonexclusiveByType input t with
      | true => exact Or.inl hne
      | false =>
        have hlt : st.roomsUsedAtTg (roomKey la) < exclusiveByType input t := by simpa [hne] using hpool
        exact Or.inr hlt

theorem teacher_eq {a b : Indexed} (ha : a ∈ input.legal.zipIdx) (hb : b ∈ input.legal.zipIdx)
    (h : a.1.teacherIdx = b.1.teacherIdx) : a.1.teacher = b.1.teacher := by
  have h1 := (wellFormed_of_zipIdx ha).teacher
  have h2 := (wellFormed_of_zipIdx hb).teacher
  rw [h,h2] at h1
  exact (Option.some.inj h1).symm

/-- A commit with headroom keeps the placed assignments fitting. -/
theorem Fits.concat {st : GreedyState} {chosen : List Indexed} (hr : Represents input st chosen)
    (hf : Fits input chosen) {la : Indexed} (hs : Sound input (chosen ++ [la])) (hp : Passes input st la)
    (hh : Headroom input st la) : Fits input (chosen ++ [la]) := by
  have hcount : ∀ p : Indexed → Bool, (chosen ++ [la]).countP p = chosen.countP p + if p la = true then 1 else 0 :=
    fun p => by rw [List.countP_append,List.countP_singleton]
  have hla : la ∈ chosen ++ [la] := by simp
  refine ⟨?_,?_,?_,?_,?_,?_,?_,?_,?_⟩
  · exact List.forall_mem_append.mpr ⟨hf.single,List.forall_mem_singleton.mpr hh.single⟩
  · rw [List.map_append,List.map_singleton]
    refine (List.perm_append_singleton _ _).nodup_iff.mpr (List.nodup_cons.mpr ⟨?_,hf.classes⟩)
    exact fun hmem => hp.classOpen ((hr.classBusy _).mpr (Or.inr hmem))
  · refine List.forall_mem_append.mpr ⟨hf.classOpen,List.forall_mem_singleton.mpr ?_⟩
    exact fun hmem => hp.classOpen ((hr.classBusy _).mpr (Or.inl hmem))
  · rw [List.map_append,List.map_singleton]
    refine (List.perm_append_singleton _ _).nodup_iff.mpr (List.nodup_cons.mpr ⟨?_,hf.teachers⟩)
    exact fun hmem => hp.teacherOpen ((hr.teacherBusy _).mpr hmem)
  · exact List.forall_mem_append.mpr ⟨hf.teacherOpen,List.forall_mem_singleton.mpr hh.teacherOpen⟩
  · have hnew : ∀ cap, la.1.teacher.maxPeriodsPerWeek = some cap →
        ((chosen.countP fun m => m.1.teacherIdx = la.1.teacherIdx) : ℤ) + 1 +
          teacherWeek input input.slots la.1.teacherIdx ≤ cap := by
      intro cap hcap
      have hown := hp.week cap hcap
      have hrep := hr.week la.1.teacherIdx
      rw [show (initialState input).teacherWeekCount la.1.teacherIdx = 0 from rfl] at hrep
      rcases hh.week with hz | hw
      · omega
      · have := hw cap hcap
        omega
    intro m hm cap hcap
    rw [hcount]
    by_cases hk : la.1.teacherIdx = m.1.teacherIdx
    · have := hnew cap (teacher_eq (hs.legal la hla) (hs.legal m hm) hk ▸ hcap)
      rw [if_pos (by simpa using hk),← hk]
      omega
    · rcases List.mem_append.mp hm with hm | hm
      · have := hf.week m hm cap hcap
        rw [if_neg (by simpa using hk)]
        omega
      · exact absurd (congrArg (·.1.teacherIdx) (List.mem_singleton.mp hm).symm) hk
  · have hnew : ∀ cap, la.1.teacher.maxPeriodsPerDay = some cap →
        ((chosen.countP fun m => teacherDayKey m = teacherDayKey la) : ℤ) + 1 +
          teacherDay input input.slots la.1.teacherIdx la.1.slot.weekday ≤ cap := by
      intro cap hcap
      have hown := hp.day cap hcap
      have hrep := hr.day (teacherDayKey la)
      rw [show (initialState input).teacherDayCount (teacherDayKey la) = 0 from rfl] at hrep
      rcases hh.day with hz | hw
      · omega
      · have := hw cap hcap
        omega
    intro m hm cap hcap
    rw [hcount]
    by_cases hk : teacherDayKey la = teacherDayKey m
    · obtain ⟨hk1,hk2⟩ := Prod.mk.inj hk
      have := hnew cap (teacher_eq (hs.legal la hla) (hs.legal m hm) hk1 ▸ hcap)
      rw [if_pos (by simpa using hk),← hk,← hk1,← hk2]
      omega
    · rcases List.mem_append.mp hm with hm | hm
      · have := hf.day m hm cap hcap
        rw [if_neg (by simpa using hk)]
        omega
      · exact absurd (congrArg teacherDayKey (List.mem_singleton.mp hm).symm) hk
  · intro m hm
    rw [hcount]
    by_cases hk : subjectDayKey la = subjectDayKey m
    · have hown := hp.subject
      have hrep := hr.subject (subjectDayKey la)
      obtain ⟨hk1,hk2⟩ := Prod.mk.inj hk
      obtain ⟨hk2,-⟩ := Prod.mk.inj hk2
      rw [if_pos (by simpa using hk),← hk,← hk1,← hk2]
      rcases hh.subject with hc | hc <;> omega
    · rcases List.mem_append.mp hm with hm | hm
      · have := hf.subject m hm
        rw [if_neg (by simpa using hk)]
        omega
      · exact absurd (congrArg subjectDayKey (List.mem_singleton.mp hm).symm) hk
  · intro m hm
    rw [hcount]
    by_cases hk : roomKey la = roomKey m
    · have hown := hp.rooms
      have hrep := hr.rooms (roomKey la)
      rw [show (initialState input).roomsUsedAtTg (roomKey la) = 0 from rfl] at hrep
      obtain ⟨hk1,hk2⟩ := Prod.mk.inj hk
      rw [if_pos (by simpa using hk),← hk,← hk1,← hk2]
      rcases hown with hne | hown
      · exact Or.inl hne
      · rcases hh.rooms with hz | hne | hlt
        · exact Or.inr (by omega)
        · exact Or.inl hne
        · exact Or.inr (by omega)
    · rcases List.mem_append.mp hm with hm | hm
      · rw [if_neg (by simpa using hk)]
        exact hf.rooms m hm
      · exact absurd (congrArg roomKey (List.mem_singleton.mp hm).symm) hk

/-- Every commit of the history had headroom. -/
def GuardedHistory (input : SolverInputV2) (g : Greedy) : Prop := ∀ e ∈ g.history, Headroom input e.1 e.2

instance (input : SolverInputV2) (g : Greedy) : Decidable (GuardedHistory input g) :=
  inferInstanceAs (Decidable (∀ e ∈ g.history, Headroom input e.1 e.2))

/-- While the commits have headroom, the counters are right and the placed assignments fit. -/
theorem preserved_fits : Preserved input fun g =>
    GuardedHistory input g → Represents input g.state g.state.chosen ∧ Fits input g.state.chosen where
  commit g la hs h hla hfree hlegal hg := by
    obtain ⟨hold,hnew⟩ := List.forall_mem_append.mp hg
    obtain ⟨hr,hf⟩ := h hold
    exact ⟨hr.commit la,hf.concat hr (hs.concat hla hfree) (passes_of_isLegal hlegal)
      (hnew _ List.mem_cons_self)⟩
  undo g la hs h hla hg := by
    obtain ⟨hr,hf⟩ := h hg
    exact ⟨hr.rollback (perm_filter_ne hs.lessons hla) hf.classes (hf.classOpen la hla) hf.teachers,
      hf.subperm List.filter_sublist.subperm⟩
  restore g g' la h h' hperm hsub hg := by
    obtain ⟨hr,-⟩ := h' hg
    obtain ⟨-,hf⟩ := h fun e he => hg e (hsub he)
    exact ⟨hr.commit la,hf.subperm hperm.subperm⟩

theorem fits_greedyAssign (hg : GuardedHistory input (greedyRun input)) : Fits input (greedyAssign input) :=
  ((greedyRun_keeps preserved_fits fun _ => ⟨represents_initial,fits_nil⟩).2 hg).2

end

end EduPod.Scheduling
