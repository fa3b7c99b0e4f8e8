import Mathlib
import EduPod.Scheduling.DoublePeriods
import EduPod.Scheduling.GreedySound

/-! # What a failed swap leaves behind

A rollback is meant to mirror a commit. It does, but for the days a class uses for a subject:
a day on which the class has a pinned period of the subject is marked by the commit and stays
marked.
-/
namespace EduPod.Scheduling
open Grouping

/-! ## States and moves -/

/-- Every read of the greedy finds the same in both states. Sets and dictionaries have no order,
and a missing key of a table of counts reads as zero. -/
structure SameState (a b : GreedyState) : Prop where
  classBusy : ∀ x, x ∈ a.classBusy ↔ x ∈ b.classBusy
  teacherBusy : ∀ x, x ∈ a.teacherBusy ↔ x ∈ b.teacherBusy
  week : ∀ k, a.teacherWeekCount k = b.teacherWeekCount k
  day : ∀ k, a.teacherDayCount k = b.teacherDayCount k
  subject : ∀ k, a.subjectClassDayCount k = b.subjectClassDayCount k
  rooms : ∀ k, a.roomsUsedAtTg k = b.roomsUsedAtTg k
  chosen : ∀ la, la ∈ a.chosen ↔ la ∈ b.chosen
  pairs : ∀ p, a.pairOf p = b.pairOf p
  daysUsed : ∀ x, x ∈ a.classSubjectDaysUsed ↔ x ∈ b.classSubjectDaysUsed

/-- The states the moves of the greedy lead to. A restoring commit puts a displaced assignment
back without a test. -/
inductive Reachable (input : SolverInputV2) : GreedyState → Prop
  | start : Reachable input (initialState input)
  | commit {st : GreedyState} {la : Indexed} (h : Reachable input st) (hla : la ∈ input.legal.zipIdx)
      (hfree : la.1.lessonIdx ∉ st.chosen.map fun m => m.1.lessonIdx) (hlegal : isLegal input st la = true) :
      Reachable input (commit st la)
  | rollback {st : GreedyState} {la : Indexed} (h : Reachable input st) (hla : la ∈ st.chosen) :
      Reachable input (rollback st la)
  | restore {st st' : GreedyState} {la : Indexed} (h : Reachable input st) (h' : Reachable input st')
      (hperm : (st'.chosen ++ [la]).Perm st.chosen) : Reachable input (EduPod.Scheduling.commit st' la)

/-- `trySwapFrom` with the value it returns. -/
@[grind] def swapFrom (input : SolverInputV2) (placedLa : List Indexed) : List Indexed → Greedy → Greedy × Bool
  | [], g => (g,false)
  | laU :: rest, g =>
    match (findBlocker g.state placedLa laU).bind fun b => g.state.chosen.find? fun m => m.1.lessonIdx = b.1.lessonIdx with
    | none => swapFrom input placedLa rest g
    | some blocker =>
      if blocker.1.lesson.requiresDoublePeriod then swapFrom input placedLa rest g
      else
        let removed := undo g blocker
        match findAlternative input removed blocker with
        | none => swapFrom input placedLa rest (restore removed blocker)
        | some alt =>
          let rehomed := commitLegal removed alt
          if isLegal input rehomed.state laU then (commitLegal rehomed laU,true)
          else swapFrom input placedLa rest (restore (undo rehomed alt) blocker)

/-- `_try_one_swap` with the value it returns. -/
def swapOne (input : SolverInputV2) (g : Greedy) (lessonIdx : ℕ) : Greedy × Bool :=
  match input.lessons[lessonIdx]? with
  | none => (g,false)
  | some lesson =>
    if lesson.requiresDoublePeriod then (g,false)
    else swapFrom input g.state.chosen (legalByLesson input.legal lessonIdx) g

/-- A failed swap changes nothing, and the rollback of a legal commit takes it back exactly. -/
structure UndoesExactly (input : SolverInputV2) : Prop where
  swap : ∀ g : Greedy, Reachable input g.state → ∀ lessonIdx, (swapOne input g lessonIdx).2 = false →
    SameState (swapOne input g lessonIdx).1.state g.state
  commit : ∀ st, Reachable input st → ∀ la ∈ input.legal.zipIdx,
    la.1.lessonIdx ∉ st.chosen.map (fun m => m.1.lessonIdx) → isLegal input st la = true →
    SameState (rollback (commit st la) la) st

/-- No assignment that passes the test next to the pins alone is on a day on which a pin gives
its class the subject. -/
def PinsApart (input : SolverInputV2) : Prop :=
  ∀ la ∈ input.legal.zipIdx, isLegal input (initialState input) la = true →
    (initialState input).subjectClassDayCount (subjectDayKey la) = 0

theorem swapFrom_fst {input : SolverInputV2} {placedLa candidates : List Indexed} {g : Greedy} :
    (swapFrom input placedLa candidates g).1 = trySwapFrom input placedLa candidates g := by
  induction candidates generalizing g with
  | nil => rfl
  | cons laU rest ih =>
    rw [swapFrom,trySwapFrom]
    generalize ((findBlocker g.state placedLa laU).bind fun b =>
      g.state.chosen.find? fun m => m.1.lessonIdx = b.1.lessonIdx) = found
    cases found with
    | none => exact ih
    | some b =>
      dsimp only
      by_cases hdouble : b.1.lesson.requiresDoublePeriod = true
      · rw [if_pos hdouble,if_pos hdouble]
        exact ih
      · rw [if_neg hdouble,if_neg hdouble]
        generalize findAlternative input (undo g b) b = found
        cases found with
        | none => exact ih
        | some alt =>
          dsimp only
          by_cases hlegal : isLegal input (commitLegal (undo g b) alt).state laU = true
          · rw [if_pos hlegal,if_pos hlegal]
          · rw [if_neg hlegal,if_neg hlegal]
            exact ih

/-- The two readings of a swap make the same moves. -/
theorem swapOne_fst {input : SolverInputV2} {g : Greedy} {lessonIdx : ℕ} :
    (swapOne input g lessonIdx).1 = tryOneSwap input g lessonIdx := by
  unfold swapOne tryOneSwap
  cases input.lessons[lessonIdx]? with
  | none => rfl
  | some lesson =>
    dsimp only
    by_cases hdouble : lesson.requiresDoublePeriod = true
    · rw [if_pos hdouble,if_pos hdouble]
    · rw [if_neg hdouble,if_neg hdouble]
      exact swapFrom_fst

theorem preserved_reachable (input : SolverInputV2) : Preserved input fun g => Reachable input g.state where
  commit _ _ _ h hla hfree hlegal := h.commit hla hfree hlegal
  undo _ _ _ h hla := h.rollback hla
  restore _ _ _ h h' hperm _ := h.restore h' hperm

theorem keeps_start (input : SolverInputV2) :
    Keeps input (fun g => Reachable input g.state) ⟨initialState input,[]⟩ :=
  ⟨⟨List.forall_mem_nil _,List.nodup_nil⟩,.start⟩

/-- The first phase and the whole run end in states the moves lead to. -/
theorem reachable_phase1 (input : SolverInputV2) : Reachable input (phase1 input ⟨initialState input,[]⟩).state := by
  have hkeeps : Keeps input (fun g => Reachable input g.state) (phase1 input ⟨initialState input,[]⟩) :=
    List.foldlRecOn _ _ (keeps_start input) fun g hg i _ => keeps_tryPlace (preserved_reachable input) hg i
  exact hkeeps.2

/-! ## The pair table -/

section
variable {input : SolverInputV2} {st : GreedyState} {la : Indexed}

theorem pairOf_commit (p : ℕ) : (commit st la).pairOf p =
    if la.1.lesson.requiresDoublePeriod = true ∧ la.1.lesson.doublePairIndex = some p then
      some ((st.pairOf p).getD (pairTarget la)) else st.pairOf p := by
  simp only [GreedyState.pairOf,commit,commitPair]
  cases hq : la.1.lesson.doublePairIndex with
  | none => simp
  | some q =>
    cases hd : la.1.lesson.requiresDoublePeriod with
    | false => simp
    | true =>
      by_cases hpq : q = p
      · subst hpq
        cases hf : st.chosenByPair.find? fun e => e.1 = q with
        | none => simp [hf]
        | some e => simp [hf]
      · cases hf : st.chosenByPair.find? fun e => e.1 = q with
        | none => simp [hf,hpq]
        | some e => simp [hf,hpq]

theorem pairOf_rollback (p : ℕ) : (rollback st la).pairOf p =
    if la.1.lesson.requiresDoublePeriod = true ∧ la.1.lesson.doublePairIndex = some p ∧
      st.pairOf p = some (pairTarget la) then none else st.pairOf p := by
  have hpairs : (rollback st la).chosenByPair = rollbackPair st la := rfl
  rw [GreedyState.pairOf,hpairs,rollbackPair]
  cases hq : la.1.lesson.doublePairIndex with
  | none => simp [GreedyState.pairOf]
  | some q =>
    dsimp only
    by_cases hc : (la.1.lesson.requiresDoublePeriod && decide (st.pairOf q = some (pairTarget la))) = true
    · rw [if_pos hc,List.find?_filter]
      rw [Bool.and_eq_true,decide_eq_true_eq] at hc
      by_cases hpq : q = p
      · subst hpq
        rw [if_pos ⟨hc.1,rfl,hc.2⟩,List.find?_eq_none.mpr fun e _ => by simp]
        rfl
      · have hsame : (fun e : ℕ × ℕ × ℕ => decide (decide (e.1 ≠ q) = true ∧ decide (e.1 = p) = true)) =
            fun e => decide (e.1 = p) := by
          funext e
          by_cases he : e.1 = p
          · simp [he,Ne.symm hpq]
          · simp [he]
        rw [if_neg fun h => hpq (Option.some.inj h.2.1),hsame]
        rfl
    · rw [if_neg hc,if_neg]
      · rfl
      · rintro ⟨hd,hqp,htarget⟩
        obtain rfl := Option.some.inj hqp
        exact hc (by simp [hd,htarget])

/-! ## Tables and sets -/

theorem bump_bump {κ : Type*} [DecidableEq κ] (d : κ → ℤ) (a k : κ) (n : ℤ) : bump (bump d a n) a (-n) k = d k := by
  by_cases hk : k = a
  · subst hk
    simp [bump]
  · simp [bump,hk]

theorem bump_congr {κ : Type*} [DecidableEq κ] {d e : κ → ℤ} (h : ∀ k, d k = e k) (a : κ) (n : ℤ) (k : κ) :
    bump d a n k = bump e a n k := by
  rw [show d = e from funext h]

theorem mem_discard {α : Type*} [DecidableEq α] {a x : α} {xs : List α} : x ∈ discard a xs ↔ x ∈ xs ∧ x ≠ a := by
  simp [discard]

theorem mem_insert_discard {α : Type*} [DecidableEq α] [BEq α] [LawfulBEq α] {a x : α} {xs : List α} (ha : a ∈ xs) :
    x ∈ (discard a xs).insert a ↔ x ∈ xs := by
  rw [List.mem_insert_iff,mem_discard]
  constructor
  · rintro (rfl | hx)
    · exact ha
    · exact hx.1
  · intro hx
    by_cases hxa : x = a
    · exact Or.inl hxa
    · exact Or.inr ⟨hx,hxa⟩

theorem mem_discard_insert {α : Type*} [DecidableEq α] [BEq α] [LawfulBEq α] {a x : α} {xs : List α} (ha : a ∉ xs) :
    x ∈ discard a (xs.insert a) ↔ x ∈ xs := by
  rw [mem_discard,List.mem_insert_iff]
  constructor
  · rintro ⟨rfl | hx,hne⟩
    · exact absurd rfl hne
    · exact hx
  · intro hx
    exact ⟨Or.inr hx,fun he => ha (he ▸ hx)⟩

theorem SameState.refl (st : GreedyState) : SameState st st := by
  constructor <;> intros <;> rfl

theorem SameState.trans {a b c : GreedyState} (h : SameState a b) (h' : SameState b c) : SameState a c where
  classBusy x := (h.classBusy x).trans (h'.classBusy x)
  teacherBusy x := (h.teacherBusy x).trans (h'.teacherBusy x)
  week k := (h.week k).trans (h'.week k)
  day k := (h.day k).trans (h'.day k)
  subject k := (h.subject k).trans (h'.subject k)
  rooms k := (h.rooms k).trans (h'.rooms k)
  chosen m := (h.chosen m).trans (h'.chosen m)
  pairs p := (h.pairs p).trans (h'.pairs p)
  daysUsed x := (h.daysUsed x).trans (h'.daysUsed x)

theorem SameState.commit {a b : GreedyState} (h : SameState a b) (la : Indexed) :
    SameState (commit a la) (commit b la) where
  classBusy x := by
    simp only [EduPod.Scheduling.commit,List.mem_insert_iff,h.classBusy]
  teacherBusy x := by
    simp only [EduPod.Scheduling.commit,List.mem_insert_iff,h.teacherBusy]
  week k := bump_congr h.week _ _ k
  day k := bump_congr h.day _ _ k
  subject k := bump_congr h.subject _ _ k
  rooms k := bump_congr h.rooms _ _ k
  chosen m := by
    simp only [EduPod.Scheduling.commit,List.mem_append,h.chosen]
  pairs p := by
    rw [pairOf_commit,pairOf_commit,h.pairs]
  daysUsed x := by
    simp only [EduPod.Scheduling.commit,List.mem_insert_iff,h.daysUsed]

/-! ## What holds in every state -/

/-- The bookkeeping is that of the pins and the placed assignments. -/
structure Consistent (input : SolverInputV2) (st : GreedyState) : Prop where
  sound : Sound input st.chosen
  classes : (st.chosen.map classKey).Nodup
  teachers : (st.chosen.map teacherKey).Nodup
  classOpen : ∀ la ∈ st.chosen, classKey la ∉ (initialState input).classBusy
  represents : Represents input st st.chosen
  placedMarked : ∀ la ∈ st.chosen, (subjectKey la,la.1.slot.weekday) ∈ st.classSubjectDaysUsed
  markedCounted : ∀ x ∈ st.classSubjectDaysUsed, 0 < st.subjectClassDayCount (x.1.1,x.1.2,x.2)
  anchors : ∀ p target, st.pairOf p = some target → ∃ m ∈ st.chosen, m.1.lesson.requiresDoublePeriod = true ∧
    m.1.lesson.doublePairIndex = some p ∧ pairTarget m = target

theorem consistent_initial : Consistent input (initialState input) where
  sound := ⟨List.forall_mem_nil _,List.nodup_nil⟩
  classes := List.nodup_nil
  teachers := List.nodup_nil
  classOpen := List.forall_mem_nil _
  represents := represents_initial
  placedMarked := List.forall_mem_nil _
  markedCounted := List.forall_mem_nil _
  anchors p target h := by cases h

theorem Represents.subject_nonneg (h : Represents input st st.chosen) (k : String × String × Fin 7) :
    0 ≤ st.subjectClassDayCount k := by
  rw [h.subject]
  have hpins : 0 ≤ (initialState input).subjectClassDayCount k := Int.natCast_nonneg _
  omega

/-- Committing an assignment whose class and teacher are free. -/
theorem Consistent.commit (h : Consistent input st) (hla : la ∈ input.legal.zipIdx)
    (hfree : la.1.lessonIdx ∉ st.chosen.map fun m => m.1.lessonIdx) (hclass : classKey la ∉ st.chosen.map classKey)
    (hopen : classKey la ∉ (initialState input).classBusy) (hteacher : teacherKey la ∉ st.chosen.map teacherKey) :
    Consistent input (commit st la) where
  sound := h.sound.concat hla hfree
  classes := by
    rw [EduPod.Scheduling.commit,List.map_append,List.map_singleton]
    exact (List.perm_append_singleton _ _).nodup_iff.mpr (List.nodup_cons.mpr ⟨hclass,h.classes⟩)
  teachers := by
    rw [EduPod.Scheduling.commit,List.map_append,List.map_singleton]
    exact (List.perm_append_singleton _ _).nodup_iff.mpr (List.nodup_cons.mpr ⟨hteacher,h.teachers⟩)
  classOpen m hm := by
    rcases List.mem_append.mp hm with hm | hm
    · exact h.classOpen m hm
    · rw [List.mem_singleton.mp hm]
      exact hopen
  represents := h.represents.commit la
  placedMarked m hm := by
    rcases List.mem_append.mp hm with hm | hm
    · exact List.mem_insert_of_mem (h.placedMarked m hm)
    · rw [List.mem_singleton.mp hm]
      exact List.mem_insert_self
  markedCounted x hx := by
    have hnonneg := h.represents.subject_nonneg (subjectDayKey la)
    by_cases hk : (x.1.1,x.1.2,x.2) = subjectDayKey la
    · simp only [EduPod.Scheduling.commit,bump,hk,Function.update_self]
      omega
    · simp only [EduPod.Scheduling.commit,bump,Function.update_of_ne hk]
      rcases List.mem_insert_iff.mp hx with rfl | hx
      · exact absurd rfl hk
      · exact h.markedCounted x hx
  anchors p target htarget := by
    rw [pairOf_commit] at htarget
    split at htarget
    · rename_i hp
      cases hold : st.pairOf p with
      | none =>
        rw [hold] at htarget
        exact ⟨la,List.mem_append_right _ List.mem_cons_self,hp.1,hp.2,Option.some.inj htarget⟩
      | some t =>
        obtain ⟨m,hm,hanchor⟩ := h.anchors p t hold
        rw [hold] at htarget
        obtain rfl := Option.some.inj htarget
        exact ⟨m,List.mem_append_left _ hm,hanchor⟩
    · obtain ⟨m,hm,hanchor⟩ := h.anchors p target htarget
      exact ⟨m,List.mem_append_left _ hm,hanchor⟩

/-- Rolling a placed assignment back. -/
theorem Consistent.rollback (h : Consistent input st) (hla : la ∈ st.chosen) :
    Consistent input (rollback st la) := by
  have hback : ((st.chosen.filter fun m => m.1.lessonIdx ≠ la.1.lessonIdx) ++ [la]).Perm st.chosen :=
    perm_filter_ne h.sound.lessons hla
  have hsub : (EduPod.Scheduling.rollback st la).chosen.Sublist st.chosen := List.filter_sublist
  have hrep : Represents input (EduPod.Scheduling.rollback st la) (EduPod.Scheduling.rollback st la).chosen :=
    h.represents.rollback hback h.classes (h.classOpen la hla) h.teachers
  refine ⟨h.sound.sublist hsub,h.classes.sublist (hsub.map _),h.teachers.sublist (hsub.map _),
    fun m hm => h.classOpen m (hsub.subset hm),hrep,fun m hm => ?_,fun x hx => ?_,fun p target htarget => ?_⟩
  · have hold := h.placedMarked m (hsub.subset hm)
    simp only [EduPod.Scheduling.rollback]
    split
    · rename_i hzero
      refine mem_discard.mpr ⟨hold,fun he => ?_⟩
      obtain ⟨hkey,hday⟩ := Prod.mk.inj he
      -- another assignment on the day keeps the count positive
      have hcount := hrep.subject (subjectDayKey m)
      have hpos : 0 < (EduPod.Scheduling.rollback st la).chosen.countP fun w => subjectDayKey w = subjectDayKey m :=
        List.countP_pos_iff.mpr ⟨m,hm,by simp⟩
      have hpins : 0 ≤ (initialState input).subjectClassDayCount (subjectDayKey m) := Int.natCast_nonneg _
      have hsame : subjectDayKey m = subjectDayKey la := by
        rw [subjectDayKey,subjectDayKey,hday,(Prod.mk.inj hkey).1,(Prod.mk.inj hkey).2]
      rw [hsame] at hcount hpos hpins
      simp only [EduPod.Scheduling.rollback,bump,Function.update_self] at hcount hpos
      omega
    · exact hold
  · simp only [EduPod.Scheduling.rollback] at hx ⊢
    by_cases hk : (x.1.1,x.1.2,x.2) = subjectDayKey la
    · have hxkey : x = (subjectKey la,la.1.slot.weekday) := by
        obtain ⟨h1,h2⟩ := Prod.mk.inj hk
        obtain ⟨h2,h3⟩ := Prod.mk.inj h2
        exact Prod.ext (Prod.ext h1 h2) h3
      rw [bump,hk,Function.update_self]
      split at hx
      · exact absurd hxkey (mem_discard.mp hx).2
      · omega
    · rw [bump,Function.update_of_ne hk]
      split at hx
      · exact h.markedCounted x (mem_discard.mp hx).1
      · exact h.markedCounted x hx
  · rw [pairOf_rollback] at htarget
    split at htarget
    · cases htarget
    · rename_i hkept
      obtain ⟨m,hm,hdouble,hp,ht⟩ := h.anchors p target htarget
      refine ⟨m,List.mem_filter.mpr ⟨hm,decide_eq_true fun hidx => hkept ?_⟩,hdouble,hp,ht⟩
      obtain rfl : m = la := List.inj_on_of_nodup_map h.sound.lessons hm hla hidx
      exact ⟨hdouble,hp,htarget.trans (congrArg some ht.symm)⟩

theorem Consistent.free (h : Consistent input st) (hlegal : isLegal input st la = true) :
    classKey la ∉ st.chosen.map classKey ∧ classKey la ∉ (initialState input).classBusy ∧
      teacherKey la ∉ st.chosen.map teacherKey := by
  have hpass := passes_of_isLegal hlegal
  exact ⟨fun hmem => hpass.classOpen ((h.represents.classBusy _).mpr (Or.inr hmem)),
    fun hmem => hpass.classOpen ((h.represents.classBusy _).mpr (Or.inl hmem)),
    fun hmem => hpass.teacherOpen ((h.represents.teacherBusy _).mpr hmem)⟩

theorem Reachable.consistent (h : Reachable input st) : Consistent input st := by
  induction h with
  | start => exact consistent_initial
  | commit _ hla hfree hlegal ih =>
    obtain ⟨hclass,hopen,hteacher⟩ := ih.free hlegal
    exact ih.commit hla hfree hclass hopen hteacher
  | rollback _ hla ih => exact ih.rollback hla
  | restore _ _ hperm ih ih' =>
    have hmem := hperm.mem_iff.mp (List.mem_append_right _ List.mem_cons_self)
    have hfresh : ∀ {κ : Type} (f : Indexed → κ) {xs ys : List Indexed} {a : Indexed}, (ys ++ [a]).Perm xs →
        (xs.map f).Nodup → f a ∉ ys.map f := by
      intro κ f xs ys a hp hn
      have hnodup := (hp.map f).nodup_iff.mpr hn
      rw [List.map_append,List.map_singleton] at hnodup
      exact (List.nodup_cons.mp ((List.perm_append_singleton _ _).nodup_iff.mp hnodup)).1
    exact ih'.commit (ih.sound.legal _ hmem) (hfresh _ hperm ih.sound.lessons) (hfresh _ hperm ih.classes)
      (ih.classOpen _ hmem) (hfresh _ hperm ih.teachers)

/-! ## A commit taken back -/

/-- A pair that is anchored takes no further lesson: the only slot left to it is taken by the anchor. -/
theorem Consistent.pairOf_eq_none (h : Consistent input st) (hla : la ∈ input.legal.zipIdx)
    (hlegal : isLegal input st la = true) (hdouble : la.1.lesson.requiresDoublePeriod = true) {p : ℕ}
    (hp : la.1.lesson.doublePairIndex = some p) : st.pairOf p = none := by
  by_contra hsome
  obtain ⟨target,htarget⟩ := Option.ne_none_iff_exists'.mp hsome
  obtain ⟨m,hm,-,hmp,hmtarget⟩ := h.anchors p target htarget
  have hfollows : followsTarget st la = true := by
    simp only [isLegal,Bool.and_eq_true] at hlegal
    exact hlegal.2
  simp only [followsTarget,hdouble,if_true,hp,htarget,Option.all_some,decide_eq_true_eq] at hfollows
  have hw := wellFormed_of_zipIdx hla
  have hw' := wellFormed_of_zipIdx (h.sound.legal m hm)
  have hslot : la.1.slot = m.1.slot := eq_of_slotId_eq (mem_teachingSlots.mp hw.slot).1 (mem_teachingSlots.mp hw'.slot).1
    (Prod.mk.inj (hfollows.trans hmtarget.symm)).1
  obtain ⟨d,-,hd,hd'⟩ := ofDemand_of_pairIndex (List.mem_of_getElem? hw.lesson) (List.mem_of_getElem? hw'.lesson) hp hmp
  have hkey : classKey la = classKey m := by
    rw [classKey,classKey,hd.classId,hd'.classId,hslot]
  exact (h.free hlegal).1 (List.mem_map.mpr ⟨m,hm,hkey.symm⟩)

/-- The rollback of a legal commit is exact unless the day carries a count and no mark. -/
theorem Consistent.rollback_commit_iff (h : Consistent input st) (hla : la ∈ input.legal.zipIdx)
    (hfree : la.1.lessonIdx ∉ st.chosen.map fun m => m.1.lessonIdx) (hlegal : isLegal input st la = true) :
    SameState (EduPod.Scheduling.rollback (EduPod.Scheduling.commit st la) la) st ↔
      st.subjectClassDayCount (subjectDayKey la) = 0 ∨
        (subjectKey la,la.1.slot.weekday) ∈ st.classSubjectDaysUsed := by
  have hpass := passes_of_isLegal hlegal
  have hnonneg := h.represents.subject_nonneg (subjectDayKey la)
  have hcount : (EduPod.Scheduling.commit st la).subjectClassDayCount (subjectDayKey la) - 1 =
      st.subjectClassDayCount (subjectDayKey la) := by
    simp [EduPod.Scheduling.commit,bump]
  constructor
  · intro hsame
    by_cases hzero : st.subjectClassDayCount (subjectDayKey la) = 0
    · exact Or.inl hzero
    · refine Or.inr ((hsame.daysUsed _).mp ?_)
      have hpos : ¬st.subjectClassDayCount (subjectDayKey la) ≤ 0 := by omega
      rw [EduPod.Scheduling.rollback,hcount]
      dsimp only
      rw [if_neg hpos]
      exact List.mem_insert_self
  · intro hday
    refine ⟨fun _ => mem_discard_insert hpass.classOpen,fun _ => mem_discard_insert hpass.teacherOpen,
      fun k => bump_bump _ _ k 1,fun k => bump_bump _ _ k 1,fun k => bump_bump _ _ k 1,fun k => bump_bump _ _ k 1,
      fun m => ?_,fun p => ?_,fun x => ?_⟩
    · have hsingle : ([la].filter fun m => m.1.lessonIdx ≠ la.1.lessonIdx) = [] := by simp
      have hall : (st.chosen.filter fun m => m.1.lessonIdx ≠ la.1.lessonIdx) = st.chosen := by
        refine List.filter_eq_self.mpr fun m hm => decide_eq_true fun he => hfree ?_
        exact List.mem_map.mpr ⟨m,hm,he⟩
      rw [EduPod.Scheduling.rollback,EduPod.Scheduling.commit,List.filter_append,hsingle,hall,List.append_nil]
    · rw [pairOf_rollback,pairOf_commit]
      by_cases hp : la.1.lesson.requiresDoublePeriod = true ∧ la.1.lesson.doublePairIndex = some p
      · have hnone := h.pairOf_eq_none hla hlegal hp.1 hp.2
        rw [if_pos hp,hnone,Option.getD_none,if_pos ⟨hp.1,hp.2,rfl⟩]
      · rw [if_neg hp,if_neg fun hc => hp ⟨hc.1,hc.2.1⟩]
    · rw [EduPod.Scheduling.rollback,hcount]
      dsimp only
      by_cases hzero : st.subjectClassDayCount (subjectDayKey la) ≤ 0
      · have hunmarked : (subjectKey la,la.1.slot.weekday) ∉ st.classSubjectDaysUsed := by
          intro hmem
          have hpos := h.markedCounted _ hmem
          exact absurd hzero (not_le.mpr hpos)
        rw [if_pos hzero]
        exact mem_discard_insert hunmarked
      · rw [if_neg hzero]
        have hmarked := hday.resolve_left (by omega)
        rw [EduPod.Scheduling.commit,List.insert_of_mem hmarked]

/-- Putting a single period back where it was rolled back from is exact. -/
theorem Consistent.commit_rollback (h : Consistent input st) (hla : la ∈ st.chosen)
    (hsingle : la.1.lesson.requiresDoublePeriod = false) :
    SameState (EduPod.Scheduling.commit (EduPod.Scheduling.rollback st la) la) st := by
  have hclass : classKey la ∈ st.classBusy :=
    (h.represents.classBusy _).mpr (Or.inr (List.mem_map_of_mem hla))
  have hteacher : teacherKey la ∈ st.teacherBusy := (h.represents.teacherBusy _).mpr (List.mem_map_of_mem hla)
  have hmarked := h.placedMarked la hla
  have hback : ((st.chosen.filter fun m => m.1.lessonIdx ≠ la.1.lessonIdx) ++ [la]).Perm st.chosen :=
    perm_filter_ne h.sound.lessons hla
  refine ⟨fun _ => mem_insert_discard hclass,fun _ => mem_insert_discard hteacher,
    fun k => bump_bump _ _ k (-1),fun k => bump_bump _ _ k (-1),fun k => bump_bump _ _ k (-1),
    fun k => bump_bump _ _ k (-1),fun m => hback.mem_iff,fun p => ?_,fun x => ?_⟩
  · rw [pairOf_commit,if_neg (by simp [hsingle]),pairOf_rollback,if_neg (by simp [hsingle])]
  · rw [EduPod.Scheduling.commit,EduPod.Scheduling.rollback]
    dsimp only
    split
    · exact mem_insert_discard hmarked
    · rw [List.insert_of_mem hmarked]

/-! ## Swaps that fail -/

/-- What passes the test in some state passes it next to the pins alone. -/
theorem Consistent.isLegal_initial (h : Consistent input st) (hlegal : isLegal input st la = true) :
    isLegal input (initialState input) la = true := by
  obtain ⟨-,hopen,-⟩ := h.free hlegal
  have hweek := h.represents.week la.1.teacherIdx
  have hday := h.represents.day (teacherDayKey la)
  have hsubject := h.represents.subject (subjectDayKey la)
  have hrooms := h.represents.rooms (roomKey la)
  simp only [isLegal,Bool.and_eq_true,decide_eq_true_eq,Option.all_eq_true] at hlegal ⊢
  obtain ⟨⟨⟨⟨⟨-,hweekCap⟩,hdayCap⟩,hcap⟩,hpool⟩,-⟩ := hlegal
  refine ⟨⟨⟨⟨⟨⟨hopen,List.not_mem_nil⟩,fun cap hc => ?_⟩,fun cap hc => ?_⟩,?_⟩,?_⟩,?_⟩
  · have hlt := hweekCap cap hc
    omega
  · have hlt := hdayCap cap hc
    omega
  · omega
  · rw [Bool.not_eq_true'] at hpool ⊢
    unfold poolFull at hpool ⊢
    cases ht : la.1.lesson.requiredRoomType with
    | none =>
      simp only [ht,Bool.and_eq_false_iff,decide_eq_false_iff_not] at hpool ⊢
      refine hpool.imp_right fun hlt => ?_
      omega
    | some t =>
      simp only [ht,Bool.and_eq_false_iff,decide_eq_false_iff_not] at hpool ⊢
      refine hpool.imp_right fun hlt => ?_
      omega
  · unfold followsTarget
    split
    · cases la.1.lesson.doublePairIndex with
      | none => rfl
      | some p => rfl
    · rfl

/-- Where pins and candidates are apart, a candidate's day is marked as soon as it counts. -/
theorem PinsApart.marked (hapart : PinsApart input) (h : Consistent input st) (hla : la ∈ input.legal.zipIdx)
    (hlegal : isLegal input st la = true) : st.subjectClassDayCount (subjectDayKey la) = 0 ∨
      (subjectKey la,la.1.slot.weekday) ∈ st.classSubjectDaysUsed := by
  by_cases hzero : st.subjectClassDayCount (subjectDayKey la) = 0
  · exact Or.inl hzero
  · right
    have hpins := hapart la hla (h.isLegal_initial hlegal)
    have hcount := h.represents.subject (subjectDayKey la)
    have hpos : 0 < st.chosen.countP fun m => subjectDayKey m = subjectDayKey la := by omega
    obtain ⟨m,hm,hkey⟩ := List.countP_pos_iff.mp hpos
    have hmarked := h.placedMarked m hm
    obtain ⟨hclass,hrest⟩ := Prod.mk.inj (of_decide_eq_true hkey)
    obtain ⟨hsubject,hweekday⟩ := Prod.mk.inj hrest
    rwa [subjectKey,hclass,hsubject,hweekday] at hmarked

/-- Every failed attempt of the search is taken back exactly. -/
theorem sameState_swapFrom (hapart : PinsApart input) {placedLa candidates : List Indexed} {g : Greedy}
    (h : Reachable input g.state) (hfails : (swapFrom input placedLa candidates g).2 = false) :
    SameState (swapFrom input placedLa candidates g).1.state g.state := by
  induction candidates generalizing g with
  | nil => exact SameState.refl _
  | cons laU rest ih =>
    rw [swapFrom] at hfails ⊢
    cases hfound : ((findBlocker g.state placedLa laU).bind fun b =>
      g.state.chosen.find? fun m => m.1.lessonIdx = b.1.lessonIdx) with
    | none =>
      rw [hfound] at hfails
      exact ih h hfails
    | some b =>
      rw [hfound] at hfails
      dsimp only at hfails ⊢
      obtain ⟨b',-,hb⟩ := Option.bind_eq_some_iff.mp hfound
      have hbmem := List.mem_of_find?_eq_some hb
      have hback : ((g.state.chosen.filter fun m => m.1.lessonIdx ≠ b.1.lessonIdx) ++ [b]).Perm g.state.chosen :=
        perm_filter_ne h.consistent.sound.lessons hbmem
      by_cases hdouble : b.1.lesson.requiresDoublePeriod = true
      · rw [if_pos hdouble] at hfails ⊢
        exact ih h hfails
      · rw [if_neg hdouble] at hfails ⊢
        have hremoved : Reachable input (undo g b).state := h.rollback hbmem
        have hexact : SameState (commit (undo g b).state b) g.state :=
          h.consistent.commit_rollback hbmem (Bool.eq_false_iff.mpr hdouble)
        cases hother : findAlternative input (undo g b) b with
        | none =>
          rw [hother] at hfails
          exact (ih (h.restore hremoved hback) hfails).trans hexact
        | some alt =>
          rw [hother] at hfails
          dsimp only at hfails ⊢
          by_cases hlegalU : isLegal input (commitLegal (undo g b) alt).state laU = true
          · rw [if_pos hlegalU] at hfails
            cases hfails
          · rw [if_neg hlegalU] at hfails ⊢
            obtain ⟨haltmem,haltidx⟩ := mem_legalByLesson.mp (List.mem_of_find?_eq_some hother)
            have halttest := List.find?_some hother
            rw [Bool.and_eq_true] at halttest
            have haltfree : alt.1.lessonIdx ∉ (undo g b).state.chosen.map fun m => m.1.lessonIdx := by
              rw [haltidx]
              intro hmem
              obtain ⟨m,hm,hmb⟩ := List.mem_map.mp hmem
              exact of_decide_eq_true (List.mem_filter.mp hm).2 hmb
            have hundone : SameState (undo (commitLegal (undo g b) alt) alt).state (undo g b).state :=
              (hremoved.consistent.rollback_commit_iff haltmem haltfree halttest.2).mpr
                (hapart.marked hremoved.consistent haltmem halttest.2)
            have hrehomed : Reachable input (undo (commitLegal (undo g b) alt) alt).state :=
              (hremoved.commit haltmem haltfree halttest.2).rollback (List.mem_append_right _ List.mem_cons_self)
            have hperm : ((undo (commitLegal (undo g b) alt) alt).state.chosen ++ [b]).Perm g.state.chosen := by
              refine List.Perm.trans (List.Perm.append_right [b] ?_) hback
              refine (List.perm_ext_iff_of_nodup ?_ ?_).mpr hundone.chosen
              · exact List.Nodup.of_map _ hrehomed.consistent.sound.lessons
              · exact List.Nodup.of_map _ hremoved.consistent.sound.lessons
            exact (ih (h.restore hrehomed hperm) hfails).trans ((hundone.commit b).trans hexact)

theorem sameState_swapOne (hapart : PinsApart input) {g : Greedy} (h : Reachable input g.state) {lessonIdx : ℕ}
    (hfails : (swapOne input g lessonIdx).2 = false) : SameState (swapOne input g lessonIdx).1.state g.state := by
  unfold swapOne at hfails ⊢
  cases hlesson : input.lessons[lessonIdx]? with
  | none => exact SameState.refl _
  | some lesson =>
    rw [hlesson] at hfails
    dsimp only at hfails ⊢
    by_cases hdouble : lesson.requiresDoublePeriod = true
    · rw [if_pos hdouble]
      exact SameState.refl _
    · rw [if_neg hdouble] at hfails ⊢
      exact sameState_swapFrom hapart h hfails

end

/-- Failed swaps and rollbacks are exact for an input just when no candidate that fits next to
the pins shares class, subject and weekday with a pin. -/
theorem undoesExactly_iff (input : SolverInputV2) : UndoesExactly input ↔ PinsApart input := by
  constructor
  · intro h la hla hlegal
    have hsame := h.commit _ .start la hla List.not_mem_nil hlegal
    rcases (consistent_initial.rollback_commit_iff hla List.not_mem_nil hlegal).mp hsame with hzero | hmarked
    · exact hzero
    · cases hmarked
  · intro hapart
    exact ⟨fun g hg i hfails => sameState_swapOne hapart hg hfails,fun st hst la hla hfree hlegal =>
      (hst.consistent.rollback_commit_iff hla hfree hlegal).mpr (hapart.marked hst.consistent hla hlegal)⟩

/-! One class with a pinned maths period on the second day, a maths period to place and an art
teacher who has no periods left to give. -/

def mathsPinned : SolverInputV2 :=
  { SolverInputV2.empty with
    yearGroups := [⟨"Y",[⟨"a"⟩],[.teaching firstDay 0 "09:00" "10:00",.teaching secondDay 0 "09:00" "10:00",
      .teaching secondDay 1 "10:00" "11:00"]⟩]
    curriculum := [⟨"Y","maths",2,2,false,none,none,none,none⟩,.single "Y" "art"]
    teachers := [.plain "s" [⟨"maths","Y",none⟩] [],
      { TeacherInputV2.plain "t" [⟨"art","Y",none⟩] [] with maxPeriodsPerWeek := some 0 }]
    rooms := [⟨"hall","hall",false⟩]
    pinnedEntries := [⟨"a",some "maths",some "Y",none,some "s",secondDay,1⟩] }

/-- After the first phase maths is on the first day. The swap for art moves it to the second
day and back, and the second day stays marked. -/
theorem not_undoesExactly : ¬∀ input, UndoesExactly input := by
  intro h
  have hsame := (h mathsPinned).swap _ (reachable_phase1 mathsPinned) 1 (by decide +kernel)
  have hday := hsame.daysUsed (("a","maths"),secondDay)
  exact absurd hday (by decide +kernel)

end EduPod.Scheduling
