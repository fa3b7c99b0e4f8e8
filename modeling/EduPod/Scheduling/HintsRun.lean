import EduPod.Scheduling.Hints
import EduPod.Scheduling.ModelFacts

/-! # Runs of the greedy

What a legal commit, an undo and a restoring commit preserve, the greedy ends with.
-/
namespace EduPod.Scheduling

/-- Preserved by the moves of the greedy. A restoring commit brings a state `g'` back to the
placed assignments of an earlier state `g`. -/
structure Preserved (input : SolverInputV2) (P : Greedy → Prop) : Prop where
  commit : ∀ g la, Sound input g.state.chosen → P g → la ∈ input.legal.zipIdx →
    la.1.lessonIdx ∉ g.state.chosen.map (fun m => m.1.lessonIdx) → isLegal input g.state la = true →
    P (commitLegal g la)
  undo : ∀ g la, Sound input g.state.chosen → P g → la ∈ g.state.chosen → P (undo g la)
  restore : ∀ g g' la, P g → P g' → (g'.state.chosen ++ [la]).Perm g.state.chosen → g.history ⊆ g'.history →
    P (restore g' la)

theorem perm_filter_ne {α κ : Type*} [DecidableEq α] [DecidableEq κ] {f : α → κ} {xs : List α} {b : α}
    (hn : (xs.map f).Nodup) (hb : b ∈ xs) : ((xs.filter fun m => f m ≠ f b) ++ [b]).Perm xs := by
  have herase : xs.filter (fun m => f m ≠ f b) = xs.erase b := by
    rw [(List.Nodup.of_map f hn).erase_eq_filter]
    refine List.filter_congr fun m hm => ?_
    by_cases h : m = b
    · simp [h]
    · have hne : f m ≠ f b := fun he => h (List.inj_on_of_nodup_map hn hm hb he)
      simp [h,hne]
  rw [herase]
  exact (List.perm_append_singleton b _).trans (List.perm_cons_erase hb).symm

theorem placed_eq_false {st : GreedyState} {i : ℕ} :
    st.placed i = false ↔ i ∉ st.chosen.map fun m => m.1.lessonIdx := by
  simp [GreedyState.placed]

theorem mem_legalByLesson {legal : List LegalAssignment} {i : ℕ} {la : Indexed} :
    la ∈ legalByLesson legal i ↔ la ∈ legal.zipIdx ∧ la.1.lessonIdx = i := by
  simp [legalByLesson]

section
variable {input : SolverInputV2}

theorem Sound.concat {chosen : List Indexed} (h : Sound input chosen) {la : Indexed} (hla : la ∈ input.legal.zipIdx)
    (hfree : la.1.lessonIdx ∉ chosen.map fun m => m.1.lessonIdx) : Sound input (chosen ++ [la]) := by
  refine ⟨fun m hm => ?_,?_⟩
  · rcases List.mem_append.mp hm with hm | hm
    · exact h.legal m hm
    · rw [List.mem_singleton.mp hm]
      exact hla
  · rw [List.map_append,List.map_singleton]
    exact (List.perm_append_singleton _ _).nodup_iff.mpr (List.nodup_cons.mpr ⟨hfree,h.lessons⟩)

theorem Sound.sublist {xs ys : List Indexed} (h : Sound input ys) (hs : xs.Sublist ys) : Sound input xs :=
  ⟨fun la hla => h.legal la (hs.subset hla),h.lessons.sublist (hs.map _)⟩

theorem Sound.perm {xs ys : List Indexed} (h : Sound input ys) (hp : xs.Perm ys) : Sound input xs :=
  ⟨fun la hla => h.legal la (hp.subset hla),(hp.map _).nodup_iff.mpr h.lessons⟩

/-- The invariant of a run. -/
def Keeps (input : SolverInputV2) (P : Greedy → Prop) (g : Greedy) : Prop := Sound input g.state.chosen ∧ P g

variable {P : Greedy → Prop} (hP : Preserved input P)
include hP

theorem keeps_commitLegal {g : Greedy} (h : Keeps input P g) {la : Indexed} (hla : la ∈ input.legal.zipIdx)
    (hfree : la.1.lessonIdx ∉ g.state.chosen.map fun m => m.1.lessonIdx)
    (hlegal : isLegal input g.state la = true) : Keeps input P (commitLegal g la) :=
  ⟨h.1.concat hla hfree,hP.commit g la h.1 h.2 hla hfree hlegal⟩

theorem keeps_undo {g : Greedy} (h : Keeps input P g) {la : Indexed} (hla : la ∈ g.state.chosen) :
    Keeps input P (undo g la) := ⟨h.1.sublist List.filter_sublist,hP.undo g la h.1 h.2 hla⟩

theorem keeps_restore {g g' : Greedy} (h : Keeps input P g) (h' : Keeps input P g') {la : Indexed}
    (hperm : (g'.state.chosen ++ [la]).Perm g.state.chosen) (hsub : g.history ⊆ g'.history) :
    Keeps input P (restore g' la) := ⟨h.1.perm hperm,hP.restore g g' la h.2 h'.2 hperm hsub⟩

theorem keeps_tryPlace {g : Greedy} (h : Keeps input P g) (i : ℕ) : Keeps input P (tryPlace input g i).1 := by
  unfold tryPlace
  split
  · exact h
  · rename_i hplaced
    split
    · rename_i la hfind
      have hmem := (List.mem_insertionSort _).mp (List.mem_of_find?_eq_some hfind)
      obtain ⟨hla,hi⟩ := mem_legalByLesson.mp hmem
      refine keeps_commitLegal hP h hla ?_ (List.find?_some hfind)
      rw [hi]
      exact placed_eq_false.mp (Bool.eq_false_iff.mpr hplaced)
    · exact h

/-- The swap search keeps the invariant: each failed attempt puts the displaced lesson back. -/
theorem keeps_trySwapFrom {placedLa candidates : List Indexed} {i : ℕ}
    (hc : ∀ la ∈ candidates, la ∈ input.legal.zipIdx ∧ la.1.lessonIdx = i) {g : Greedy} (h : Keeps input P g)
    (hi : i ∉ g.state.chosen.map fun m => m.1.lessonIdx) : Keeps input P (trySwapFrom input placedLa candidates g) := by
  induction candidates generalizing g with
  | nil => exact h
  | cons laU rest ih =>
    obtain ⟨⟨hlegal,hidx⟩,hrest⟩ := List.forall_mem_cons.mp hc
    rw [trySwapFrom]
    split
    · exact ih hrest h hi
    · rename_i b hb
      obtain ⟨b',-,hb⟩ := Option.bind_eq_some_iff.mp hb
      have hbmem := List.mem_of_find?_eq_some hb
      have hremoved := keeps_undo hP h hbmem
      have hback : ((g.state.chosen.filter fun m => m.1.lessonIdx ≠ b.1.lessonIdx) ++ [b]).Perm g.state.chosen :=
        perm_filter_ne h.1.lessons hbmem
      have hkept : ∀ {g' : Greedy}, g'.state.chosen = (undo g b).state.chosen →
          i ∉ (restore g' b).state.chosen.map fun m => m.1.lessonIdx := by
        intro g' hg'
        rw [show (restore g' b).state.chosen = g'.state.chosen ++ [b] from rfl,hg']
        exact fun hmem => hi ((hback.map _).mem_iff.mp hmem)
      split
      · exact ih hrest h hi
      · dsimp only
        split
        · exact ih hrest (keeps_restore hP h hremoved hback (List.Subset.refl _)) (hkept rfl)
        · rename_i alt halt
          obtain ⟨haltmem,haltidx⟩ := mem_legalByLesson.mp (List.mem_of_find?_eq_some halt)
          have halttest := List.find?_some halt
          rw [Bool.and_eq_true] at halttest
          have haltfree : alt.1.lessonIdx ∉ (undo g b).state.chosen.map fun m => m.1.lessonIdx := by
            rw [haltidx]
            intro hmem
            obtain ⟨m,hm,hmb⟩ := List.mem_map.mp hmem
            simpa [hmb] using (List.mem_filter.mp hm).2
          have hrehomed := keeps_commitLegal hP hremoved haltmem haltfree halttest.2
          split
          · rename_i hlegalU
            refine keeps_commitLegal hP hrehomed hlegal ?_ hlegalU
            rw [hidx]
            intro hmem
            obtain ⟨m,hm,hmi⟩ := List.mem_map.mp hmem
            rcases List.mem_append.mp hm with hm | hm
            · exact hi (List.mem_map.mpr ⟨m,(List.mem_filter.mp hm).1,hmi⟩)
            · rw [List.mem_singleton.mp hm,haltidx] at hmi
              exact hi (List.mem_map.mpr ⟨b,hbmem,hmi⟩)
          · have hundone : (undo (commitLegal (undo g b) alt) alt).state.chosen = (undo g b).state.chosen := by
              simp only [undo,commitLegal,rollback,commit,List.filter_append,List.filter_filter]
              rw [haltidx]
              simp [haltidx]
            have hundo := keeps_undo hP hrehomed (List.mem_append_right _ List.mem_cons_self : alt ∈ _ ++ [alt])
            refine ih hrest (keeps_restore hP h hundo ?_ ?_) (hkept hundone)
            · rw [hundone]
              exact hback
            · exact List.subset_append_left _ _

theorem keeps_tryOneSwap {g : Greedy} (h : Keeps input P g) {i : ℕ} (hi : g.state.placed i = false) :
    Keeps input P (tryOneSwap input g i) := by
  unfold tryOneSwap
  split
  · exact h
  · split
    · exact h
    · exact keeps_trySwapFrom hP (fun la hla => mem_legalByLesson.mp hla) h (placed_eq_false.mp hi)

theorem keeps_retry {g : Greedy} (h : Keeps input P g) : Keeps input P (retry input g).1 := by
  unfold retry
  exact List.foldlRecOn (motive := fun p : Greedy × Bool => Keeps input P p.1) _ _ h
    fun p hp i _ => keeps_tryPlace hP hp i

theorem keeps_phase3 {g : Greedy} (rounds : ℕ) (h : Keeps input P g) : Keeps input P (phase3 input rounds g) := by
  induction rounds generalizing g with
  | zero => exact h
  | succ rounds ih =>
    rw [phase3]
    split
    · exact h
    · split
      · exact ih (keeps_retry hP h)
      · exact keeps_retry hP h

/-- What the moves preserve holds at the end of the run. -/
theorem greedyRun_keeps (h0 : P ⟨initialState input,[]⟩) : Keeps input P (greedyRun input) := by
  have hinit : Keeps input P ⟨initialState input,[]⟩ := ⟨⟨List.forall_mem_nil _,List.nodup_nil⟩,h0⟩
  refine keeps_phase3 hP 3 ?_
  refine List.foldlRecOn _ _ ?_ fun g hg i _ => ?_
  · exact List.foldlRecOn _ _ hinit fun g hg i _ => keeps_tryPlace hP hg i
  · split
    · exact hg
    · exact keeps_tryOneSwap hP hg (Bool.eq_false_iff.mpr ‹_›)

end

/-- The greedy places legal assignments of different lessons. -/
theorem sound_greedyAssign (input : SolverInputV2) : Sound input (greedyAssign input) :=
  (greedyRun_keeps (P := fun _ => True) ⟨fun _ _ _ _ _ _ _ => trivial,fun _ _ _ _ _ => trivial,
    fun _ _ _ _ _ _ _ => trivial⟩ trivial).1

end EduPod.Scheduling
