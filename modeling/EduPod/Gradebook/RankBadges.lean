import Mathlib
import EduPod.Foundation.Double
import EduPod.Foundation.Ranks
import EduPod.Foundation.UniqueIndex

/-! # Rank badges on report cards

One pass over the students from the highest average down. The rank is the place in the pass, so a tie takes up as many
places as there are students in it.
-/
namespace EduPod.Gradebook.RankBadges
open Ranks

/-- The average of the computed values of a student's snapshots. -/
def average (computedValues : List ℚ) : Option ℚ :=
  if computedValues.isEmpty then none
  else some (toDouble (computedValues.foldl (fun acc value => toDouble (acc + value)) 0 / computedValues.length))

structure Scored where
  id : ℕ
  avg : ℚ

/-- What the pass carries from row to row; a badge is `none` for `null`. -/
structure Pass where
  rank : ℕ
  lastAvg : Option ℚ
  processed : ℕ
  result : UniqueIndex ℕ (Option ℕ)

@[grind] def rankLoop : List Scored → Pass → UniqueIndex ℕ (Option ℕ)
  | [],pass => pass.result
  | row :: rows,pass =>
    let lower := pass.lastAvg.all fun last => row.avg < last
    let rank := if lower then pass.processed + 1 else pass.rank
    let lastAvg := if lower then some row.avg else pass.lastAvg
    if rank ≤ 3 then rankLoop rows ⟨rank,lastAvg,pass.processed + 1,pass.result.set row.id (some rank)⟩
    else pass.result

section
variable (studentIds : List ℕ) (snapshotsByStudent : ℕ → List ℚ)

def scored : List Scored :=
  studentIds.filterMap fun id => (average (snapshotsByStudent id)).map (Scored.mk id)

def computeRankBadges : UniqueIndex ℕ (Option ℕ) :=
  rankLoop ((scored studentIds snapshotsByStudent).mergeSort fun a b => b.avg ≤ a.avg)
    ⟨0,none,0,studentIds.foldl (fun result id => result.set id none) .empty⟩

/-- The badge on the report card of a student. -/
def rankBadge (id : ℕ) : Option ℕ := ((computeRankBadges studentIds snapshotsByStudent).get? id).join

def averages : List ℚ := studentIds.filterMap fun id => average (snapshotsByStudent id)

/-- Badge `r` is for the students with `r - 1` distinct averages above them. -/
structure DenselyRanked : Prop where
  badge : ∀ id ∈ studentIds, ∀ avg, average (snapshotsByStudent id) = some avg → ∀ r,
    rankBadge studentIds snapshotsByStudent id = some r ↔
      1 ≤ r ∧ r ≤ 3 ∧ (above (averages studentIds snapshotsByStudent) avg).card = r - 1
  ties : ∀ id ∈ studentIds, ∀ id' ∈ studentIds, ∀ avg, average (snapshotsByStudent id) = some avg →
    average (snapshotsByStudent id') = some avg →
      rankBadge studentIds snapshotsByStudent id = rankBadge studentIds snapshotsByStudent id'
  ungraded : ∀ id ∈ studentIds, snapshotsByStudent id = [] → rankBadge studentIds snapshotsByStudent id = none

end

/-! ## The pass -/

theorem competitionRank_anti {α : Type*} [LinearOrder α] (xs : List α) {a b : α} (h : b ≤ a) :
    competitionRank xs a ≤ competitionRank xs b := by
  refine Nat.succ_le_succ (List.countP_mono_left fun c _ hc => ?_)
  exact decide_eq_true (h.trans_lt (of_decide_eq_true hc))

/-- The pass between two rows: what `lastAvg` and `rank` say of the rows before. -/
structure Ranked (before after : List Scored) (pass : Pass) : Prop where
  processed : pass.processed = before.length
  first : pass.lastAvg = none → before = []
  last : ∀ avg, pass.lastAvg = some avg → pass.rank = competitionRank ((before ++ after).map Scored.avg) avg ∧
    (∃ row ∈ before, row.avg = avg) ∧ ∀ row ∈ before, avg ≤ row.avg

/-- The rank of the next row. -/
def Pass.next (pass : Pass) (row : Scored) : ℕ :=
  if pass.lastAvg.all fun last => row.avg < last then pass.processed + 1 else pass.rank

section
variable {before after : List Scored} {pass : Pass} {row : Scored}

theorem Ranked.next (h : Ranked before (row :: after) pass)
    (hsorted : (before ++ row :: after).Pairwise fun a b => b.avg ≤ a.avg) :
    pass.next row = competitionRank ((before ++ row :: after).map Scored.avg) row.avg := by
  obtain ⟨-,hsuffix,hcross⟩ := List.pairwise_append.mp hsorted
  have hafter : ∀ r ∈ row :: after, r.avg ≤ row.avg := by
    intro r hr
    rcases List.mem_cons.mp hr with rfl | hr
    · exact le_refl _
    · exact (List.pairwise_cons.mp hsuffix).1 r hr
  unfold Pass.next
  split
  · rename_i hlower
    have hbefore : ∀ r ∈ before, row.avg < r.avg := by
      intro r hr
      cases hlast : pass.lastAvg with
      | none =>
        rw [h.first hlast] at hr
        cases hr
      | some avg =>
        have hlt : row.avg < avg := by simpa [hlast] using hlower
        exact hlt.trans_le ((h.last avg hlast).2.2 r hr)
    have hall : before.countP (fun r => row.avg < r.avg) = before.length :=
      List.countP_eq_length.mpr fun r hr => decide_eq_true (hbefore r hr)
    have hnone : (row :: after).countP (fun r => row.avg < r.avg) = 0 :=
      List.countP_eq_zero.mpr fun r hr hlt => not_lt.mpr (hafter r hr) (of_decide_eq_true hlt)
    rw [competitionRank,List.countP_map,Function.comp_def,List.countP_append,hall,hnone,h.processed,Nat.add_zero]
  · rename_i hlower
    cases hlast : pass.lastAvg with
    | none => simp [hlast] at hlower
    | some avg =>
      obtain ⟨hrank,⟨r,hr,rfl⟩,-⟩ := h.last avg hlast
      have hle : row.avg ≤ r.avg := hcross r hr row List.mem_cons_self
      have hge : r.avg ≤ row.avg := by simpa [hlast] using hlower
      rw [hrank,le_antisymm hge hle]

theorem Ranked.step (h : Ranked before (row :: after) pass)
    (hsorted : (before ++ row :: after).Pairwise fun a b => b.avg ≤ a.avg) (result : UniqueIndex ℕ (Option ℕ)) :
    Ranked (before ++ [row]) after ⟨pass.next row,
      if pass.lastAvg.all fun last => row.avg < last then some row.avg else pass.lastAvg,pass.processed + 1,result⟩ := by
  have hlastAvg : (if pass.lastAvg.all fun last => row.avg < last then some row.avg else pass.lastAvg) =
      some row.avg := by
    split
    · rfl
    · rename_i hlower
      cases hlast : pass.lastAvg with
      | none => simp [hlast] at hlower
      | some avg =>
        obtain ⟨-,⟨r,hr,rfl⟩,-⟩ := h.last avg hlast
        have hle : row.avg ≤ r.avg := (List.pairwise_append.mp hsorted).2.2 r hr row List.mem_cons_self
        have hge : r.avg ≤ row.avg := by simpa [hlast] using hlower
        rw [le_antisymm hge hle]
  refine ⟨?_,fun hnone => ?_,fun avg havg => ?_⟩
  · rw [List.length_append,List.length_singleton]
    exact congrArg (· + 1) h.processed
  · rw [hlastAvg] at hnone
    cases hnone
  · rw [hlastAvg] at havg
    obtain rfl := Option.some.inj havg
    refine ⟨?_,⟨row,by simp,rfl⟩,fun r hr => ?_⟩
    · rw [List.append_assoc,List.singleton_append]
      exact h.next hsorted
    · rcases List.mem_append.mp hr with hr | hr
      · exact (List.pairwise_append.mp hsorted).2.2 r hr row List.mem_cons_self
      · rw [List.mem_singleton.mp hr]

/-- The pass stops at the first rank that is no badge, and what is left of it would get none. -/
theorem rankLoop_eq (h : Ranked before after pass) (hsorted : (before ++ after).Pairwise fun a b => b.avg ≤ a.avg) :
    rankLoop after pass =
      (after.filter fun row => competitionRank ((before ++ after).map Scored.avg) row.avg ≤ 3).foldl (fun result row =>
        result.set row.id (some (competitionRank ((before ++ after).map Scored.avg) row.avg))) pass.result := by
  induction after generalizing before pass with
  | nil => rfl
  | cons row after ih =>
    have hnext := h.next hsorted
    have hmoved : before ++ row :: after = before ++ [row] ++ after := by simp
    unfold rankLoop
    change (if pass.next row ≤ 3 then rankLoop after ⟨pass.next row,_,_,pass.result.set row.id (some (pass.next row))⟩
      else pass.result) = _
    by_cases hbadge : pass.next row ≤ 3
    · rw [if_pos hbadge,ih (h.step hsorted _) (hmoved ▸ hsorted),List.filter_cons_of_pos (by simpa [hnext] using hbadge),
        List.foldl_cons,← hnext,← hmoved]
    · have hrest : ∀ r ∈ row :: after, ¬competitionRank ((before ++ row :: after).map Scored.avg) r.avg ≤ 3 := by
        intro r hr
        have hle : r.avg ≤ row.avg := by
          rcases List.mem_cons.mp hr with rfl | hr
          · exact le_refl _
          · exact (List.pairwise_cons.mp (List.pairwise_append.mp hsorted).2.1).1 r hr
        have hmono := competitionRank_anti ((before ++ row :: after).map Scored.avg) hle
        omega
      rw [if_neg hbadge,List.filter_eq_nil_iff.mpr fun r hr => by simpa using hrest r hr]
      rfl

end

/-! ## Badges -/

section
variable {studentIds : List ℕ} {snapshotsByStudent : ℕ → List ℚ} {id : ℕ}

theorem mem_scored {row : Scored} : row ∈ scored studentIds snapshotsByStudent ↔
    row.id ∈ studentIds ∧ average (snapshotsByStudent row.id) = some row.avg := by
  rw [scored,List.mem_filterMap]
  constructor
  · rintro ⟨i,hi,hrow⟩
    obtain ⟨avg,havg,rfl⟩ := Option.map_eq_some_iff.mp hrow
    exact ⟨hi,havg⟩
  · rintro ⟨hi,havg⟩
    exact ⟨row.id,hi,by rw [havg]; rfl⟩

theorem map_avg_scored :
    (scored studentIds snapshotsByStudent).map Scored.avg = averages studentIds snapshotsByStudent := by
  rw [scored,averages,List.map_filterMap]
  refine List.filterMap_congr fun i _ => ?_
  rw [Option.map_map]
  exact Option.map_id'

theorem computeRankBadges_eq (ids : List ℕ) (snapshots : ℕ → List ℚ) :
    ∃ sorted : List Scored, sorted.Perm (scored ids snapshots) ∧ computeRankBadges ids snapshots =
      (sorted.filter fun row => competitionRank (averages ids snapshots) row.avg ≤ 3).foldl
        (fun result row => result.set row.id (some (competitionRank (averages ids snapshots) row.avg)))
        (ids.foldl (fun result id => result.set id none) .empty) := by
  refine ⟨(scored ids snapshots).mergeSort fun a b => b.avg ≤ a.avg,List.mergeSort_perm _ _,?_⟩
  have hsorted : ((scored ids snapshots).mergeSort fun a b => b.avg ≤ a.avg).Pairwise
      fun a b => decide (b.avg ≤ a.avg) = true :=
    List.pairwise_mergeSort
      (fun a b c hab hbc => decide_eq_true ((of_decide_eq_true hbc).trans (of_decide_eq_true hab)))
      (fun a b => by simpa using le_total b.avg a.avg) (scored ids snapshots)
  have hperm : (((scored ids snapshots).mergeSort fun a b => b.avg ≤ a.avg).map Scored.avg).Perm
      (averages ids snapshots) := map_avg_scored ▸ (List.mergeSort_perm _ _).map Scored.avg
  have hrank : ∀ a, competitionRank ((([] : List Scored) ++ (scored ids snapshots).mergeSort
      fun a b => b.avg ≤ a.avg).map Scored.avg) a = competitionRank (averages ids snapshots) a :=
    fun a => congrArg (· + 1) (hperm.countP_eq _)
  have hstart : Ranked [] ((scored ids snapshots).mergeSort fun a b => b.avg ≤ a.avg)
      ⟨0,none,0,ids.foldl (fun result id => result.set id none) .empty⟩ :=
    ⟨rfl,fun _ => rfl,fun _ h => by cases h⟩
  rw [computeRankBadges,rankLoop_eq hstart (hsorted.imp fun h => of_decide_eq_true h)]
  simp only [hrank]

theorem rankBadge_of_average {avg : ℚ} (hid : id ∈ studentIds) (havg : average (snapshotsByStudent id) = some avg) :
    rankBadge studentIds snapshotsByStudent id =
      if competitionRank (averages studentIds snapshotsByStudent) avg ≤ 3 then
        some (competitionRank (averages studentIds snapshotsByStudent) avg) else none := by
  obtain ⟨sorted,hperm,hresult⟩ := computeRankBadges_eq studentIds snapshotsByStudent
  have hrow : ∀ row ∈ sorted, row.id = id → row.avg = avg := by
    rintro row hmem rfl
    exact Option.some.inj ((mem_scored.mp (hperm.mem_iff.mp hmem)).2.symm.trans havg)
  rw [rankBadge,hresult,UniqueIndex.get?_foldl_set
    (a := some (competitionRank (averages studentIds snapshotsByStudent) avg)) _ _ fun row hmem heq => by
      rw [hrow row (List.mem_filter.mp hmem).1 heq]]
  split
  · rename_i hmem
    obtain ⟨row,hfilter,heq⟩ := List.mem_map.mp hmem
    obtain ⟨hsorted,hbadge⟩ := List.mem_filter.mp hfilter
    rw [hrow row hsorted heq] at hbadge
    rw [if_pos (of_decide_eq_true hbadge)]
    rfl
  · rename_i hmem
    rw [if_neg,UniqueIndex.get?_foldl_set (a := none) _ _ fun _ _ _ => rfl]
    · split <;> rfl
    · intro hbadge
      exact hmem (List.mem_map.mpr ⟨⟨id,avg⟩,List.mem_filter.mpr
        ⟨hperm.mem_iff.mpr (mem_scored.mpr ⟨hid,havg⟩),decide_eq_true hbadge⟩,rfl⟩)

theorem rankBadge_of_none (havg : average (snapshotsByStudent id) = none) :
    rankBadge studentIds snapshotsByStudent id = none := by
  obtain ⟨sorted,hperm,hresult⟩ := computeRankBadges_eq studentIds snapshotsByStudent
  have hrow : ∀ row ∈ sorted, row.id ≠ id := by
    rintro row hmem rfl
    rw [(mem_scored.mp (hperm.mem_iff.mp hmem)).2] at havg
    cases havg
  rw [rankBadge,hresult,UniqueIndex.get?_foldl_set (a := none) _ _ fun row hmem heq =>
    absurd heq (hrow row (List.mem_filter.mp hmem).1),UniqueIndex.get?_foldl_set (a := none) _ _ fun _ _ _ => rfl]
  split
  · rfl
  · split <;> rfl

/-- The badges are dense ranks just when nobody comes after a tie for the first or the second place. -/
theorem denselyRanked_iff (studentIds : List ℕ) (snapshotsByStudent : ℕ → List ℚ) :
    DenselyRanked studentIds snapshotsByStudent ↔ ∀ a ∈ averages studentIds snapshotsByStudent,
      ∀ b ∈ averages studentIds snapshotsByStudent, b < a →
        (above (averages studentIds snapshotsByStudent) a).card < 2 →
          (averages studentIds snapshotsByStudent).count a = 1 := by
  have hagree : AgreeUpTo (averages studentIds snapshotsByStudent) 3 ↔ ∀ a ∈ averages studentIds snapshotsByStudent,
      ∀ b ∈ averages studentIds snapshotsByStudent, b < a →
        (above (averages studentIds snapshotsByStudent) a).card < 2 →
          (averages studentIds snapshotsByStudent).count a = 1 := by
    rw [agreeUpTo_iff]
    simp only [denseRank,Nat.add_lt_add_iff_right,show (3 : ℕ) = 2 + 1 from rfl]
  rw [← hagree]
  constructor
  · intro hdense a ha r hr
    obtain ⟨id,hid,havg⟩ := List.mem_filterMap.mp ha
    have hbadge := hdense.badge id hid a havg r
    rw [rankBadge_of_average hid havg] at hbadge
    rw [denseRank]
    split at hbadge
    · rw [Option.some_inj] at hbadge
      rw [hbadge]
      rw [competitionRank] at hbadge
      omega
    · have hnot : ¬(1 ≤ r ∧ r ≤ 3 ∧ (above (averages studentIds snapshotsByStudent) a).card = r - 1) :=
        by
        intro h
        cases hbadge.mpr h
      omega
  · intro h
    refine ⟨fun id hid avg havg r => ?_,fun id hid id' hid' avg havg havg' => ?_,fun id _ hnone => ?_⟩
    · have hmem : avg ∈ averages studentIds snapshotsByStudent := List.mem_filterMap.mpr ⟨id,hid,havg⟩
      rw [rankBadge_of_average hid havg]
      split
      · rename_i hle
        have hrank := h avg hmem _ hle
        rw [eq_self_iff_true,true_iff,denseRank] at hrank
        rw [Option.some_inj]
        omega
      · rename_i hle
        refine iff_of_false (by simp) ?_
        rintro ⟨hpos,hr,hcard⟩
        have hrank := (h avg hmem r hr).mpr (by rw [denseRank]; omega)
        omega
    · rw [rankBadge_of_average hid havg,rankBadge_of_average hid' havg']
    · refine rankBadge_of_none ?_
      rw [hnone]
      rfl

end

/-- Two students share the first place, and the next best average is the third badge's. -/
theorem not_denselyRanked : ¬∀ (studentIds : List ℕ) (snapshotsByStudent : ℕ → List ℚ),
    DenselyRanked studentIds snapshotsByStudent := by
  intro h
  have hbadge := (h [1,2,3] fun id => if id = 3 then [80] else [90]).badge 3 (by simp) 80 (by decide +kernel) 2
  have hcard : (above (averages [1,2,3] fun id => if id = 3 then [80] else [90]) 80).card = 2 - 1 := by decide +kernel
  have hthird : rankBadge [1,2,3] (fun id => if id = 3 then [80] else [90]) 3 = some 3 := by
    have havg : average (if 3 = 3 then [80] else [90]) = some 80 := by decide +kernel
    rw [rankBadge_of_average (by simp) havg]
    decide +kernel
  rw [hthird] at hbadge
  exact absurd (hbadge.mpr ⟨by decide,by decide,hcard⟩) (by decide)

end EduPod.Gradebook.RankBadges
