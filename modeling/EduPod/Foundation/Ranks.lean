import Mathlib

/-! # Ranks with ties

The dense rank counts the greater values, the competition rank the greater entries. They agree on the first places
just when nobody comes after a tie there.
-/
namespace EduPod.Ranks
variable {α : Type*} [LinearOrder α]

/-- The distinct values of a list that are greater. -/
def above (xs : List α) (a : α) : Finset α := xs.toFinset.filter fun b => a < b

def denseRank (xs : List α) (a : α) : ℕ := (above xs a).card + 1

def competitionRank (xs : List α) (a : α) : ℕ := xs.countP (fun b => a < b) + 1

/-- The ranks up to `k` are the same. -/
def AgreeUpTo (xs : List α) (k : ℕ) : Prop :=
  ∀ a ∈ xs, ∀ r, r ≤ k → (competitionRank xs a = r ↔ denseRank xs a = r)

variable {xs : List α} {a b : α} {k : ℕ}

theorem mem_above : b ∈ above xs a ↔ b ∈ xs ∧ a < b := by simp [above]

theorem above_eq (xs : List α) (a : α) : above xs a = (xs.filter fun b => a < b).toFinset := by
  ext b
  simp [above]

theorem competitionRank_eq (xs : List α) (a : α) : competitionRank xs a = (xs.filter fun b => a < b).length + 1 := by
  rw [competitionRank,List.countP_eq_length_filter]

theorem denseRank_le_competitionRank : denseRank xs a ≤ competitionRank xs a := by
  have hle := (xs.filter fun b => a < b).toFinset_card_le
  rw [denseRank,competitionRank_eq,above_eq]
  omega

theorem competitionRank_eq_denseRank_iff :
    competitionRank xs a = denseRank xs a ↔ (xs.filter fun b => a < b).Nodup := by
  rw [competitionRank_eq,denseRank,above_eq,List.card_toFinset]
  constructor
  · intro h
    have hlength : (xs.filter fun b => a < b).dedup.length = (xs.filter fun b => a < b).length := by omega
    rw [← (List.dedup_sublist _).eq_of_length hlength]
    exact List.nodup_dedup _
  · intro h
    rw [h.dedup]

theorem denseRank_lt_denseRank (ha : a ∈ xs) (h : b < a) : denseRank xs a < denseRank xs b := by
  refine Nat.succ_lt_succ (Finset.card_lt_card ((Finset.ssubset_iff_of_subset fun c hc => ?_).mpr ⟨a,?_,?_⟩))
  · obtain ⟨hmem,hlt⟩ := mem_above.mp hc
    exact mem_above.mpr ⟨hmem,h.trans hlt⟩
  · exact mem_above.mpr ⟨ha,h⟩
  · simp [mem_above]

/-- The next lower value ranks next. -/
theorem exists_denseRank_succ (ha : a ∈ xs) (hb : b ∈ xs) (h : b < a) :
    ∃ c ∈ xs, c < a ∧ denseRank xs c = denseRank xs a + 1 := by
  have hne : (xs.toFinset.filter fun c => c < a).Nonempty := ⟨b,by simpa using ⟨hb,h⟩⟩
  obtain ⟨c,hc,hmax⟩ := Finset.exists_max_image _ id hne
  obtain ⟨hmem,hlt⟩ : c ∈ xs ∧ c < a := by simpa using hc
  refine ⟨c,hmem,hlt,?_⟩
  have habove : above xs c = insert a (above xs a) := by
    ext d
    rw [Finset.mem_insert,mem_above,mem_above]
    constructor
    · rintro ⟨hd,hcd⟩
      rcases lt_trichotomy d a with hda | rfl | had
      · exact absurd (hmax d (by simpa using ⟨hd,hda⟩)) (not_le.mpr hcd)
      · exact Or.inl rfl
      · exact Or.inr ⟨hd,had⟩
    · rintro (rfl | ⟨hd,had⟩)
      · exact ⟨ha,hlt⟩
      · exact ⟨hd,hlt.trans had⟩
  rw [denseRank,habove,Finset.card_insert_of_notMem (by simp [mem_above]),denseRank]

/-- Ties are harmless from the last place on, and where nobody comes after them. -/
theorem agreeUpTo_iff :
    AgreeUpTo xs k ↔ ∀ a ∈ xs, ∀ b ∈ xs, b < a → denseRank xs a < k → xs.count a = 1 := by
  constructor
  · intro hagree a ha b hb hlt hk
    obtain ⟨c,hc,hca,hrank⟩ := exists_denseRank_succ ha hb hlt
    have hsame : competitionRank xs c = denseRank xs c := (hagree c hc (denseRank xs c) (by omega)).mpr rfl
    have hcount := List.nodup_iff_count_le_one.mp (competitionRank_eq_denseRank_iff.mp hsame) a
    rw [List.count_filter (by simpa using hca)] at hcount
    have hpos := List.count_pos_iff.mpr ha
    omega
  · intro hties a ha r hr
    have hle : denseRank xs a ≤ competitionRank xs a := denseRank_le_competitionRank
    by_cases hk : denseRank xs a ≤ k
    · have hsame : competitionRank xs a = denseRank xs a := by
        refine competitionRank_eq_denseRank_iff.mpr (List.nodup_iff_count_le_one.mpr fun c => ?_)
        by_cases hc : c ∈ xs ∧ a < c
        · have hlt := denseRank_lt_denseRank hc.1 hc.2
          rw [List.count_filter (by simpa using hc.2),hties c hc.1 a ha hc.2 (by omega)]
        · rw [List.count_eq_zero_of_not_mem (by simpa using hc)]
          omega
      rw [hsame]
    · omega

end EduPod.Ranks
