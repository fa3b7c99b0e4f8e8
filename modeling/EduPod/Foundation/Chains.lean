import Mathlib

/-! # Chains of numbered elements

Elements are numbered in the order they come up, belong to a chain or to none, and have a rank. Where each element of a
chain but the first is one rank above an earlier one and no two have the same rank, ranks go up by one from each to the
next.
-/
namespace EduPod.Chains
variable (chain : ℕ → Option ℕ) (rank : ℕ → ℕ)

def Tied (i j : ℕ) : Prop := ∃ c, chain i = some c ∧ chain j = some c

def Distinct : Prop := ∀ i j, Tied chain i j → rank i = rank j → i = j

/-- Each but the first is one above an earlier one. -/
def Stepwise : Prop := ∀ i j, Tied chain i j → i < j → ∃ p < j, Tied chain p j ∧ rank j = rank p + 1

variable {chain rank} {i j k : ℕ}

theorem Tied.symm (h : Tied chain i j) : Tied chain j i := by
  obtain ⟨c,hi,hj⟩ := h
  exact ⟨c,hj,hi⟩

theorem Tied.trans (h : Tied chain i j) (h' : Tied chain j k) : Tied chain i k := by
  obtain ⟨c,hi,hj⟩ := h
  obtain ⟨d,hj',hk⟩ := h'
  obtain rfl := Option.some.inj (hj.symm.trans hj')
  exact ⟨c,hi,hk⟩

/-- The next element of the chain. -/
theorem exists_next (h : Tied chain i j) (hlt : i < j) :
    ∃ k, Tied chain i k ∧ i < k ∧ k ≤ j ∧ ∀ l, Tied chain i l → i < l → k ≤ l := by
  classical
  have hex : ∃ k, Tied chain i k ∧ i < k := ⟨j,h,hlt⟩
  obtain ⟨htied,hik⟩ := Nat.find_spec hex
  exact ⟨Nat.find hex,htied,hik,Nat.find_min' hex ⟨h,hlt⟩,fun l hl hil => Nat.find_min' hex ⟨hl,hil⟩⟩

theorem rank_lt (hd : Distinct chain rank) (hs : Stepwise chain rank) :
    ∀ {j i}, Tied chain i j → i < j → rank i < rank j := by
  intro j
  induction j using Nat.strong_induction_on with
  | _ j ih =>
    intro i h hlt
    obtain ⟨p,hpj,hp,hrank⟩ := hs i j h hlt
    have hle : i ≤ p := by
      by_contra hpi
      obtain ⟨k,hk,hpk,hki,hmin⟩ := exists_next (hp.trans h.symm) (not_le.mp hpi)
      have hkj : k < j := lt_of_le_of_lt hki hlt
      obtain ⟨p',hp'k,hp',hrank'⟩ := hs p k hk hpk
      have hp'p : p' ≤ p := by
        by_contra hpp'
        exact absurd (hmin p' (hk.trans hp'.symm) (not_le.mp hpp')) (not_le.mpr hp'k)
      have hbelow : rank p' ≤ rank p := by
        rcases hp'p.eq_or_lt with rfl | hlt'
        · exact le_refl _
        · exact (ih p hpj (hp'.trans hk.symm) hlt').le
      have habove := ih k hkj hk hpk
      have hsame : rank k = rank j := by omega
      exact absurd (hd k j (hk.symm.trans hp) hsame) hkj.ne
    rcases hle.eq_or_lt with rfl | hlt'
    · omega
    · have := ih p hpj (h.trans hp.symm) hlt'
      omega

/-- The next element is one above. -/
theorem exists_rank_succ (hd : Distinct chain rank) (hs : Stepwise chain rank) (h : Tied chain i j) (hlt : i < j) :
    ∃ k, Tied chain i k ∧ rank k = rank i + 1 := by
  obtain ⟨k,hk,hik,-,hmin⟩ := exists_next h hlt
  obtain ⟨p,hpk,hp,hrank⟩ := hs i k hk hik
  have hpi : p ≤ i := by
    by_contra hip
    exact absurd (hmin p (hk.trans hp.symm) (not_le.mp hip)) (not_le.mpr hpk)
  have hbelow : rank p ≤ rank i := by
    rcases hpi.eq_or_lt with rfl | hlt'
    · exact le_refl _
    · exact (rank_lt hd hs (hp.trans hk.symm) hlt').le
  have habove := rank_lt hd hs hk hik
  exact ⟨k,hk,by omega⟩

/-! Only the ranks of chained elements count. -/

theorem distinct_congr {rank' : ℕ → ℕ} (h : ∀ j, chain j ≠ none → rank' j = rank j) :
    Distinct chain rank' ↔ Distinct chain rank := by
  refine forall₃_congr fun i j hij => ?_
  obtain ⟨c,hi,hj⟩ := hij
  rw [h i (by simp [hi]),h j (by simp [hj])]

theorem stepwise_congr {rank' : ℕ → ℕ} (h : ∀ j, chain j ≠ none → rank' j = rank j) (hs : Stepwise chain rank) :
    Stepwise chain rank' := by
  intro i j hij hlt
  obtain ⟨p,hpj,⟨c,hp,hj⟩,hrank⟩ := hs i j hij hlt
  exact ⟨p,hpj,⟨c,hp,hj⟩,by rw [h j (by simp [hj]),h p (by simp [hp]),hrank]⟩

/-! ## A new element after another -/

/-- `new` comes up in the chain `c` of `old`, one rank above it. -/
structure Extends (chain chain' : ℕ → Option ℕ) (rank rank' : ℕ → ℕ) (old new c : ℕ) : Prop where
  below : old < new
  fresh : ∀ j, chain j ≠ none → j < new
  belongs : chain old = some c ∨ chain old = none ∧ ∀ j, chain j ≠ some c
  chain_eq : ∀ j, chain' j = if j = new ∨ j = old then some c else chain j
  rank_eq : ∀ j, rank' j = if j = new then rank old + 1 else rank j

variable {chain' : ℕ → Option ℕ} {rank' : ℕ → ℕ} {old new c : ℕ}

theorem Extends.chain_self_iff (h : Extends chain chain' rank rank' old new c) :
    chain' j = some c ↔ j = new ∨ j = old ∨ chain j = some c := by
  rw [h.chain_eq]
  by_cases hj : j = new ∨ j = old
  · rw [if_pos hj]
    exact iff_of_true rfl (hj.imp_right .inl)
  · rw [if_neg hj]
    exact ⟨fun hc => .inr (.inr hc),fun hc => (hc.resolve_left fun hn => hj (.inl hn)).resolve_left fun ho => hj (.inr ho)⟩

theorem Extends.chain_other_iff (h : Extends chain chain' rank rank' old new c) {d : ℕ} (hd : d ≠ c) :
    chain' j = some d ↔ chain j = some d := by
  rw [h.chain_eq]
  split
  case isFalse => rfl
  case isTrue hj =>
    refine iff_of_false (fun hc => hd (Option.some.inj hc).symm) fun hc => ?_
    rcases hj with rfl | rfl
    · exact absurd (h.fresh j (by simp [hc])) (lt_irrefl j)
    · rcases h.belongs with ho | ⟨ho,-⟩
      · exact hd (Option.some.inj (hc.symm.trans ho))
      · exact absurd (hc.symm.trans ho) (by simp)

theorem Extends.lt_new (h : Extends chain chain' rank rank' old new c) {d : ℕ} (hj : chain' j = some d) (hne : j ≠ new) :
    j < new := by
  by_cases ho : j = old
  · exact ho ▸ h.below
  · rw [h.chain_eq,if_neg (not_or.mpr ⟨hne,ho⟩)] at hj
    exact h.fresh j (by simp [hj])

/-- Two elements before `new` that are tied now were tied before. -/
theorem Extends.chain_of_ne (h : Extends chain chain' rank rank' old new c) {d : ℕ} (hi : chain' i = some d)
    (hj : chain' j = some d) (hin : i ≠ new) (hjn : j ≠ new) (hij : i ≠ j) : chain i = some d ∧ chain j = some d := by
  by_cases hd : d = c
  · subst hd
    rcases h.belongs with ho | ⟨-,hnone⟩
    · refine ⟨?_,?_⟩
      · rcases (h.chain_self_iff.mp hi).resolve_left hin with rfl | hc
        · exact ho
        · exact hc
      · rcases (h.chain_self_iff.mp hj).resolve_left hjn with rfl | hc
        · exact ho
        · exact hc
    · have hi := ((h.chain_self_iff.mp hi).resolve_left hin).resolve_right (hnone i)
      have hj := ((h.chain_self_iff.mp hj).resolve_left hjn).resolve_right (hnone j)
      exact absurd (hi.trans hj.symm) hij
  · exact ⟨(h.chain_other_iff hd).mp hi,(h.chain_other_iff hd).mp hj⟩

theorem Extends.chain_mono (h : Extends chain chain' rank rank' old new c) {d : ℕ} (hj : chain j = some d) :
    chain' j = some d := by
  by_cases hd : d = c
  · subst hd
    exact h.chain_self_iff.mpr (.inr (.inr hj))
  · exact (h.chain_other_iff hd).mpr hj

theorem Extends.stepwise (h : Extends chain chain' rank rank' old new c) (hs : Stepwise chain rank) :
    Stepwise chain' rank' := by
  rintro i j ⟨d,hi,hj⟩ hlt
  by_cases hjn : j = new
  · have hjc : chain' new = some c := h.chain_self_iff.mpr (.inl rfl)
    rw [hjn]
    refine ⟨old,h.below,⟨c,h.chain_self_iff.mpr (.inr (.inl rfl)),hjc⟩,?_⟩
    rw [h.rank_eq,h.rank_eq,if_pos rfl,if_neg h.below.ne]
  · have hin : i ≠ new := (hlt.trans (h.lt_new hj hjn)).ne
    obtain ⟨hi,hj'⟩ := h.chain_of_ne hi hj hin hjn hlt.ne
    obtain ⟨p,hpj,⟨e,hp,hje⟩,hrank⟩ := hs i j ⟨d,hi,hj'⟩ hlt
    have hpn : p ≠ new := (h.fresh p (by simp [hp])).ne
    exact ⟨p,hpj,⟨e,h.chain_mono hp,h.chain_mono hje⟩,by rw [h.rank_eq,h.rank_eq,if_neg hjn,if_neg hpn,hrank]⟩

/-- The ranks stay distinct exactly when `old` was the last of its chain. -/
theorem Extends.distinct_iff (h : Extends chain chain' rank rank' old new c) (hd : Distinct chain rank)
    (hs : Stepwise chain rank) : Distinct chain' rank' ↔ ∀ j, Tied chain old j → j ≤ old := by
  have hnew : chain' new = some c := h.chain_self_iff.mpr (.inl rfl)
  constructor
  · intro hd' j hj
    by_contra hlt
    obtain ⟨k,⟨e,ho,hk⟩,hrank⟩ := exists_rank_succ hd hs hj (not_le.mp hlt)
    have hec : e = c := by
      rcases h.belongs with ho' | ⟨ho',-⟩
      · exact Option.some.inj (ho.symm.trans ho')
      · exact absurd (ho.symm.trans ho') (by simp)
    have hkn : k ≠ new := (h.fresh k (by simp [hk])).ne
    refine hkn (hd' k new ⟨c,h.chain_mono (hec ▸ hk),hnew⟩ ?_)
    rw [h.rank_eq,h.rank_eq,if_neg hkn,if_pos rfl,hrank]
  · intro hlast
    -- what is in the chain of `new` does not rank above `old`
    have hbelow {i : ℕ} (hi : chain' i = some c) (hin : i ≠ new) : rank i ≤ rank old := by
      rcases (h.chain_self_iff.mp hi).resolve_left hin with rfl | hc
      · exact le_refl _
      · rcases h.belongs with ho | ⟨-,hnone⟩
        · rcases (hlast i ⟨c,ho,hc⟩).eq_or_lt with rfl | hlt
          · exact le_refl _
          · exact (rank_lt hd hs ⟨c,hc,ho⟩ hlt).le
        · exact absurd hc (hnone i)
    rintro i j ⟨d,hi,hj⟩ hrank
    rw [h.rank_eq,h.rank_eq] at hrank
    by_cases hin : i = new
    · by_cases hjn : j = new
      · rw [hin,hjn]
      · rw [if_pos hin,if_neg hjn] at hrank
        have hdc : d = c := Option.some.inj (hi.symm.trans (hin ▸ hnew))
        have := hbelow (hdc ▸ hj) hjn
        omega
    · by_cases hjn : j = new
      · rw [if_neg hin,if_pos hjn] at hrank
        have hdc : d = c := Option.some.inj (hj.symm.trans (hjn ▸ hnew))
        have := hbelow (hdc ▸ hi) hin
        omega
      · rw [if_neg hin,if_neg hjn] at hrank
        by_contra hij
        obtain ⟨hi,hj⟩ := h.chain_of_ne hi hj hin hjn hij
        exact hij (hd i j ⟨d,hi,hj⟩ hrank)

/-- Ranks that are distinct now were distinct before. -/
theorem Extends.distinct_of (h : Extends chain chain' rank rank' old new c) (hd : Distinct chain' rank') :
    Distinct chain rank := by
  rintro i j ⟨d,hi,hj⟩ hrank
  have hin : i ≠ new := (h.fresh i (by simp [hi])).ne
  have hjn : j ≠ new := (h.fresh j (by simp [hj])).ne
  refine hd i j ⟨d,h.chain_mono hi,h.chain_mono hj⟩ ?_
  rw [h.rank_eq,h.rank_eq,if_neg hin,if_neg hjn,hrank]

end EduPod.Chains
