import Mathlib

/-! # Pouring an amount into capacities

An amount goes into items in turn, into each as much as it holds, until nothing is left.
-/
namespace EduPod.Pouring
variable {α β : Type*} [AddCommGroup α] [LinearOrder α] (cap : β → α)

@[grind] def pour : α → List β → List (β × α)
  | _, [] => []
  | amount, b :: bs => if amount ≤ 0 then [] else (b,min amount (cap b)) :: pour (amount - min amount (cap b)) bs

variable {cap} {amount : α} {bs : List β}

theorem pour_of_nonpos (h : amount ≤ 0) : pour cap amount bs = [] := by
  cases bs with
  | nil => rfl
  | cons b bs => rw [pour,if_pos h]

theorem pour_cons_of_pos {b : β} (h : 0 < amount) :
    pour cap amount (b :: bs) = (b,min amount (cap b)) :: pour cap (amount - min amount (cap b)) bs := by
  rw [pour,if_neg (not_le.mpr h)]

/-- The items that get something come first. -/
theorem map_fst_pour_take (amount : α) (bs : List β) : (pour cap amount bs).map Prod.fst <+: bs := by
  induction bs generalizing amount with
  | nil => exact List.nil_prefix
  | cons b bs ih =>
    rcases le_or_gt amount 0 with h | h
    · rw [pour_of_nonpos h]
      exact List.nil_prefix
    · rw [pour_cons_of_pos h]
      exact (List.prefix_cons_inj b).mpr (ih _)

theorem mem_of_mem_pour {p : β × α} (h : p ∈ pour cap amount bs) : p.1 ∈ bs :=
  (map_fst_pour_take amount bs).subset (List.mem_map_of_mem h)

/-- Every item gets something, and no more than it holds. -/
theorem bounds_of_mem_pour {p : β × α} (hcap : ∀ b ∈ bs, 0 < cap b) (h : p ∈ pour cap amount bs) :
    0 < p.2 ∧ p.2 ≤ cap p.1 := by
  induction bs generalizing amount with
  | nil => cases h
  | cons b bs ih =>
    obtain ⟨hb,hcap⟩ := List.forall_mem_cons.mp hcap
    rcases le_or_gt amount 0 with hle | hpos
    · rw [pour_of_nonpos hle] at h
      cases h
    · rw [pour_cons_of_pos hpos] at h
      obtain rfl | h := List.mem_cons.mp h
      · exact ⟨lt_min hpos hb,min_le_right _ _⟩
      · exact ih hcap h

/-- Whatever stands before an item that gets something has been filled. -/
theorem filled_of_before {r : β → β → Prop} (hrefl : ∀ b, r b b) (hsorted : bs.Pairwise r) {p : β} {q : β × α}
    (hp : p ∈ bs) (hq : q ∈ pour cap amount bs) (hpq : ¬r q.1 p) : (p,cap p) ∈ pour cap amount bs := by
  induction bs generalizing amount with
  | nil => cases hp
  | cons b bs ih =>
    obtain ⟨hb,hsorted⟩ := List.pairwise_cons.mp hsorted
    rcases le_or_gt amount 0 with hle | hpos
    · rw [pour_of_nonpos hle] at hq
      cases hq
    · rw [pour_cons_of_pos hpos] at hq ⊢
      obtain rfl | hq := List.mem_cons.mp hq
      · -- the item stands behind `p`, so it is not the first
        obtain rfl | hp := List.mem_cons.mp hp
        · exact absurd (hrefl p) hpq
        · exact absurd (hb p hp) hpq
      · obtain rfl | hp := List.mem_cons.mp hp
        · have hfull : cap p ≤ amount := by
            by_contra hlt
            rw [min_eq_left (not_le.mp hlt).le,sub_self,pour_of_nonpos le_rfl] at hq
            cases hq
          rw [min_eq_right hfull]
          exact List.mem_cons_self
        · exact List.mem_cons_of_mem _ (ih hsorted hp hq)

variable [IsOrderedAddMonoid α]

/-- All of the amount is poured, or all that the items hold. -/
theorem sum_pour (hcap : ∀ b ∈ bs, 0 < cap b) (hamount : 0 ≤ amount) :
    ((pour cap amount bs).map Prod.snd).sum = min amount (bs.map cap).sum := by
  induction bs generalizing amount with
  | nil => simp [pour,hamount]
  | cons b bs ih =>
    obtain ⟨hb,hcap⟩ := List.forall_mem_cons.mp hcap
    have hrest : 0 ≤ (bs.map cap).sum := by
      apply List.sum_nonneg
      intro x hx
      obtain ⟨c,hc,rfl⟩ := List.mem_map.mp hx
      exact (hcap c hc).le
    rcases hamount.eq_or_lt with rfl | hpos
    · rw [pour_of_nonpos le_rfl,List.map_nil,List.sum_nil,List.map_cons,List.sum_cons]
      exact (min_eq_left (add_nonneg hb.le hrest)).symm
    · rw [pour_cons_of_pos hpos,List.map_cons,List.sum_cons,List.map_cons,List.sum_cons]
      rcases le_total amount (cap b) with h | h
      · rw [min_eq_left h,sub_self,pour_of_nonpos le_rfl,List.map_nil,List.sum_nil,add_zero]
        exact (min_eq_left (h.trans (le_add_of_nonneg_right hrest))).symm
      · rw [min_eq_right h,ih hcap (sub_nonneg.mpr h),← min_add_add_left,add_sub_cancel]

end EduPod.Pouring
