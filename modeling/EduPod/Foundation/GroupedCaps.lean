import EduPod.Foundation.Grouping
import EduPod.Foundation.LinearModel

/-! # Capped groups of 0/1 variables

A model that groups its variables by a key and caps each group says, for a 0/1
valuation, how often every key may be used.
-/
namespace EduPod.LinearModel
open Grouping
variable {V U κ : Type*} [DecidableEq κ] {v : V → ℤ} {var : U → V} {us : List U}

/-- The elements whose variable is set. -/
def chosen (v : V → ℤ) (var : U → V) (us : List U) : List U := us.filter fun u => v (var u) = 1

@[simp] theorem mem_chosen {u : U} : u ∈ chosen v var us ↔ u ∈ us ∧ v (var u) = 1 := by simp [chosen]

theorem chosen_sublist : (chosen v var us).Sublist us := List.filter_sublist

theorem chosen_append (us ws : List U) : chosen v var (us ++ ws) = chosen v var us ++ chosen v var ws :=
  List.filter_append ..

theorem chosen_map {W : Type*} (f : W → U) (ws : List W) :
    chosen v var (ws.map f) = (chosen v (fun w => var (f w)) ws).map f := List.filter_map ..

theorem chosen_filterMap {W : Type*} {f : W → Option U} {var' : W → V} (hf : ∀ w u, f w = some u → var u = var' w)
    (ws : List W) : chosen v var (ws.filterMap f) = (chosen v var' ws).filterMap f := by
  induction ws with
  | nil => rfl
  | cons w ws ih =>
    cases hw : f w with
    | none =>
      rw [List.filterMap_cons_none hw,ih,chosen,chosen,List.filter_cons]
      split
      · rw [List.filterMap_cons_none hw]
      · rfl
    | some u =>
      rw [List.filterMap_cons_some hw,chosen,List.filter_cons,hf w u hw,chosen,List.filter_cons]
      split
      · rw [List.filterMap_cons_some hw]
        exact congrArg _ ih
      · exact ih

/-- A sum over a filtered list counts the chosen elements the filter keeps. -/
theorem sum_filter_eq (hbool : ∀ u ∈ us, v (var u) = 0 ∨ v (var u) = 1) (p : U → Bool) :
    (((us.filter p).map var).map v).sum = ((chosen v var us).countP p : ℤ) := by
  have hb : ∀ x ∈ (us.filter p).map var, v x = 0 ∨ v x = 1 := by
    intro x hx
    obtain ⟨u,hu,rfl⟩ := List.mem_map.mp hx
    exact hbool u (List.mem_filter.mp hu).1
  rw [sum_eq_countP hb,List.countP_map,List.countP_filter,chosen,List.countP_filter]
  congr 1
  refine List.countP_congr fun u _ => ?_
  simp [and_comm]

/-- Grouped caps of either kind bound how often each key is chosen. -/
theorem sat_groupBy_iff {cf : ℤ → List V → List (Constraint V)} (key : U → κ) (cap : κ → ℤ)
    (hcf : ∀ c xs, (∀ x ∈ xs, 0 ≤ v x) → (Sat v (cf c xs) ↔ (xs.map v).sum ≤ max c 0))
    (hbool : ∀ u ∈ us, v (var u) = 0 ∨ v (var u) = 1) :
    Sat v ((groupBy key us).flatMap fun g => cf (cap g.1) (g.2.map var)) ↔
      ∀ u ∈ us, ((chosen v var us).countP (fun w => key w = key u) : ℤ) ≤ max (cap (key u)) 0 := by
  have hnn : ∀ g ∈ groupBy key us, ∀ x ∈ g.2.map var, 0 ≤ v x := by
    intro g hg x hx
    obtain ⟨u,hu,rfl⟩ := List.mem_map.mp hx
    rw [(mem_groupBy.mp hg).2] at hu
    rcases hbool u (List.mem_filter.mp hu).1 with h | h <;> omega
  rw [sat_flatMap]
  constructor
  · intro h u hu
    have hg : (key u,us.filter fun w => key w = key u) ∈ groupBy key us := group_mem hu
    have := (hcf _ _ (hnn _ hg)).mp (h _ hg)
    rwa [sum_filter_eq hbool] at this
  · intro h g hg
    obtain ⟨⟨u,hu,hk⟩,hgs⟩ := mem_groupBy.mp hg
    rw [hcf _ _ (hnn g hg),hgs,sum_filter_eq hbool,← hk]
    exact h u hu

theorem sat_groupBy_capPositive_iff (key : U → κ) (cap : κ → ℤ)
    (hbool : ∀ u ∈ us, v (var u) = 0 ∨ v (var u) = 1) :
    Sat v ((groupBy key us).flatMap fun g => capPositive (cap g.1) (g.2.map var)) ↔
      ∀ u ∈ us, ((chosen v var us).countP (fun w => key w = key u) : ℤ) ≤ max (cap (key u)) 0 :=
  sat_groupBy_iff key cap (fun _ _ => sat_capPositive_iff) hbool

theorem sat_groupBy_capNonneg_iff (key : U → κ) (cap : κ → ℤ)
    (hbool : ∀ u ∈ us, v (var u) = 0 ∨ v (var u) = 1) :
    Sat v ((groupBy key us).flatMap fun g => capNonneg (cap g.1) (g.2.map var)) ↔
      ∀ u ∈ us, ((chosen v var us).countP (fun w => key w = key u) : ℤ) ≤ max (cap (key u)) 0 :=
  sat_groupBy_iff key cap (fun _ _ => sat_capNonneg_iff) hbool

/-- A property that tells the elements apart counts at most one. -/
theorem countP_le_one {p : U → Bool} {xs : List U} (hn : xs.Nodup)
    (h : ∀ a ∈ xs, ∀ b ∈ xs, p a = true → p b = true → a = b) : xs.countP p ≤ 1 := by
  induction xs with
  | nil => exact Nat.zero_le _
  | cons x xs ih =>
    obtain ⟨hx,hn⟩ := List.nodup_cons.mp hn
    have hrest := ih hn fun a ha b hb => h a (List.mem_cons_of_mem _ ha) b (List.mem_cons_of_mem _ hb)
    rw [List.countP_cons]
    split
    · rename_i hpx
      have hzero : xs.countP p = 0 := by
        rw [List.countP_eq_zero]
        intro b hb hpb
        exact hx (h x List.mem_cons_self b (List.mem_cons_of_mem _ hb) hpx hpb ▸ hb)
      omega
    · exact hrest

/-- What satisfies one of several properties is counted by one of them. -/
theorem countP_le_sum {W : Type*} {q : W → U → Bool} {xs : List U} {ks : List W} {p : U → Bool}
    (h : ∀ x ∈ xs, p x = true → ∃ k ∈ ks, q k x = true) : xs.countP p ≤ (ks.map fun k => xs.countP (q k)).sum := by
  have htwo : ∀ (a b : U → Bool) (ys : List U), ys.countP (fun x => a x || b x) ≤ ys.countP a + ys.countP b := by
    intro a b ys
    induction ys with
    | nil => exact Nat.zero_le _
    | cons y ys ih =>
      simp only [List.countP_cons]
      cases a y <;> cases b y <;> simp <;> omega
  induction ks generalizing p with
  | nil =>
    rw [List.countP_eq_zero.mpr fun x hx hp => by simpa using h x hx hp]
    exact Nat.zero_le _
  | cons k ks ih =>
    rw [List.map_cons,List.sum_cons]
    have hrest := ih (p := fun x => p x && !q k x) fun x hx hp => by
      rw [Bool.and_eq_true,Bool.not_eq_true'] at hp
      obtain ⟨k',hk',hq⟩ := h x hx hp.1
      rcases List.mem_cons.mp hk' with rfl | hk'
      · rw [hp.2] at hq
        cases hq
      · exact ⟨k',hk',hq⟩
    have hsplit : xs.countP p ≤ xs.countP fun x => q k x || (p x && !q k x) :=
      List.countP_mono_left fun x _ hp => by cases hq : q k x <;> simp [hp]
    have := htwo (q k) (fun x => p x && !q k x) xs
    omega

/-- A key that no two elements share. -/
theorem nodup_map_of_countP_le {key : U → κ} {xs : List U} (h : ∀ x ∈ xs, xs.countP (fun w => key w = key x) ≤ 1) :
    (xs.map key).Nodup := by
  rw [List.nodup_iff_count_le_one]
  intro k
  by_cases hk : k ∈ xs.map key
  · obtain ⟨x,hx,rfl⟩ := List.mem_map.mp hk
    have := h x hx
    rw [List.count_eq_countP,List.countP_map]
    exact this
  · rw [List.count_eq_zero.mpr hk]
    omega

/-- A budget of one less a load says: chosen elements have distinct keys, none of them loaded. -/
theorem sat_iff_nodup (key : U → κ) (load : κ → ℕ)
    (hbool : ∀ u ∈ us, v (var u) = 0 ∨ v (var u) = 1) :
    Sat v ((groupBy key us).flatMap fun g => capPositive (1 - load g.1) (g.2.map var)) ↔
      ((chosen v var us).map key).Nodup ∧ ∀ u ∈ chosen v var us, load (key u) = 0 := by
  rw [sat_groupBy_capPositive_iff key (fun k => 1 - (load k : ℤ)) hbool]
  constructor
  · intro hcap
    constructor
    · refine nodup_map_of_countP_le fun u hu => ?_
      have := hcap u (mem_chosen.mp hu).1
      omega
    · intro u hu
      have hpos : 0 < (chosen v var us).countP fun w => key w = key u :=
        List.countP_pos_iff.mpr ⟨u,hu,by simp⟩
      have := hcap u (mem_chosen.mp hu).1
      omega
  · rintro ⟨hn,hload⟩ u -
    by_cases hu : ∃ w ∈ chosen v var us, key w = key u
    · obtain ⟨w,hw,hk⟩ := hu
      have hone : (chosen v var us).countP (fun w => key w = key u) ≤ 1 := by
        have hcount := List.nodup_iff_count_le_one.mp hn (key u)
        rw [List.count_eq_countP,List.countP_map] at hcount
        exact hcount
      have hzero : load (key u) = 0 := hk ▸ hload w hw
      omega
    · have hzero : (chosen v var us).countP (fun w => key w = key u) = 0 := by
        rw [List.countP_eq_zero]
        intro w hw
        simpa using fun hk => hu ⟨w,hw,hk⟩
      omega

end EduPod.LinearModel
