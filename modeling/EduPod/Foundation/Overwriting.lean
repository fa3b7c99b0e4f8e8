import Mathlib
import EduPod.Foundation.Grouping

/-! # One dictionary written over another

`overwrite` is what spreading two records into a new one leaves, the second after the first. -/
namespace EduPod.Grouping
variable {β γ κ : Type*} [DecidableEq κ]

/-- Every assignment of `xs` in turn. -/
def overwrite (d xs : List (κ × β)) : List (κ × β) := xs.foldl (fun d e => setKey d e.1 e.2) d

theorem overwrite_append_singleton (d xs : List (κ × β)) (e : κ × β) :
    overwrite d (xs ++ [e]) = setKey (overwrite d xs) e.1 e.2 := by
  rw [overwrite,List.foldl_append]
  rfl

theorem lookup_map_snd {d : List (κ × β)} (f : κ → β → β) (k : κ) :
    (d.map fun e => (e.1,f e.1 e.2)).lookup k = (d.lookup k).map (f k) := by
  induction d with
  | nil => rfl
  | cons e d ih =>
    rw [List.map_cons,List.lookup_cons,List.lookup_cons,ih]
    by_cases h : k = e.1
    · simp [h]
    · simp [beq_false_of_ne h]

theorem lookup_eq_none_of_not_mem {d : List (κ × β)} {k : κ} (h : k ∉ d.map Prod.fst) : d.lookup k = none := by
  rw [List.lookup_eq_none_iff]
  intro e he
  simpa using fun hk : k = e.1 => h (hk ▸ List.mem_map_of_mem he)

theorem isSome_lookup_of_mem {d : List (κ × β)} {k : κ} (h : k ∈ d.map Prod.fst) : (d.lookup k).isSome := by
  rw [Option.isSome_iff_ne_none,ne_eq,List.lookup_eq_none_iff]
  intro hnone
  obtain ⟨e,he,rfl⟩ := List.mem_map.mp h
  exact absurd (hnone e he) (by simp)

theorem setKey_of_mem {d : List (κ × β)} {k : κ} (h : k ∈ d.map Prod.fst) (b : β) :
    setKey d k b = d.map fun e => (e.1,if e.1 = k then b else e.2) := by
  rw [setKey,if_pos h]
  apply List.map_congr_left
  intro e _
  by_cases he : e.1 = k
  · rw [if_pos he,if_pos he,he]
  · rw [if_neg he,if_neg he]

theorem lookup_setKey (d : List (κ × β)) (k j : κ) (b : β) :
    (setKey d k b).lookup j = if j = k then some b else d.lookup j := by
  by_cases hmem : k ∈ d.map Prod.fst
  · rw [setKey_of_mem hmem,lookup_map_snd fun i c => if i = k then b else c]
    by_cases hj : j = k
    · obtain ⟨c,hc⟩ := Option.isSome_iff_exists.mp (isSome_lookup_of_mem (hj ▸ hmem))
      simp [hj,hj ▸ hc]
    · simp [hj]
  · rw [setKey,if_neg hmem,List.lookup_append]
    by_cases hj : j = k
    · rw [if_pos hj,hj,lookup_eq_none_of_not_mem hmem]
      simp
    · cases d.lookup j <;> simp [hj]

/-- What was written, and below it what was there. -/
theorem lookup_overwrite (d xs : List (κ × β)) (k : κ) :
    (overwrite d xs).lookup k = ((ofPairs xs).lookup k).or (d.lookup k) := by
  induction xs using List.reverseRecOn with
  | nil => rfl
  | append_singleton xs e ih =>
    have hpairs : ofPairs (xs ++ [e]) = setKey (ofPairs xs) e.1 e.2 := overwrite_append_singleton [] xs e
    rw [overwrite_append_singleton,hpairs,lookup_setKey,lookup_setKey,ih]
    by_cases h : k = e.1
    · rw [if_pos h,if_pos h]
      rfl
    · rw [if_neg h,if_neg h]

theorem lookup_ofPairs_append (xs ys : List (κ × β)) (k : κ) :
    (ofPairs (xs ++ ys)).lookup k = ((ofPairs ys).lookup k).or ((ofPairs xs).lookup k) := by
  have h : ofPairs (xs ++ ys) = overwrite (ofPairs xs) ys := List.foldl_append
  rw [h,lookup_overwrite]

theorem lookup_ofPairs_singleton (e : κ × β) (k : κ) :
    (ofPairs [e]).lookup k = if k = e.1 then some e.2 else none := by
  change (setKey [] e.1 e.2).lookup k = _
  rw [lookup_setKey]
  rfl

theorem lookup_ofPairs_cons (e : κ × β) (xs : List (κ × β)) (k : κ) :
    (ofPairs (e :: xs)).lookup k = ((ofPairs xs).lookup k).or (if k = e.1 then some e.2 else none) := by
  rw [← lookup_ofPairs_singleton]
  exact lookup_ofPairs_append [e] xs k

/-- A value that depends on the key only is the value of every assignment. -/
theorem lookup_ofPairs_map (f : κ → β → γ) (xs : List (κ × β)) (k : κ) :
    (ofPairs (xs.map fun e => (e.1,f e.1 e.2))).lookup k = ((ofPairs xs).lookup k).map (f k) := by
  induction xs with
  | nil => rfl
  | cons e xs ih =>
    rw [List.map_cons,lookup_ofPairs_cons,lookup_ofPairs_cons,ih]
    by_cases hk : k = e.1
    · subst hk
      cases (ofPairs xs).lookup e.1 <;> simp
    · simp [hk]

theorem lookup_ofPairs_filter (p : κ → Bool) (xs : List (κ × β)) (k : κ) :
    (ofPairs (xs.filter fun e => p e.1)).lookup k = if p k then (ofPairs xs).lookup k else none := by
  induction xs with
  | nil => simp [ofPairs]
  | cons e xs ih =>
    rw [List.filter_cons,lookup_ofPairs_cons]
    by_cases hk : k = e.1
    · subst hk
      by_cases hp : p e.1 = true
      · rw [if_pos hp,if_pos hp,lookup_ofPairs_cons,ih,if_pos hp]
      · rw [if_neg hp,if_neg hp,ih,if_neg hp]
    · by_cases hp : p e.1 = true
      · rw [if_pos hp,lookup_ofPairs_cons,ih,if_neg hk]
        simp
      · rw [if_neg hp,ih,if_neg hk]
        simp

theorem mem_keys_overwrite {d xs : List (κ × β)} {k : κ} :
    k ∈ (overwrite d xs).map Prod.fst ↔ k ∈ d.map Prod.fst ∨ k ∈ xs.map Prod.fst := by
  induction xs using List.reverseRecOn with
  | nil => simp [overwrite]
  | append_singleton xs e ih =>
    rw [overwrite_append_singleton,keys_setKey,List.map_append,List.mem_append,← or_assoc,← ih]
    split
    · rename_i hmem
      exact (or_iff_left_of_imp fun h => by rwa [List.mem_singleton.mp h]).symm
    · rw [List.mem_append]
      rfl

/-- Writing over keys that are all there changes values only. -/
theorem overwrite_of_keys {d xs : List (κ × β)} (h : ∀ e ∈ xs, e.1 ∈ d.map Prod.fst) :
    overwrite d xs = d.map fun e => (e.1,((ofPairs xs).lookup e.1).getD e.2) := by
  induction xs using List.reverseRecOn with
  | nil => simp [overwrite,ofPairs]
  | append_singleton xs e ih =>
    have hpairs : ofPairs (xs ++ [e]) = setKey (ofPairs xs) e.1 e.2 := overwrite_append_singleton [] xs e
    have hmem : e.1 ∈ (overwrite d xs).map Prod.fst := mem_keys_overwrite.mpr (.inl (h e (by simp)))
    rw [overwrite_append_singleton,setKey_of_mem hmem,ih fun x hx => h x (List.mem_append_left _ hx),List.map_map,hpairs]
    apply List.map_congr_left
    intro x _
    simp only [Function.comp_apply,lookup_setKey]
    by_cases hx : x.1 = e.1
    · rw [if_pos hx,if_pos hx]
      rfl
    · rw [if_neg hx,if_neg hx]

/-- What is written holds of every entry with the key, if a key stands more than once. -/
theorem snd_of_mem_overwrite {d xs : List (κ × β)} {e : κ × β} {b : β} (he : e ∈ overwrite d xs)
    (hb : (ofPairs xs).lookup e.1 = some b) : e.2 = b := by
  induction xs using List.reverseRecOn generalizing e with
  | nil => cases hb
  | append_singleton xs x ih =>
    have hpairs : ofPairs (xs ++ [x]) = setKey (ofPairs xs) x.1 x.2 := overwrite_append_singleton [] xs x
    rw [hpairs,lookup_setKey] at hb
    rw [overwrite_append_singleton,setKey] at he
    split at he
    · obtain ⟨y,hy,rfl⟩ := List.mem_map.mp he
      by_cases hyx : y.1 = x.1
      · rw [if_pos hyx] at hb ⊢
        exact Option.some.inj ((if_pos rfl).symm.trans hb)
      · rw [if_neg hyx] at hb ⊢
        exact ih hy ((if_neg hyx).symm.trans hb)
    · rename_i hnew
      rcases List.mem_append.mp he with he | he
      · have hne : e.1 ≠ x.1 := fun h => hnew (h ▸ List.mem_map_of_mem he)
        exact ih he ((if_neg hne).symm.trans hb)
      · rw [List.mem_singleton.mp he] at hb ⊢
        exact Option.some.inj ((if_pos rfl).symm.trans hb)

/-- Writing the same again changes nothing. -/
theorem overwrite_idem (d xs : List (κ × β)) : overwrite (overwrite d xs) xs = overwrite d xs := by
  have hkeys : ∀ e ∈ xs, e.1 ∈ (overwrite d xs).map Prod.fst := fun e he =>
    mem_keys_overwrite.mpr (.inr (List.mem_map_of_mem he))
  rw [overwrite_of_keys hkeys]
  refine (List.map_congr_left fun e he => ?_).trans (List.map_id _)
  cases hb : (ofPairs xs).lookup e.1 with
  | none => rfl
  | some b => rw [Option.getD_some,← snd_of_mem_overwrite he hb,id]

/-- An entry of a dictionary is what its key looks up. -/
theorem mem_iff_lookup {d : List (κ × β)} (hn : (d.map Prod.fst).Nodup) {k : κ} {b : β} :
    (k,b) ∈ d ↔ d.lookup k = some b := by
  induction d with
  | nil => simp
  | cons e d ih =>
    obtain ⟨he,hd⟩ := List.nodup_cons.mp hn
    rw [List.mem_cons,ih hd,List.lookup_cons]
    by_cases hk : k = e.1
    · subst hk
      simp [lookup_eq_none_of_not_mem he,Prod.ext_iff,eq_comm]
    · simp [hk,beq_false_of_ne hk,Prod.ext_iff]

end EduPod.Grouping
