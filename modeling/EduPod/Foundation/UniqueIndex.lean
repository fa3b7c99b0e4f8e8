import Mathlib

/-! # Rows under a unique key

At most one row a key, in the order of their insertion; a row whose key is taken is not inserted.
-/
namespace EduPod

structure UniqueIndex (κ α : Type*) where
  rows : List (κ × α)
  nodup : (rows.map Prod.fst).Nodup

namespace UniqueIndex
variable {κ α : Type*}

theorem nodup_append_singleton {rows : List (κ × α)} (h : (rows.map Prod.fst).Nodup) {k : κ} (hk : k ∉ rows.map Prod.fst)
    (a : α) : ((rows ++ [(k,a)]).map Prod.fst).Nodup := by
  rw [List.map_append]
  refine List.nodup_append.mpr ⟨h,List.nodup_singleton k,?_⟩
  rintro i hi _ hj rfl
  obtain rfl : i = k := List.mem_singleton.mp hj
  exact hk hi

theorem map_fst_modify [DecidableEq κ] (rows : List (κ × α)) (k : κ) (g : α → α) :
    (rows.map fun r => if r.1 = k then (r.1,g r.2) else r).map Prod.fst = rows.map Prod.fst := by
  rw [List.map_map]
  apply List.map_congr_left
  intro r _
  dsimp only [Function.comp]
  split <;> rfl

theorem nodup_modify [DecidableEq κ] {rows : List (κ × α)} (h : (rows.map Prod.fst).Nodup) (k : κ) (g : α → α) :
    ((rows.map fun r => if r.1 = k then (r.1,g r.2) else r).map Prod.fst).Nodup :=
  (map_fst_modify rows k g).symm ▸ h

theorem nodup_erase [DecidableEq κ] {rows : List (κ × α)} (h : (rows.map Prod.fst).Nodup) (k : κ) :
    ((rows.filter fun r => r.1 ≠ k).map Prod.fst).Nodup :=
  (List.filter_sublist.map Prod.fst).nodup h

def empty : UniqueIndex κ α := ⟨[],List.nodup_nil⟩

variable [DecidableEq κ]

def get? (t : UniqueIndex κ α) (k : κ) : Option α := (t.rows.find? fun r => r.1 = k).map Prod.snd

def insert (t : UniqueIndex κ α) (k : κ) (a : α) : UniqueIndex κ α :=
  if h : k ∈ t.rows.map Prod.fst then t else ⟨t.rows ++ [(k,a)],nodup_append_singleton t.nodup h a⟩

def modify (t : UniqueIndex κ α) (k : κ) (g : α → α) : UniqueIndex κ α :=
  ⟨t.rows.map fun r => if r.1 = k then (r.1,g r.2) else r,nodup_modify t.nodup k g⟩

/-- Insert or overwrite; an overwritten row keeps its place. -/
def set (t : UniqueIndex κ α) (k : κ) (a : α) : UniqueIndex κ α := (t.insert k a).modify k fun _ => a

def erase (t : UniqueIndex κ α) (k : κ) : UniqueIndex κ α :=
  ⟨t.rows.filter fun r => r.1 ≠ k,nodup_erase t.nodup k⟩

/-- The number of rows whose key satisfies `p`. -/
def count (t : UniqueIndex κ α) (p : κ → Bool) : ℕ := (t.rows.map Prod.fst).countP p

variable {t : UniqueIndex κ α} {k j : κ} {a : α}

@[simp] theorem get?_empty : (empty : UniqueIndex κ α).get? k = none := rfl

private theorem find?_of_mem_rows {rows : List (κ × α)} (hn : (rows.map Prod.fst).Nodup) (h : (k,a) ∈ rows) :
    rows.find? (fun r => r.1 = k) = some (k,a) := by
  induction rows with
  | nil => cases h
  | cons r rest ih =>
    obtain ⟨hr,hrest⟩ := List.nodup_cons.mp hn
    rcases List.mem_cons.mp h with rfl | h
    · simp
    · have hne : r.1 ≠ k := fun he => hr (he ▸ List.mem_map.mpr ⟨_,h,rfl⟩)
      simpa [hne] using ih hrest h

theorem get?_eq_some_iff : t.get? k = some a ↔ (k,a) ∈ t.rows := by
  constructor
  · intro h
    obtain ⟨r,hr,rfl⟩ := Option.map_eq_some_iff.mp h
    have hk : r.1 = k := by simpa using List.find?_some hr
    rw [← hk]
    exact List.mem_of_find?_eq_some hr
  · intro h
    rw [get?,find?_of_mem_rows t.nodup h,Option.map_some]

theorem mem_keys_iff : k ∈ t.rows.map Prod.fst ↔ (t.get? k).isSome = true := by
  rw [Option.isSome_iff_exists]
  constructor
  · intro h
    obtain ⟨⟨i,a⟩,hr,rfl⟩ := List.mem_map.mp h
    exact ⟨a,get?_eq_some_iff.mpr hr⟩
  · rintro ⟨a,ha⟩
    exact List.mem_map.mpr ⟨_,get?_eq_some_iff.mp ha,rfl⟩

theorem get?_insert : (t.insert k a).get? j = if j = k ∧ t.get? k = none then some a else t.get? j := by
  unfold insert
  split
  · rename_i h
    rw [mem_keys_iff] at h
    rw [if_neg]
    rintro ⟨-,hk⟩
    simp [hk] at h
  · rename_i h
    rw [mem_keys_iff,Option.not_isSome_iff_eq_none] at h
    by_cases hj : j = k
    · rw [if_pos ⟨hj,h⟩,get?_eq_some_iff,hj]
      exact List.mem_append_right _ (List.mem_singleton_self _)
    · have hne : ¬k = j := fun h => hj h.symm
      simp [get?,List.find?_append,hj,hne]

theorem get?_modify (g : α → α) : (t.modify k g).get? j = if j = k then (t.get? j).map g else t.get? j := by
  have hmem : ∀ b, (j,b) ∈ (t.modify k g).rows ↔ ∃ a, (j,a) ∈ t.rows ∧ (if j = k then g a else a) = b := by
    intro b
    constructor
    · intro hb
      obtain ⟨⟨i,a⟩,hr,he⟩ := List.mem_map.mp hb
      by_cases hi : i = k
      · rw [if_pos hi] at he
        obtain ⟨rfl,rfl⟩ := Prod.mk.inj he
        exact ⟨a,hr,by rw [if_pos hi]⟩
      · rw [if_neg hi] at he
        obtain ⟨rfl,rfl⟩ := Prod.mk.inj he
        exact ⟨a,hr,by rw [if_neg hi]⟩
    · rintro ⟨a,ha,rfl⟩
      refine List.mem_map.mpr ⟨(j,a),ha,?_⟩
      dsimp only
      split <;> rfl
  ext b
  rw [get?_eq_some_iff,hmem]
  split <;> simp [get?_eq_some_iff]

theorem get?_set : (t.set k a).get? j = if j = k then some a else t.get? j := by
  rw [set,get?_modify,get?_insert]
  by_cases hj : j = k
  · subst hj
    cases t.get? j <;> simp
  · simp [hj]

theorem rows_insert_of_fresh (h : t.get? k = none) : (t.insert k a).rows = t.rows ++ [(k,a)] := by
  have hk : k ∉ t.rows.map Prod.fst := by rw [mem_keys_iff,h]; simp
  unfold insert
  rw [dif_neg hk]

theorem rows_set_of_fresh (h : t.get? k = none) : (t.set k a).rows = t.rows ++ [(k,a)] := by
  have hk : k ∉ t.rows.map Prod.fst := by rw [mem_keys_iff,h]; simp
  unfold set modify
  dsimp only
  rw [rows_insert_of_fresh h,List.map_append,List.map_singleton,if_pos rfl]
  congr 1
  have hne : ∀ r ∈ t.rows, ¬r.1 = k := fun r hr he => hk (he ▸ List.mem_map.mpr ⟨r,hr,rfl⟩)
  exact (List.map_congr_left fun r hr => if_neg (hne r hr)).trans (List.map_id _)

/-- Load rows one by one; of two with one key the later one stays, in the place of the earlier. -/
def load (rows : List (κ × α)) : UniqueIndex κ α := rows.foldl (fun t r => t.set r.1 r.2) empty

private theorem rows_foldl_set {rows : List (κ × α)} (h : ((t.rows ++ rows).map Prod.fst).Nodup) :
    (rows.foldl (fun t r => t.set r.1 r.2) t).rows = t.rows ++ rows := by
  induction rows generalizing t with
  | nil => simp
  | cons r rest ih =>
    have hfresh : t.get? r.1 = none := by
      rw [List.map_append,List.nodup_append] at h
      cases hr : t.get? r.1 with
      | none => rfl
      | some b => exact absurd rfl (h.2.2 r.1 (mem_keys_iff.mpr (by rw [hr]; rfl)) r.1 List.mem_cons_self)
    have hrows := rows_set_of_fresh (a := r.2) hfresh
    rw [List.foldl_cons,ih,hrows,List.append_assoc,List.singleton_append]
    rwa [hrows,List.append_assoc,List.singleton_append]

/-- Under distinct keys nothing is overwritten. -/
theorem rows_load {rows : List (κ × α)} (h : (rows.map Prod.fst).Nodup) : (load rows).rows = rows :=
  rows_foldl_set (t := empty) (by rwa [empty,List.nil_append])

theorem get?_load_eq_some_iff {rows : List (κ × α)} (h : (rows.map Prod.fst).Nodup) : (load rows).get? k = some a ↔ (k,a) ∈ rows := by
  rw [get?_eq_some_iff,rows_load h]

section
variable {κ' β : Type*} [DecidableEq κ'] {f : κ → κ'} {g : α → β}

/-- Renaming the keys and the values of a row commutes with storing it, if no two keys get one name. -/
theorem rows_set_map (hf : Function.Injective f) {t' : UniqueIndex κ' β} (h : t'.rows = t.rows.map (Prod.map f g)) :
    (t'.set (f k) (g a)).rows = (t.set k a).rows.map (Prod.map f g) := by
  have hkeys : t'.rows.map Prod.fst = (t.rows.map Prod.fst).map f := by simp [h]
  have hmem : f k ∈ t'.rows.map Prod.fst ↔ k ∈ t.rows.map Prod.fst := by
    rw [hkeys]
    exact List.mem_map_of_injective hf
  have hinsert : (t'.insert (f k) (g a)).rows = (t.insert k a).rows.map (Prod.map f g) := by
    unfold insert
    by_cases hk : k ∈ t.rows.map Prod.fst
    · rw [dif_pos hk,dif_pos (hmem.mpr hk),h]
    · rw [dif_neg hk,dif_neg fun hk' => hk (hmem.mp hk')]
      simp [h]
  unfold set modify
  dsimp only
  rw [hinsert,List.map_map,List.map_map]
  refine List.map_congr_left fun r _ => ?_
  by_cases hr : r.1 = k
  · simp [hr,Prod.map]
  · simp [hr,hf.eq_iff,Prod.map]

theorem rows_load_map (hf : Function.Injective f) (rows : List (κ × α)) :
    (load (rows.map (Prod.map f g))).rows = (load rows).rows.map (Prod.map f g) := by
  have hfold : ∀ (rows : List (κ × α)) (t : UniqueIndex κ α) (t' : UniqueIndex κ' β),
      t'.rows = t.rows.map (Prod.map f g) →
        ((rows.map (Prod.map f g)).foldl (fun t r => t.set r.1 r.2) t').rows =
          (rows.foldl (fun t r => t.set r.1 r.2) t).rows.map (Prod.map f g) := by
    intro rows
    induction rows with
    | nil => exact fun _ _ h => h
    | cons r rest ih => exact fun t t' h => ih (t.set r.1 r.2) (t'.set (f r.1) (g r.2)) (rows_set_map hf h)
  exact hfold rows empty empty rfl
end

/-- The value under a key is the last one loaded for it. -/
theorem get?_load (rows : List (κ × α)) : (load rows).get? k = ((rows.filter fun r => r.1 = k).getLast?).map Prod.snd := by
  induction rows using List.reverseRecOn with
  | nil => rfl
  | append_singleton rows r ih =>
    have hset : load (rows ++ [r]) = (load rows).set r.1 r.2 := by
      unfold load
      rw [List.foldl_append]
      rfl
    rw [hset,get?_set,ih,List.filter_append]
    by_cases hk : k = r.1
    · simp [hk]
    · have hne : ¬ r.1 = k := fun he => hk he.symm
      simp [hk,hne]

/-- A key has one row or none. -/
theorem filter_rows (t : UniqueIndex κ α) : t.rows.filter (fun r => r.1 = k) = (t.get? k).toList.map fun a => (k,a) := by
  obtain ⟨rows,hn⟩ := t
  unfold get?
  induction rows with
  | nil => rfl
  | cons r rest ih =>
    obtain ⟨hnot,hrest⟩ := List.nodup_cons.mp hn
    by_cases hk : r.1 = k
    · subst hk
      have hnone : rest.filter (fun r' => r'.1 = r.1) = [] := by
        refine List.filter_eq_nil_iff.mpr fun r' hr' he => hnot ?_
        rw [← of_decide_eq_true he]
        exact List.mem_map_of_mem hr'
      simp [hnone]
    · simpa [hk] using ih hrest

theorem mem_of_mem_load {rows : List (κ × α)} {r : κ × α} (h : r ∈ (load rows).rows) : r ∈ rows := by
  have hget : (load rows).get? r.1 = some r.2 := get?_eq_some_iff.mpr h
  rw [get?_load] at hget
  obtain ⟨r',hr',hvalue⟩ := Option.map_eq_some_iff.mp hget
  obtain ⟨hmem,hkey⟩ := List.mem_filter.mp (List.mem_of_getLast? hr')
  rwa [← Prod.ext (of_decide_eq_true hkey) hvalue]

theorem get?_erase : (t.erase k).get? j = if j = k then none else t.get? j := by
  ext b
  rw [get?_eq_some_iff]
  change (j,b) ∈ t.rows.filter (fun r => r.1 ≠ k) ↔ _
  rw [List.mem_filter]
  split <;> simp_all [get?_eq_some_iff]

section
variable {p : κ → Bool}

omit [DecidableEq κ] in
@[simp] theorem count_empty : (empty : UniqueIndex κ α).count p = 0 := rfl

theorem count_modify (g : α → α) : (t.modify k g).count p = t.count p := by
  unfold count modify
  rw [map_fst_modify]

/-- Overwriting a row adds none. -/
theorem count_set : (t.set k a).count p = t.count p + if t.get? k = none ∧ p k = true then 1 else 0 := by
  rw [set,count_modify]
  unfold insert
  split
  · rename_i h
    rw [mem_keys_iff] at h
    cases hk : t.get? k with
    | none => simp [hk] at h
    | some b => simp
  · rename_i h
    rw [mem_keys_iff,Option.not_isSome_iff_eq_none] at h
    simp [count,h,List.countP_append,List.countP_singleton]

/-- Loading rows one by one counts each of them precisely when their keys are new and distinct. -/
theorem count_foldl_set (rows : List (κ × α)) (t : UniqueIndex κ α) :
    (rows.foldl (fun t r => t.set r.1 r.2) t).count p ≤ t.count p + (rows.map Prod.fst).countP p ∧
      ((rows.foldl (fun t r => t.set r.1 r.2) t).count p = t.count p + (rows.map Prod.fst).countP p ↔
        ((rows.map Prod.fst).filter p).Nodup ∧ ∀ k ∈ (rows.map Prod.fst).filter p, t.get? k = none) := by
  induction rows generalizing t with
  | nil => simp
  | cons r rest ih =>
    obtain ⟨hle,hiff⟩ := ih (t.set r.1 r.2)
    rw [List.foldl_cons,List.map_cons,List.countP_cons,List.filter_cons]
    rw [count_set] at hle hiff
    cases hp : p r.1 with
    | false =>
      simp only [hp,Bool.false_eq_true,and_false,if_false,Nat.add_zero] at hle hiff ⊢
      refine ⟨hle,hiff.trans (and_congr_right fun _ => forall₂_congr fun k hk => ?_)⟩
      have hne : k ≠ r.1 := fun he => by simp [he,hp] at hk
      rw [get?_set,if_neg hne]
    | true =>
      simp only [hp,and_true,if_true] at hle hiff ⊢
      have hget : ∀ k, (t.set r.1 r.2).get? k = none ↔ k ≠ r.1 ∧ t.get? k = none := by
        intro k
        rw [get?_set]
        split <;> simp_all
      simp only [hget] at hiff
      rw [List.nodup_cons,List.forall_mem_cons]
      by_cases hr : t.get? r.1 = none
      · simp only [hr,if_true] at hle hiff
        refine ⟨by omega,?_⟩
        rw [show t.count p + ((rest.map Prod.fst).countP p + 1) = t.count p + 1 + (rest.map Prod.fst).countP p by omega,
          hiff]
        constructor
        · rintro ⟨hn,hall⟩
          exact ⟨⟨fun hm => (hall _ hm).1 rfl,hn⟩,hr,fun k hk => (hall k hk).2⟩
        · rintro ⟨⟨hnot,hn⟩,-,hall⟩
          exact ⟨hn,fun k hk => ⟨fun he => hnot (he ▸ hk),hall k hk⟩⟩
      · simp only [hr,if_false,Nat.add_zero] at hle
        refine ⟨by omega,iff_of_false (by omega) fun h => hr h.2.1⟩

theorem count_erase : (t.erase k).count p + (if (t.get? k).isSome = true ∧ p k = true then 1 else 0) = t.count p := by
  cases h : t.get? k with
  | none =>
    have hself : t.rows.filter (fun r => r.1 ≠ k) = t.rows := by
      refine List.filter_eq_self.mpr fun r hr => ?_
      have hk : k ∉ t.rows.map Prod.fst := by rw [mem_keys_iff,h]; simp
      simpa using fun he : r.1 = k => hk (he ▸ List.mem_map.mpr ⟨r,hr,rfl⟩)
    simp only [count,erase,hself,Option.isSome_none,Bool.false_eq_true,false_and,if_false,Nat.add_zero]
  | some b =>
    have hmem : k ∈ t.rows.map Prod.fst := by rw [mem_keys_iff,h]; rfl
    have hkeys : (t.erase k).rows.map Prod.fst = (t.rows.map Prod.fst).erase k := by
      rw [t.nodup.erase_eq_filter,List.filter_map]
      change (t.rows.filter fun r => r.1 ≠ k).map Prod.fst = _
      refine congrArg (List.map Prod.fst) (List.filter_congr fun r _ => ?_)
      by_cases hr : r.1 = k <;> simp [hr]
    have hperm := (List.perm_cons_erase hmem).countP_eq p
    unfold count
    rw [hkeys,hperm,List.countP_cons]
    simp

end

/-- Writing rows that agree on a key. -/
theorem get?_foldl_set {β : Type*} {xs : List β} (f : β → κ) (v : β → α) (h : ∀ x ∈ xs, f x = j → v x = a) :
    (xs.foldl (fun t x => t.set (f x) (v x)) t).get? j = if j ∈ xs.map f then some a else t.get? j := by
  induction xs generalizing t with
  | nil => simp
  | cons x xs ih =>
    obtain ⟨hx,hxs⟩ := List.forall_mem_cons.mp h
    rw [List.foldl_cons,ih hxs,get?_set]
    by_cases hmem : j ∈ xs.map f
    · simp [hmem]
    · by_cases hj : j = f x
      · simp [hj,hx hj.symm]
      · simp [hmem,hj]

/-- What the rows are follows from what is found under the keys. -/
theorem perm_filter_rows {u : UniqueIndex κ α} {p : κ × α → Bool} {extra : List (κ × α)}
    (hextra : extra.Nodup) (hfresh : ∀ r ∈ extra, u.get? r.1 = none)
    (h : ∀ r : κ × α, t.get? r.1 = some r.2 ∧ p r = true ↔ r ∈ extra ∨ u.get? r.1 = some r.2 ∧ p r = true) :
    (t.rows.filter p).Perm (extra ++ u.rows.filter p) := by
  have hrows : ∀ {w : UniqueIndex κ α}, w.rows.Nodup := fun {w} => List.Nodup.of_map Prod.fst w.nodup
  refine (List.perm_ext_iff_of_nodup (hrows.filter _) ?_).mpr fun r => ?_
  · refine List.nodup_append.mpr ⟨hextra,hrows.filter _,fun r hr q hq heq => ?_⟩
    have hfound := get?_eq_some_iff.mpr (List.mem_filter.mp hq).1
    rw [← heq,hfresh r hr] at hfound
    cases hfound
  · rw [List.mem_append,List.mem_filter,List.mem_filter,← get?_eq_some_iff,← get?_eq_some_iff]
    exact h r

end UniqueIndex
end EduPod
