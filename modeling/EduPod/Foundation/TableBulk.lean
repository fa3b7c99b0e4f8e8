import Mathlib
import EduPod.Foundation.Table

/-! # Tables updated in bulk

A loop that rewrites or adds one row at a time amounts to one rewriting of all rows or to one
addition of a list of rows.
-/
namespace EduPod.Table
variable {α β : Type*} {t u : Table α}

theorem ext_rows (hr : t.rows = u.rows) (hn : t.next = u.next) : t = u := by
  cases t
  cases u
  cases hr
  cases hn
  rfl

/-- Rewrite every row; the identifiers stay. -/
def mapRows (t : Table α) (f : ℕ → α → α) : Table α where
  rows := t.rows.map fun r => (r.1,f r.1 r.2)
  next := t.next
  fresh := by
    intro r hr
    obtain ⟨q,hq,rfl⟩ := List.mem_map.mp hr
    exact t.fresh q hq
  nodup := by
    rw [List.map_map]
    exact t.nodup

/-- Drop every row that satisfies a predicate. -/
def deleteWhere (t : Table α) (p : α → Bool) : Table α where
  rows := t.rows.filter fun r => !p r.2
  next := t.next
  fresh := fun r hr => t.fresh r (List.mem_filter.mp hr).1
  nodup := (List.filter_sublist.map Prod.fst).nodup t.nodup

/-- Add rows under the next identifiers. -/
def insertAll (t : Table α) (as : List α) : Table α := as.foldl insert t

theorem get?_of_row {r : ℕ × α} (h : r ∈ t.rows) : t.get? r.1 = some r.2 := get?_of_mem h

theorem row_unique {r q : ℕ × α} (hr : r ∈ t.rows) (hq : q ∈ t.rows) (h : r.1 = q.1) : r = q := by
  have hr' := get?_of_row hr
  have hq' := get?_of_row hq
  rw [h,hq'] at hr'
  exact Prod.ext h (Option.some.inj hr').symm

theorem nodup_select (t : Table α) (p : α → Bool) : ((t.select p).map Prod.fst).Nodup :=
  (List.filter_sublist.map _).nodup t.nodup

/-- Looking up what the rows were turned into. -/
theorem lookup_filterMap {rows : List (ℕ × α)} (hn : (rows.map Prod.fst).Nodup) (f : ℕ × α → Option β)
    {row : ℕ × α} (h : row ∈ rows) :
    (rows.filterMap fun r => (f r).map fun b => (r.1,b)).lookup row.1 = f row := by
  induction rows with
  | nil => cases h
  | cons r rows ih =>
    obtain ⟨hr,hrows⟩ := List.nodup_cons.mp hn
    rcases List.mem_cons.mp h with rfl | h
    · cases hf : f row with
      | some b => simp [hf]
      | none =>
        simp only [List.filterMap_cons,hf,Option.map_none]
        rw [List.lookup_eq_none_iff]
        intro q hq
        obtain ⟨r,hmem,he⟩ := List.mem_filterMap.mp hq
        obtain ⟨b,-,rfl⟩ := Option.map_eq_some_iff.mp he
        have hne : row.1 ≠ r.1 := fun he => hr (he ▸ List.mem_map_of_mem hmem)
        simpa using hne
    · have hne : (row.1 == r.1) = false := by
        have : row.1 ≠ r.1 := fun he => hr (he ▸ List.mem_map_of_mem h)
        simpa using this
      cases hf : f r with
      | some b => simp [hf,List.lookup_cons,hne,ih hrows h]
      | none => simpa [hf] using ih hrows h

theorem lookup_of_mem {rows : List (ℕ × α)} (hn : (rows.map Prod.fst).Nodup) {row : ℕ × α} (h : row ∈ rows) :
    rows.lookup row.1 = some row.2 := by
  have hf := lookup_filterMap hn (fun r => some r.2) h
  have hid : rows.filterMap (fun r => (some r.2).map fun b => (r.1,b)) = rows := by simp
  rwa [hid] at hf

theorem lookup_eq_none_of_ne {rows : List (ℕ × α)} {id : ℕ} (h : ∀ r ∈ rows, r.1 ≠ id) :
    rows.lookup id = none := by
  rw [List.lookup_eq_none_iff]
  intro r hr
  simpa using (h r hr).symm

/-- Of a sum over all rows only the one row with the identifier counts. -/
theorem sum_map_ite_key {rows : List (ℕ × α)} (hn : (rows.map Prod.fst).Nodup) (f : ℕ × α → ℤ) {row : ℕ × α}
    (h : row ∈ rows) : (rows.map fun r => if r.1 = row.1 then f r else 0).sum = f row := by
  induction rows with
  | nil => cases h
  | cons r rows ih =>
    obtain ⟨hr,hrows⟩ := List.nodup_cons.mp hn
    rw [List.map_cons,List.sum_cons]
    rcases List.mem_cons.mp h with rfl | h
    · have hzero : (rows.map fun r => if r.1 = row.1 then f r else 0) = rows.map fun _ => 0 := by
        apply List.map_congr_left
        intro r hmem
        have hne : r.1 ≠ row.1 := fun he => hr (List.mem_map.mpr ⟨r,hmem,he⟩)
        exact if_neg hne
      rw [hzero,if_pos rfl]
      simp
    · have hne : r.1 ≠ row.1 := fun he => hr (he ▸ List.mem_map_of_mem h)
      rw [if_neg hne,ih hrows h,zero_add]

/-- The rows under one identifier add up to what is looked up there. -/
theorem sum_filter_key {rows : List (ℕ × ℤ)} (hn : (rows.map Prod.fst).Nodup) (id : ℕ) :
    ((rows.filter fun r => r.1 = id).map Prod.snd).sum = (rows.lookup id).getD 0 := by
  induction rows with
  | nil => rfl
  | cons r rows ih =>
    obtain ⟨hr,hrows⟩ := List.nodup_cons.mp hn
    by_cases hid : r.1 = id
    · subst hid
      have hnone : rows.filter (fun q => q.1 = r.1) = [] := by
        apply List.filter_eq_nil_iff.mpr
        intro q hq
        simpa using fun he : q.1 = r.1 => hr (List.mem_map.mpr ⟨q,hq,he⟩)
      rw [List.filter_cons_of_pos (by simp),hnone,List.lookup_cons]
      simp
    · have hbeq : (id == r.1) = false := by simpa using Ne.symm hid
      rw [List.filter_cons_of_neg (by simpa using hid),ih hrows,List.lookup_cons,hbeq]

/-! ## Rewriting -/

@[simp] theorem next_mapRows (t : Table α) (f : ℕ → α → α) : (t.mapRows f).next = t.next := rfl

theorem mem_mapRows {f : ℕ → α → α} {r : ℕ × α} :
    r ∈ (t.mapRows f).rows ↔ ∃ q ∈ t.rows, (q.1,f q.1 q.2) = r := List.mem_map

theorem get?_mapRows (t : Table α) (f : ℕ → α → α) (id : ℕ) :
    (t.mapRows f).get? id = (t.get? id).map (f id) := by
  cases h : t.get? id with
  | some a => exact get?_of_mem (mem_mapRows.mpr ⟨(id,a),mem_of_get? h,rfl⟩)
  | none =>
    cases h' : (t.mapRows f).get? id with
    | none => rfl
    | some b =>
      obtain ⟨q,hq,he⟩ := mem_mapRows.mp (mem_of_get? h')
      obtain rfl := (Prod.mk.inj he).1
      rw [get?_of_mem (a := q.2) hq] at h
      cases h

theorem mapRows_congr {f g : ℕ → α → α} (h : ∀ r ∈ t.rows, f r.1 r.2 = g r.1 r.2) :
    t.mapRows f = t.mapRows g := by
  apply ext_rows
  · apply List.map_congr_left
    intro r hr
    rw [h r hr]
  · rfl

theorem mapRows_eq_self {f : ℕ → α → α} (h : ∀ r ∈ t.rows, f r.1 r.2 = r.2) : t.mapRows f = t := by
  apply ext_rows
  · conv_rhs => rw [← List.map_id t.rows]
    apply List.map_congr_left
    intro r hr
    rw [h r hr]
    rfl
  · rfl

theorem mapRows_mapRows (t : Table α) (f g : ℕ → α → α) :
    (t.mapRows f).mapRows g = t.mapRows fun id a => g id (f id a) := by
  apply ext_rows
  · exact List.map_map
  · rfl

theorem modify_eq_mapRows (t : Table α) (id : ℕ) (g : α → α) :
    t.modify id g = t.mapRows fun i a => if i = id then g a else a := by
  apply ext_rows
  · apply List.map_congr_left
    intro r _
    by_cases h : r.1 = id <;> simp [h]
  · rfl

theorem modify_eq_self_iff {id : ℕ} {g : α → α} :
    t.modify id g = t ↔ ∀ x, t.get? id = some x → g x = x := by
  constructor
  · intro h x hx
    have hself := get?_modify_self hx g
    rw [h,hx] at hself
    exact (Option.some.inj hself).symm
  · intro h
    rw [modify_eq_mapRows]
    apply mapRows_eq_self
    intro r hr
    by_cases hid : r.1 = id
    · rw [if_pos hid]
      exact h r.2 (hid ▸ get?_of_row hr)
    · rw [if_neg hid]

theorem select_mapRows {f : ℕ → α → α} {p : α → Bool} (h : ∀ r ∈ t.rows, p (f r.1 r.2) = p r.2) :
    (t.mapRows f).select p = (t.select p).map fun r => (r.1,f r.1 r.2) := by
  unfold select mapRows
  rw [List.filter_map]
  congr 1
  apply List.filter_congr
  exact h

/-- Rewriting rows one after the other under distinct identifiers. -/
theorem foldl_modify (us : List (ℕ × β)) (hn : (us.map Prod.fst).Nodup) (g : β → α → α) (t : Table α) :
    us.foldl (fun t u => t.modify u.1 (g u.2)) t =
      t.mapRows fun id a => (us.lookup id).elim a fun u => g u a := by
  induction us generalizing t with
  | nil => exact (mapRows_eq_self fun _ _ => rfl).symm
  | cons u us ih =>
    obtain ⟨hu,hus⟩ := List.nodup_cons.mp hn
    rw [List.foldl_cons,ih hus,modify_eq_mapRows,mapRows_mapRows]
    apply mapRows_congr
    intro r _
    by_cases h : r.1 = u.1
    · have hnone : us.lookup r.1 = none :=
        lookup_eq_none_of_ne fun q hq he => hu (h ▸ he ▸ List.mem_map_of_mem hq)
      rw [if_pos h,hnone,List.lookup_cons]
      simp [h]
    · rw [if_neg h,List.lookup_cons]
      have hbeq : (r.1 == u.1) = false := by simpa using h
      rw [hbeq]

theorem foldl_modify_select (t : Table α) (p : α → Bool) (g : α → α) :
    (t.select p).foldl (fun t r => t.modify r.1 g) t = t.mapRows fun _ a => if p a then g a else a := by
  refine (foldl_modify (t.select p) (nodup_select t p) (fun _ => g) t).trans ?_
  apply mapRows_congr
  intro r hr
  cases hp : p r.2 with
  | true =>
    rw [lookup_of_mem (nodup_select t p) (List.mem_filter.mpr ⟨hr,hp⟩),if_pos rfl]
    rfl
  | false =>
    rw [lookup_eq_none_of_ne,if_neg Bool.false_ne_true]
    · rfl
    · intro q hq he
      obtain ⟨hq,hpq⟩ := List.mem_filter.mp hq
      rw [row_unique hq hr he,hp] at hpq
      cases hpq

/-! ## Adding -/

@[simp] theorem insertAll_nil (t : Table α) : t.insertAll [] = t := rfl

@[simp] theorem insertAll_cons (t : Table α) (a : α) (as : List α) :
    t.insertAll (a :: as) = (t.insert a).insertAll as := rfl

theorem insertAll_append (t : Table α) (as bs : List α) :
    t.insertAll (as ++ bs) = (t.insertAll as).insertAll bs := List.foldl_append

theorem rows_insertAll (t : Table α) (as : List α) :
    (t.insertAll as).rows = t.rows ++ (as.zipIdx t.next).map Prod.swap := by
  induction as generalizing t with
  | nil => simp
  | cons a as ih =>
    rw [insertAll_cons,ih]
    simp [insert]

theorem values_insertAll (t : Table α) (as : List α) :
    (t.insertAll as).rows.map Prod.snd = t.rows.map Prod.snd ++ as := by
  rw [rows_insertAll,List.map_append,List.map_map]
  congr 1
  exact List.zipIdx_map_fst t.next as

theorem mem_insertAll {as : List α} {a : α} :
    (∃ r ∈ (t.insertAll as).rows, r.2 = a) ↔ (∃ r ∈ t.rows, r.2 = a) ∨ a ∈ as := by
  have h := values_insertAll t as
  constructor
  · rintro ⟨r,hr,rfl⟩
    have hmem : r.2 ∈ (t.insertAll as).rows.map Prod.snd := List.mem_map_of_mem hr
    rw [h] at hmem
    rcases List.mem_append.mp hmem with hmem | hmem
    · exact .inl (List.mem_map.mp hmem)
    · exact .inr hmem
  · intro hmem
    apply List.mem_map.mp
    rw [h]
    apply List.mem_append.mpr
    exact hmem.imp_left List.mem_map.mpr

theorem get?_insertAll_of_some {id : ℕ} {a : α} (h : t.get? id = some a) (as : List α) :
    (t.insertAll as).get? id = some a := by
  apply get?_of_mem
  rw [rows_insertAll]
  exact List.mem_append_left _ (mem_of_get? h)

theorem get?_insertAll_cases {id : ℕ} {a : α} {as : List α} (h : (t.insertAll as).get? id = some a) :
    t.get? id = some a ∨ t.next ≤ id ∧ a ∈ as := by
  have hmem := mem_of_get? h
  rw [rows_insertAll] at hmem
  rcases List.mem_append.mp hmem with hold | hnew
  · exact .inl (get?_of_mem hold)
  · obtain ⟨⟨b,n⟩,hrow,he⟩ := List.mem_map.mp hnew
    cases he
    exact .inr ⟨List.le_snd_of_mem_zipIdx hrow,List.fst_mem_of_mem_zipIdx hrow⟩

theorem values_deleteWhere (t : Table α) (p : α → Bool) :
    (t.deleteWhere p).rows.map Prod.snd = (t.rows.map Prod.snd).filter fun a => !p a := by
  rw [List.filter_map]
  rfl

theorem sumWhere_insertAll (t : Table α) (as : List α) (p : α → Bool) (f : α → ℤ) :
    (t.insertAll as).sumWhere p f = t.sumWhere p f + ((as.filter p).map f).sum := by
  induction as generalizing t with
  | nil => simp
  | cons a as ih =>
    rw [insertAll_cons,ih,sumWhere_insert]
    cases h : p a <;> simp [h,add_assoc]

theorem map_select_insertAll (t : Table α) (as : List α) (p : α → Bool) :
    ((t.insertAll as).select p).map Prod.snd = (t.select p).map Prod.snd ++ as.filter p := by
  induction as generalizing t with
  | nil => simp
  | cons a as ih =>
    rw [insertAll_cons,ih]
    cases h : p a <;> simp [select,insert,h]

theorem mapRows_insertAll (t : Table α) (as : List α) (g : α → α) :
    (t.insertAll as).mapRows (fun _ => g) = (t.mapRows fun _ => g).insertAll (as.map g) := by
  induction as generalizing t with
  | nil => rfl
  | cons a as ih =>
    rw [insertAll_cons,ih,List.map_cons,insertAll_cons]
    congr 1
    apply ext_rows <;> simp [insert,mapRows]

/-! ## Rows related to what they were -/

/-- Every row stays, as one that is related to it. -/
def Related (R : α → α → Prop) (t u : Table α) : Prop := ∀ id a, t.get? id = some a → ∃ b, u.get? id = some b ∧ R a b

section
variable {R : α → α → Prop}

theorem related_refl (hR : ∀ a, R a a) : Related R t t := fun _ a ha => ⟨a,ha,hR a⟩

theorem related_insert (hR : ∀ a, R a a) (b : α) : Related R t (t.insert b) := by
  intro id a ha
  refine ⟨a,?_,hR a⟩
  rw [get?_insert,if_neg (lt_next_of_get? ha).ne]
  exact ha

theorem related_modify (hR : ∀ a, R a a) (id : ℕ) {g : α → α} (hg : ∀ a, R a (g a)) : Related R t (t.modify id g) := by
  intro j a ha
  by_cases h : j = id
  · subst h
    exact ⟨g a,get?_modify_self ha g,hg a⟩
  · exact ⟨a,by rwa [get?_modify_ne _ h],hR a⟩

theorem related_mapRows {f : ℕ → α → α} (hf : ∀ id a, R a (f id a)) : Related R t (t.mapRows f) := by
  intro id a ha
  refine ⟨f id a,?_,hf id a⟩
  rw [get?_mapRows,ha]
  rfl

end

end EduPod.Table
