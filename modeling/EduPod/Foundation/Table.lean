import Mathlib.Data.List.Nodup
import Mathlib.Algebra.BigOperators.Group.List.Basic
import Mathlib.Algebra.Order.BigOperators.Group.List
import Mathlib.Algebra.Order.Ring.Int
import Mathlib.Tactic.Ring
import Mathlib.Tactic.Common

/-! # Tables of identified rows

A table keeps its rows in creation order, each under an identifier that is never
reused. The two facts every proof about updates needs, that identifiers are
distinct and below the next fresh one, are fields of the structure.
-/
namespace EduPod

structure Table (α : Type*) where
  rows : List (ℕ × α)
  next : ℕ
  fresh : ∀ r ∈ rows, r.1 < next
  nodup : (rows.map Prod.fst).Nodup

namespace Table
variable {α : Type*}

def empty : Table α := ⟨[],0,by simp,by simp⟩

def get? (t : Table α) (id : ℕ) : Option α := (t.rows.find? (fun r => r.1 == id)).map Prod.snd

/-- Add a row under the next identifier. -/
def insert (t : Table α) (a : α) : Table α where
  rows := t.rows ++ [(t.next,a)]
  next := t.next + 1
  fresh := by
    intro r hr
    rcases List.mem_append.mp hr with hr | hr
    · exact Nat.lt_succ_of_lt (t.fresh r hr)
    · rw [List.mem_singleton.mp hr]
      exact Nat.lt_succ_self _
  nodup := by
    rw [List.map_append]
    refine List.nodup_append.mpr ⟨t.nodup,by simp,?_⟩
    intro i hi j hj
    obtain ⟨r,hr,rfl⟩ := List.mem_map.mp hi
    have hj : j = t.next := by simpa using hj
    have := t.fresh r hr
    omega

/-- Rewrite the row with the given identifier; a missing identifier changes nothing. -/
def modify (t : Table α) (id : ℕ) (g : α → α) : Table α where
  rows := t.rows.map (fun r => if r.1 = id then (r.1,g r.2) else r)
  next := t.next
  fresh := by
    intro r hr
    obtain ⟨q,hq,rfl⟩ := List.mem_map.mp hr
    have := t.fresh q hq
    split <;> exact this
  nodup := by
    have h : (t.rows.map (fun r => if r.1 = id then (r.1,g r.2) else r)).map Prod.fst =
        t.rows.map Prod.fst := by
      rw [List.map_map]
      apply List.map_congr_left
      intro r _
      dsimp only [Function.comp]
      split <;> rfl
    rw [h]
    exact t.nodup

def erase (t : Table α) (id : ℕ) : Table α where
  rows := t.rows.filter (fun r => r.1 ≠ id)
  next := t.next
  fresh := fun r hr => t.fresh r (List.mem_filter.mp hr).1
  nodup := (List.filter_sublist.map Prod.fst).nodup t.nodup

/-- The rows that satisfy a predicate, with their identifiers, in creation order. -/
def select (t : Table α) (p : α → Bool) : List (ℕ × α) := t.rows.filter (fun r => p r.2)

/-- Sum of a column over the selected rows. -/
def sumWhere (t : Table α) (p : α → Bool) (f : α → ℤ) : ℤ :=
  ((t.select p).map (fun r => f r.2)).sum

@[simp] theorem next_insert (t : Table α) (a : α) : (t.insert a).next = t.next + 1 := rfl
@[simp] theorem next_modify (t : Table α) (id : ℕ) (g : α → α) : (t.modify id g).next = t.next := rfl
@[simp] theorem next_erase (t : Table α) (id : ℕ) : (t.erase id).next = t.next := rfl
@[simp] theorem get?_empty (id : ℕ) : (empty : Table α).get? id = none := rfl
@[simp] theorem sumWhere_empty (p : α → Bool) (f : α → ℤ) : (empty : Table α).sumWhere p f = 0 := rfl

theorem mem_of_get? {t : Table α} {id : ℕ} {a : α} (h : t.get? id = some a) : (id,a) ∈ t.rows := by
  obtain ⟨r,hr,rfl⟩ := Option.map_eq_some_iff.mp h
  have hid : r.1 = id := by simpa using List.find?_some hr
  have hm := List.mem_of_find?_eq_some hr
  rw [← hid]
  exact hm

theorem lt_next_of_get? {t : Table α} {id : ℕ} {a : α} (h : t.get? id = some a) : id < t.next :=
  t.fresh _ (mem_of_get? h)

private theorem find?_of_mem {rows : List (ℕ × α)} (hn : (rows.map Prod.fst).Nodup) {id : ℕ} {a : α}
    (h : (id,a) ∈ rows) : rows.find? (fun r => r.1 == id) = some (id,a) := by
  induction rows with
  | nil => simp at h
  | cons r rest ih =>
    simp only [List.map_cons,List.nodup_cons] at hn
    rcases List.mem_cons.mp h with h | h
    · subst r
      simp
    · have hne : r.1 ≠ id := fun he => hn.1 (he ▸ List.mem_map.mpr ⟨_,h,rfl⟩)
      simpa [hne] using ih hn.2 h

theorem get?_of_mem {t : Table α} {id : ℕ} {a : α} (h : (id,a) ∈ t.rows) : t.get? id = some a := by
  simp [get?,find?_of_mem t.nodup h]

theorem get?_eq_some_iff {t : Table α} {id : ℕ} {a : α} :
    t.get? id = some a ↔ (id,a) ∈ t.rows := ⟨mem_of_get?,get?_of_mem⟩

theorem get?_insert (t : Table α) (a : α) (id : ℕ) :
    (t.insert a).get? id = if id = t.next then some a else t.get? id := by
  split
  · subst id
    exact get?_of_mem (by simp [insert])
  · have h : (t.next == id) = false := by simpa using fun h : t.next = id => ‹¬id = t.next› h.symm
    simp [get?,insert,List.find?_append,h]

theorem get?_modify (t : Table α) (id : ℕ) (g : α → α) (j : ℕ) :
    (t.modify id g).get? j = if j = id then (t.get? j).map g else t.get? j := by
  change ((t.rows.map (fun r => if r.1 = id then (r.1,g r.2) else r)).find?
    (fun r => r.1 == j)).map Prod.snd = _
  unfold get?
  induction t.rows with
  | nil => simp
  | cons r rest ih =>
    rw [List.map_cons]
    by_cases hj : r.1 = j
    · by_cases hid : r.1 = id
      · have hjd : j = id := hj.symm.trans hid
        simp [hid,hjd]
      · have hjd : j ≠ id := fun h => hid (hj.trans h)
        simp [hj,hjd]
    · rw [List.find?_cons_of_neg (l := rest) (by simpa using hj),← ih]
      rw [List.find?_cons_of_neg]
      split <;> simpa using hj

theorem get?_modify_self {t : Table α} {id : ℕ} {a : α} (h : t.get? id = some a) (g : α → α) :
    (t.modify id g).get? id = some (g a) := by
  rw [get?_modify,if_pos rfl,h,Option.map_some]

theorem get?_modify_ne (t : Table α) {id j : ℕ} (h : j ≠ id) (g : α → α) :
    (t.modify id g).get? j = t.get? j := by
  rw [get?_modify,if_neg h]

theorem get?_erase (t : Table α) (id j : ℕ) :
    (t.erase id).get? j = if j = id then none else t.get? j := by
  change ((t.rows.filter (fun r => r.1 ≠ id)).find? (fun r => r.1 == j)).map Prod.snd = _
  unfold get?
  induction t.rows with
  | nil => simp
  | cons r rest ih =>
    by_cases hid : r.1 = id
    · rw [List.filter_cons_of_neg (by simpa using hid),ih]
      by_cases hj : j = id
      · simp [hj]
      · rw [if_neg hj,if_neg hj,List.find?_cons_of_neg]
        simpa [hid] using fun h : id = j => hj h.symm
    · rw [List.filter_cons_of_pos (by simpa using hid)]
      by_cases hj : r.1 = j
      · simp [hj,show j ≠ id from hj ▸ hid]
      · rw [List.find?_cons_of_neg (by simpa using hj),ih,List.find?_cons_of_neg (by simpa using hj)]

theorem isSome_get?_insert {t : Table α} {id : ℕ} (h : (t.get? id).isSome) (a : α) :
    ((t.insert a).get? id).isSome := by
  rw [get?_insert]
  split
  · rfl
  · exact h

@[simp] theorem isSome_get?_modify (t : Table α) (id : ℕ) (g : α → α) (j : ℕ) :
    ((t.modify id g).get? j).isSome = (t.get? j).isSome := by
  rw [get?_modify]
  split <;> simp

theorem get?_next (t : Table α) : t.get? t.next = none := by
  cases h : t.get? t.next with
  | none => rfl
  | some a => exact absurd (lt_next_of_get? h) (lt_irrefl _)

/-- Every row satisfies `P`. -/
def All (t : Table α) (P : α → Prop) : Prop := ∀ r ∈ t.rows, P r.2

@[simp] theorem all_empty (P : α → Prop) : (empty : Table α).All P := by simp [All,empty]

theorem All.mono {t : Table α} {P Q : α → Prop} (h : t.All P) (hPQ : ∀ a, P a → Q a) : t.All Q :=
  fun r hr => hPQ _ (h r hr)

theorem All.get? {t : Table α} {P : α → Prop} (h : t.All P) {id : ℕ} {a : α}
    (ha : t.get? id = some a) : P a := h _ (mem_of_get? ha)

theorem All.insert {t : Table α} {P : α → Prop} (h : t.All P) {a : α} (ha : P a) :
    (t.insert a).All P := by
  intro r hr
  rcases List.mem_append.mp hr with hr | hr
  · exact h r hr
  · rw [List.mem_singleton.mp hr]
    exact ha

theorem All.modify {t : Table α} {P : α → Prop} (h : t.All P) {id : ℕ} {g : α → α}
    (hg : ∀ a, t.get? id = some a → P (g a)) : (t.modify id g).All P := by
  intro r hr
  obtain ⟨q,hq,rfl⟩ := List.mem_map.mp hr
  by_cases hid : q.1 = id
  · rw [if_pos hid]
    exact hg q.2 (get?_of_mem (hid ▸ hq))
  · rw [if_neg hid]
    exact h q hq

theorem All.erase {t : Table α} {P : α → Prop} (h : t.All P) (id : ℕ) : (t.erase id).All P :=
  fun r hr => h r (List.mem_filter.mp hr).1

theorem sumWhere_eq_zero {t : Table α} {p : α → Bool} (h : t.All fun a => p a = false)
    (f : α → ℤ) : t.sumWhere p f = 0 := by
  have he : t.select p = [] := List.filter_eq_nil_iff.mpr fun r hr => by simp [h r hr]
  simp [sumWhere,he]

theorem sumWhere_nonneg {t : Table α} {f : α → ℤ} (h : t.All fun a => 0 ≤ f a) (p : α → Bool) :
    0 ≤ t.sumWhere p f := by
  refine List.sum_nonneg fun x hx => ?_
  obtain ⟨r,hr,rfl⟩ := List.mem_map.mp hx
  exact h r (List.mem_filter.mp hr).1

theorem sumWhere_insert (t : Table α) (a : α) (p : α → Bool) (f : α → ℤ) :
    (t.insert a).sumWhere p f = t.sumWhere p f + if p a then f a else 0 := by
  cases h : p a <;> simp [sumWhere,select,insert,List.filter_append,h]

private theorem ne_of_nodup_cons {id : ℕ} {rest : List (ℕ × α)} (hn : id ∉ rest.map Prod.fst)
    {r : ℕ × α} (hr : r ∈ rest) : r.1 ≠ id :=
  fun he => hn (he ▸ List.mem_map.mpr ⟨r,hr,rfl⟩)

private theorem sum_modify (rows : List (ℕ × α)) (hn : (rows.map Prod.fst).Nodup) {id : ℕ} {a : α}
    (h : (id,a) ∈ rows) (g : α → α) (p : α → Bool) (f : α → ℤ) :
    (((rows.map (fun r => if r.1 = id then (r.1,g r.2) else r)).filter (fun r => p r.2)).map
      (fun r => f r.2)).sum = ((rows.filter (fun r => p r.2)).map (fun r => f r.2)).sum -
        (if p a then f a else 0) + (if p (g a) then f (g a) else 0) := by
  induction rows with
  | nil => simp at h
  | cons r rest ih =>
    simp only [List.map_cons,List.nodup_cons] at hn
    rcases List.mem_cons.mp h with h | h
    · subst r
      have hrest : rest.map (fun r => if r.1 = id then (r.1,g r.2) else r) = rest := by
        conv_rhs => rw [← List.map_id rest]
        apply List.map_congr_left
        intro r hr
        simp [ne_of_nodup_cons hn.1 hr]
      simp only [List.map_cons,if_true,hrest,List.filter_cons]
      cases hp : p a <;> cases hq : p (g a) <;> simp [add_comm]
    · have hne : r.1 ≠ id := fun he => hn.1 (he ▸ List.mem_map.mpr ⟨_,h,rfl⟩)
      have hi := ih hn.2 h
      simp only [List.map_cons,if_neg hne,List.filter_cons]
      cases hp : p r.2
      · simpa using hi
      · simp only [if_true,List.map_cons,List.sum_cons,hi]
        ring

/-- Rewriting one row moves a sum by the difference of that row alone. -/
theorem sumWhere_modify {t : Table α} {id : ℕ} {a : α} (h : t.get? id = some a) (g : α → α)
    (p : α → Bool) (f : α → ℤ) : (t.modify id g).sumWhere p f =
      t.sumWhere p f - (if p a then f a else 0) + (if p (g a) then f (g a) else 0) :=
  sum_modify t.rows t.nodup (mem_of_get? h) g p f

private theorem sum_erase (rows : List (ℕ × α)) (hn : (rows.map Prod.fst).Nodup) {id : ℕ} {a : α}
    (h : (id,a) ∈ rows) (p : α → Bool) (f : α → ℤ) :
    (((rows.filter (fun r => r.1 ≠ id)).filter (fun r => p r.2)).map (fun r => f r.2)).sum =
      ((rows.filter (fun r => p r.2)).map (fun r => f r.2)).sum - (if p a then f a else 0) := by
  induction rows with
  | nil => simp at h
  | cons r rest ih =>
    simp only [List.map_cons,List.nodup_cons] at hn
    rcases List.mem_cons.mp h with h | h
    · subst r
      have hrest : rest.filter (fun r => r.1 ≠ id) = rest := by
        apply List.filter_eq_self.mpr
        intro r hr
        simpa using ne_of_nodup_cons hn.1 hr
      rw [List.filter_cons_of_neg (by simp),hrest]
      cases hp : p a <;> simp [hp]
    · have hne : r.1 ≠ id := fun he => hn.1 (he ▸ List.mem_map.mpr ⟨_,h,rfl⟩)
      have hi := ih hn.2 h
      rw [List.filter_cons_of_pos (by simpa using hne)]
      cases hp : p r.2
      · simpa [hp] using hi
      · simp only [List.filter_cons,hp,if_true,List.map_cons,List.sum_cons,hi]
        ring

theorem sumWhere_erase {t : Table α} {id : ℕ} {a : α} (h : t.get? id = some a) (p : α → Bool)
    (f : α → ℤ) : (t.erase id).sumWhere p f = t.sumWhere p f - if p a then f a else 0 :=
  sum_erase t.rows t.nodup (mem_of_get? h) p f

end Table
end EduPod
