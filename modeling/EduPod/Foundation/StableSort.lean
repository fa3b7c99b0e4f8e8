import Mathlib

/-! # Sorting by two keys

Sorting stably with a flag before another order is sorting by that order and then putting the
flagged elements first.
-/
namespace EduPod.StableSort
variable {α : Type*} (p : α → Bool) (r : α → α → Prop) [DecidableRel r]

/-- The flagged first, otherwise by `r`. -/
def flaggedFirst (a b : α) : Prop := if p a = p b then r a b else p a = true

instance : DecidableRel (flaggedFirst p r) := fun a b => inferInstanceAs (Decidable (if p a = p b then r a b else p a = true))

variable {p r}

/-- Sorting depends on the relation alone. -/
theorem insertionSort_congr {r' : α → α → Prop} [DecidableRel r'] (h : ∀ a b, r a b ↔ r' a b) (l : List α) :
    l.insertionSort r = l.insertionSort r' := by
  have hinsert : ∀ (a : α) (l : List α), l.orderedInsert r a = l.orderedInsert r' a := by
    intro a l
    induction l with
    | nil => rfl
    | cons b l ih => simp only [List.orderedInsert_cons,h,ih]
  induction l with
  | nil => rfl
  | cons a l ih => rw [List.insertionSort_cons,List.insertionSort_cons,ih,hinsert]

theorem orderedInsert_append_of_flagged {a : α} (ha : p a = true) {s n : List α} (hs : ∀ b ∈ s, p b = true)
    (hn : ∀ b ∈ n, p b = false) :
    (s ++ n).orderedInsert (flaggedFirst p r) a = s.orderedInsert r a ++ n := by
  induction s with
  | nil =>
    cases n with
    | nil => rfl
    | cons b n =>
      have hb := hn b List.mem_cons_self
      simp [List.orderedInsert,flaggedFirst,ha,hb]
  | cons b s ih =>
    have hb := hs b List.mem_cons_self
    have hih := ih fun c hc => hs c (List.mem_cons_of_mem _ hc)
    by_cases hr : r a b
    · simp [List.orderedInsert,flaggedFirst,ha,hb,hr]
    · simp [List.orderedInsert,flaggedFirst,ha,hb,hr,hih]

theorem orderedInsert_append_of_unflagged {a : α} (ha : p a = false) {s n : List α} (hs : ∀ b ∈ s, p b = true)
    (hn : ∀ b ∈ n, p b = false) :
    (s ++ n).orderedInsert (flaggedFirst p r) a = s ++ n.orderedInsert r a := by
  induction s with
  | nil =>
    induction n with
    | nil => rfl
    | cons b n ih =>
      have hb := hn b List.mem_cons_self
      have hih := ih fun c hc => hn c (List.mem_cons_of_mem _ hc)
      by_cases hr : r a b
      · simp [List.orderedInsert,flaggedFirst,ha,hb,hr]
      · simpa [List.orderedInsert,flaggedFirst,ha,hb,hr] using hih
  | cons b s ih =>
    have hb := hs b List.mem_cons_self
    have hih := ih fun c hc => hs c (List.mem_cons_of_mem _ hc)
    simp [flaggedFirst,ha,hb,hih]

/-- Inserting into a sorted list and then selecting. -/
theorem filter_orderedInsert [IsTrans α r] {a : α} {q : α → Bool} {l : List α} (hl : l.Pairwise r) :
    (l.orderedInsert r a).filter q = if q a then (l.filter q).orderedInsert r a else l.filter q := by
  induction l with
  | nil => cases hq : q a <;> simp [hq]
  | cons b l ih =>
    obtain ⟨hb,hl⟩ := List.pairwise_cons.mp hl
    by_cases hr : r a b
    · have hall : ∀ c ∈ (b :: l).filter q, r a c := by
        intro c hc
        rcases List.mem_cons.mp (List.mem_filter.mp hc).1 with rfl | hc
        · exact hr
        · exact IsTrans.trans _ _ _ hr (hb c hc)
      rw [List.orderedInsert_cons_of_le r l hr,List.filter_cons]
      cases hq : q a with
      | false => simp
      | true =>
        simp only [if_true]
        cases hf : (b :: l).filter q with
        | nil => rfl
        | cons c rest =>
          rw [List.orderedInsert_cons_of_le r rest (hall c (by rw [hf]; exact List.mem_cons_self))]
    · rw [List.orderedInsert_of_not_le r l hr,List.filter_cons,ih hl,List.filter_cons]
      cases hqb : q b with
      | false => simp
      | true =>
        cases hq : q a with
        | false => simp
        | true => simp [List.orderedInsert_of_not_le r _ hr]

theorem insertionSort_flaggedFirst [IsTrans α r] [Std.Total r] (l : List α) :
    l.insertionSort (flaggedFirst p r) =
      (l.insertionSort r).filter p ++ (l.insertionSort r).filter fun a => !p a := by
  induction l with
  | nil => rfl
  | cons a l ih =>
    have hsorted := List.pairwise_insertionSort r l
    have hs : ∀ b ∈ (l.insertionSort r).filter p, p b = true := fun b hb => (List.mem_filter.mp hb).2
    have hn : ∀ b ∈ (l.insertionSort r).filter (fun a => !p a), p b = false := by
      intro b hb
      simpa using (List.mem_filter.mp hb).2
    rw [List.insertionSort_cons,List.insertionSort_cons,ih,filter_orderedInsert hsorted,filter_orderedInsert hsorted]
    cases ha : p a with
    | true => simpa using orderedInsert_append_of_flagged ha hs hn
    | false => simpa using orderedInsert_append_of_unflagged ha hs hn

/-- Putting the flagged first changes nothing precisely when they are first already. -/
theorem filter_append_filter_not_eq_iff (l : List α) :
    (l.filter p ++ l.filter fun a => !p a) = l ↔ l.Pairwise fun a b => p b = true → p a = true := by
  induction l with
  | nil => simp
  | cons a l ih =>
    rw [List.pairwise_cons]
    cases ha : p a with
    | true => simp [ha,ih]
    | false =>
      simp only [Bool.false_eq_true,imp_false,Bool.not_eq_true]
      constructor
      · intro h
        have hnil : l.filter p = [] := by
          cases hf : l.filter p with
          | nil => rfl
          | cons c rest =>
            have hc : p c = true := (List.mem_filter.mp (hf ▸ List.mem_cons_self : c ∈ l.filter p)).2
            simp [ha,hf] at h
            rw [h.1,ha] at hc
            cases hc
        have hall : ∀ b ∈ l, p b = false := by
          intro b hb
          simpa using List.filter_eq_nil_iff.mp hnil b hb
        refine ⟨hall,List.pairwise_of_forall_mem_list fun b _ c hc hpc => ?_⟩
        rw [hall c hc] at hpc
        cases hpc
      · rintro ⟨hall,-⟩
        have hnil : l.filter p = [] := List.filter_eq_nil_iff.mpr fun b hb => by simp [hall b hb]
        have hself : (l.filter fun a => !p a) = l := List.filter_eq_self.mpr fun b hb => by simp [hall b hb]
        simp [ha,hnil,hself]

/-! ## Places in a stably sorted list -/

/-- `a` comes before `b` once `l` is sorted: by the order, and among equals by their places in `l`. -/
def Precedes (r : α → α → Prop) (l : List α) (a b : α) : Prop := r a b ∧ (r b a → [a,b].Sublist l)

instance [DecidableEq α] (l : List α) (a b : α) : Decidable (Precedes r l a b) :=
  inferInstanceAs (Decidable (r a b ∧ (r b a → [a,b].Sublist l)))

theorem pair_sublist_or {l : List α} {a b : α} (ha : a ∈ l) (hb : b ∈ l) (hne : a ≠ b) :
    [a,b].Sublist l ∨ [b,a].Sublist l := by
  obtain ⟨s,t,rfl⟩ := List.append_of_mem ha
  rcases List.mem_append.mp hb with hs | ht
  · right
    exact (List.singleton_sublist.mpr hs).append (List.singleton_sublist.mpr List.mem_cons_self)
  · left
    have hmem : b ∈ t := (List.mem_cons.mp ht).resolve_left hne.symm
    exact ((List.singleton_sublist.mpr hmem).cons_cons a).trans (List.sublist_append_right s _)

theorem not_pair_sublist_of_nodup {l : List α} (hn : l.Nodup) {a b : α} (h : [a,b].Sublist l) : ¬[b,a].Sublist l := by
  induction l with
  | nil => cases h
  | cons x l ih =>
    obtain ⟨hx,hn⟩ := List.nodup_cons.mp hn
    intro hswap
    cases h with
    | cons _ h =>
      cases hswap with
      | cons _ hswap => exact ih hn h hswap
      | cons_cons _ hswap => exact hx (h.subset (List.mem_cons_of_mem _ List.mem_cons_self))
    | cons_cons _ h =>
      cases hswap with
      | cons _ hswap => exact hx (hswap.subset (List.mem_cons_of_mem _ List.mem_cons_self))
      | cons_cons _ hswap => exact hx (h.subset List.mem_cons_self)

/-- Sorting puts two elements in the order of `Precedes`. -/
theorem pair_sublist_insertionSort_iff [IsTrans α r] [Std.Total r] {l : List α} (hn : l.Nodup) {a b : α} (ha : a ∈ l)
    (hb : b ∈ l) (hne : a ≠ b) : [a,b].Sublist (l.insertionSort r) ↔ Precedes r l a b := by
  have hsorted := List.pairwise_insertionSort r l
  have hns : (l.insertionSort r).Nodup := (List.perm_insertionSort r l).nodup_iff.mpr hn
  have hle : ∀ {x y}, [x,y].Sublist (l.insertionSort r) → r x y := fun h =>
    List.pairwise_iff_forall_sublist.mp hsorted h
  constructor
  · intro h
    refine ⟨hle h,fun hba => ?_⟩
    rcases pair_sublist_or ha hb hne with hab | hswap
    · exact hab
    · exact absurd (List.pair_sublist_insertionSort hba hswap) (not_pair_sublist_of_nodup hns h)
  · rintro ⟨hab,hstable⟩
    by_cases hba : r b a
    · exact List.pair_sublist_insertionSort hab (hstable hba)
    · rcases pair_sublist_or ((List.mem_insertionSort r).mpr ha) ((List.mem_insertionSort r).mpr hb) hne with h | h
      · exact h
      · exact absurd (hle h) hba

/-- An element is among the first `n` when fewer than `n` come before it. -/
theorem mem_take_insertionSort_iff [DecidableEq α] [IsTrans α r] [Std.Total r] {l : List α} (hn : l.Nodup) {b : α}
    (hb : b ∈ l) (n : ℕ) : b ∈ (l.insertionSort r).take n ↔ (l.filter fun a => Precedes r l a b).length < n := by
  have hperm := List.perm_insertionSort r l
  have hns : (l.insertionSort r).Nodup := hperm.nodup_iff.mpr hn
  obtain ⟨s,t,hst⟩ := List.append_of_mem ((List.mem_insertionSort r).mpr hb)
  have hself : ¬Precedes r l b b := fun h => List.nodup_iff_sublist.mp hn b (h.2 h.1)
  have hbefore : ∀ a ∈ s, Precedes r l a b := by
    intro a ha
    have hpair : [a,b].Sublist (l.insertionSort r) := by
      rw [hst]
      exact (List.singleton_sublist.mpr ha).append (List.singleton_sublist.mpr List.mem_cons_self)
    have hne : a ≠ b := by
      rintro rfl
      exact List.nodup_iff_sublist.mp hns a hpair
    exact (pair_sublist_insertionSort_iff hn (hperm.subset (hpair.subset List.mem_cons_self)) hb hne).mp hpair
  have hafter : ∀ a ∈ b :: t, ¬Precedes r l a b := by
    intro a ha h
    rcases List.mem_cons.mp ha with rfl | ha
    · exact hself h
    · have hpair : [b,a].Sublist (l.insertionSort r) := by
        rw [hst]
        exact ((List.singleton_sublist.mpr ha).cons_cons b).trans (List.sublist_append_right s _)
      have hne : a ≠ b := by
        rintro rfl
        exact List.nodup_iff_sublist.mp hns a hpair
      have hmem := hperm.subset (hpair.subset (List.mem_cons_of_mem _ List.mem_cons_self))
      exact not_pair_sublist_of_nodup hns hpair ((pair_sublist_insertionSort_iff hn hmem hb hne).mpr h)
  have hcount : (l.filter fun a => Precedes r l a b).length = s.length := by
    rw [← (hperm.filter _).length_eq,hst,List.filter_append,List.filter_eq_self.mpr,List.filter_eq_nil_iff.mpr,
      List.append_nil]
    · intro a ha
      simpa using hafter a ha
    · intro a ha
      simpa using hbefore a ha
  have hplace : (l.insertionSort r).idxOf b = s.length := by
    have hnot : b ∉ s := fun h => hself (hbefore b h)
    rw [hst,List.idxOf_append_of_notMem hnot]
    simp
  rw [hcount,List.mem_take_iff_idxOf_lt ((List.mem_insertionSort r).mpr hb),hplace]

/-- The head of a sorted list is below all others and the first of those tied with it. -/
theorem head?_mergeSort (htrans : ∀ a b c, r a b → r b c → r a c) (htotal : ∀ a b, r a b ∨ r b a) {l : List α} {a : α}
    (h : (l.mergeSort fun a b => decide (r a b)).head? = some a) :
    a ∈ l ∧ (∀ b ∈ l, r a b) ∧ l.find? (fun b => decide (r b a)) = some a := by
  have htrans' : ∀ a b c, decide (r a b) = true → decide (r b c) = true → decide (r a c) = true := by
    intro a b c hab hbc
    simp only [decide_eq_true_eq] at hab hbc ⊢
    exact htrans a b c hab hbc
  have htotal' : ∀ a b, (decide (r a b) || decide (r b a)) = true := by
    intro a b
    simpa using htotal a b
  obtain ⟨rest,hsorted⟩ := List.head?_eq_some_iff.mp h
  have hpair := List.pairwise_mergeSort htrans' htotal' l
  have hleast : ∀ b ∈ l, r a b := by
    intro b hb
    rw [hsorted] at hpair
    rcases List.mem_cons.mp (hsorted ▸ List.mem_mergeSort.mpr hb) with rfl | hb
    · exact (htotal b b).elim id id
    · simpa using (List.pairwise_cons.mp hpair).1 b hb
  have htied : (l.filter fun b => decide (r b a)).Pairwise fun b c => decide (r b c) = true := by
    rw [List.pairwise_iff_forall_sublist]
    intro b c hbc
    have hb := List.mem_filter.mp (hbc.subset List.mem_cons_self)
    have hc := List.mem_filter.mp (hbc.subset (List.mem_cons_of_mem _ List.mem_cons_self))
    exact decide_eq_true (htrans b a c (by simpa using hb.2) (hleast c hc.1))
  have hsub := (List.sublist_mergeSort htrans' htotal' htied List.filter_sublist).filter fun b => decide (r b a)
  rw [List.filter_filter] at hsub
  simp only [Bool.and_self] at hsub
  have hfilter := hsub.eq_of_length ((List.mergeSort_perm l _).filter _).length_eq.symm
  have ha : r a a := (htotal a a).elim id id
  refine ⟨List.mem_mergeSort.mp (hsorted ▸ List.mem_cons_self),hleast,?_⟩
  rw [← List.head?_filter,hfilter,hsorted]
  simp [ha]

end EduPod.StableSort
