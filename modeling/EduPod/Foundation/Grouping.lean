import Mathlib

/-! # Keyed collections in insertion order

`groupBy` is what a loop over a `defaultdict(list)` leaves behind: the keys in order of
first appearance, each with its elements in order. `lastWith` is the value a dictionary
comprehension keeps for a key. `ofPairs` is the dictionary of a list of assignments.
-/
namespace EduPod.Grouping

section
variable {α β κ : Type*} [DecidableEq κ]

def groupBy (key : α → κ) (xs : List α) : List (κ × List α) :=
  ((xs.map key).eraseDups).map fun k => (k,xs.filter fun x => key x = k)

theorem mem_groupBy {key : α → κ} {xs : List α} {g : κ × List α} :
    g ∈ groupBy key xs ↔ (∃ x ∈ xs, key x = g.1) ∧ g.2 = xs.filter fun x => key x = g.1 := by
  simp only [groupBy,List.mem_map,List.mem_eraseDups]
  constructor
  · rintro ⟨k,⟨x,hx,rfl⟩,rfl⟩
    exact ⟨⟨x,hx,rfl⟩,rfl⟩
  · rintro ⟨⟨x,hx,hk⟩,hg⟩
    exact ⟨key x,⟨x,hx,rfl⟩,by rw [hk,← hg]⟩

/-- The group of an element's own key. -/
theorem group_mem {key : α → κ} {xs : List α} {x : α} (hx : x ∈ xs) :
    (key x,xs.filter fun y => key y = key x) ∈ groupBy key xs := mem_groupBy.mpr ⟨⟨x,hx,rfl⟩,rfl⟩

def lastWith (p : α → Bool) (xs : List α) : Option α := xs.reverse.find? p

theorem mem_of_lastWith {p : α → Bool} {xs : List α} {x : α} (h : lastWith p xs = some x) : x ∈ xs :=
  List.mem_reverse.mp (List.mem_of_find?_eq_some h)

theorem lastWith_spec {p : α → Bool} {xs : List α} {x : α} (h : lastWith p xs = some x) : p x = true :=
  List.find?_some h

theorem isSome_lastWith {p : α → Bool} {xs : List α} : (lastWith p xs).isSome ↔ ∃ x ∈ xs, p x = true := by
  simp [lastWith]

theorem lastWith_eq_none {p : α → Bool} {xs : List α} : lastWith p xs = none ↔ ∀ x ∈ xs, p x = false := by
  simp [lastWith]

/-- The last element with a property that only one element has. -/
theorem getLast?_filter_eq {p : α → Bool} {xs : List α} {x : α} (hx : x ∈ xs) (hp : p x = true)
    (hunique : ∀ y ∈ xs, p y = true → y = x) : (xs.filter p).getLast? = some x := by
  have hmem : x ∈ xs.filter p := List.mem_filter.mpr ⟨hx,hp⟩
  have hlast := List.getLast?_eq_some_getLast (List.ne_nil_of_mem hmem)
  obtain ⟨hy,hpy⟩ := List.mem_filter.mp (List.mem_of_getLast? hlast)
  rw [hlast,hunique _ hy hpy]

/-- `d[k] = b`: an existing key keeps its place. -/
def setKey (d : List (κ × β)) (k : κ) (b : β) : List (κ × β) :=
  if k ∈ d.map Prod.fst then d.map fun e => if e.1 = k then (k,b) else e else d ++ [(k,b)]

def ofPairs (xs : List (κ × β)) : List (κ × β) := xs.foldl (fun d e => setKey d e.1 e.2) []

theorem mem_setKey {d : List (κ × β)} {k : κ} {b : β} {e : κ × β} (h : e ∈ setKey d k b) :
    e ∈ d ∨ e = (k,b) := by
  unfold setKey at h
  split at h
  · obtain ⟨e',he',rfl⟩ := List.mem_map.mp h
    split
    · exact Or.inr rfl
    · exact Or.inl he'
  · simpa using h

theorem mem_ofPairs {xs : List (κ × β)} {e : κ × β} (h : e ∈ ofPairs xs) : e ∈ xs := by
  have haux : ∀ (ys d : List (κ × β)), e ∈ ys.foldl (fun d e => setKey d e.1 e.2) d → e ∈ d ∨ e ∈ ys := by
    intro ys
    induction ys with
    | nil => exact fun d hd => Or.inl hd
    | cons y ys ih =>
      intro d hd
      rcases ih _ hd with hd | hys
      · rcases mem_setKey hd with hd | rfl
        · exact Or.inl hd
        · exact Or.inr List.mem_cons_self
      · exact Or.inr (List.mem_cons_of_mem _ hys)
  exact (haux xs [] h).resolve_left List.not_mem_nil

theorem keys_setKey (d : List (κ × β)) (k : κ) (b : β) : (setKey d k b).map Prod.fst =
    if k ∈ d.map Prod.fst then d.map Prod.fst else d.map Prod.fst ++ [k] := by
  unfold setKey
  split
  · rw [List.map_map]
    refine List.map_congr_left fun e _ => ?_
    dsimp only [Function.comp]
    split
    · exact Eq.symm ‹_›
    · rfl
  · simp

theorem mem_keys_ofPairs {xs : List (κ × β)} {k : κ} : k ∈ (ofPairs xs).map Prod.fst ↔ k ∈ xs.map Prod.fst := by
  have haux : ∀ (ys d : List (κ × β)), k ∈ (ys.foldl (fun d e => setKey d e.1 e.2) d).map Prod.fst ↔
      k ∈ d.map Prod.fst ∨ k ∈ ys.map Prod.fst := by
    intro ys
    induction ys with
    | nil => simp
    | cons y ys ih =>
      intro d
      rw [List.foldl_cons,ih,keys_setKey,List.map_cons,List.mem_cons]
      split
      · rename_i hy
        constructor
        · exact fun h => h.imp id Or.inr
        · rintro (h | rfl | h)
          · exact Or.inl h
          · exact Or.inl hy
          · exact Or.inr h
      · simp [or_assoc]
  exact (haux xs []).trans (by simp)

/-- A dictionary has each key once. -/
theorem nodup_ofPairs (xs : List (κ × β)) : ((ofPairs xs).map Prod.fst).Nodup := by
  have haux : ∀ (ys d : List (κ × β)), (d.map Prod.fst).Nodup →
      ((ys.foldl (fun d e => setKey d e.1 e.2) d).map Prod.fst).Nodup := by
    intro ys
    induction ys with
    | nil => exact fun d hd => hd
    | cons y ys ih =>
      intro d hd
      refine ih _ ?_
      rw [keys_setKey]
      split
      · exact hd
      · exact List.nodup_append.mpr ⟨hd,List.nodup_singleton _,by
          intro a ha b hb
          rw [List.mem_singleton.mp hb]
          exact fun h => ‹y.1 ∉ _› (h ▸ ha)⟩
  exact haux xs [] List.nodup_nil

end

/-! ## Sums over groups

Grouping a list loses nothing and counts nothing twice.
-/

variable {α κ M : Type*} [DecidableEq κ] [AddCommMonoid M] {key : α → κ} {f : α → M} {xs : List α}

omit [AddCommMonoid M] in
theorem nodup_eraseDups (ks : List κ) : ks.eraseDups.Nodup := by
  induction h : ks.length using Nat.strong_induction_on generalizing ks with
  | _ n ih =>
    cases ks with
    | nil => simp
    | cons k ks =>
      rw [List.eraseDups_cons,List.nodup_cons]
      constructor
      · simp
      · exact ih _ (h ▸ Nat.lt_succ_of_le (List.length_filter_le _ _)) _ rfl

/-- Among distinct keys an element counts under its own. -/
theorem sum_map_ite_eq_of_mem {ks : List κ} (hn : ks.Nodup) {k : κ} (hk : k ∈ ks) (m : M) :
    (ks.map fun k' => if k = k' then m else 0).sum = m := by
  induction ks with
  | nil => cases hk
  | cons k' ks ih =>
    obtain ⟨hnot,hn⟩ := List.nodup_cons.mp hn
    rw [List.map_cons,List.sum_cons]
    rcases List.mem_cons.mp hk with rfl | hk
    · have hrest : ks.map (fun k' => if k = k' then m else 0) = ks.map fun _ => 0 := by
        apply List.map_congr_left
        intro k' hk'
        exact if_neg fun he : k = k' => hnot (he ▸ hk')
      rw [if_pos rfl,hrest]
      simp
    · have hne : k ≠ k' := fun he : k = k' => hnot (he ▸ hk)
      rw [if_neg hne,zero_add,ih hn hk]

theorem sum_filter_keys {ks : List κ} (hn : ks.Nodup) (h : ∀ x ∈ xs, key x ∈ ks) :
    (ks.map fun k => ((xs.filter fun x => key x = k).map f).sum).sum = (xs.map f).sum := by
  induction xs with
  | nil => simp
  | cons x xs ih =>
    have hx := h x List.mem_cons_self
    have hsplit : ∀ k, (((x :: xs).filter fun x => key x = k).map f).sum =
        (if key x = k then f x else 0) + ((xs.filter fun x => key x = k).map f).sum := by
      intro k
      rw [List.filter_cons]
      by_cases hk : key x = k <;> simp [hk]
    rw [List.map_congr_left fun k _ => hsplit k,List.sum_map_add,sum_map_ite_eq_of_mem hn hx,
      ih fun x' hx' => h x' (List.mem_cons_of_mem _ hx')]
    simp

theorem sum_map_groupBy : ((groupBy key xs).map fun g => (g.2.map f).sum).sum = (xs.map f).sum := by
  rw [groupBy,List.map_map]
  exact sum_filter_keys (nodup_eraseDups _) fun x hx => List.mem_eraseDups.mpr (List.mem_map_of_mem hx)

omit [AddCommMonoid M] [DecidableEq κ] in
theorem lookup_map_self {β : Type*} [BEq κ] [LawfulBEq κ] (ks : List κ) (g : κ → β) {k : κ} (hk : k ∈ ks) :
    (ks.map fun k => (k,g k)).lookup k = some (g k) := by
  induction ks with
  | nil => cases hk
  | cons k' ks ih =>
    rw [List.map_cons,List.lookup_cons]
    by_cases h : k = k'
    · simp [h]
    · have hbeq : (k == k') = false := by simpa using h
      rw [hbeq]
      exact ih ((List.mem_cons.mp hk).resolve_left h)

omit [AddCommMonoid M] in
theorem exists_keys (key : α → κ) (xs : List α) : ∃ ks : List κ, (∀ k, k ∈ ks ↔ ∃ x ∈ xs, key x = k) ∧
    groupBy key xs = ks.map fun k => (k,xs.filter fun x => key x = k) :=
  ⟨_,fun k => by rw [List.mem_eraseDups,List.mem_map],rfl⟩

/-- A key that nothing has counts as nothing. -/
theorem lookup_groupBy_sum [BEq κ] [LawfulBEq κ] (key : α → κ) (f : α → M) (xs : List α) (k : κ) :
    (((groupBy key xs).map fun g => (g.1,(g.2.map f).sum)).lookup k).getD 0 =
      ((xs.filter fun x => key x = k).map f).sum := by
  obtain ⟨ks,hks,hgroups⟩ := exists_keys key xs
  rw [hgroups,List.map_map]
  by_cases hk : k ∈ ks
  · have h := lookup_map_self ks (fun k => ((xs.filter fun x => key x = k).map f).sum) hk
    exact congrArg (Option.getD · 0) h
  · have hnone : (xs.filter fun x => key x = k) = [] :=
      List.filter_eq_nil_iff.mpr fun x hx h => hk ((hks k).mpr ⟨x,hx,of_decide_eq_true h⟩)
    rw [hnone,List.lookup_eq_none_iff.mpr]
    · rfl
    · intro g hg
      obtain ⟨k',hk',rfl⟩ := List.mem_map.mp hg
      have hne : k ≠ k' := fun h => hk (h ▸ hk')
      simpa using hne

omit [AddCommMonoid M] [DecidableEq κ] in
private theorem coe_eq_sum_singleton (xs : List α) : (xs : Multiset α) = (xs.map fun x => ({x} : Multiset α)).sum := by
  induction xs with
  | nil => rfl
  | cons x xs ih =>
    rw [List.map_cons,List.sum_cons,← ih]
    rfl

omit [AddCommMonoid M] [DecidableEq κ] in
private theorem coe_flatMap_eq_sum {β : Type*} (xs : List α) (g : α → List β) :
    (xs.flatMap g : Multiset β) = (xs.map fun x => (g x : Multiset β)).sum := by
  induction xs with
  | nil => rfl
  | cons x xs ih =>
    rw [List.map_cons,List.sum_cons,← ih]
    rfl

omit [AddCommMonoid M] in
/-- The groups hold what was grouped, in another order. -/
theorem perm_flatMap_groupBy : ((groupBy key xs).flatMap Prod.snd).Perm xs := by
  have hsum : ((groupBy key xs).map fun g => (g.2.map fun x => ({x} : Multiset α)).sum).sum =
      (xs.map fun x => ({x} : Multiset α)).sum := sum_map_groupBy
  rw [← Multiset.coe_eq_coe,coe_flatMap_eq_sum,coe_eq_sum_singleton xs,← hsum]
  congr 1
  exact List.map_congr_left fun g _ => coe_eq_sum_singleton g.2

end EduPod.Grouping
