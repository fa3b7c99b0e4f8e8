import Mathlib.Data.List.Basic
import Mathlib.Data.List.Forall2
import Mathlib.Tactic.Common

/-! # First-fit grouping by seeds

A pass over a list opens a group at every element that no earlier group claims, and the
new group claims every later unclaimed element its seed is related to. `markLoop` is the
double loop; `firstFit` says which group an element ends in: that of the first seed
related to it.
-/
namespace EduPod.FirstFit
variable {α : Type*} (r : α → α → Bool)

/-- The inner loop: group `next` claims the unclaimed elements related to `x`. -/
def mark (x : α) (next : ℕ) (xs : List α) (groups : List (Option ℕ)) : List (Option ℕ) :=
  List.zipWith (fun y g => if g = none ∧ r x y = true then some next else g) xs groups

/-- The outer loop over the elements not yet passed. -/
@[grind] def markLoop : ℕ → List α → List (Option ℕ) → List ℕ
  | next, x :: xs, g :: groups =>
    match g with
    | some k => k :: markLoop next xs groups
    | none => next :: markLoop (next + 1) xs (mark r x next xs groups)
  | _, _, _ => []

/-- The group an element is put in: that of its first related seed, or a new one. -/
def seedIdx (seeds : List α) (x : α) : ℕ := (seeds.findIdx? (r · x)).getD seeds.length

/-- The seeds after one more element. -/
def addSeed (seeds : List α) (x : α) : List α :=
  if (seeds.findIdx? (r · x)).isSome then seeds else seeds ++ [x]

@[grind] def firstFit : List α → List α → List ℕ
  | _, [] => []
  | seeds, x :: xs => seedIdx r seeds x :: firstFit (addSeed r seeds x) xs

@[simp] theorem length_firstFit (seeds xs : List α) : (firstFit r seeds xs).length = xs.length := by
  induction xs generalizing seeds with
  | nil => rfl
  | cons x xs ih => simp [firstFit,ih]

/-- The double loop computes the first-fit groups. -/
theorem markLoop_eq_firstFit (seeds xs : List α) :
    markLoop r seeds.length xs (xs.map fun x => seeds.findIdx? (r · x)) = firstFit r seeds xs := by
  induction xs generalizing seeds with
  | nil => rfl
  | cons x xs ih =>
    rw [List.map_cons,firstFit]
    cases hx : seeds.findIdx? (r · x) with
    | some k =>
      have hs : addSeed r seeds x = seeds := by simp [addSeed,hx]
      simp only [markLoop,seedIdx,hx,Option.getD_some,hs,ih]
    | none =>
      have hs : addSeed r seeds x = seeds ++ [x] := by simp [addSeed,hx]
      have hmark : mark r x seeds.length xs (xs.map fun y => seeds.findIdx? (r · y)) =
          xs.map fun y => (seeds ++ [x]).findIdx? (r · y) := by
        rw [mark,List.zipWith_map_right,List.zipWith_self]
        refine List.map_congr_left fun y _ => ?_
        rw [List.findIdx?_append]
        cases hy : seeds.findIdx? (r · y) with
        | some k => simp
        | none => cases hr : r x y <;> simp [List.findIdx?_cons,hr]
      simp only [markLoop,seedIdx,hx,Option.getD_none,hs,hmark]
      rw [← ih,List.length_append,List.length_singleton]

theorem markLoop_replicate (xs : List α) :
    markLoop r 0 xs (List.replicate xs.length none) = firstFit r [] xs := by
  rw [← markLoop_eq_firstFit,List.map_congr_left (g := fun _ => none) (by simp),List.map_const']
  rfl

/-! ## Founders

Which elements share a group, said without the group numbers: those with one founder. -/

/-- The founder of each element, by its label: the first founder before it that is related
to it, or else the element itself. -/
@[grind] def founders : List (α × ℕ) → List (α × ℕ) → List ℕ
  | _, [] => []
  | seeds, x :: xs =>
    match seeds.find? fun s => r s.1 x.1 with
    | some s => s.2 :: founders seeds xs
    | none => x.2 :: founders (seeds ++ [x]) xs

@[simp] theorem length_founders (seeds xs : List (α × ℕ)) : (founders r seeds xs).length = xs.length := by
  induction xs generalizing seeds with
  | nil => rfl
  | cons x xs ih =>
    rw [founders]
    cases seeds.find? fun s => r s.1 x.1 <;> simp [ih]

/-- A group number is the position of the founder among all founders. -/
theorem firstFit_founders (seeds xs : List (α × ℕ)) (hn : ((seeds ++ xs).map Prod.snd).Nodup) :
    ∃ all : List ℕ, all.Nodup ∧ seeds.map Prod.snd <+: all ∧
      List.Forall₂ (fun g f => all[g]? = some f) (firstFit r (seeds.map Prod.fst) (xs.map Prod.fst))
        (founders r seeds xs) := by
  induction xs generalizing seeds with
  | nil => exact ⟨seeds.map Prod.snd,by simpa using hn,List.prefix_refl _,List.Forall₂.nil⟩
  | cons x xs ih =>
    rw [founders,List.map_cons,firstFit]
    cases hx : seeds.find? fun s => r s.1 x.1 with
    | some s =>
      have hidx : ∃ i, (seeds.map Prod.fst).findIdx? (r · x.1) = some i ∧ seeds[i]? = some s := by
        rw [List.find?_eq_bind_findIdx?_getElem?] at hx
        obtain ⟨i,hi,hs⟩ := Option.bind_eq_some_iff.mp hx
        exact ⟨i,by rw [List.findIdx?_map]; exact hi,hs⟩
      obtain ⟨i,hi,hs⟩ := hidx
      have hadd : addSeed r (seeds.map Prod.fst) x.1 = seeds.map Prod.fst := by simp [addSeed,hi]
      have hn' : ((seeds ++ xs).map Prod.snd).Nodup :=
        hn.sublist ((List.Sublist.append_left (List.sublist_cons_self x xs) seeds).map _)
      obtain ⟨all,hall,hpre,hrel⟩ := ih seeds hn'
      refine ⟨all,hall,hpre,List.Forall₂.cons ?_ (by rw [hadd]; exact hrel)⟩
      rw [seedIdx,hi,Option.getD_some]
      obtain ⟨later,rfl⟩ := hpre
      have hlt : i < (seeds.map Prod.snd).length := by simpa using (List.getElem?_eq_some_iff.mp hs).1
      rw [List.getElem?_append_left hlt,List.getElem?_map,hs]
      rfl
    | none =>
      have hno : (seeds.map Prod.fst).findIdx? (r · x.1) = none := by
        rw [List.findIdx?_map,List.findIdx?_eq_none_iff]
        simpa using hx
      have hadd : addSeed r (seeds.map Prod.fst) x.1 = (seeds ++ [x]).map Prod.fst := by simp [addSeed,hno]
      obtain ⟨all,hall,hpre,hrel⟩ := ih (seeds ++ [x]) (by simpa using hn)
      refine ⟨all,hall,(List.prefix_append _ _).trans (by simpa using hpre),
        List.Forall₂.cons ?_ (by rw [hadd]; exact hrel)⟩
      rw [seedIdx,hno,Option.getD_none,List.length_map]
      obtain ⟨later,rfl⟩ := hpre
      rw [List.getElem?_append_left (by simp)]
      simp

/-- Two elements share a group exactly when they share a founder. -/
theorem firstFit_eq_iff (xs : List α) {i k : ℕ} (hi : i < xs.length) (hk : k < xs.length) :
    (firstFit r [] xs)[i]? = (firstFit r [] xs)[k]? ↔
      (founders r [] xs.zipIdx)[i]? = (founders r [] xs.zipIdx)[k]? := by
  obtain ⟨all,hall,-,hrel⟩ := firstFit_founders r [] xs.zipIdx (by simpa using List.nodup_range')
  rw [List.map_nil,List.zipIdx_map_fst] at hrel
  have hat : ∀ {j : ℕ}, j < xs.length → ∃ g f, (firstFit r [] xs)[j]? = some g ∧
      (founders r [] xs.zipIdx)[j]? = some f ∧ all[g]? = some f := by
    intro j hj
    have h1 : j < (firstFit r [] xs).length := by simpa using hj
    have h2 : j < (founders r [] xs.zipIdx).length := by simpa using hj
    exact ⟨_,_,List.getElem?_eq_getElem h1,List.getElem?_eq_getElem h2,hrel.get h1 h2⟩
  obtain ⟨g,f,hg,hf,ha⟩ := hat hi
  obtain ⟨g',f',hg',hf',ha'⟩ := hat hk
  rw [hg,hg',hf,hf',Option.some_inj,Option.some_inj]
  constructor
  · rintro rfl
    exact Option.some.inj (ha.symm.trans ha')
  · rintro rfl
    exact (List.getElem?_inj (List.getElem?_eq_some_iff.mp ha).1 hall).mp (ha.trans ha'.symm)

end EduPod.FirstFit
