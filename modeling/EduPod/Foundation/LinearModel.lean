import Mathlib.Algebra.BigOperators.Group.List.Basic
import Mathlib.Algebra.Order.BigOperators.Group.List
import Mathlib.Algebra.Order.Ring.Int
import Mathlib.Tactic.Ring
import Mathlib.Tactic.Common

/-! # Integer linear models

Constraints over integer variables as a constraint-programming library offers them:
bounds, comparisons of linear expressions, and equality with a maximum or a minimum.
-/
namespace EduPod.LinearModel
variable {V : Type*}

/-- A linear expression: weighted variables and a constant. -/
structure LinExpr (V : Type*) where
  terms : List (ℤ × V)
  const : ℤ

namespace LinExpr

def eval (v : V → ℤ) (e : LinExpr V) : ℤ := (e.terms.map fun t => t.1 * v t.2).sum + e.const

def ofInt (c : ℤ) : LinExpr V := ⟨[],c⟩
def ofVar (x : V) : LinExpr V := ⟨[(1,x)],0⟩
def sumOf (xs : List V) : LinExpr V := ⟨xs.map fun x => (1,x),0⟩
def add (a b : LinExpr V) : LinExpr V := ⟨a.terms ++ b.terms,a.const + b.const⟩
def scale (c : ℤ) (a : LinExpr V) : LinExpr V := ⟨a.terms.map fun t => (c * t.1,t.2),c * a.const⟩
def sub (a b : LinExpr V) : LinExpr V := add a (scale (-1) b)
def sumAll (es : List (LinExpr V)) : LinExpr V := es.foldr add (ofInt 0)

variable (v : V → ℤ)

@[simp] theorem eval_ofInt (c : ℤ) : (ofInt c : LinExpr V).eval v = c := by simp [eval,ofInt]
@[simp] theorem eval_ofVar (x : V) : (ofVar x).eval v = v x := by simp [eval,ofVar]

@[simp] theorem eval_sumOf (xs : List V) : (sumOf xs).eval v = (xs.map v).sum := by
  simp [eval,sumOf,Function.comp_def]

@[simp] theorem eval_add (a b : LinExpr V) : (add a b).eval v = a.eval v + b.eval v := by
  simp only [eval,add,List.map_append,List.sum_append]
  ring

@[simp] theorem eval_scale (c : ℤ) (a : LinExpr V) : (scale c a).eval v = c * a.eval v := by
  have hterms : ((a.terms.map fun t => (c * t.1,t.2)).map fun t => t.1 * v t.2).sum =
      c * (a.terms.map fun t => t.1 * v t.2).sum := by
    induction a.terms with
    | nil => simp
    | cons t ts ih =>
      simp only [List.map_cons,List.sum_cons,ih]
      ring
  rw [eval,scale,hterms,eval]
  ring

@[simp] theorem eval_sub (a b : LinExpr V) : (sub a b).eval v = a.eval v - b.eval v := by
  simp [sub,sub_eq_add_neg]

@[simp] theorem eval_sumAll (es : List (LinExpr V)) : (sumAll es).eval v = (es.map (eval v)).sum := by
  rw [sumAll]
  induction es with
  | nil => simp
  | cons e es ih => simp [ih]

end LinExpr

inductive Constraint (V : Type*)
  | bounds (x : V) (lo hi : ℤ)
  | le (a b : LinExpr V)
  | eq (a b : LinExpr V)
  | maxEq (target : LinExpr V) (es : List (LinExpr V))
  | minEq (target : LinExpr V) (es : List (LinExpr V))

namespace Constraint

def Holds (v : V → ℤ) : Constraint V → Prop
  | bounds x lo hi => lo ≤ v x ∧ v x ≤ hi
  | le a b => a.eval v ≤ b.eval v
  | eq a b => a.eval v = b.eval v
  | maxEq target es => (∃ e ∈ es, target.eval v = e.eval v) ∧ ∀ e ∈ es, e.eval v ≤ target.eval v
  | minEq target es => (∃ e ∈ es, target.eval v = e.eval v) ∧ ∀ e ∈ es, target.eval v ≤ e.eval v

instance (v : V → ℤ) : DecidablePred (Holds v)
  | bounds x lo hi => inferInstanceAs (Decidable (lo ≤ v x ∧ v x ≤ hi))
  | le a b => inferInstanceAs (Decidable (a.eval v ≤ b.eval v))
  | eq a b => inferInstanceAs (Decidable (a.eval v = b.eval v))
  | maxEq target es => inferInstanceAs
    (Decidable ((∃ e ∈ es, target.eval v = e.eval v) ∧ ∀ e ∈ es, e.eval v ≤ target.eval v))
  | minEq target es => inferInstanceAs
    (Decidable ((∃ e ∈ es, target.eval v = e.eval v) ∧ ∀ e ∈ es, target.eval v ≤ e.eval v))

end Constraint

/-- The valuation satisfies every constraint. -/
def Sat (v : V → ℤ) (cs : List (Constraint V)) : Prop := ∀ c ∈ cs, c.Holds v

instance (v : V → ℤ) (cs : List (Constraint V)) : Decidable (Sat v cs) :=
  inferInstanceAs (Decidable (∀ c ∈ cs, c.Holds v))

section
variable {v : V → ℤ} {cs cs' : List (Constraint V)}

@[simp] theorem sat_nil : Sat v ([] : List (Constraint V)) := fun _ h => absurd h List.not_mem_nil

@[simp] theorem sat_append : Sat v (cs ++ cs') ↔ Sat v cs ∧ Sat v cs' := List.forall_mem_append

@[simp] theorem sat_singleton {c : Constraint V} : Sat v [c] ↔ c.Holds v := List.forall_mem_singleton

@[simp] theorem sat_cons {c : Constraint V} : Sat v (c :: cs) ↔ c.Holds v ∧ Sat v cs := List.forall_mem_cons

theorem sat_flatMap {α : Type*} {xs : List α} {f : α → List (Constraint V)} :
    Sat v (xs.flatMap f) ↔ ∀ x ∈ xs, Sat v (f x) := by
  simp only [Sat,List.mem_flatMap]
  exact ⟨fun h x hx c hc => h c ⟨x,hx,hc⟩,fun h c ⟨x,hx,hc⟩ => h x hx c hc⟩

theorem sat_map {α : Type*} {xs : List α} {f : α → Constraint V} :
    Sat v (xs.map f) ↔ ∀ x ∈ xs, (f x).Holds v := by
  simp only [Sat,List.forall_mem_map]

/-! ## Capped sums

The model bounds sums of 0/1 variables; a cap below the range turns into "all zero". -/

/-- `v == 0` for each variable. -/
def zeroAll (xs : List V) : List (Constraint V) := xs.map fun x => .eq (.ofVar x) (.ofInt 0)

def atMost (xs : List V) (cap : ℤ) : Constraint V := .le (.sumOf xs) (.ofInt cap)

/-- `if cap < 0: all zero, else: sum ≤ cap`. -/
def capNonneg (cap : ℤ) (xs : List V) : List (Constraint V) :=
  if cap < 0 then zeroAll xs else [atMost xs cap]

/-- `if cap <= 0: all zero, else: sum ≤ cap`. -/
def capPositive (cap : ℤ) (xs : List V) : List (Constraint V) :=
  if cap ≤ 0 then zeroAll xs else [atMost xs cap]

theorem sum_nonneg_of {xs : List V} (h : ∀ x ∈ xs, 0 ≤ v x) : 0 ≤ (xs.map v).sum :=
  List.sum_nonneg (by simpa using h)

theorem sum_eq_zero_iff {xs : List V} (h : ∀ x ∈ xs, 0 ≤ v x) :
    (xs.map v).sum ≤ 0 ↔ ∀ x ∈ xs, v x = 0 := by
  induction xs with
  | nil => simp
  | cons x xs ih =>
    obtain ⟨hx,hxs⟩ := List.forall_mem_cons.mp h
    have hs := sum_nonneg_of hxs
    rw [List.map_cons,List.sum_cons,List.forall_mem_cons,← ih hxs]
    omega

theorem sat_zeroAll_iff {xs : List V} (h : ∀ x ∈ xs, 0 ≤ v x) :
    Sat v (zeroAll xs) ↔ (xs.map v).sum ≤ 0 := by
  rw [sum_eq_zero_iff h,zeroAll,sat_map]
  simp [Constraint.Holds]

theorem sat_capNonneg_iff {cap : ℤ} {xs : List V} (h : ∀ x ∈ xs, 0 ≤ v x) :
    Sat v (capNonneg cap xs) ↔ (xs.map v).sum ≤ max cap 0 := by
  unfold capNonneg
  split
  · rw [sat_zeroAll_iff h,max_eq_right (by omega)]
  · rw [sat_singleton,max_eq_left (by omega)]
    simp [atMost,Constraint.Holds]

theorem sat_capPositive_iff {cap : ℤ} {xs : List V} (h : ∀ x ∈ xs, 0 ≤ v x) :
    Sat v (capPositive cap xs) ↔ (xs.map v).sum ≤ max cap 0 := by
  unfold capPositive
  split
  · rw [sat_zeroAll_iff h,max_eq_right (by omega)]
  · rw [sat_singleton,max_eq_left (by omega)]
    simp [atMost,Constraint.Holds]

/-- `aux == x AND y` for 0/1 variables. -/
def product (aux x y : V) : List (Constraint V) :=
  [.bounds aux 0 1,.le (.ofVar aux) (.ofVar x),.le (.ofVar aux) (.ofVar y),
    .le (.sub (.add (.ofVar x) (.ofVar y)) (.ofInt 1)) (.ofVar aux)]

theorem sat_product_iff {aux x y : V} (hx : v x = 0 ∨ v x = 1) (hy : v y = 0 ∨ v y = 1) :
    Sat v (product aux x y) ↔ v aux = v x * v y := by
  simp only [product,sat_cons,sat_nil,and_true,Constraint.Holds,LinExpr.eval_ofVar,LinExpr.eval_ofInt,LinExpr.eval_add,
    LinExpr.eval_sub]
  rcases hx with hx | hx
  · rw [hx,zero_mul]
    omega
  · rw [hx,one_mul]
    omega

/-- Of nonnegative terms that sum to at most one, a single one is one. -/
theorem eq_of_sum_le_one {α : Type*} {xs : List α} {f : α → ℤ} (hnodup : xs.Nodup) (hnonneg : ∀ a ∈ xs, 0 ≤ f a)
    (hsum : (xs.map f).sum ≤ 1) {a b : α} (ha : a ∈ xs) (hb : b ∈ xs) (hfa : f a = 1) (hfb : f b = 1) :
    a = b := by
  induction xs with
  | nil => cases ha
  | cons c xs ih =>
    obtain ⟨hc,hrest⟩ := List.forall_mem_cons.mp hnonneg
    obtain ⟨hfresh,hnodup⟩ := List.nodup_cons.mp hnodup
    have htail : 0 ≤ (xs.map f).sum := List.sum_nonneg (by simpa using hrest)
    rw [List.map_cons,List.sum_cons] at hsum
    have hle : ∀ d ∈ xs, f d ≤ (xs.map f).sum := fun d hd =>
      List.single_le_sum (by simpa using hrest) _ (List.mem_map_of_mem hd)
    rcases List.mem_cons.mp ha with hac | ha
    · rcases List.mem_cons.mp hb with hbc | hb
      · rw [hac,hbc]
      · have hbound := hle b hb
        rw [hac] at hfa
        omega
    · rcases List.mem_cons.mp hb with hbc | hb
      · have hbound := hle a ha
        rw [hbc] at hfb
        omega
      · exact ih hnodup hrest (by omega) ha hb

/-- A sum of 0/1 variables counts those set to one. -/
theorem sum_eq_countP {xs : List V} (h : ∀ x ∈ xs, v x = 0 ∨ v x = 1) :
    (xs.map v).sum = xs.countP fun x => v x = 1 := by
  induction xs with
  | nil => rfl
  | cons x xs ih =>
    obtain ⟨hx,hxs⟩ := List.forall_mem_cons.mp h
    rw [List.map_cons,List.sum_cons,ih hxs,List.countP_cons]
    rcases hx with hx | hx <;> simp [hx]
    omega

end

/-! ## Weighted objectives -/

section
variable {v : V → ℤ}

/-- The value of weighted terms. -/
def value (v : V → ℤ) (terms : List (ℤ × LinExpr V)) : ℤ := (terms.map fun t => t.1 * t.2.eval v).sum

@[simp] theorem value_nil : value v [] = 0 := rfl

@[simp] theorem value_append (ts us : List (ℤ × LinExpr V)) : value v (ts ++ us) = value v ts + value v us := by
  simp [value]

/-- A penalty on a bounded variable costs at most its weight times the bound. -/
theorem value_penalty {x : V} {w b : ℤ} (hw : 0 ≤ w) (hlo : 0 ≤ v x) (hhi : v x ≤ b) :
    -(w * b) ≤ value v [(-w,.ofVar x)] ∧ value v [(-w,.ofVar x)] ≤ 0 := by
  have hle := mul_le_mul_of_nonneg_left hhi hw
  have hnn := mul_nonneg hw hlo
  rw [value,List.map_singleton,List.sum_singleton,LinExpr.eval_ofVar,neg_mul]
  constructor <;> omega

theorem value_penalties {α : Type*} {xs : List α} {x : α → V} {b : α → ℤ} {w : ℤ} (hw : 0 ≤ w)
    (h : ∀ a ∈ xs, 0 ≤ v (x a) ∧ v (x a) ≤ b a) :
    -(w * (xs.map b).sum) ≤ value v (xs.map fun a => (-w,.ofVar (x a))) ∧
      value v (xs.map fun a => (-w,.ofVar (x a))) ≤ 0 := by
  induction xs with
  | nil => simp
  | cons a xs ih =>
    obtain ⟨⟨hlo,hhi⟩,hrest⟩ := List.forall_mem_cons.mp h
    obtain ⟨ihlo,ihhi⟩ := ih hrest
    obtain ⟨h1,h2⟩ := value_penalty hw hlo hhi
    rw [List.map_cons,List.map_cons,List.sum_cons,mul_add,← List.singleton_append,value_append]
    constructor <;> omega

/-- Rewards on 0/1 expressions bring at most the sum of their weights. -/
theorem value_rewards {terms : List (ℤ × LinExpr V)}
    (h : ∀ t ∈ terms, 0 ≤ t.1 ∧ (t.2.eval v = 0 ∨ t.2.eval v = 1)) :
    0 ≤ value v terms ∧ value v terms ≤ (terms.map Prod.fst).sum := by
  induction terms with
  | nil => simp
  | cons t terms ih =>
    obtain ⟨⟨hw,hbool⟩,hrest⟩ := List.forall_mem_cons.mp h
    obtain ⟨ihlo,ihhi⟩ := ih hrest
    simp only [value,List.map_cons,List.sum_cons] at ihlo ihhi ⊢
    rcases hbool with hz | ho
    · rw [hz,mul_zero]
      omega
    · rw [ho,mul_one]
      omega

/-- A weight above the span of the rest makes the weighted count decide. -/
theorem weighted_lt {weight span a b s t : ℤ} (hspan : t - s ≤ span) (hw : span < weight) (hpos : 0 < weight)
    (hab : a < b) : weight * a + t < weight * b + s := by
  have hstep : weight * a + weight ≤ weight * b := by
    have := mul_le_mul_of_nonneg_left (show a + 1 ≤ b by omega) hpos.le
    rwa [mul_add,mul_one] at this
  omega

end

end EduPod.LinearModel
