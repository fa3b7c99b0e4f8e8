import Mathlib.Tactic.Common

/-! # Fallible steps

Requests check their preconditions one by one and stop at the first failure. The
two inversion rules below take an accepted request apart without unfolding it.
-/
namespace EduPod.Fallible
universe u
variable {ε : Type*} {α β : Type u}

/-- Stop with `e` unless `p` holds. -/
def ensure (p : Prop) [Decidable p] (e : ε) : Except ε PUnit := if p then .ok ⟨⟩ else .error e

/-- Stop with `e` unless the lookup found something. -/
def require (o : Option α) (e : ε) : Except ε α :=
  match o with
  | some a => .ok a
  | none => .error e

theorem bind_eq_ok {x : Except ε α} {f : α → Except ε β} {b : β} :
    x >>= f = .ok b ↔ ∃ a, x = .ok a ∧ f a = .ok b := by
  cases x with
  | error e => simp [Bind.bind,Except.bind]
  | ok a => simp [Bind.bind,Except.bind]

theorem ok_bind {a : α} {f : α → Except ε β} : Except.ok a >>= f = f a := rfl

@[simp] theorem ensure_eq_ok {p : Prop} [Decidable p] {e : ε} {u : PUnit} :
    ensure p e = .ok u ↔ p := by
  unfold ensure
  split <;> simp [*]

@[simp] theorem require_eq_ok {o : Option α} {e : ε} {a : α} : require o e = .ok a ↔ o = some a := by
  cases o <;> simp [require]

@[simp] theorem pure_eq_ok {a b : α} : (pure a : Except ε α) = .ok b ↔ a = b := by
  simp [pure,Except.pure]

theorem exists_of_isOk {x : Except ε α} (h : x.isOk = true) : ∃ a, x = .ok a := by
  cases x with
  | error e => cases h
  | ok a => exact ⟨a,rfl⟩

theorem exists_error_of_ne_ok {x : Except ε α} (h : ∀ a, x ≠ .ok a) : ∃ e, x = .error e := by
  cases x with
  | error e => exact ⟨e,rfl⟩
  | ok a => exact absurd rfl (h a)

theorem ensure_bind_eq_ok {p : Prop} [Decidable p] {e : ε} {f : PUnit → Except ε β} {b : β} :
    ensure p e >>= f = .ok b ↔ p ∧ f ⟨⟩ = .ok b := by
  unfold ensure
  by_cases h : p <;> simp [Bind.bind,Except.bind,h]

theorem require_bind_eq_ok {o : Option α} {e : ε} {f : α → Except ε β} {b : β} :
    require o e >>= f = .ok b ↔ ∃ a, o = some a ∧ f a = .ok b := by
  simp [bind_eq_ok]

/-- A check over a list passes when it passes on every element. -/
theorem forM_eq_ok {γ : Type*} {f : γ → Except ε PUnit.{u + 1}} {cs : List γ} :
    cs.forM f = .ok ⟨⟩ ↔ ∀ c ∈ cs, f c = .ok ⟨⟩ := by
  induction cs with
  | nil => exact iff_of_true rfl (fun _ h => absurd h List.not_mem_nil)
  | cons c cs ih =>
    change (f c >>= fun _ => cs.forM f) = .ok ⟨⟩ ↔ _
    rw [bind_eq_ok,List.forall_mem_cons,← ih]
    constructor
    · rintro ⟨⟨⟩,hc,hcs⟩
      exact ⟨hc,hcs⟩
    · rintro ⟨hc,hcs⟩
      exact ⟨⟨⟩,hc,hcs⟩

/-- A fold runs through when every step does from a state that keeps the invariant. -/
theorem foldlM_exists_ok {γ : Type*} {f : α → γ → Except ε α} {I : α → Prop} {cs : List γ}
    (hok : ∀ a, I a → ∀ c ∈ cs, ∃ a', f a c = .ok a' ∧ I a') {a : α} (ha : I a) :
    ∃ a', cs.foldlM f a = .ok a' ∧ I a' := by
  induction cs generalizing a with
  | nil => exact ⟨a,rfl,ha⟩
  | cons c cs ih =>
    obtain ⟨b,hb,hI⟩ := hok a ha c List.mem_cons_self
    obtain ⟨a',ha',hI'⟩ := ih (fun a ha c hc => hok a ha c (List.mem_cons_of_mem _ hc)) hI
    refine ⟨a',?_,hI'⟩
    rw [List.foldlM_cons,bind_eq_ok]
    exact ⟨b,hb,ha'⟩

/-- What every step of a fold keeps of the state the fold started from, the fold keeps. -/
theorem foldlM_relates {γ : Type*} {f : α → γ → Except ε α} {R : α → α → Prop} {cs : List γ} {a b a' : α}
    (hstep : ∀ b, R a b → ∀ c ∈ cs, ∀ b', f b c = .ok b' → R a b') (hb : R a b)
    (h : cs.foldlM f b = .ok a') : R a a' := by
  induction cs generalizing b with
  | nil =>
    cases h
    exact hb
  | cons c cs ih =>
    rw [List.foldlM_cons,bind_eq_ok] at h
    obtain ⟨b',hb',h⟩ := h
    apply ih
    · intro d hd e he
      exact hstep d hd e (List.mem_cons_of_mem c he)
    · exact hstep b hb c List.mem_cons_self b' hb'
    · exact h

end EduPod.Fallible
