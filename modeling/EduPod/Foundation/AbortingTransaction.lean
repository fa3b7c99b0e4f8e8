import Mathlib

/-! # Transactions that a refused statement aborts

A script runs inside a transaction and may catch its errors. A statement that the database refuses aborts
the transaction: what is caught stays caught, but every later statement fails and nothing is committed.
-/
namespace EduPod.AbortingTransaction
variable {σ ε α β : Type}

structure Tx (σ : Type) where
  store : σ
  aborted : Bool

/-- A step of a transaction. Its writes outlive an error of its own. -/
def Script (σ ε α : Type) : Type := Tx σ → Except ε α × Tx σ

namespace Script

def done (a : α) : Script σ ε α := fun t => (.ok a,t)

def andThen (x : Script σ ε α) (f : α → Script σ ε β) : Script σ ε β := fun t =>
  match x t with
  | (.ok a,t') => f a t'
  | (.error e,t') => (.error e,t')

instance : Monad (Script σ ε) where
  pure := done
  bind := andThen

/-- An error on the side of the caller; the database does not hear of it. -/
def throw (e : ε) : Script σ ε α := fun t => (.error e,t)

def caught (x : Script σ ε α) (handler : ε → Script σ ε α) : Script σ ε α := fun t =>
  match x t with
  | (.ok a,t') => (.ok a,t')
  | (.error e,t') => handler e t'

def require (o : Option α) (e : ε) : Script σ ε α := o.elim (throw e) Pure.pure

/-- A statement that the database refuses when it yields nothing. -/
def statement (refused aborted : ε) (f : σ → Option (α × σ)) : Script σ ε α := fun t =>
  if t.aborted then (.error aborted,t)
  else
    match f t.store with
    | some (a,store) => (.ok a,{ t with store := store })
    | none => (.error refused,{ t with aborted := true })

/-- What is committed when the script returns; after an error or an abort nothing is. -/
def transaction (x : Script σ ε α) (s : σ) : Option σ :=
  match x ⟨s,false⟩ with
  | (.ok _,t) => if t.aborted then none else some t.store
  | (.error _,_) => none

section
variable {x : Script σ ε α} {f : α → Script σ ε β} {handler : ε → Script σ ε α} {t t' : Tx σ} {s s' : σ} {a : α} {e : ε}

@[simp] theorem pure_apply : (Pure.pure a : Script σ ε α) t = (.ok a,t) := rfl

@[simp] theorem throw_apply : (throw e : Script σ ε α) t = (.error e,t) := rfl

theorem bind_ok (h : x t = (.ok a,t')) : (x >>= f) t = f a t' := by
  change andThen x f t = _
  rw [andThen,h]

theorem bind_error (h : x t = (.error e,t')) : (x >>= f) t = (.error e,t') := by
  change andThen x f t = _
  rw [andThen,h]

theorem caught_ok (h : x t = (.ok a,t')) : caught x handler t = (.ok a,t') := by rw [caught,h]

theorem caught_error (h : x t = (.error e,t')) : caught x handler t = handler e t' := by rw [caught,h]

theorem statement_ok {refused aborted : ε} {f : σ → Option (α × σ)} (h : f s = some (a,s')) :
    statement refused aborted f ⟨s,false⟩ = (.ok a,⟨s',false⟩) := by
  simp [statement,h]

theorem statement_refused {refused aborted : ε} {f : σ → Option (α × σ)} (h : f s = none) :
    statement refused aborted f ⟨s,false⟩ = (.error refused,⟨s,true⟩) := by
  simp [statement,h]

theorem transaction_ok (h : x ⟨s,false⟩ = (.ok a,⟨s',false⟩)) : transaction x s = some s' := by
  simp [transaction,h]

theorem transaction_aborted (h : (x ⟨s,false⟩).2.aborted = true) : transaction x s = none := by
  unfold transaction
  split
  · rename_i a t ht
    rw [ht] at h
    rw [if_pos h]
  · rfl

end

/-! ## Aborted transactions stay as they are -/

/-- The script leaves an aborted transaction alone. -/
def Inert (x : Script σ ε α) : Prop := ∀ t, t.aborted = true → (x t).2 = t

section
variable {x : Script σ ε α} {f : α → Script σ ε β}

theorem inert_pure (a : α) : Inert (Pure.pure a : Script σ ε α) := fun _ _ => rfl

theorem inert_throw (e : ε) : Inert (throw e : Script σ ε α) := fun _ _ => rfl

theorem inert_require (o : Option α) (e : ε) : Inert (require o e : Script σ ε α) := by
  cases o with
  | none => exact inert_throw e
  | some a => exact inert_pure a

theorem inert_statement (refused aborted : ε) (f : σ → Option (α × σ)) : Inert (statement refused aborted f) := by
  intro t ht
  rw [statement,if_pos ht]

theorem inert_bind (hx : Inert x) (hf : ∀ a, Inert (f a)) : Inert (x >>= f) := by
  intro t ht
  obtain ⟨r,hr⟩ : ∃ r, x t = (r,t) := ⟨(x t).1,Prod.ext rfl (hx t ht)⟩
  cases r with
  | ok a =>
    rw [bind_ok hr]
    exact hf a t ht
  | error e => rw [bind_error hr]

theorem inert_caught {handler : ε → Script σ ε α} (hx : Inert x) (hh : ∀ e, Inert (handler e)) : Inert (caught x handler) := by
  intro t ht
  obtain ⟨r,hr⟩ : ∃ r, x t = (r,t) := ⟨(x t).1,Prod.ext rfl (hx t ht)⟩
  cases r with
  | ok a => rw [caught_ok hr]
  | error e =>
    rw [caught_error hr]
    exact hh e t ht

theorem inert_foldlM {γ : Type} {g : α → γ → Script σ ε α} (hg : ∀ a c, Inert (g a c)) (cs : List γ) (a : α) :
    Inert (cs.foldlM g a) := by
  induction cs generalizing a with
  | nil => exact inert_pure a
  | cons c cs ih =>
    rw [List.foldlM_cons]
    exact inert_bind (hg a c) fun a' => ih a'

/-- Once a step of a sequence has aborted it, the transaction is aborted to the end. -/
theorem aborted_bind (hf : ∀ a, Inert (f a)) {t : Tx σ} (h : (x t).2.aborted = true) : ((x >>= f) t).2.aborted = true := by
  obtain ⟨r,t',hr⟩ : ∃ r t', x t = (r,t') := ⟨_,_,rfl⟩
  rw [hr] at h
  cases r with
  | ok a =>
    rw [bind_ok hr,hf a t' h]
    exact h
  | error e =>
    rw [bind_error hr]
    exact h

theorem aborted_caught {handler : ε → Script σ ε α} (hh : ∀ e, Inert (handler e)) {t : Tx σ}
    (h : (x t).2.aborted = true) : (caught x handler t).2.aborted = true := by
  obtain ⟨r,t',hr⟩ : ∃ r t', x t = (r,t') := ⟨_,_,rfl⟩
  rw [hr] at h
  cases r with
  | ok a =>
    rw [caught_ok hr]
    exact h
  | error e =>
    rw [caught_error hr,hh e t' h]
    exact h

end
end Script
end EduPod.AbortingTransaction
