import Mathlib
import EduPod.Foundation.Runs
import EduPod.Foundation.Table

/-! # Processes over a shared store

A process takes one action after another, each of them committed at once. Between two actions of one
process any others may take theirs, so what a process has read may be out of date when it writes.
-/
namespace EduPod.Processes
open Runs

variable {σ π ρ ι : Type}

/-- How a request becomes a process, and what a process does next: an action is on the store as it
is then, with what comes from outside, and leaves the rest of the process. -/
structure Protocol (σ π ρ ι : Type) where
  opened : ρ → π
  act : σ → π → ι → σ × Option π

structure State (σ π : Type) where
  store : σ
  processes : Table π

/-- A process may stop at any point. -/
inductive Event (ρ ι : Type)
  | start (request : ρ)
  | act (id : ℕ) (input : ι)
  | stop (id : ℕ)

def State.idle (d : σ) : State σ π := ⟨d,Table.empty⟩

def continueAs (processes : Table π) (id : ℕ) : Option π → Table π
  | none => processes.erase id
  | some next => processes.modify id fun _ => next

@[grind] def step (p : Protocol σ π ρ ι) (st : State σ π) : Event ρ ι → State σ π
  | .start request => { st with processes := st.processes.insert (p.opened request) }
  | .stop id => { st with processes := st.processes.erase id }
  | .act id input =>
    match st.processes.get? id with
    | none => st
    | some process =>
      let acted := p.act st.store process input
      ⟨acted.1,continueAs st.processes id acted.2⟩

variable {p : Protocol σ π ρ ι} {J P : σ → Prop} {I : σ → π → Prop} {C : σ → π → ι → Prop} {st : State σ π}

theorem get?_erase_of_some {processes : Table π} {id i : ℕ} {q : π} (h : (processes.erase id).get? i = some q) :
    processes.get? i = some q := by
  rw [Table.get?_erase] at h
  split at h
  · cases h
  · exact h

/-- After an action the process is what it goes on as, and the others are what they were. -/
theorem get?_continueAs {processes : Table π} {id i : ℕ} {next : Option π} {q : π}
    (h : (continueAs processes id next).get? i = some q) :
    (i = id ∧ next = some q) ∨ (i ≠ id ∧ processes.get? i = some q) := by
  by_cases hi : i = id
  · subst hi
    cases next with
    | none => simp [continueAs,Table.get?_erase] at h
    | some next =>
      rw [continueAs,Table.get?_modify,if_pos rfl] at h
      obtain ⟨_,-,rfl⟩ := Option.map_eq_some_iff.mp h
      exact .inl ⟨rfl,rfl⟩
  · refine .inr ⟨hi,?_⟩
    cases next with
    | none => exact get?_erase_of_some h
    | some next => rwa [continueAs,Table.get?_modify_ne _ hi] at h

theorem step_act {id : ℕ} {q : π} (h : st.processes.get? id = some q) (input : ι) :
    step p st (.act id input) =
      ⟨(p.act st.store q input).1,continueAs st.processes id (p.act st.store q input).2⟩ := by
  simp only [step,h]

theorem step_act_none {id : ℕ} (h : st.processes.get? id = none) (input : ι) : step p st (.act id input) = st := by
  simp only [step,h]

/-! ## What every action keeps -/

/-- Every action keeps `J`, and keeps `I` between the store and each process. -/
structure Kept (p : Protocol σ π ρ ι) (J : σ → Prop) (I : σ → π → Prop) : Prop where
  opened : ∀ d request, J d → I d (p.opened request)
  store : ∀ d q i, J d → I d q → J (p.act d q i).1
  own : ∀ d q i next, J d → I d q → (p.act d q i).2 = some next → I (p.act d q i).1 next
  others : ∀ d q i other, J d → I d q → I d other → I (p.act d q i).1 other

structure Holds (J : σ → Prop) (I : σ → π → Prop) (st : State σ π) : Prop where
  store : J st.store
  processes : ∀ id q, st.processes.get? id = some q → I st.store q

theorem holds_idle {d : σ} (h : J d) : Holds J I (State.idle d : State σ π) := ⟨h,fun _ _ hq => (by cases hq)⟩

theorem holds_step (hk : Kept p J I) (st : State σ π) (e : Event ρ ι) (h : Holds J I st) : Holds J I (step p st e) := by
  cases e with
  | start request =>
    refine ⟨h.store,fun id q hq => ?_⟩
    rw [step,Table.get?_insert] at hq
    split at hq
    · obtain rfl := Option.some.inj hq
      exact hk.opened _ _ h.store
    · exact h.processes id q hq
  | stop id => exact ⟨h.store,fun i q hq => h.processes i q (get?_erase_of_some hq)⟩
  | act id input =>
    cases hq : st.processes.get? id with
    | none =>
      rw [step_act_none hq]
      exact h
    | some q =>
      have hI := h.processes id q hq
      rw [step_act hq]
      refine ⟨hk.store _ _ _ h.store hI,fun i other hother => ?_⟩
      rcases get?_continueAs hother with ⟨-,hnext⟩ | ⟨-,hold⟩
      · exact hk.own _ _ _ _ h.store hI hnext
      · exact hk.others _ _ _ _ h.store hI (h.processes i other hold)

theorem holds_trace (hk : Kept p J I) {d : σ} (h : J d) (events : List (Event ρ ι)) :
    ∀ st ∈ trace (step p) (State.idle d) events, Holds J I st :=
  trace_invariant (G := fun _ _ => True) (fun st e hs _ => holds_step hk st e hs) (holds_idle h)
    (guarded_of_invariant (J := fun _ => True) (fun _ _ h => h) (fun _ _ _ => trivial) trivial)

/-! ## Guards on actions -/

/-- A guard on the action that is taken, in the store that it is taken on. -/
def AtAct (C : σ → π → ι → Prop) (st : State σ π) : Event ρ ι → Prop
  | .act id input => ∀ q, st.processes.get? id = some q → C st.store q input
  | _ => True

instance decidableAtAct [∀ d q i, Decidable (C d q i)] (st : State σ π) : ∀ e : Event ρ ι, Decidable (AtAct C st e)
  | .start _ => inferInstanceAs (Decidable True)
  | .stop _ => inferInstanceAs (Decidable True)
  | .act id input =>
    match h : st.processes.get? id with
    | none => isTrue fun _ hq => (by cases h.symm.trans hq)
    | some q => decidable_of_iff (C st.store q input) ⟨fun hC _ hq => Option.some.inj (h.symm.trans hq) ▸ hC,fun hC => hC q h⟩

theorem step_atAct_iff (hP : P st.store)
    (h : ∀ id q input, st.processes.get? id = some q → (P (p.act st.store q input).1 ↔ C st.store q input))
    (e : Event ρ ι) : P (step p st e).store ↔ AtAct C st e := by
  cases e with
  | start request => exact iff_of_true hP trivial
  | stop id => exact iff_of_true hP trivial
  | act id input =>
    cases hq : st.processes.get? id with
    | none =>
      rw [step_act_none hq]
      exact iff_of_true hP fun q hq' => absurd (hq.symm.trans hq') (by simp)
    | some q =>
      rw [step_act hq,h id q input hq]
      constructor
      · intro hC q' hq'
        obtain rfl := Option.some.inj (hq.symm.trans hq')
        exact hC
      · exact fun hC => hC q hq

/-- Where an action keeps `P` precisely if it meets `C`, a run keeps `P` precisely if all its actions meet `C`. -/
theorem trace_iff_atAct (hk : Kept p J I) (hP : ∀ d q i, J d → I d q → P d → (P (p.act d q i).1 ↔ C d q i)) {d : σ}
    (hd : J d) (hp : P d) (events : List (Event ρ ι)) :
    (∀ st ∈ trace (step p) (State.idle d) events, P st.store) ↔ Guarded (step p) (AtAct C) (State.idle d) events := by
  refine trace_invariant_iff (I := fun st => P st.store) (J := Holds J I) (holds_step hk) (fun st e hs hp => ?_)
    (holds_idle hd) hp
  exact step_atAct_iff hp (fun id q input hq => hP _ _ _ hs.store (hs.processes id q hq) hp) e

/-! ## What processes hold for themselves -/

section
variable {κ : Type} (claims : π → List κ)

/-- No two processes hold the same. -/
def Exclusive (st : State σ π) : Prop := ∀ i j q q', i ≠ j → st.processes.get? i = some q →
  st.processes.get? j = some q' → List.Disjoint (claims q) (claims q')

/-- What the process that acts takes hold of, no other process holds. -/
def TakesFree (p : Protocol σ π ρ ι) (st : State σ π) : Event ρ ι → Prop
  | .act id input => ∀ q next, st.processes.get? id = some q → (p.act st.store q input).2 = some next →
    ∀ k ∈ claims next, k ∉ claims q → ∀ j other, j ≠ id → st.processes.get? j = some other → k ∉ claims other
  | _ => True

/-- Every action that meets `C` keeps `J` and its own `I`, and keeps `I` of a process that holds nothing
the acting one does. -/
structure KeptExclusive (p : Protocol σ π ρ ι) (claims : π → List κ) (J : σ → Prop) (I : σ → π → Prop)
    (C : σ → π → ι → Prop) : Prop where
  opened : ∀ d request, J d → I d (p.opened request)
  unclaimed : ∀ request, claims (p.opened request) = []
  store : ∀ d q i, J d → I d q → C d q i → J (p.act d q i).1
  own : ∀ d q i next, J d → I d q → C d q i → (p.act d q i).2 = some next → I (p.act d q i).1 next
  others : ∀ d q i other, J d → I d q → I d other → C d q i → List.Disjoint (claims q) (claims other) →
    I (p.act d q i).1 other

variable {claims}

theorem exclusive_step (hopen : ∀ request, claims (p.opened request) = []) (h : Exclusive claims st) {e : Event ρ ι}
    (he : TakesFree claims p st e) : Exclusive claims (step p st e) := by
  cases e with
  | start request =>
    intro i j q q' hij hq hq'
    rw [step,Table.get?_insert] at hq hq'
    split at hq <;> split at hq'
    · omega
    · obtain rfl := Option.some.inj hq
      rw [hopen]
      exact List.disjoint_nil_left _
    · obtain rfl := Option.some.inj hq'
      rw [hopen]
      exact List.disjoint_nil_right _
    · exact h i j q q' hij hq hq'
  | stop id => exact fun i j q q' hij hq hq' => h i j q q' hij (get?_erase_of_some hq) (get?_erase_of_some hq')
  | act id input =>
    cases hget : st.processes.get? id with
    | none =>
      rw [step_act_none hget]
      exact h
    | some p₀ =>
      rw [step_act hget]
      have hnext : ∀ j other next, j ≠ id → st.processes.get? j = some other → (p.act st.store p₀ input).2 = some next →
          List.Disjoint (claims next) (claims other) := by
        intro j other next hj hother hnext k hk hk'
        by_cases hold : k ∈ claims p₀
        · exact h id j p₀ other hj.symm hget hother hold hk'
        · exact he p₀ next hget hnext k hk hold j other hj hother hk'
      intro i j q q' hij hq hq'
      rcases get?_continueAs hq with ⟨rfl,hown⟩ | ⟨hi,hold⟩ <;> rcases get?_continueAs hq' with ⟨rfl,hown'⟩ | ⟨hj,hold'⟩
      · exact absurd rfl hij
      · exact hnext j q' q hj hold' hown
      · exact List.disjoint_symm (hnext i q q' hi hold hown')
      · exact h i j q q' hij hold hold'

theorem holds_exclusive_step (hk : KeptExclusive p claims J I C) (st : State σ π) (e : Event ρ ι)
    (h : Holds J I st ∧ Exclusive claims st) (he : TakesFree claims p st e ∧ AtAct C st e) :
    Holds J I (step p st e) ∧ Exclusive claims (step p st e) := by
  obtain ⟨hholds,hexclusive⟩ := h
  refine ⟨?_,exclusive_step hk.unclaimed hexclusive he.1⟩
  cases e with
  | start request =>
    refine ⟨hholds.store,fun id q hq => ?_⟩
    rw [step,Table.get?_insert] at hq
    split at hq
    · obtain rfl := Option.some.inj hq
      exact hk.opened _ _ hholds.store
    · exact hholds.processes id q hq
  | stop id => exact ⟨hholds.store,fun i q hq => hholds.processes i q (get?_erase_of_some hq)⟩
  | act id input =>
    cases hq : st.processes.get? id with
    | none =>
      rw [step_act_none hq]
      exact hholds
    | some q =>
      have hI := hholds.processes id q hq
      have hC := he.2 q hq
      rw [step_act hq]
      refine ⟨hk.store _ _ _ hholds.store hI hC,fun i other hother => ?_⟩
      rcases get?_continueAs hother with ⟨-,hnext⟩ | ⟨hi,hold⟩
      · exact hk.own _ _ _ _ hholds.store hI hC hnext
      · exact hk.others _ _ _ _ hholds.store hI (hholds.processes i other hold) hC
          (hexclusive id i q other hi.symm hq hold)

/-- Where processes only take hold of what is free, no two ever hold the same. -/
theorem exclusive_trace (hk : KeptExclusive p claims J I C) {d : σ} (hd : J d) {events : List (Event ρ ι)}
    (hg : Guarded (step p) (fun st e => TakesFree claims p st e ∧ AtAct C st e) (State.idle d) events) :
    ∀ st ∈ trace (step p) (State.idle d) events, Holds J I st ∧ Exclusive claims st :=
  trace_invariant (holds_exclusive_step hk) ⟨holds_idle hd,fun _ _ _ _ _ hq => (by cases hq)⟩ hg

end

end EduPod.Processes
