import Mathlib.Data.List.Basic
import Mathlib.Tactic.Common

/-! # Runs of an executable step function

A run folds a command list over a state. Invariants are carried along the trace,
that is along every state the run passes through and not only its last one.
-/
namespace EduPod.Runs
variable {σ ι : Type*} (step : σ → ι → σ)

/-- Every state of a run, the initial one included. -/
@[grind] def trace : σ → List ι → List σ
  | s, [] => [s]
  | s, o :: os => s :: trace (step s o) os

/-- Each command meets the guard in the very state it is issued in. -/
@[grind] def Guarded (G : σ → ι → Prop) : σ → List ι → Prop
  | _, [] => True
  | s, o :: os => G s o ∧ Guarded G (step s o) os

instance decidableGuarded (G : σ → ι → Prop) [∀ s o, Decidable (G s o)] :
    ∀ s os, Decidable (Guarded step G s os)
  | _, [] => inferInstanceAs (Decidable True)
  | s, o :: os =>
    have := decidableGuarded G (step s o) os
    inferInstanceAs (Decidable (G s o ∧ Guarded step G (step s o) os))

variable {step}

theorem head_mem_trace (s : σ) (os : List ι) : s ∈ trace step s os := by
  cases os <;> simp [trace]

theorem foldl_mem_trace (s : σ) (os : List ι) : os.foldl step s ∈ trace step s os := by
  induction os generalizing s with
  | nil => simp [trace]
  | cons o os ih => exact List.mem_cons_of_mem _ (ih (step s o))

/-- An invariant kept by every guarded step holds along every guarded run. -/
theorem trace_invariant {I : σ → Prop} {G : σ → ι → Prop}
    (hstep : ∀ s o, I s → G s o → I (step s o)) {s : σ} {os : List ι} (hs : I s)
    (hg : Guarded step G s os) : ∀ t ∈ trace step s os, I t := by
  induction os generalizing s with
  | nil => simpa [trace] using hs
  | cons o os ih =>
    obtain ⟨ho,hos⟩ := hg
    intro t ht
    rcases List.mem_cons.mp ht with rfl | ht
    · exact hs
    · exact ih (hstep s o hs ho) hos t ht

theorem Guarded.last {G : σ → ι → Prop} {s : σ} {os : List ι} {o : ι} (hg : Guarded step G s (os ++ [o])) :
    G (os.foldl step s) o := by
  induction os generalizing s with
  | nil => exact hg.1
  | cons a os ih => exact ih hg.2

theorem guarded_of_forall {D : ι → Prop} {s : σ} {os : List ι} (hD : ∀ o ∈ os, D o) :
    Guarded step (fun _ o => D o) s os := by
  induction os generalizing s with
  | nil => trivial
  | cons o os ih => exact ⟨hD o List.mem_cons_self,ih fun o ho => hD o (List.mem_cons_of_mem _ ho)⟩

theorem guarded_of_trace {P : σ → Prop} {s : σ} {os : List ι} (h : ∀ t ∈ trace step s os, P t) :
    Guarded step (fun s o => P (step s o)) s os := by
  induction os generalizing s with
  | nil => trivial
  | cons o os ih =>
    exact ⟨h _ (List.mem_cons_of_mem _ (head_mem_trace _ _)),ih fun t ht => h t (List.mem_cons_of_mem _ ht)⟩

theorem Guarded.mono {G G' : σ → ι → Prop} (h : ∀ s o, G s o → G' s o) {s : σ} {os : List ι}
    (hg : Guarded step G s os) : Guarded step G' s os := by
  induction os generalizing s with
  | nil => trivial
  | cons o os ih => exact ⟨h s o hg.1,ih hg.2⟩

/-- Where the guard decides exactly whether one step keeps `I`, it decides it for
the whole run. `J` is the unconditional part of the invariant, `D` the domain of commands. -/
theorem trace_invariant_iff_of {I J : σ → Prop} {D : ι → Prop} {G : σ → ι → Prop}
    (hJ : ∀ s o, D o → J s → J (step s o))
    (hI : ∀ s o, D o → J s → I s → (I (step s o) ↔ G s o)) {s : σ} {os : List ι}
    (hD : ∀ o ∈ os, D o) (hj : J s) (hi : I s) : (∀ t ∈ trace step s os, I t) ↔ Guarded step G s os := by
  induction os generalizing s with
  | nil => simpa [trace,Guarded] using hi
  | cons o os ih =>
    obtain ⟨hd,hD⟩ := List.forall_mem_cons.mp hD
    have hg := hI s o hd hj hi
    constructor
    · intro h
      have ho : I (step s o) := h _ (List.mem_cons_of_mem _ (head_mem_trace _ _))
      refine ⟨hg.mp ho,(ih hD (hJ s o hd hj) ho).mp ?_⟩
      intro t ht
      exact h t (List.mem_cons_of_mem _ ht)
    · rintro ⟨ho,hos⟩ t ht
      rcases List.mem_cons.mp ht with rfl | ht
      · exact hi
      · exact (ih hD (hJ s o hd hj) (hg.mpr ho)).mpr hos t ht

theorem trace_invariant_iff {I J : σ → Prop} {G : σ → ι → Prop}
    (hJ : ∀ s o, J s → J (step s o))
    (hI : ∀ s o, J s → I s → (I (step s o) ↔ G s o)) {s : σ} {os : List ι} (hj : J s)
    (hi : I s) : (∀ t ∈ trace step s os, I t) ↔ Guarded step G s os :=
  trace_invariant_iff_of (fun s o (_ : True) => hJ s o) (fun s o _ => hI s o)
    (fun _ _ => trivial) hj hi

/-- The same where `J` only stays as long as `I` does. -/
theorem trace_invariant_iff_along_of {I J : σ → Prop} {D : ι → Prop} {G : σ → ι → Prop}
    (hJ : ∀ s o, D o → I s → J s → J (step s o))
    (hI : ∀ s o, D o → I s → J s → (I (step s o) ↔ G s o)) {s : σ} {os : List ι}
    (hD : ∀ o ∈ os, D o) (hi : I s) (hj : J s) : (∀ t ∈ trace step s os, I t) ↔ Guarded step G s os := by
  induction os generalizing s with
  | nil => simpa [trace,Guarded] using hi
  | cons o os ih =>
    obtain ⟨hd,hD⟩ := List.forall_mem_cons.mp hD
    have hg := hI s o hd hi hj
    constructor
    · intro h
      have ho : I (step s o) := h _ (List.mem_cons_of_mem _ (head_mem_trace _ _))
      exact ⟨hg.mp ho,(ih hD ho (hJ s o hd hi hj)).mp fun t ht => h t (List.mem_cons_of_mem _ ht)⟩
    · rintro ⟨ho,hos⟩ t ht
      rcases List.mem_cons.mp ht with rfl | ht
      · exact hi
      · exact (ih hD (hg.mpr ho) (hJ s o hd hi hj)).mpr hos t ht

theorem trace_invariant_iff_along {I J : σ → Prop} {G : σ → ι → Prop}
    (hJ : ∀ s o, I s → J s → J (step s o))
    (hI : ∀ s o, I s → J s → (I (step s o) ↔ G s o)) {s : σ} {os : List ι} (hi : I s) (hj : J s) :
    (∀ t ∈ trace step s os, I t) ↔ Guarded step G s os :=
  trace_invariant_iff_along_of (fun s o (_ : True) => hJ s o) (fun s o _ => hI s o) (fun _ _ => trivial) hi hj

/-- Where the guard makes a step allowed and keep `I`, every step of a guarded run is allowed and every
state has `I`. -/
theorem guarded_and_trace {I : σ → Prop} {A G : σ → ι → Prop} (h : ∀ s o, I s → G s o → A s o ∧ I (step s o))
    {s : σ} {os : List ι} (hs : I s) (hg : Guarded step G s os) : Guarded step A s os ∧ ∀ t ∈ trace step s os, I t := by
  refine ⟨?_,trace_invariant (fun s o hs hg => (h s o hs hg).2) hs hg⟩
  induction os generalizing s with
  | nil => trivial
  | cons o os ih =>
    obtain ⟨hallowed,hnext⟩ := h s o hs hg.1
    exact ⟨hallowed,ih hnext hg.2⟩

/-- The same where the guard decides it exactly. -/
theorem guarded_and_trace_iff {I : σ → Prop} {A G : σ → ι → Prop} (h : ∀ s o, I s → (A s o ∧ I (step s o) ↔ G s o))
    {s : σ} {os : List ι} : (Guarded step A s os ∧ ∀ t ∈ trace step s os, I t) ↔ I s ∧ Guarded step G s os := by
  refine ⟨?_,fun hg => guarded_and_trace (fun s o hs hg => (h s o hs).mpr hg) hg.1 hg.2⟩
  induction os generalizing s with
  | nil => simp [trace,Guarded]
  | cons o os ih =>
    rintro ⟨⟨ho,hos⟩,htrace⟩
    have hs : I s := htrace s List.mem_cons_self
    obtain ⟨hnext,hrest⟩ := ih ⟨hos,fun t ht => htrace t (List.mem_cons_of_mem _ ht)⟩
    exact ⟨hs,(h s o hs).mp ⟨ho,hnext⟩,hrest⟩

/-- A guard that every state with the invariant meets is met along every run. -/
theorem guarded_of_invariant {J : σ → Prop} {G : σ → ι → Prop} (hJ : ∀ s o, J s → J (step s o))
    (hG : ∀ s o, J s → G s o) {s : σ} {os : List ι} (hs : J s) : Guarded step G s os := by
  induction os generalizing s with
  | nil => trivial
  | cons o os ih => exact ⟨hG s o hs,ih (hJ s o hs)⟩

/-- Two guards that agree on every state with the invariant guard the same runs. -/
theorem guarded_iff {J : σ → Prop} {G G' : σ → ι → Prop} (hJ : ∀ s o, J s → J (step s o))
    (hG : ∀ s o, J s → (G s o ↔ G' s o)) {s : σ} {os : List ι} (hs : J s) :
    Guarded step G s os ↔ Guarded step G' s os := by
  induction os generalizing s with
  | nil => exact Iff.rfl
  | cons o os ih => exact and_congr (hG s o hs) (ih (hJ s o hs))

/-- The same where the guard is what keeps the invariant. -/
theorem guarded_iff_along {J : σ → Prop} {G G' : σ → ι → Prop} (hJ : ∀ s o, J s → G' s o → J (step s o))
    (hG : ∀ s o, J s → (G s o ↔ G' s o)) {s : σ} {os : List ι} (hs : J s) :
    Guarded step G s os ↔ Guarded step G' s os := by
  induction os generalizing s with
  | nil => exact Iff.rfl
  | cons o os ih =>
    constructor
    · rintro ⟨ho,hos⟩
      have ho' := (hG s o hs).mp ho
      exact ⟨ho',(ih (hJ s o hs ho')).mp hos⟩
    · rintro ⟨ho,hos⟩
      exact ⟨(hG s o hs).mpr ho,(ih (hJ s o hs ho)).mpr hos⟩

theorem guarded_of_pairwise {R : σ → σ → Prop} {s : σ} {os : List ι} (h : (trace step s os).Pairwise R) :
    Guarded step (fun s o => R s (step s o)) s os := by
  induction os generalizing s with
  | nil => trivial
  | cons o os ih =>
    obtain ⟨hs,hos⟩ := List.pairwise_cons.mp h
    exact ⟨hs _ (head_mem_trace _ _),ih hos⟩

/-- A transitive relation that every step keeps relates any two states of a run in their order. -/
theorem trace_pairwise_iff {R : σ → σ → Prop} (htrans : ∀ r s t, R r s → R s t → R r t) {s : σ} {os : List ι} :
    (trace step s os).Pairwise R ↔ Guarded step (fun s o => R s (step s o)) s os := by
  refine ⟨guarded_of_pairwise,fun h => ?_⟩
  induction os generalizing s with
  | nil => simp [trace]
  | cons o os ih =>
    obtain ⟨hs,hos⟩ := h
    have hpair := ih hos
    refine List.pairwise_cons.mpr ⟨fun t ht => ?_,hpair⟩
    cases os with
    | nil =>
      rw [List.mem_singleton.mp ht]
      exact hs
    | cons o' os =>
      rcases List.mem_cons.mp ht with rfl | ht
      · exact hs
      · exact htrans _ _ _ hs (List.rel_of_pairwise_cons hpair ht)

/-- A conjunction guards a run where both parts do. -/
theorem guarded_and_iff {G G' : σ → ι → Prop} {s : σ} {os : List ι} :
    Guarded step (fun s o => G s o ∧ G' s o) s os ↔ Guarded step G s os ∧ Guarded step G' s os := by
  induction os generalizing s with
  | nil => simp [Guarded]
  | cons o os ih => simp only [Guarded,ih,and_and_and_comm]

theorem rel_foldl_of_pairwise {R : σ → σ → Prop} (hrefl : ∀ s, R s s) {s : σ} {as bs : List ι}
    (h : (trace step s (as ++ bs)).Pairwise R) : R (as.foldl step s) (bs.foldl step (as.foldl step s)) := by
  induction as generalizing s with
  | nil =>
    cases bs with
    | nil => exact hrefl s
    | cons b bs => exact List.rel_of_pairwise_cons h (foldl_mem_trace (step s b) bs)
  | cons a as ih => exact ih (List.Pairwise.of_cons h)

end EduPod.Runs
