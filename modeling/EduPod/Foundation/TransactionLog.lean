import Mathlib
import EduPod.Foundation.ReadCommitted

/-! # Transactions as logs of changes

What a transaction has written so far, seen through an observation of the database, is the list of
the changes it has made. A change is validated when it is made; that it still applies when the
transaction commits is what its locks are for.
-/
namespace EduPod.ReadCommitted
variable {σ κ ε ρ ο χ : Type} (obs : σ → ο) (apply : ο → χ → ο)

/-- Each statement makes at most one change to what is observed, and one it may make by then; `ends`
is what the log of a transaction comes to, told apart by whether it is the last one. -/
@[grind] def Script.Logs (may : ο → List κ → List χ → χ → Prop) (ends : Bool → List χ → Prop) : List χ → Script σ κ ε Unit → Prop
  | log, .done _ => ends true log
  | _, .fail _ => True
  | log, .commit rest => ends false log ∧ Logs may ends [] rest
  | log, .statement locks write next => ∀ view,
      ((∀ d, obs (write view d) = obs d) ∧ Logs may ends log (next view)) ∨
      ∃ c, may (obs view) (locks view) log c ∧ (∀ d, obs (write view d) = apply (obs d) c) ∧
        Logs may ends (log ++ [c]) (next view)

/-- `valid` is what a session knows of its log: a change that may be made is valid under the locks it
takes, and the logs of sessions with other locks leave it valid. -/
structure Validates (may : ο → List κ → List χ → χ → Prop) (valid : ο → List κ → List χ → Prop) : Prop where
  nil : ∀ o, valid o [] []
  append : ∀ o held more log, valid o held log → valid o (held ++ more) log
  snoc : ∀ o held more log c, valid o held log → may (log.foldl apply o) more log c →
    valid o (held ++ more) (log ++ [c])

/-- Where a session stands with its log. -/
def Logged (may : ρ → ο → List κ → List χ → χ → Prop) (ends : ρ → Bool → List χ → Prop)
    (valid : ρ → ο → List κ → List χ → Prop) (db : σ) (s : Session σ κ ε ρ) : Prop :=
  ∃ log, (∀ d, obs (s.pending d) = log.foldl apply (obs d)) ∧ valid s.request (obs db) s.held log ∧
    s.script.Logs obs apply (may s.request) (ends s.request) log

variable {obs apply}

theorem maintained_logged {serve : ρ → Script σ κ ε Unit} {may : ρ → ο → List κ → List χ → χ → Prop}
    {ends : ρ → Bool → List χ → Prop} {valid : ρ → ο → List κ → List χ → Prop}
    (hserve : ∀ request, (serve request).Logs obs apply (may request) (ends request) [])
    (hvalid : ∀ request, Validates apply (may request) (valid request))
    (hothers : ∀ request request' o held held' log log', valid request o held log → valid request' o held' log' →
      List.Disjoint held held' → valid request (log'.foldl apply o) held log) :
    Maintained serve (Logged obs apply may ends valid) := by
  constructor
  · exact fun db request => ⟨[],fun _ => rfl,(hvalid request).nil _,hserve request⟩
  · intro db request locks write next pending held ⟨log,hlog,hv,hs⟩
    rcases hs (pending db) with ⟨hquiet,hnext⟩ | ⟨c,hmay,hwrite,hnext⟩
    · exact ⟨log,fun d => (hquiet _).trans (hlog d),(hvalid request).append _ _ _ _ hv,hnext⟩
    · refine ⟨log ++ [c],fun d => ?_,(hvalid request).snoc _ _ _ _ _ hv (hlog db ▸ hmay),hnext⟩
      rw [List.foldl_append,← hlog d]
      exact hwrite _
  · intro db request rest pending held ⟨_,_,_,hs⟩
    exact ⟨[],fun _ => rfl,(hvalid request).nil _,hs.2⟩
  · intro db s t ⟨log,hlog,hv,hs⟩ ⟨log',hlog',hv',_⟩ _ hd
    refine ⟨log,hlog,?_,hs⟩
    rw [hlog']
    exact hothers _ _ _ _ _ _ _ hv hv' hd

/-! ## Building logs -/

section
variable {may : ο → List κ → List χ → χ → Prop} {ends : Bool → List χ → Prop} {log : List χ} {β : Type}
  {f : β → Script σ κ ε Unit}
open Script

theorem logs_quiet {locks : σ → List κ} {write : σ → σ → σ} {next : σ → Script σ κ ε β}
    (hw : ∀ view d, obs (write view d) = obs d) (h : ∀ view, (next view >>= f).Logs obs apply may ends log) :
    (statement locks write next >>= f).Logs obs apply may ends log :=
  fun view => .inl ⟨hw view,h view⟩

theorem logs_read {q : σ → β} (h : ∀ view, (f (q view)).Logs obs apply may ends log) :
    (read q >>= f).Logs obs apply may ends log :=
  logs_quiet (fun _ _ => rfl) h

theorem logs_require {o : Option β} {e : ε} (h : ∀ b, o = some b → (f b).Logs obs apply may ends log) :
    (require o e >>= f).Logs obs apply may ends log := by
  cases o with
  | none => trivial
  | some b => exact h b rfl

theorem logs_ensure {p : Prop} {dec : Decidable p} {e : ε} {f : Unit → Script σ κ ε Unit}
    (h : p → (f ()).Logs obs apply may ends log) : (ensure p e >>= f).Logs obs apply may ends log := by
  unfold ensure
  split
  · exact h ‹p›
  · trivial

theorem logs_endTransaction {f : Unit → Script σ κ ε Unit} (he : ends false log) (h : (f ()).Logs obs apply may ends []) :
    (endTransaction >>= f).Logs obs apply may ends log := ⟨he,h⟩

/-- An update of one row that fails where the row is missing. -/
def Script.updateRow (row : κ) (found : σ → Bool) (write : σ → σ) (e : ε) : Script σ κ ε Unit := do
  let updated ← updateWhere row found write
  ensure (updated = true) e

theorem logs_updateRow_quiet {row : κ} {found : σ → Bool} {write : σ → σ} {e : ε} {f : Unit → Script σ κ ε Unit}
    (hw : ∀ d, obs (write d) = obs d) (h : (f ()).Logs obs apply may ends log) :
    (updateRow row found write e >>= f).Logs obs apply may ends log := by
  intro view
  refine .inl ⟨fun d => ?_,?_⟩
  · show obs (if found view then write d else d) = obs d
    split
    · exact hw d
    · rfl
  · exact logs_ensure fun _ => h

theorem logs_updateRow {row : κ} {found : σ → Bool} {write : σ → σ} {e : ε} {f : Unit → Script σ κ ε Unit} (c : χ)
    (hmay : ∀ view, found view = true → may (obs view) [row] log c) (hw : ∀ d, obs (write d) = apply (obs d) c)
    (h : (f ()).Logs obs apply may ends (log ++ [c])) :
    (updateRow row found write e >>= f).Logs obs apply may ends log := by
  intro view
  cases hf : found view with
  | true =>
    refine .inr ⟨c,?_,fun d => ?_,?_⟩
    · simpa [hf] using hmay view hf
    · simpa [hf] using hw d
    · simpa [hf,Script.bind,ensure] using h
  | false =>
    refine .inl ⟨fun d => ?_,?_⟩
    · simp [hf]
    · simp [hf,Script.bind,ensure,Script.Logs]

end
end EduPod.ReadCommitted
