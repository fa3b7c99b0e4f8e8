import Mathlib
import EduPod.Foundation.TransactionLog

/-! # What a session has found out

A fact that no change can undo still holds when a session acts on it. A session reads its facts
before its first write, from a committed database, which besides meets whatever every commit keeps.
-/
namespace EduPod.ReadCommitted
variable {σ κ ε ρ ο χ φ : Type}

/-- `I` relates every session to the committed database while commits keep `J`. -/
structure MaintainedUnder (serve : ρ → Script σ κ ε Unit) (J : σ → Prop) (I : σ → Session σ κ ε ρ → Prop) : Prop where
  opened : ∀ db request, J db → I db (.opened serve request)
  statement : ∀ db request locks write next pending held, J db →
    I db ⟨request,.statement locks write next,pending,held⟩ →
    I db ⟨request,next (pending db),fun d => write (pending db) (pending d),held ++ locks (pending db)⟩
  commit : ∀ db request rest pending held, J db → I db ⟨request,.commit rest,pending,held⟩ →
    I (pending db) ⟨request,rest,fun d => d,[]⟩
  others : ∀ db s t, J db → I db s → I db t → t.script.commits = true → List.Disjoint s.held t.held →
    I (t.pending db) s
  keeps : ∀ db s, J db → I db s → s.script.commits = true → J (s.pending db)

/-- Every session meets `I`, no row is locked twice, and the database meets `J`. -/
structure CoherentUnder (J : σ → Prop) (I : σ → Session σ κ ε ρ → Prop) (st : State σ κ ε ρ) : Prop where
  coherent : Coherent I st
  base : J st.db

variable {serve : ρ → Script σ κ ε Unit} {J : σ → Prop} {I : σ → Session σ κ ε ρ → Prop} {st : State σ κ ε ρ}

theorem coherentUnder_idle {d : σ} (hd : J d) : CoherentUnder J I (State.idle d : State σ κ ε ρ) :=
  ⟨coherent_idle I d,hd⟩

theorem coherentUnder_step [DecidableEq κ] (hm : MaintainedUnder serve J I) (st : State σ κ ε ρ) (e : Event ρ)
    (h : CoherentUnder J I st) : CoherentUnder J I (step serve st e) := by
  obtain ⟨hc,hJ⟩ := h
  cases e with
  | start request => exact ⟨hc.insert (hm.opened st.db request hJ) rfl,hJ⟩
  | abort id => exact ⟨hc.erase id,hJ⟩
  | advance id =>
    cases hs : st.sessions.get? id with
    | none =>
      rw [step_advance_none hs]
      exact ⟨hc,hJ⟩
    | some s =>
      obtain ⟨request,script,pending,held⟩ := s
      have hI := hc.sessions id _ hs
      have hcommit : script.commits = true → ∀ j t, j ≠ id → st.sessions.get? j = some t → I (pending st.db) t :=
        fun hcm j t hj ht => hm.others st.db t _ hJ (hc.sessions j t ht) hI hcm (hc.exclusive j id t _ hj ht hs)
      simp only [step,hs]
      cases script with
      | done u =>
        refine ⟨⟨?_,(hc.erase id).exclusive⟩,hm.keeps _ _ hJ hI rfl⟩
        intro j t hj
        by_cases hne : j = id
        · simp [Table.get?_erase,hne] at hj
        · rw [Table.get?_erase,if_neg hne] at hj
          exact hcommit rfl j t hne hj
      | fail e => exact ⟨hc.erase id,hJ⟩
      | commit rest =>
        refine ⟨hc.modify hs (hm.commit st.db request rest pending held hJ hI) (hcommit rfl) ?_,hm.keeps _ _ hJ hI rfl⟩
        intro j t _ _
        exact List.disjoint_nil_left _
      | statement locks write next =>
        dsimp only
        cases hw : st.waits id (locks (pending st.db)) with
        | true =>
          rw [if_pos rfl]
          exact ⟨hc,hJ⟩
        | false =>
          rw [if_neg Bool.false_ne_true]
          refine ⟨hc.modify hs (hm.statement st.db request locks write next pending held hJ hI) ?_ ?_,hJ⟩
          · intro j t _ ht
            exact hc.sessions j t ht
          · intro j t hj ht
            rw [List.disjoint_append_left]
            exact ⟨hc.exclusive id j _ t hj.symm hs ht,disjoint_of_not_waits hw hj ht⟩

/-! ## Guards on what commits -/

/-- A guard on the sessions that commit, in the database they commit to. -/
def AtCommit (C : σ → Session σ κ ε ρ → Prop) (st : State σ κ ε ρ) : Event ρ → Prop
  | .advance id => ∀ s, st.sessions.get? id = some s → s.script.commits = true → C st.db s
  | _ => True

theorem step_atCommit_iff [DecidableEq κ] {P : σ → Prop} {C : σ → Session σ κ ε ρ → Prop} (hp : P st.db)
    (h : ∀ id s, st.sessions.get? id = some s → s.script.commits = true → (P (s.pending st.db) ↔ C st.db s))
    (e : Event ρ) : P (step serve st e).db ↔ AtCommit C st e := by
  cases e with
  | start request => exact iff_of_true hp trivial
  | abort id => exact iff_of_true hp trivial
  | advance id =>
    cases hs : st.sessions.get? id with
    | none =>
      rw [step_advance_none hs]
      exact iff_of_true hp fun s hs' => by simp [hs] at hs'
    | some s =>
      have hguard : AtCommit C st (.advance id) ↔ (s.script.commits = true → C st.db s) := by
        constructor
        · exact fun hg => hg s hs
        · intro hg s' hs'
          obtain rfl : s = s' := Option.some.inj (hs.symm.trans hs')
          exact hg
      rw [step_advance_db hs,hguard]
      split
      · rename_i hc
        exact (h id s hs hc).trans ⟨fun hg _ => hg,fun hg => hg hc⟩
      · rename_i hc
        exact iff_of_true hp fun hc' => absurd hc' hc

/-- Where a commit keeps `P` precisely if it meets `C`, a run keeps `P` precisely if each of its
commits does. -/
theorem trace_iff_atCommit [DecidableEq κ] {K : State σ κ ε ρ → Prop} {P : σ → Prop}
    {C : σ → Session σ κ ε ρ → Prop} (hK : ∀ st e, K st → K (step serve st e))
    (hP : ∀ st, K st → P st.db → ∀ id s, st.sessions.get? id = some s → s.script.commits = true →
      (P (s.pending st.db) ↔ C st.db s)) {d : σ} (hd : K (State.idle d)) (events : List (Event ρ)) :
    (∀ st ∈ Runs.trace (step serve) (State.idle d) events, P st.db) ↔
      P d ∧ Runs.Guarded (step serve) (AtCommit C) (State.idle d) events := by
  have hiff : P d → ((∀ st ∈ Runs.trace (step serve) (State.idle d) events, P st.db) ↔
      Runs.Guarded (step serve) (AtCommit C) (State.idle d) events) :=
    Runs.trace_invariant_iff (I := fun st => P st.db) hK
      (fun st e hk hp => step_atCommit_iff hp (hP st hk hp) e) hd
  constructor
  · intro h
    have hp : P d := h _ (Runs.head_mem_trace _ _)
    exact ⟨hp,(hiff hp).mp h⟩
  · rintro ⟨hp,hg⟩
    exact (hiff hp).mpr hg

/-! ## Facts and logs -/

variable (obs : σ → ο) (apply : ο → χ → ο) (holds : φ → ο → Prop) (base : ο → Prop)

/-- Each statement makes at most one change to what is observed. Before the first change a statement
may put what it sees in place of the facts known so far; `ends` is what facts and changes come to. -/
@[grind] def Script.Informs (ends : φ → List χ → Prop) : φ → List χ → Script σ κ ε Unit → Prop
  | fact, log, .done _ => ends fact log
  | _, _, .fail _ => True
  | fact, log, .commit rest => ends fact log ∧ Informs ends fact [] rest
  | fact, log, .statement _ write next => ∀ view, holds fact (obs view) → (log = [] → base (obs view)) →
      (∃ fact', (fact' = fact ∨ log = [] ∧ holds fact' (obs view)) ∧ (∀ d, obs (write view d) = obs d) ∧
        Informs ends fact' log (next view)) ∨
      ∃ c, (∀ d, obs (write view d) = apply (obs d) c) ∧ Informs ends fact (log ++ [c]) (next view)

/-- Where a session stands with its facts and its log. -/
def Informed (ends : ρ → φ → List χ → Prop) (db : σ) (s : Session σ κ ε ρ) : Prop :=
  ∃ fact log, holds fact (obs db) ∧ (∀ d, obs (s.pending d) = log.foldl apply (obs d)) ∧
    s.script.Informs obs apply holds base (ends s.request) fact log

variable {obs apply holds base}

theorem holds_foldl (hstable : ∀ fact o c, holds fact o → holds fact (apply o c)) {fact : φ} {o : ο} (log : List χ)
    (h : holds fact o) : holds fact (log.foldl apply o) := by
  induction log generalizing o with
  | nil => exact h
  | cons c log ih => exact ih (hstable fact o c h)

/-- What a session that commits has written is a whole log. -/
theorem Informed.ends {ends : ρ → φ → List χ → Prop} {db : σ} {s : Session σ κ ε ρ}
    (h : Informed obs apply holds base ends db s) (hc : s.script.commits = true) :
    ∃ fact log, holds fact (obs db) ∧ obs (s.pending db) = log.foldl apply (obs db) ∧ ends s.request fact log := by
  obtain ⟨fact,log,hfact,hlog,hscript⟩ := h
  refine ⟨fact,log,hfact,hlog db,?_⟩
  cases hcase : s.script with
  | done u =>
    rw [hcase] at hscript
    exact hscript
  | fail e => simp [hcase,Script.commits] at hc
  | commit rest =>
    rw [hcase] at hscript
    exact hscript.1
  | statement locks write next => simp [hcase,Script.commits] at hc

theorem maintained_informed {ends : ρ → φ → List χ → Prop} (start : φ) (hstart : ∀ o, holds start o)
    (hserve : ∀ request, (serve request).Informs obs apply holds base (ends request) start [])
    (hstable : ∀ fact o c, holds fact o → holds fact (apply o c))
    (hbase : ∀ request fact log o, base o → holds fact o → ends request fact log → base (log.foldl apply o)) :
    MaintainedUnder serve (fun db => base (obs db)) (Informed obs apply holds base ends) := by
  constructor
  · exact fun db request _ => ⟨start,[],hstart _,fun _ => rfl,hserve request⟩
  · intro db request locks write next pending held hb ⟨fact,log,hfact,hlog,hs⟩
    have hview : holds fact (obs (pending db)) := by
      rw [hlog]
      exact holds_foldl hstable log hfact
    have hclean : log = [] → obs (pending db) = obs db := by
      rintro rfl
      exact hlog db
    rcases hs (pending db) hview (fun he => by rw [hclean he]; exact hb) with ⟨fact',hfact',hquiet,hnext⟩ | ⟨c,hwrite,hnext⟩
    · refine ⟨fact',log,?_,fun d => (hquiet _).trans (hlog d),hnext⟩
      rcases hfact' with rfl | ⟨he,hfact'⟩
      · exact hfact
      · rw [← hclean he]
        exact hfact'
    · refine ⟨fact,log ++ [c],hfact,fun d => ?_,hnext⟩
      rw [List.foldl_append,← hlog d]
      exact hwrite _
  · intro db request rest pending held _ ⟨fact,log,hfact,hlog,hs⟩
    refine ⟨fact,[],?_,fun _ => rfl,hs.2⟩
    rw [hlog]
    exact holds_foldl hstable log hfact
  · intro db s t _ ⟨fact,log,hfact,hlog,hs⟩ ⟨_,log',_,hlog',_⟩ _ _
    refine ⟨fact,log,?_,hlog,hs⟩
    rw [hlog']
    exact holds_foldl hstable log' hfact
  · intro db s hb hs hc
    obtain ⟨fact,log,hfact,hlog,hends⟩ := hs.ends hc
    rw [hlog]
    exact hbase _ _ _ _ hb hfact hends

/-! ## Building -/

section
variable {ends : φ → List χ → Prop} {fact : φ} {log : List χ} {β : Type} {f : β → Script σ κ ε Unit}
open Script

theorem informs_quiet {locks : σ → List κ} {write : σ → σ → σ} {next : σ → Script σ κ ε β}
    (hw : ∀ view d, obs (write view d) = obs d)
    (h : ∀ view, holds fact (obs view) → (next view >>= f).Informs obs apply holds base ends fact log) :
    (statement locks write next >>= f).Informs obs apply holds base ends fact log :=
  fun view hf _ => .inl ⟨fact,.inl rfl,hw view,h view hf⟩

theorem informs_read {q : σ → β} (h : ∀ view, (f (q view)).Informs obs apply holds base ends fact log) :
    (read q >>= f).Informs obs apply holds base ends fact log :=
  informs_quiet (fun _ _ => rfl) fun view _ => h view

/-- A query before the first write, from which a fact is kept. -/
theorem informs_read_fact {q : σ → β} (h : ∀ view, base (obs view) →
      ∃ fact', holds fact' (obs view) ∧ (f (q view)).Informs obs apply holds base ends fact' []) :
    (read q >>= f).Informs obs apply holds base ends fact [] := by
  intro view _ hb
  obtain ⟨fact',hfact',hnext⟩ := h view (hb rfl)
  exact .inl ⟨fact',.inr ⟨rfl,hfact'⟩,fun _ => rfl,hnext⟩

theorem informs_require {o : Option β} {e : ε} (h : ∀ b, o = some b → (f b).Informs obs apply holds base ends fact log) :
    (require o e >>= f).Informs obs apply holds base ends fact log := by
  cases o with
  | none => trivial
  | some b => exact h b rfl

theorem informs_ensure {p : Prop} {dec : Decidable p} {e : ε} {f : Unit → Script σ κ ε Unit}
    (h : p → (f ()).Informs obs apply holds base ends fact log) :
    (ensure p e >>= f).Informs obs apply holds base ends fact log := by
  unfold ensure
  split
  · exact h ‹p›
  · trivial

/-- An update of a row that is known to be there. -/
theorem informs_updateWhere {row : κ} {found : σ → Bool} {write : σ → σ} {f : Bool → Script σ κ ε Unit} (c : χ)
    (hfound : ∀ view, holds fact (obs view) → found view = true) (hw : ∀ d, obs (write d) = apply (obs d) c)
    (h : (f true).Informs obs apply holds base ends fact (log ++ [c])) :
    (updateWhere row found write >>= f).Informs obs apply holds base ends fact log := by
  intro view hf _
  have hv := hfound view hf
  refine .inr ⟨c,fun d => ?_,?_⟩
  · simpa [hv] using hw d
  · simpa [hv,Script.bind] using h

theorem informs_insert {write : σ → σ} {f : Unit → Script σ κ ε Unit} (c : χ) (hw : ∀ d, obs (write d) = apply (obs d) c)
    (h : (f ()).Informs obs apply holds base ends fact (log ++ [c])) :
    (insert write >>= f).Informs obs apply holds base ends fact log :=
  fun _ _ _ => .inr ⟨c,hw,h⟩

theorem informs_insert_quiet {write : σ → σ} {f : Unit → Script σ κ ε Unit} (hw : ∀ d, obs (write d) = obs d)
    (h : (f ()).Informs obs apply holds base ends fact log) :
    (insert write >>= f).Informs obs apply holds base ends fact log :=
  informs_quiet (fun _ d => hw d) fun _ _ => h

/-- An update of one row that fails where the row is missing. -/
theorem informs_updateRow {row : κ} {found : σ → Bool} {write : σ → σ} {e : ε} {f : Unit → Script σ κ ε Unit} (c : χ)
    (hw : ∀ d, obs (write d) = apply (obs d) c) (h : (f ()).Informs obs apply holds base ends fact (log ++ [c])) :
    (updateRow row found write e >>= f).Informs obs apply holds base ends fact log := by
  intro view _ _
  cases hf : found view with
  | true =>
    refine .inr ⟨c,fun d => ?_,?_⟩
    · simpa [hf] using hw d
    · simpa [hf,Script.bind,ensure] using h
  | false =>
    refine .inl ⟨fact,.inl rfl,fun d => ?_,?_⟩
    · simp [hf]
    · simp [hf,Script.bind,ensure,Script.Informs]

theorem informs_updateRow_quiet {row : κ} {found : σ → Bool} {write : σ → σ} {e : ε} {f : Unit → Script σ κ ε Unit}
    (hw : ∀ d, obs (write d) = obs d) (h : (f ()).Informs obs apply holds base ends fact log) :
    (updateRow row found write e >>= f).Informs obs apply holds base ends fact log := by
  intro view _ _
  refine .inl ⟨fact,.inl rfl,fun d => ?_,?_⟩
  · show obs (if found view then write d else d) = obs d
    split
    · exact hw d
    · rfl
  · exact informs_ensure fun _ => h

end
end EduPod.ReadCommitted
