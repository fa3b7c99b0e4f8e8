import EduPod.Foundation.Runs
import EduPod.Foundation.Table

/-! # Interleaved transactions at read committed

A request is a script of statements over a database `σ`. Every statement reads what is committed
at that moment, plus what its own transaction has written, and waits while another session holds
one of the row locks it takes. Writes and locks last until the transaction commits or fails.
-/
namespace EduPod.ReadCommitted

/-- What is left of a request. A statement names the locks it takes and the write it makes on the
view it runs on, and hands that view on. -/
inductive Script (σ κ ε α : Type)
  | done (a : α)
  | fail (e : ε)
  | commit (rest : Script σ κ ε α)
  | statement (locks : σ → List κ) (write : σ → σ → σ) (next : σ → Script σ κ ε α)

namespace Script
variable {σ κ ε α β : Type}

def bind : Script σ κ ε α → (α → Script σ κ ε β) → Script σ κ ε β
  | done a, f => f a
  | fail e, _ => fail e
  | commit rest, f => commit (rest.bind f)
  | statement locks write next, f => statement locks write fun view => (next view).bind f

instance : Monad (Script σ κ ε) where
  pure := done
  bind := bind

/-- A query. -/
def read (f : σ → α) : Script σ κ ε α := statement (fun _ => []) (fun _ db => db) fun view => done (f view)

/-- `SELECT … FOR UPDATE` of known rows. -/
def lock (rows : List κ) : Script σ κ ε Unit := statement (fun _ => rows) (fun _ db => db) fun _ => done ()

def insert (write : σ → σ) : Script σ κ ε Unit := statement (fun _ => []) (fun _ => write) fun _ => done ()

/-- An update of one row under a condition on it; says whether the row was found. -/
def updateWhere (row : κ) (found : σ → Bool) (write : σ → σ) : Script σ κ ε Bool :=
  statement (fun view => if found view then [row] else [])
    (fun view db => if found view then write db else db) fun view => done (found view)

def ensure (p : Prop) [Decidable p] (e : ε) : Script σ κ ε Unit := if p then done () else fail e

def require (o : Option α) (e : ε) : Script σ κ ε α :=
  match o with
  | some a => done a
  | none => fail e

/-- Close the transaction and open the next one. -/
def endTransaction : Script σ κ ε Unit := commit (done ())

theorem bind_assoc {γ : Type} (x : Script σ κ ε α) (f : α → Script σ κ ε β) (g : β → Script σ κ ε γ) :
    x >>= f >>= g = x >>= fun a => f a >>= g := by
  induction x with
  | done a => rfl
  | fail e => rfl
  | commit rest ih => exact congrArg Script.commit ih
  | statement locks write next ih => exact congrArg (Script.statement locks write) (funext ih)

theorem bind_done (x : Script σ κ ε α) : x >>= Script.done = x := by
  induction x with
  | done a => rfl
  | fail e => rfl
  | commit rest ih => exact congrArg Script.commit ih
  | statement locks write next ih => exact congrArg (Script.statement locks write) (funext ih)

/-- The script is about to commit, for good or before its next transaction. -/
def commits : Script σ κ ε α → Bool
  | done _ | commit _ => true
  | fail _ | statement .. => false

/-- The script by itself, on a committed database and the view of its open transaction: the database
committed in the end, and the last view with the result unless it fails. -/
def run : Script σ κ ε α → σ → σ → σ × Except ε (σ × α)
  | done a, db, view => (db,.ok (view,a))
  | fail e, db, _ => (db,.error e)
  | commit rest, _, view => rest.run view view
  | statement _ write next, db, view => (next view).run db (write view view)

/-- What a run leaves committed once its last transaction is over. -/
def settled : σ × Except ε (σ × α) → σ
  | (_,.ok (view,_)) => view
  | (db,.error _) => db

theorem run_bind_ok {x : Script σ κ ε α} {db view db' view' : σ} {a : α}
    (h : x.run db view = (db',.ok (view',a))) (f : α → Script σ κ ε β) :
    (x >>= f).run db view = (f a).run db' view' := by
  induction x generalizing db view with
  | done b =>
    cases h
    rfl
  | fail e => cases h
  | commit rest ih => exact ih h
  | statement locks write next ih => exact ih view h

theorem run_bind_error {x : Script σ κ ε α} {db view db' : σ} {e : ε} (h : x.run db view = (db',.error e))
    (f : α → Script σ κ ε β) : (x >>= f).run db view = (db',.error e) := by
  induction x generalizing db view with
  | done b => cases h
  | fail e =>
    cases h
    rfl
  | commit rest ih => exact ih h
  | statement locks write next ih => exact ih view h

end Script

/-- A request under way: what its open transaction has written so far and the locks it holds. -/
structure Session (σ κ ε ρ : Type) where
  request : ρ
  script : Script σ κ ε Unit
  pending : σ → σ
  held : List κ

/-- The committed database and the requests under way. -/
structure State (σ κ ε ρ : Type) where
  db : σ
  sessions : Table (Session σ κ ε ρ)

/-- A request arrives, or one under way takes its next turn or breaks off. -/
inductive Event (ρ : Type)
  | start (request : ρ)
  | advance (id : ℕ)
  | abort (id : ℕ)

variable {σ κ ε ρ : Type}

def State.idle (db : σ) : State σ κ ε ρ := ⟨db,.empty⟩

def Session.opened (serve : ρ → Script σ κ ε Unit) (request : ρ) : Session σ κ ε ρ :=
  ⟨request,serve request,id,[]⟩

/-- Another session holds one of the rows. -/
def State.waits [DecidableEq κ] (st : State σ κ ε ρ) (id : ℕ) (rows : List κ) : Bool :=
  st.sessions.rows.any fun s => s.1 ≠ id && rows.any fun row => s.2.held.contains row

@[grind] def step [DecidableEq κ] (serve : ρ → Script σ κ ε Unit) (st : State σ κ ε ρ) : Event ρ → State σ κ ε ρ
  | .start request => { st with sessions := st.sessions.insert (.opened serve request) }
  | .abort id => { st with sessions := st.sessions.erase id }
  | .advance id =>
    match st.sessions.get? id with
    | none => st
    | some s =>
      match s.script with
      | .done _ => { db := s.pending st.db, sessions := st.sessions.erase id }
      | .fail _ => { st with sessions := st.sessions.erase id }
      | .commit rest =>
        { db := s.pending st.db
          sessions := st.sessions.modify id fun _ => ⟨s.request,rest,fun db => db,[]⟩ }
      | .statement locks write next =>
        let view := s.pending st.db
        if st.waits id (locks view) then st
        else { st with sessions := st.sessions.modify id fun _ =>
          ⟨s.request,next view,fun db => write view (s.pending db),s.held ++ locks view⟩ }

/-! ## Reasoning about one session at a time -/

/-- `I` relates every session to the committed database, whatever the session does next and
whatever another session with other locks commits. -/
structure Maintained (serve : ρ → Script σ κ ε Unit) (I : σ → Session σ κ ε ρ → Prop) : Prop where
  opened : ∀ db request, I db (.opened serve request)
  statement : ∀ db request locks write next pending held,
    I db ⟨request,.statement locks write next,pending,held⟩ →
    I db ⟨request,next (pending db),fun d => write (pending db) (pending d),held ++ locks (pending db)⟩
  commit : ∀ db request rest pending held, I db ⟨request,.commit rest,pending,held⟩ →
    I (pending db) ⟨request,rest,fun d => d,[]⟩
  others : ∀ db s t, I db s → I db t → t.script.commits = true → List.Disjoint s.held t.held →
    I (t.pending db) s

/-- Every session meets `I`, and no row is locked twice. -/
structure Coherent (I : σ → Session σ κ ε ρ → Prop) (st : State σ κ ε ρ) : Prop where
  sessions : ∀ id s, st.sessions.get? id = some s → I st.db s
  exclusive : ∀ i j s t, i ≠ j → st.sessions.get? i = some s → st.sessions.get? j = some t →
    List.Disjoint s.held t.held

theorem coherent_idle (I : σ → Session σ κ ε ρ → Prop) (db : σ) : Coherent I (State.idle db) :=
  ⟨fun _ _ h => (Option.some_ne_none _ h.symm).elim,fun _ _ _ _ _ h => (Option.some_ne_none _ h.symm).elim⟩

variable {serve : ρ → Script σ κ ε Unit} {I : σ → Session σ κ ε ρ → Prop} {st : State σ κ ε ρ}

theorem Coherent.insert (h : Coherent I st) {s : Session σ κ ε ρ} (hs : I st.db s) (hh : s.held = []) :
    Coherent I { st with sessions := st.sessions.insert s } := by
  constructor
  · intro id s' hs'
    rw [Table.get?_insert] at hs'
    split at hs'
    · cases hs'
      exact hs
    · exact h.sessions id s' hs'
  · intro i j a b hij ha hb
    rw [Table.get?_insert] at ha hb
    split at ha <;> split at hb
    · omega
    · cases ha
      simp [hh]
    · cases hb
      simp [hh]
    · exact h.exclusive i j a b hij ha hb

theorem Coherent.erase (h : Coherent I st) (id : ℕ) :
    Coherent I { st with sessions := st.sessions.erase id } := by
  have hkept : ∀ j s, (st.sessions.erase id).get? j = some s → st.sessions.get? j = some s := by
    intro j s hj
    rw [Table.get?_erase] at hj
    split at hj
    · cases hj
    · exact hj
  exact ⟨fun j s hj => h.sessions j s (hkept j s hj),fun i j s t hij hi hj =>
    h.exclusive i j s t hij (hkept i s hi) (hkept j t hj)⟩

/-- What a session commits leaves the others as they were. -/
theorem Coherent.commit (hm : Maintained serve I) (h : Coherent I st) {id : ℕ} {s : Session σ κ ε ρ}
    (hs : st.sessions.get? id = some s) (hc : s.script.commits = true) :
    ∀ j t, j ≠ id → st.sessions.get? j = some t → I (s.pending st.db) t := by
  intro j t hj ht
  exact hm.others st.db t s (h.sessions j t ht) (h.sessions id s hs) hc (h.exclusive j id t s hj ht hs)

/-- A session that goes on only has to stay clear of the others' locks. -/
theorem Coherent.modify (h : Coherent I st) {id : ℕ} {s s' : Session σ κ ε ρ} {db : σ}
    (hs : st.sessions.get? id = some s) (hown : I db s')
    (hothers : ∀ j t, j ≠ id → st.sessions.get? j = some t → I db t)
    (hheld : ∀ j t, j ≠ id → st.sessions.get? j = some t → List.Disjoint s'.held t.held) :
    Coherent I ⟨db,st.sessions.modify id fun _ => s'⟩ := by
  have hget : ∀ j t, (st.sessions.modify id fun _ => s').get? j = some t →
      (j = id ∧ t = s') ∨ (j ≠ id ∧ st.sessions.get? j = some t) := by
    intro j t hj
    by_cases hne : j = id
    · subst hne
      rw [Table.get?_modify_self hs] at hj
      exact Or.inl ⟨rfl,(Option.some.inj hj).symm⟩
    · rw [Table.get?_modify_ne _ hne] at hj
      exact Or.inr ⟨hne,hj⟩
  constructor
  · intro j t hj
    rcases hget j t hj with ⟨-,rfl⟩ | ⟨hne,hj⟩
    · exact hown
    · exact hothers j t hne hj
  · intro i j a b hij ha hb
    rcases hget i a ha with ⟨rfl,rfl⟩ | ⟨hi,hia⟩ <;> rcases hget j b hb with ⟨rfl,rfl⟩ | ⟨hj,hjb⟩
    · exact absurd rfl hij
    · exact hheld j b hj hjb
    · exact List.disjoint_symm (hheld i a hi hia)
    · exact h.exclusive i j a b hij hia hjb

variable [DecidableEq κ]

theorem disjoint_of_not_waits {id : ℕ} {rows : List κ} (hw : st.waits id rows = false) {j : ℕ}
    {t : Session σ κ ε ρ} (hj : j ≠ id) (ht : st.sessions.get? j = some t) : List.Disjoint rows t.held := by
  intro row hrow hheld
  have := List.any_eq_false.mp hw (j,t) (Table.mem_of_get? ht)
  simp only [ne_eq,hj,not_false_eq_true,decide_true,Bool.true_and,Bool.not_eq_true,List.any_eq_false,
    List.contains_eq_mem,decide_eq_false_iff_not] at this
  exact this row hrow hheld

/-- Each step keeps the sessions coherent. -/
theorem coherent_step (hm : Maintained serve I) (st : State σ κ ε ρ) (e : Event ρ) (h : Coherent I st) :
    Coherent I (step serve st e) := by
  cases e with
  | start request => exact h.insert (hm.opened st.db request) rfl
  | abort id => exact h.erase id
  | advance id =>
    simp only [step]
    cases hs : st.sessions.get? id with
    | none => exact h
    | some s =>
      obtain ⟨request,script,pending,held⟩ := s
      have hI := h.sessions id _ hs
      cases script with
      | done u =>
        have hothers := h.commit hm hs rfl
        have herase := h.erase id
        refine ⟨?_,herase.exclusive⟩
        intro j t hj
        by_cases hne : j = id
        · simp [Table.get?_erase,hne] at hj
        · rw [Table.get?_erase,if_neg hne] at hj
          exact hothers j t hne hj
      | fail e => exact h.erase id
      | commit rest =>
        apply h.modify hs (hm.commit st.db request rest pending held hI) (h.commit hm hs rfl)
        intro j t _ _
        exact List.disjoint_nil_left _
      | statement locks write next =>
        cases hw : st.waits id (locks (pending st.db)) with
        | true => simpa only [hw,if_true] using h
        | false =>
          simp only [hw,Bool.false_eq_true,if_false]
          apply h.modify hs (hm.statement st.db request locks write next pending held hI)
          · intro j t _ ht
            exact h.sessions j t ht
          · intro j t hj ht
            rw [List.disjoint_append_left]
            exact ⟨h.exclusive id j _ t hj.symm hs ht,disjoint_of_not_waits hw hj ht⟩

/-- Only a session that commits changes the database. -/
theorem step_advance_db {id : ℕ} {s : Session σ κ ε ρ} (hs : st.sessions.get? id = some s) :
    (step serve st (.advance id)).db = if s.script.commits then s.pending st.db else st.db := by
  obtain ⟨request,script,pending,held⟩ := s
  simp only [step,hs]
  cases script with
  | done u => rfl
  | fail e => rfl
  | commit rest => rfl
  | statement locks write next =>
    simp only [Script.commits,Bool.false_eq_true,if_false]
    split <;> rfl

theorem step_advance_none {id : ℕ} (hs : st.sessions.get? id = none) : step serve st (.advance id) = st := by
  simp only [step,hs]

/-- A session with nobody beside it takes the database where its script takes it by itself, and is over. -/
theorem exists_advance_run (serve : ρ → Script σ κ ε Unit) {st : State σ κ ε ρ} {id : ℕ}
    {s : Session σ κ ε ρ} (hs : st.sessions.rows = [(id,s)]) :
    ∃ n, ((List.replicate n (Event.advance id)).foldl (step serve) st).db =
      Script.settled (s.script.run st.db (s.pending st.db)) ∧
        ((List.replicate n (Event.advance id)).foldl (step serve) st).sessions.rows = [] := by
  obtain ⟨request,script,pending,held⟩ := s
  have hget : ∀ {st : State σ κ ε ρ} {s}, st.sessions.rows = [(id,s)] → st.sessions.get? id = some s := by
    intro st s h
    exact Table.get?_of_mem (by rw [h]; exact List.mem_singleton_self _)
  have hmod : ∀ {t : Table (Session σ κ ε ρ)} {s : Session σ κ ε ρ} (s'), t.rows = [(id,s)] →
      (t.modify id fun _ => s').rows = [(id,s')] := by
    intro t s s' h
    simp [Table.modify,h]
  have herase : (st.sessions.erase id).rows = [] := by simp [Table.erase,hs]
  induction script generalizing st pending held with
  | done u =>
    refine ⟨1,?_,?_⟩
    · simp [step,hget hs,Script.run,Script.settled]
    · simp [step,hget hs,herase]
  | fail e =>
    refine ⟨1,?_,?_⟩
    · simp [step,hget hs,Script.run,Script.settled]
    · simp [step,hget hs,herase]
  | commit rest ih =>
    have hnext : (step serve st (.advance id)).sessions.rows = [(id,⟨request,rest,fun db => db,[]⟩)] := by
      simp only [step,hget hs]
      exact hmod _ hs
    obtain ⟨n,hn,hover⟩ := ih (fun db => db) [] hnext (by simp [Table.erase,hnext])
    refine ⟨n + 1,?_,?_⟩
    · rw [List.replicate_succ,List.foldl_cons,hn]
      simp [step,hget hs,Script.run]
    · rw [List.replicate_succ,List.foldl_cons,hover]
  | statement locks write next ih =>
    have hw : st.waits id (locks (pending st.db)) = false := by simp [State.waits,hs]
    have hstep : step serve st (.advance id) = { st with sessions := st.sessions.modify id fun _ =>
        ⟨request,next (pending st.db),fun db => write (pending st.db) (pending db),
          held ++ locks (pending st.db)⟩ } := by
      simp only [step,hget hs,hw,Bool.false_eq_true,if_false]
    have hnext : (step serve st (.advance id)).sessions.rows = [(id,⟨request,next (pending st.db),
        fun db => write (pending st.db) (pending db),held ++ locks (pending st.db)⟩)] := by
      rw [hstep]
      exact hmod _ hs
    obtain ⟨n,hn,hover⟩ := ih (pending st.db) (fun db => write (pending st.db) (pending db))
      (held ++ locks (pending st.db)) hnext (by simp [Table.erase,hnext])
    refine ⟨n + 1,?_,?_⟩
    · rw [List.replicate_succ,List.foldl_cons,hn,hstep]
      rfl
    · rw [List.replicate_succ,List.foldl_cons,hover]

/-- Requests served one after another, each with nobody beside it. -/
theorem exists_serial_run (serve : ρ → Script σ κ ε Unit) (requests : List ρ) {st : State σ κ ε ρ}
    (hidle : st.sessions.rows = []) : ∃ events : List (Event ρ),
    (events.foldl (step serve) st).db =
        requests.foldl (fun db request => Script.settled ((serve request).run db db)) st.db ∧
      (events.foldl (step serve) st).sessions.rows = [] := by
  induction requests generalizing st with
  | nil => exact ⟨[],rfl,hidle⟩
  | cons request requests ih =>
    have hstarted : (step serve st (.start request)).sessions.rows =
        [(st.sessions.next,⟨request,serve request,fun db => db,[]⟩)] := by
      simp only [step,Table.insert,hidle,List.nil_append]
      rfl
    obtain ⟨n,hn,hover⟩ := exists_advance_run serve hstarted
    obtain ⟨events,hdb,hend⟩ := ih hover
    refine ⟨.start request :: (List.replicate n (.advance st.sessions.next) ++ events),?_,?_⟩
    · rw [List.foldl_cons,List.foldl_append,hdb,hn]
      rfl
    · rw [List.foldl_cons,List.foldl_append,hend]

end EduPod.ReadCommitted
