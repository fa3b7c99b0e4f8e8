import Mathlib
import EduPod.Foundation.ReadCommitted

/-! # What a session knows of the rows it holds

A session changes existing rows only under their locks, and a row it holds stays as it is until it
commits. What it has found out about such a row is therefore still true when its writes arrive.
-/
namespace EduPod.ReadCommitted
variable {σ κ ε ρ ι α : Type} (get : σ → ι → Option α) (key : ι → κ)

/-- Both databases have the held rows, and have the same in them. -/
def Agree (held : List κ) (d d' : σ) : Prop := ∀ i, key i ∈ held → ∃ a, get d i = some a ∧ get d' i = some a

/-- Away from the held rows `d'` has what `d` has, and new rows besides. -/
def Framed (fresh : α → Prop) (held : List κ) (d d' : σ) : Prop :=
  ∀ i, key i ∉ held → get d' i = get d i ∨ (get d i = none ∧ ∃ a, get d' i = some a ∧ fresh a)

/-- A write that changes existing rows only where they are held, and by these rows alone. -/
structure Owns (fresh : α → Prop) (held : List κ) (w : σ → σ) : Prop where
  framed : ∀ d, Framed get key fresh held d (w d)
  agree : ∀ d d', Agree get key held d d' → Agree get key held (w d) (w d')

/-- Each held row has gone where the law of its request lets it go. -/
def Obeys (law : ι → α → α → Prop) (held : List κ) (d d' : σ) : Prop :=
  ∀ i, key i ∈ held → ∃ a a', get d i = some a ∧ get d' i = some a' ∧ law i a a'

/-- A script that locks existing rows before it changes them and obeys the law whenever it commits,
where `base` and `view` give the held rows as committed and as the session sees them. -/
@[grind] def Lawful (fresh : α → Prop) (law : ι → α → α → Prop) : List κ → σ → σ → Script σ κ ε Unit → Prop
  | held, base, view, .done _ => Obeys get key law held base view
  | _, _, _, .fail _ => True
  | held, base, view, .commit rest => Obeys get key law held base view ∧ ∀ db, Lawful fresh law [] db db rest
  | held, base, view, .statement locks write next => ∀ base' view', Agree get key held base base' →
      Agree get key held view view' → Framed get key fresh held base' view' →
      (∀ i, key i ∈ locks view' → ∃ a, get base' i = some a) ∧
      Owns get key fresh (held ++ locks view') (write view') ∧
      Lawful fresh law (held ++ locks view') base' (write view' view') (next view')

/-- Where a session stands with the rows it holds. -/
structure Standing (fresh : ρ → α → Prop) (law : ρ → ι → α → α → Prop) (db : σ) (s : Session σ κ ε ρ) : Prop where
  owns : Owns get key (fresh s.request) s.held s.pending
  present : Agree get key s.held db db
  lawful : Lawful get key (fresh s.request) (law s.request) s.held db (s.pending db) s.script

variable {get key} {fresh : α → Prop} {law : ι → α → α → Prop} {held more : List κ} {d d' d'' : σ} {w w' : σ → σ}

theorem Agree.symm (h : Agree get key held d d') : Agree get key held d' d := by
  intro i hi
  obtain ⟨a,ha,ha'⟩ := h i hi
  exact ⟨a,ha',ha⟩

theorem Agree.trans (h : Agree get key held d d') (h' : Agree get key held d' d'') : Agree get key held d d'' := by
  intro i hi
  obtain ⟨a,ha,ha'⟩ := h i hi
  obtain ⟨b,hb,hb'⟩ := h' i hi
  obtain rfl : a = b := Option.some.inj (ha'.symm.trans hb)
  exact ⟨a,ha,hb'⟩

theorem agree_append : Agree get key (held ++ more) d d' ↔ Agree get key held d d' ∧ Agree get key more d d' := by
  constructor
  · intro h
    exact ⟨fun i hi => h i (List.mem_append_left _ hi),fun i hi => h i (List.mem_append_right _ hi)⟩
  · rintro ⟨h,h'⟩ i hi
    rcases List.mem_append.mp hi with hi | hi
    · exact h i hi
    · exact h' i hi

theorem framed_refl (d : σ) : Framed get key fresh held d d := fun _ _ => .inl rfl

/-- A row that is there already stays as it is. -/
theorem Framed.kept (h : Framed get key fresh held d d') {i : ι} {a : α} (hi : key i ∉ held) (ha : get d i = some a) :
    get d' i = some a := by
  rcases h i hi with he | ⟨hn,-⟩
  · rw [he,ha]
  · simp [ha] at hn

theorem Framed.trans (h : Framed get key fresh held d d') (h' : Framed get key fresh held d' d'') :
    Framed get key fresh held d d'' := by
  intro i hi
  rcases h i hi with he | ⟨hn,a,ha,hf⟩
  · rw [← he]
    exact h' i hi
  · exact .inr ⟨hn,a,h'.kept hi ha,hf⟩

theorem Framed.append (h : Framed get key fresh held d d') : Framed get key fresh (held ++ more) d d' :=
  fun i hi => h i fun hm => hi (List.mem_append_left _ hm)

theorem owns_id : Owns get key fresh held fun d => d := ⟨framed_refl,fun _ _ h => h⟩

theorem Owns.append (h : Owns get key fresh held w) : Owns get key fresh (held ++ more) w := by
  refine ⟨fun d => (h.framed d).append,?_⟩
  intro d d' ha i hi
  by_cases hk : key i ∈ held
  · exact h.agree d d' (agree_append.mp ha).1 i hk
  · obtain ⟨a,hd,hd'⟩ := ha i hi
    exact ⟨a,(h.framed d).kept hk hd,(h.framed d').kept hk hd'⟩

theorem Owns.comp (h' : Owns get key fresh held w') (h : Owns get key fresh held w) :
    Owns get key fresh held fun d => w' (w d) :=
  ⟨fun d => (h.framed d).trans (h'.framed _),fun d d' ha => h'.agree _ _ (h.agree d d' ha)⟩

theorem Obeys.congr {b b' v v' : σ} (hb : Agree get key held b b') (hv : Agree get key held v v')
    (h : Obeys get key law held b v) : Obeys get key law held b' v' := by
  intro i hi
  obtain ⟨a,a',ha,ha',hl⟩ := h i hi
  obtain ⟨x,hx,hx'⟩ := hb i hi
  obtain ⟨y,hy,hy'⟩ := hv i hi
  obtain rfl : a = x := Option.some.inj (ha.symm.trans hx)
  obtain rfl : a' = y := Option.some.inj (ha'.symm.trans hy)
  exact ⟨a,a',hx',hy',hl⟩

/-- Whether a script is lawful is decided by the held rows. -/
theorem Lawful.congr {script : Script σ κ ε Unit} {b b' v v' : σ} (hb : Agree get key held b b')
    (hv : Agree get key held v v') (h : Lawful get key fresh law held b v script) :
    Lawful get key fresh law held b' v' script := by
  cases script with
  | done u => exact Obeys.congr hb hv h
  | fail e => trivial
  | commit rest => exact ⟨Obeys.congr hb hv h.1,h.2⟩
  | statement locks write next => exact fun b'' v'' hb' hv' hf => h b'' v'' (hb.trans hb') (hv.trans hv') hf

section
variable {serve : ρ → Script σ κ ε Unit} {fresh : ρ → α → Prop} {law : ρ → ι → α → α → Prop}

/-- Lawful requests keep their standing whatever the others commit. -/
theorem maintained_standing (h : ∀ request db, Lawful get key (fresh request) (law request) [] db db (serve request)) :
    Maintained serve (Standing get key fresh law) := by
  constructor
  · intro db request
    exact ⟨owns_id,fun _ hi => (List.not_mem_nil hi).elim,h request db⟩
  · intro db request locks write next pending held ⟨howns,hpresent,hlaw⟩
    obtain ⟨hlocks,hwrite,hnext⟩ := hlaw db (pending db) hpresent (howns.agree db db hpresent) (howns.framed db)
    refine ⟨hwrite.comp howns.append,agree_append.mpr ⟨hpresent,?_⟩,hnext⟩
    intro i hi
    obtain ⟨a,ha⟩ := hlocks i hi
    exact ⟨a,ha,ha⟩
  · intro db request rest pending held ⟨_,_,hlaw⟩
    exact ⟨owns_id,fun _ hi => (List.not_mem_nil hi).elim,hlaw.2 _⟩
  · intro db s t hs ht _ hd
    have hagree : Agree get key s.held db (t.pending db) := by
      intro i hi
      obtain ⟨a,ha,-⟩ := hs.present i hi
      exact ⟨a,ha,(ht.owns.framed db).kept (hd hi) ha⟩
    exact ⟨hs.owns,hagree.symm.trans hagree,hs.lawful.congr hagree (hs.owns.agree _ _ hagree)⟩

theorem Standing.obeys {db : σ} {s : Session σ κ ε ρ} (h : Standing get key fresh law db s)
    (hc : s.script.commits = true) : Obeys get key (law s.request) s.held db (s.pending db) := by
  have hlaw := h.lawful
  cases hs : s.script with
  | done u => rwa [hs] at hlaw
  | fail e => simp [hs,Script.commits] at hc
  | commit rest =>
    rw [hs] at hlaw
    exact hlaw.1
  | statement locks write next => simp [hs,Script.commits] at hc

end

/-! ## What no script changes -/

section
variable {τ β γ : Type} (q : σ → τ)

/-- No write of the script changes `q`. -/
@[grind] def Script.Keeps : Script σ κ ε β → Prop
  | .done _ => True
  | .fail _ => True
  | .commit rest => Keeps rest
  | .statement _ write next => ∀ view, (∀ d, q (write view d) = q d) ∧ Keeps (next view)

variable {q}

theorem Script.Keeps.bind {x : Script σ κ ε β} {f : β → Script σ κ ε γ} (hx : x.Keeps q) (hf : ∀ b, (f b).Keeps q) :
    (x >>= f).Keeps q := by
  induction x with
  | done b => exact hf b
  | fail e => trivial
  | commit rest ih => exact ih hx
  | statement locks write next ih => exact fun view => ⟨(hx view).1,ih view (hx view).2⟩

theorem Script.keeps_pure (b : β) : (pure b : Script σ κ ε β).Keeps q := trivial

theorem Script.keeps_read (f : σ → β) : (Script.read f : Script σ κ ε β).Keeps q := fun _ => ⟨fun _ => rfl,trivial⟩

theorem Script.keeps_require {o : Option β} {e : ε} : (Script.require o e : Script σ κ ε β).Keeps q := by
  cases o <;> trivial

theorem Script.keeps_ensure {p : Prop} {dec : Decidable p} {e : ε} : (Script.ensure p e : Script σ κ ε Unit).Keeps q := by
  unfold Script.ensure
  split <;> trivial

theorem Script.keeps_statement {locks : σ → List κ} {write : σ → σ → σ} {next : σ → Script σ κ ε β}
    (hw : ∀ view d, q (write view d) = q d) (hn : ∀ view, (next view).Keeps q) :
    (Script.statement locks write next).Keeps q := fun view => ⟨hw view,hn view⟩

/-- Sessions whose scripts keep `q` commit nothing that changes it. -/
theorem maintained_keeps {serve : ρ → Script σ κ ε Unit} (h : ∀ request, (serve request).Keeps q) :
    Maintained serve fun _ s => (∀ d, q (s.pending d) = q d) ∧ s.script.Keeps q := by
  constructor
  · exact fun db request => ⟨fun _ => rfl,h request⟩
  · intro db request locks write next pending held ⟨hp,hs⟩
    exact ⟨fun d => ((hs _).1 _).trans (hp d),(hs _).2⟩
  · intro db request rest pending held ⟨_,hs⟩
    exact ⟨fun _ => rfl,hs⟩
  · intro db s t hs _ _ _
    exact hs

end

/-! ## Building lawful scripts -/

section
variable {β : Type} {base view : σ} {f : β → Script σ κ ε Unit}
open Script

/-- A query leaves the session where it was, before some states with the same held rows. -/
theorem lawful_read {q : σ → β} (h : ∀ base' view', Agree get key held base base' → Agree get key held view view' →
    Framed get key fresh held base' view' → Lawful get key fresh law held base' view' (f (q view'))) :
    Lawful get key fresh law held base view (read q >>= f) := by
  intro base' view' hb hv hf
  refine ⟨fun _ hi => (List.not_mem_nil hi).elim,owns_id,?_⟩
  rw [List.append_nil]
  exact h base' view' hb hv hf

theorem lawful_require {o : Option β} {e : ε} (h : ∀ b, o = some b → Lawful get key fresh law held base view (f b)) :
    Lawful get key fresh law held base view (require o e >>= f) := by
  cases o with
  | none => trivial
  | some b => exact h b rfl

theorem lawful_ensure {p : Prop} {dec : Decidable p} {e : ε} {f : Unit → Script σ κ ε Unit}
    (h : p → Lawful get key fresh law held base view (f ())) :
    Lawful get key fresh law held base view (ensure p e >>= f) := by
  unfold ensure
  split
  · exact h ‹p›
  · trivial

end

end EduPod.ReadCommitted
