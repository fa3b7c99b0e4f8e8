import EduPod.Admissions.Requests

/-! # What each request may do to an application it holds

Assertions about the held applications, as committed and as the session sees them, carried from
statement to statement.
-/
namespace EduPod.Admissions
open ReadCommitted Script

def School.application (d : School) (id : ℕ) : Option Application := d.applications.get? id

/-- `Lawful` for the rows of applications, of scripts that insert none. -/
abbrev LawfulTx (law : ℕ → Application → Application → Prop) (held : List Row) (base view : School) (tx : Tx Unit) : Prop :=
  Lawful School.application Row.application (fun _ => False) law held base view tx

/-- The session holds these applications, and `P` relates each held one as committed and as it sees it. -/
structure Knows (P : ℕ → Application → Application → Prop) (ids : List ℕ) (held : List Row) (base view : School) : Prop where
  obeys : Obeys School.application Row.application P held base view
  holds : ∀ i ∈ ids, Row.application i ∈ held

section
variable {P Q law : ℕ → Application → Application → Prop} {ids : List ℕ} {held : List Row} {base view base' view' : School}
variable {fresh : Application → Prop}

theorem mem_applicationRows {d : School} {l : List ℕ} {i : ℕ} :
    Row.application i ∈ applicationRows d l ↔ i ∈ l ∧ ∃ a, d.application i = some a := by
  simp [applicationRows,School.application,Option.isSome_iff_exists]

theorem knows_nil (h : ∀ i, Row.application i ∉ held) : Knows P [] held base view :=
  ⟨fun i hi => (h i hi).elim,fun _ hi => (List.not_mem_nil hi).elim⟩

theorem Knows.congr (hb : Agree School.application Row.application held base base')
    (hv : Agree School.application Row.application held view view') (h : Knows P ids held base view) :
    Knows P ids held base' view' := ⟨h.obeys.congr hb hv,h.holds⟩

theorem Knows.imp (hP : ∀ i x y, P i x y → Q i x y) (h : Knows P ids held base view) : Knows Q ids held base view := by
  refine ⟨fun i hi => ?_,h.holds⟩
  obtain ⟨x,y,hx,hy,hp⟩ := h.obeys i hi
  exact ⟨x,y,hx,hy,hP i x y hp⟩

/-- A row that is not held yet is seen as it is committed. -/
theorem seen (hf : Framed School.application Row.application (fun _ => False) held base view) {i : ℕ}
    (hi : Row.application i ∉ held) : view.application i = base.application i := by
  rcases hf i hi with h | ⟨-,_,-,h⟩
  · exact h
  · exact h.elim

/-- Rows that are locked as they are found. -/
theorem Knows.lock (hf : Framed School.application Row.application (fun _ => False) held base view)
    (h : Knows P ids held base view) {more : List ℕ} {rows : List Row}
    (hrows : ∀ i, Row.application i ∈ rows ↔ i ∈ more ∧ ∃ a, view.application i = some a)
    (hP : ∀ i ∈ more, Row.application i ∉ held → ∀ x, view.application i = some x → P i x x) :
    Knows P ids (held ++ rows) base view := by
  refine ⟨fun i hi => ?_,fun i hi => List.mem_append_left _ (h.holds i hi)⟩
  by_cases hh : Row.application i ∈ held
  · exact h.obeys i hh
  · obtain ⟨hm,x,hx⟩ := (hrows i).mp ((List.mem_append.mp hi).resolve_left hh)
    exact ⟨x,x,(seen hf hh).symm.trans hx,hx,hP i hm hh x hx⟩

/-- New locks are on rows that are committed. -/
theorem locks_present (hf : Framed School.application Row.application (fun _ => False) held base view)
    (h : Knows P ids held base view) {i : ℕ} {x : Application} (hx : view.application i = some x) :
    ∃ a, base.application i = some a := by
  by_cases hh : Row.application i ∈ held
  · obtain ⟨a,-,ha,-⟩ := h.obeys i hh
    exact ⟨a,ha⟩
  · exact ⟨x,(seen hf hh).symm.trans hx⟩

theorem owns_of_applications {w : School → School} (hw : ∀ d, (w d).applications = d.applications) :
    Owns School.application Row.application fresh held w := by
  have hget : ∀ d i, (w d).application i = d.application i := by
    intro d i
    simp only [School.application,hw]
  refine ⟨fun d i _ => .inl (hget d i),fun d d' h i hi => ?_⟩
  obtain ⟨a,ha,ha'⟩ := h i hi
  exact ⟨a,(hget d i).trans ha,(hget d' i).trans ha'⟩

/-- A write that rewrites applications one by one, where it holds them. -/
theorem owns_rewrite {w : School → School} {g : ℕ → Application → Application}
    (hw : ∀ d i, (w d).application i = (d.application i).map (g i))
    (hg : ∀ i, Row.application i ∉ held → g i = id) : Owns School.application Row.application fresh held w := by
  refine ⟨fun d i hi => .inl ?_,fun d d' h i hi => ?_⟩
  · rw [hw,hg i hi,Option.map_id]
    rfl
  · obtain ⟨a,ha,ha'⟩ := h i hi
    exact ⟨g i a,by rw [hw,ha,Option.map_some],by rw [hw,ha',Option.map_some]⟩

/-! ## Statements -/

variable {β : Type}

/-- A statement that neither locks nor changes an application. -/
theorem lawful_quiet {locks : School → List Row} {write : School → School → School} {next : School → Tx Unit}
    (hl : ∀ v i, Row.application i ∉ locks v) (hw : ∀ v d, (write v d).applications = d.applications)
    (h : Knows P ids held base view)
    (hnext : ∀ held' base' view' v, Knows P ids held' base' view' →
      Lawful School.application Row.application fresh law held' base' view' (next v)) :
    Lawful School.application Row.application fresh law held base view (.statement locks write next) := by
  intro base' view' hb hv _
  have hknow := h.congr hb hv
  refine ⟨fun i hi => (hl view' i hi).elim,owns_of_applications (hw view'),hnext _ _ _ _ ?_⟩
  refine ⟨fun i hi => ?_,fun i hi => List.mem_append_left _ (hknow.holds i hi)⟩
  obtain ⟨x,y,hx,hy,hp⟩ := hknow.obeys i ((List.mem_append.mp hi).resolve_right (hl view' i))
  exact ⟨x,y,hx,by simpa only [School.application,hw] using hy,hp⟩

theorem lawful_query {q : School → β} {f : β → Tx Unit} (h : Knows P ids held base view)
    (hnext : ∀ base' view' b, Knows P ids held base' view' → LawfulTx law held base' view' (f b)) :
    LawfulTx law held base view (read q >>= f) :=
  lawful_read fun _ _ hb hv _ => hnext _ _ _ (h.congr hb hv)

/-- Reading an application that is held. -/
theorem lawful_findApplication {a : ℕ} {f : Option Application → Tx Unit} (ha : a ∈ ids) (h : Knows P ids held base view)
    (hnext : ∀ base' view' c, Knows (fun i x y => P i x y ∧ (i = a → y = c)) ids held base' view' →
      LawfulTx law held base' view' (f (some c))) : LawfulTx law held base view (findApplication a >>= f) := by
  refine lawful_read fun base' view' hb hv _ => ?_
  have hknow := h.congr hb hv
  obtain ⟨x,c,-,hc,-⟩ := hknow.obeys a (hknow.holds a ha)
  have hget : view'.applications.get? a = some c := hc
  rw [hget]
  refine hnext base' view' c ⟨fun i hi => ?_,hknow.holds⟩
  obtain ⟨x',y',hx',hy',hp⟩ := hknow.obeys i hi
  refine ⟨x',y',hx',hy',hp,?_⟩
  rintro rfl
  exact Option.some.inj (hy'.symm.trans hc)

theorem lawful_selectForUpdate {a : ℕ} {f : Option Application → Tx Unit} (hrefl : ∀ x, P a x x)
    (h : Knows P ids held base view)
    (hnone : ∀ held' base' view', LawfulTx law held' base' view' (f none))
    (hsome : ∀ held' base' view' c, Knows (fun i x y => P i x y ∧ (i = a → y = c)) (a :: ids) held' base' view' →
      LawfulTx law held' base' view' (f (some c))) : LawfulTx law held base view (selectForUpdate a >>= f) := by
  intro base' view' hb hv hf
  have hknow := (h.congr hb hv).lock hf (fun i => mem_applicationRows (d := view') (l := [a])) fun i hi _ x _ => by
    rw [List.mem_singleton.mp hi]
    exact hrefl x
  refine ⟨fun i hi => ?_,owns_id,?_⟩
  · obtain ⟨-,x,hx⟩ := mem_applicationRows.mp hi
    exact locks_present hf (h.congr hb hv) hx
  · cases hget : view'.applications.get? a with
    | none =>
      change LawfulTx law _ _ _ (f (view'.applications.get? a))
      rw [hget]
      exact hnone _ _ _
    | some c =>
      change LawfulTx law _ _ _ (f (view'.applications.get? a))
      rw [hget]
      have hmem : Row.application a ∈ held ++ applicationRows view' [a] :=
        List.mem_append_right _ (mem_applicationRows.mpr ⟨List.mem_singleton_self a,c,hget⟩)
      refine hsome _ _ _ c ⟨fun i hi => ?_,?_⟩
      · obtain ⟨x',y',hx',hy',hp⟩ := hknow.obeys i hi
        refine ⟨x',y',hx',hy',hp,?_⟩
        rintro rfl
        exact Option.some.inj (hy'.symm.trans hget)
      · intro i hi
        rcases List.mem_cons.mp hi with rfl | hi
        · exact hmem
        · exact hknow.holds i hi

/-- An update by identifier locks the row if it is not held yet. -/
theorem lawful_updateApplication {a : ℕ} {change : Application → Application} {f : Unit → Tx Unit}
    (h : Knows P ids held base view) (hnew : Row.application a ∉ held → ∀ x, Q a x (change x))
    (hself : ∀ x y, P a x y → Q a x (change y)) (hothers : ∀ i x y, i ≠ a → P i x y → Q i x y)
    (hnext : ∀ held' base' view', Knows Q (a :: ids) held' base' view' → LawfulTx law held' base' view' (f ())) :
    LawfulTx law held base view (updateApplication a change >>= f) := by
  intro base' view' hb hv hf
  have hknow := h.congr hb hv
  cases hget : view'.applications.get? a with
  | none =>
    have hfound : (view'.applications.get? a).isSome = false := by rw [hget]; rfl
    simp only [hfound,Bool.false_eq_true,if_false]
    refine ⟨fun i hi => (List.not_mem_nil hi).elim,owns_id,?_⟩
    change LawfulTx law _ _ _ (ensure (false = true) AdmissionsError.recordNotFound >>= f)
    exact lawful_ensure fun h => by cases h
  | some c =>
    have hfound : (view'.applications.get? a).isSome = true := by rw [hget]; rfl
    simp only [hfound,if_true]
    have hmem : Row.application a ∈ held ++ [Row.application a] := List.mem_append_right _ (List.mem_singleton_self _)
    have hwrite : ∀ (d : School) i, ({ d with applications := d.applications.modify a change } : School).application i =
        (d.application i).map (if i = a then change else id) := by
      intro d i
      simp only [School.application,Table.get?_modify]
      split <;> simp
    refine ⟨fun i hi => ?_,owns_rewrite hwrite ?_,?_⟩
    · obtain rfl : i = a := Row.application.inj (List.mem_singleton.mp hi)
      exact locks_present hf hknow hget
    · intro i hi
      rw [if_neg]
      rintro rfl
      exact hi hmem
    · change LawfulTx law _ _ _ (ensure (true = true) AdmissionsError.recordNotFound >>= f)
      refine lawful_ensure fun _ => hnext _ _ _ ⟨fun i hi => ?_,?_⟩
      · by_cases hia : i = a
        · subst hia
          rw [hwrite,if_pos rfl]
          by_cases hh : Row.application i ∈ held
          · obtain ⟨x,y,hx,hy,hp⟩ := hknow.obeys i hh
            exact ⟨x,change y,hx,by rw [hy,Option.map_some],hself x y hp⟩
          · have hbase : base'.application i = some c := (seen hf hh).symm.trans hget
            have hview : view'.application i = some c := hget
            exact ⟨c,change c,hbase,by rw [hview,Option.map_some],hnew hh c⟩
        · have hh : Row.application i ∈ held := by
            rcases List.mem_append.mp hi with hi | hi
            · exact hi
            · exact absurd (Row.application.inj (List.mem_singleton.mp hi)) hia
          obtain ⟨x,y,hx,hy,hp⟩ := hknow.obeys i hh
          exact ⟨x,y,hx,by rw [hwrite,if_neg hia,hy]; rfl,hothers i x y hia hp⟩
      · intro i hi
        rcases List.mem_cons.mp hi with rfl | hi
        · exact hmem
        · exact List.mem_append_left _ (hknow.holds i hi)

theorem mem_candidates {le : ℕ × Application → ℕ × Application → Bool} {limit : ℕ} {waiting : List (ℕ × Application)}
    {i : ℕ} (h : i ∈ candidates le limit waiting) : ∃ a, (i,a) ∈ waiting := by
  obtain ⟨r,hr,rfl⟩ := List.mem_map.mp h
  exact ⟨r.2,(List.mem_insertionSort _).mp (List.mem_of_mem_take hr)⟩

/-- The chosen applications are locked as they wait. -/
theorem lawful_selectCandidates {skipped : List ℕ} {academicYearId yearGroupId limit : ℕ} {f : List ℕ → Tx Unit}
    (h : Knows P ids held base view)
    (hnext : ∀ held' base' view' chosen, Knows (fun i x y => (P i x y ∨ i ∉ ids ∧ i ∈ chosen ∧ x = y) ∧
      (i ∈ chosen → y.status = .waitingList)) (chosen ++ ids) held' base' view' → LawfulTx law held' base' view' (f chosen)) :
    LawfulTx law held base view (AutoPromotion.selectCandidates skipped academicYearId yearGroupId limit >>= f) := by
  intro base' view' hb hv hf
  obtain ⟨chosen,hchosen⟩ : ∃ l, l = candidates siblingsFirst limit
      ((view'.waiting academicYearId yearGroupId).filter fun a => !skipped.contains a.1) := ⟨_,rfl⟩
  have hwaits : ∀ i ∈ chosen, ∃ a, view'.application i = some a ∧ a.status = .waitingList := by
    intro i hi
    rw [hchosen] at hi
    obtain ⟨a,ha⟩ := mem_candidates hi
    obtain ⟨hrow,hw⟩ := List.mem_filter.mp (List.mem_filter.mp ha).1
    simp only [Bool.and_eq_true,decide_eq_true_eq] at hw
    exact ⟨a,Table.get?_of_mem hrow,hw.1.2⟩
  have hknow := h.congr hb hv
  have hlock : Knows (fun i x y => P i x y ∨ i ∉ ids ∧ i ∈ chosen ∧ x = y) ids
      (held ++ applicationRows view' chosen) base' view' := by
    refine (hknow.imp fun i x y hp => Or.inl hp).lock hf (fun i => mem_applicationRows) ?_
    exact fun i hi hh x hx => .inr ⟨fun hm => hh (hknow.holds i hm),hi,rfl⟩
  simp only [← hchosen]
  refine ⟨fun i hi => ?_,owns_id,hnext _ _ _ _ ⟨fun i hi => ?_,fun i hi => ?_⟩⟩
  · obtain ⟨-,x,hx⟩ := mem_applicationRows.mp hi
    exact locks_present hf hknow hx
  · obtain ⟨x,y,hx,hy,hp⟩ := hlock.obeys i hi
    refine ⟨x,y,hx,hy,hp,fun hc => ?_⟩
    obtain ⟨a,ha,hs⟩ := hwaits i hc
    rwa [Option.some.inj (hy.symm.trans ha)]
  · rcases List.mem_append.mp hi with hi | hi
    · obtain ⟨a,ha,-⟩ := hwaits i hi
      exact List.mem_append_right _ (mem_applicationRows.mpr ⟨hi,a,ha⟩)
    · exact hlock.holds i hi

/-- What is promised of the applications still to be promoted holds once all are. -/
theorem lawful_promoteAll {author : Option ℕ} {f : Unit → Tx Unit} (waiting : List ℕ)
    (hnew : ∀ i ∈ waiting, i ∈ ids ∨ ∀ x, P i x { x with status := .readyToAdmit })
    (h : Knows (fun i x y => P i x (if i ∈ waiting then { y with status := .readyToAdmit } else y)) ids held base view)
    (hnext : ∀ held' base' view', Knows P ids held' base' view' → LawfulTx law held' base' view' (f ())) :
    LawfulTx law held base view (promoteAll author waiting >>= f) := by
  induction waiting generalizing held base view with
  | nil => exact hnext held base view (h.imp fun i x y hp => hp)
  | cons id rest ih =>
    rw [promoteAll,Script.bind_assoc]
    refine lawful_updateApplication (Q := fun i x y => P i x (if i ∈ rest then { y with status := .readyToAdmit } else y))
      h ?_ ?_ ?_ fun held' base' view' hk => ?_
    · intro hh x
      have hp := (hnew id List.mem_cons_self).resolve_left (fun hi => hh (h.holds id hi)) x
      split <;> exact hp
    · intro x y hp
      rw [if_pos List.mem_cons_self] at hp
      split <;> exact hp
    · intro i x y hi hp
      simpa only [List.mem_cons,hi,false_or] using hp
    · rw [Script.bind_assoc]
      refine lawful_quiet (fun _ _ hi => List.not_mem_nil hi) (fun _ _ => rfl) hk fun held'' base'' view'' v hk' => ?_
      refine ih (fun i hi => hnew i (List.mem_cons_of_mem _ hi)) ⟨hk'.obeys,fun i hi => ?_⟩
      exact hk'.holds i (List.mem_cons_of_mem _ hi)

end

/-! ## Scripts that keep an assertion -/

section
variable {β γ : Type} {P : ℕ → Application → Application → Prop}

/-- Whatever comes after the script may rely on `P` if the script could. -/
def Preserves (P : ℕ → Application → Application → Prop) (x : Tx β) : Prop :=
  ∀ (law : ℕ → Application → Application → Prop) (ids : List ℕ) (held : List Row) (base view : School) (f : β → Tx Unit),
    Knows P ids held base view →
    (∀ held' base' view' b, Knows P ids held' base' view' → LawfulTx law held' base' view' (f b)) →
    LawfulTx law held base view (x >>= f)

theorem Preserves.next {law : ℕ → Application → Application → Prop} {ids : List ℕ} {held : List Row} {base view : School}
    {x : Tx β} {f : β → Tx Unit} (hx : Preserves P x) (h : Knows P ids held base view)
    (hnext : ∀ held' base' view' b, Knows P ids held' base' view' → LawfulTx law held' base' view' (f b)) :
    LawfulTx law held base view (x >>= f) := hx law ids held base view f h hnext

/-- The last statements of a request. -/
theorem Preserves.last {law : ℕ → Application → Application → Prop} {ids : List ℕ} {held : List Row} {base view : School}
    {x : Tx Unit} (hx : Preserves P x) (h : Knows P ids held base view) (hlaw : ∀ i x y, P i x y → law i x y) :
    LawfulTx law held base view x := by
  rw [← Script.bind_done x]
  exact hx law ids held base view _ h fun _ _ _ _ hk => (hk.imp hlaw).obeys

theorem preserves_pure (b : β) : Preserves P (pure b : Tx β) := fun _ _ _ _ _ _ h hnext => hnext _ _ _ b h

theorem Preserves.bind {x : Tx β} {f : β → Tx γ} (hx : Preserves P x) (hf : ∀ b, Preserves P (f b)) :
    Preserves P (x >>= f) := by
  intro law ids held base view g h hnext
  rw [Script.bind_assoc]
  exact hx law ids held base view _ h fun held' base' view' b hk => hf b law ids held' base' view' g hk hnext

theorem preserves_read (q : School → β) : Preserves P (read q) :=
  fun _ _ _ _ _ _ h hnext => lawful_query h fun _ _ _ hk => hnext _ _ _ _ hk

theorem preserves_require {o : Option β} {e : AdmissionsError} : Preserves P (require o e) :=
  fun _ _ _ _ _ _ h hnext => lawful_require fun b _ => hnext _ _ _ b h

theorem preserves_ensure {p : Prop} {dec : Decidable p} {e : AdmissionsError} : Preserves P (ensure p e) :=
  fun _ _ _ _ _ _ h hnext => lawful_ensure fun _ => hnext _ _ _ () h

theorem preserves_quiet {locks : School → List Row} {write : School → School → School} {next : School → Tx β}
    (hl : ∀ v i, Row.application i ∉ locks v) (hw : ∀ v d, (write v d).applications = d.applications)
    (hn : ∀ v, Preserves P (next v)) : Preserves P (.statement locks write next) :=
  fun law ids _ _ _ f h hnext => lawful_quiet hl hw h fun held' base' view' v hk =>
    hn v law ids held' base' view' f hk hnext

theorem preserves_insert {w : School → School} (hw : ∀ d, (w d).applications = d.applications) :
    Preserves P (Script.insert w) :=
  preserves_quiet (fun _ _ h => List.not_mem_nil h) (fun _ => hw) fun _ => preserves_pure ()

theorem preserves_createNote (id : ℕ) (author : Option ℕ) (action : NoteAction) : Preserves P (createNote id author action) :=
  preserves_insert fun _ => rfl

theorem preserves_updateApplication {a : ℕ} {change : Application → Application} (hnew : ∀ x, P a x (change x))
    (hself : ∀ x y, P a x y → P a x (change y)) : Preserves P (updateApplication a change) := by
  intro law ids held base view f h hnext
  refine lawful_updateApplication h (fun _ => hnew) hself (fun _ _ _ _ hp => hp) fun held' base' view' hk => ?_
  exact hnext _ _ _ _ ⟨hk.obeys,fun i hi => hk.holds i (List.mem_cons_of_mem _ hi)⟩

theorem preserves_linkBatch {a : ℕ} {batch : Option ℕ} {householdId : ℕ}
    (hself : ∀ i x y, P i x y → P i x { y with householdId := some householdId })
    (hrefl : ∀ i x, P i x x) : Preserves P (linkBatch a batch householdId) := by
  intro law ids held base view f h hnext base' view' hb hv hf
  have hknow := h.congr hb hv
  have hlock := hknow.lock hf
    (fun i => mem_applicationRows (d := view') (l := view'.batchSiblings a batch)) fun i _ _ x _ => hrefl i x
  have hwrite : ∀ (d : School) i, ({ d with applications := d.applications.mapRows fun id b =>
      if (view'.batchSiblings a batch).contains id then { b with householdId := some householdId } else b } : School).application i =
      (d.application i).map fun b => if (view'.batchSiblings a batch).contains i then
        { b with householdId := some householdId } else b := by
    intro d i
    exact Table.get?_mapRows _ _ _
  refine ⟨fun i hi => ?_,owns_rewrite hwrite ?_,hnext _ _ _ _ ⟨fun i hi => ?_,hlock.holds⟩⟩
  · obtain ⟨-,x,hx⟩ := mem_applicationRows.mp hi
    exact locks_present hf hknow hx
  · intro i hi
    funext b
    rw [if_neg]
    · rfl
    · intro hc
      have hmem : i ∈ view'.batchSiblings a batch := by simpa using hc
      obtain ⟨r,hr,rfl⟩ := List.mem_map.mp hmem
      have hget : view'.application r.1 = some r.2 := Table.get?_of_mem (List.mem_filter.mp hr).1
      exact hi (List.mem_append_right _ (mem_applicationRows.mpr ⟨hmem,r.2,hget⟩))
  · obtain ⟨x,y,hx,hy,hp⟩ := hlock.obeys i hi
    refine ⟨x,_,hx,by rw [hwrite,hy,Option.map_some],?_⟩
    split
    · exact hself i x y hp
    · exact hp

end

end EduPod.Admissions
