import EduPod.Inbox.AudienceMeaning

/-! # Cycles, found and imagined

The shared set holds what all operands are looking up, not one recursion stack: a saved audience that
two operands use is taken for a cycle when their lookups overlap.
-/
namespace EduPod.Inbox
variable {κ π ε : Type} {db : Directory κ π ε}

/-! ## Real cycles -/

/-- The audience resolves below the audiences on the stack. -/
def ResolvesBelow (db : Directory κ π ε) (stack : List ℕ) (id : ℕ) : Prop :=
  ∃ levels, failures db (levels + 1) stack (.savedGroup (some id)) = []

theorem resolvesBelow_of_uses {d : AudienceDefinition κ π} {id : ℕ} (h : Uses id d) (levels : ℕ) {stack : List ℕ}
    (hf : failures db levels stack d = []) : ResolvesBelow db stack id := by
  induction h generalizing levels with
  | here =>
    cases levels with
    | zero => simp [failures] at hf
    | succ levels => exact ⟨levels,hf⟩
  | operand hop _ ih =>
    cases levels with
    | zero => simp [failures] at hf
    | succ levels => exact ih _ (List.flatMap_eq_nil_iff.mp hf _ hop)
  | not _ ih =>
    cases levels with
    | zero => simp [failures] at hf
    | succ levels => exact ih _ hf

theorem ResolvesBelow.not_mem {stack : List ℕ} {id : ℕ} (h : ResolvesBelow db stack id) : id ∉ stack := by
  obtain ⟨levels,h⟩ := h
  intro hid
  simp [failures,hid] at h

theorem ResolvesBelow.refers {stack : List ℕ} {a b : ℕ} (h : ResolvesBelow db stack a) (hab : RefersTo db a b) :
    ResolvesBelow db (a :: stack) b := by
  have ha := h.not_mem
  obtain ⟨levels,h⟩ := h
  obtain ⟨d,hd,hb⟩ := hab
  refine resolvesBelow_of_uses hb levels ?_
  obtain ⟨row,hrow,hd⟩ := Option.bind_eq_some_iff.mp hd
  simp only [failures,ha,hrow] at h
  cases hk : row.kind with
  | static => simp [hk] at hd
  | dynamic =>
    simp only [hk] at hd
    simpa [hk,hd] using h

theorem ResolvesBelow.reaches {stack : List ℕ} {a b : ℕ} (h : ResolvesBelow db stack a)
    (hab : Relation.ReflTransGen (RefersTo db) a b) : ∃ stack', ResolvesBelow db stack' b := by
  induction hab with
  | refl => exact ⟨stack,h⟩
  | tail _ hbc ih =>
    obtain ⟨stack',ih⟩ := ih
    exact ⟨_,ih.refers hbc⟩

theorem ResolvesBelow.transGen {stack : List ℕ} {a b : ℕ} (h : ResolvesBelow db stack a)
    (hab : Relation.TransGen (RefersTo db) a b) : ∃ stack', a ∈ stack' ∧ ResolvesBelow db stack' b := by
  induction hab with
  | single hab => exact ⟨_,List.mem_cons_self,h.refers hab⟩
  | tail _ hbc ih =>
    obtain ⟨stack',ha,ih⟩ := ih
    exact ⟨_,List.mem_cons_of_mem _ ha,ih.refers hbc⟩

/-- A definition none of whose parts fails comes to no cycle. -/
theorem not_cyclic_of_failures {d : AudienceDefinition κ π} {levels : ℕ} (hf : failures db levels [] d = []) :
    ¬Cyclic db d := by
  rintro ⟨a,b,ha,hab,hbb⟩
  obtain ⟨stack,hb⟩ := (resolvesBelow_of_uses ha _ hf).reaches hab
  obtain ⟨stack',hmem,hb'⟩ := hb.transGen hbb
  exact hb'.not_mem hmem

/-! ## Lookups to come -/

@[grind] def Task.toLookUp (db : Directory κ π ε) : Task ε → List ℕ
  | .finding id levels => (storedDefinition db id).elim [] (lookups db levels)
  | _ => []

/-- What the promises of a walk will still look up. -/
def Task.ahead (db : Directory κ π ε) (t : Task ε) : List ℕ := t.nodes.flatMap (Task.toLookUp db)

@[simp] theorem ahead_settled (o : Outcome ε) : (Task.settled o).ahead db = [] := rfl
@[simp] theorem ahead_awaiting (o : Outcome ε) : (Task.awaiting o).ahead db = [] := rfl
@[simp] theorem ahead_finding (id levels : ℕ) :
    (Task.finding id levels).ahead db = (storedDefinition db id).elim [] (lookups db levels) := by
  simp [Task.ahead,Task.nodes,Task.toLookUp]
@[simp] theorem ahead_saved (id : ℕ) (t : Task ε) : (Task.saved id t).ahead db = t.ahead db := by
  simp [Task.ahead,Task.nodes,Task.toLookUp]
@[simp] theorem ahead_all (c : Combine) (ts : List (Task ε)) : (Task.all c ts).ahead db = ts.flatMap (Task.ahead db) :=
  flatMap_nodesAll (Task.toLookUp db) ts
@[simp] theorem ahead_rejected (e : ComposeError ε) (ts : List (Task ε)) :
    (Task.rejected e ts).ahead db = ts.flatMap (Task.ahead db) := flatMap_nodesAll (Task.toLookUp db) ts

/-- A promise has found a cycle, and all that wait for it are still waiting. -/
inductive CycleInside : Task ε → Prop
  | here : CycleInside (.settled (.error .savedAudienceCycleDetected))
  | saved {id t} : CycleInside t → CycleInside (.saved id t)
  | all {combine ts t} : t ∈ ts → CycleInside t → CycleInside (.all combine ts)

/-- A promise that may settle with a cycle. -/
@[grind] def Task.ownCycle : Task ε → Prop
  | .settled o | .awaiting o => o = .error .savedAudienceCycleDetected
  | .rejected e _ => e = .savedAudienceCycleDetected
  | _ => False

@[grind] def Task.isRejected : Task ε → Prop
  | .rejected _ _ => True
  | _ => False

/-- No promise has found a cycle. -/
@[grind] def Task.Clean (t : Task ε) : Prop := ∀ x ∈ t.nodes, ¬x.ownCycle

/-- No `Promise.all` has given up on its operands. -/
@[grind] def Task.Waited (t : Task ε) : Prop := ∀ x ∈ t.nodes, ¬x.isRejected

theorem forall_nodesAll {p : Task ε → Prop} {ts : List (Task ε)} :
    (∀ x ∈ nodesAll ts, p x) ↔ ∀ t ∈ ts, ∀ x ∈ t.nodes, p x := by
  induction ts with
  | nil => simp [nodesAll]
  | cons t ts ih => simp only [nodesAll,List.forall_mem_append,List.forall_mem_cons,ih]

@[simp] theorem clean_settled {o : Outcome ε} : (Task.settled o).Clean ↔ o ≠ .error .savedAudienceCycleDetected := by
  simp [Task.Clean,Task.nodes,Task.ownCycle]
@[simp] theorem clean_awaiting {o : Outcome ε} : (Task.awaiting o).Clean ↔ o ≠ .error .savedAudienceCycleDetected := by
  simp [Task.Clean,Task.nodes,Task.ownCycle]
@[simp] theorem clean_finding {id levels : ℕ} : (Task.finding id levels : Task ε).Clean := by
  simp [Task.Clean,Task.nodes,Task.ownCycle]
@[simp] theorem clean_saved {id : ℕ} {t : Task ε} : (Task.saved id t).Clean ↔ t.Clean := by
  simp [Task.Clean,Task.nodes,Task.ownCycle]
@[simp] theorem clean_all {c : Combine} {ts : List (Task ε)} : (Task.all c ts).Clean ↔ ∀ t ∈ ts, t.Clean := by
  simp [Task.Clean,Task.nodes,Task.ownCycle,forall_nodesAll]
@[simp] theorem clean_rejected {e : ComposeError ε} {ts : List (Task ε)} :
    (Task.rejected e ts).Clean ↔ e ≠ .savedAudienceCycleDetected ∧ ∀ t ∈ ts, t.Clean := by
  simp [Task.Clean,Task.nodes,Task.ownCycle,forall_nodesAll]

@[simp] theorem waited_settled {o : Outcome ε} : (Task.settled o).Waited := by
  simp [Task.Waited,Task.nodes,Task.isRejected]
@[simp] theorem waited_awaiting {o : Outcome ε} : (Task.awaiting o).Waited := by
  simp [Task.Waited,Task.nodes,Task.isRejected]
@[simp] theorem waited_finding {id levels : ℕ} : (Task.finding id levels : Task ε).Waited := by
  simp [Task.Waited,Task.nodes,Task.isRejected]
@[simp] theorem waited_saved {id : ℕ} {t : Task ε} : (Task.saved id t).Waited ↔ t.Waited := by
  simp [Task.Waited,Task.nodes,Task.isRejected]
@[simp] theorem waited_all {c : Combine} {ts : List (Task ε)} : (Task.all c ts).Waited ↔ ∀ t ∈ ts, t.Waited := by
  simp [Task.Waited,Task.nodes,Task.isRejected,forall_nodesAll]
@[simp] theorem not_waited_rejected {e : ComposeError ε} {ts : List (Task ε)} : ¬(Task.rejected e ts).Waited := by
  simp [Task.Waited,Task.nodes,Task.isRejected]

/-- Starting a walk looks up as far as it comes at once, or finds a cycle: then some audience is in the
set already or comes twice. -/
structure Starts (db : Directory κ π ε) (t : Task ε) (before after expected : List ℕ) : Prop where
  clean : t.Clean
  waited : t.Waited
  count : ∀ x, after.count x + (t.ahead db).count x = before.count x + expected.count x

theorem starts_walk (db : Directory κ π ε) (levels : ℕ) (d : AudienceDefinition κ π) (v : List ℕ) :
    Starts db (walk db levels d v).1 v (walk db levels d v).2 (lookups db levels d) ∨
      CycleInside (walk db levels d v).1 ∧ ∃ x, 1 < v.count x + (lookups db levels d).count x := by
  induction levels generalizing d v with
  | zero => exact Or.inl ⟨by simp [walk],by simp [walk],fun x => by simp [walk,lookups]⟩
  | succ levels ih =>
    cases d with
    | leaf provider params =>
      rcases resolveLeaf_cases db provider params with ⟨e,hleaf,he⟩ | ⟨o,hleaf,ho⟩
      · exact Or.inl ⟨by simpa [walk,hleaf] using he,by simp [walk,hleaf],fun x => by simp [walk,hleaf,lookups]⟩
      · exact Or.inl ⟨by simpa [walk,hleaf] using ho,by simp [walk,hleaf],fun x => by simp [walk,hleaf,lookups]⟩
    | savedGroup id =>
      cases id with
      | none =>
        exact Or.inl ⟨by simp [walk,resolveSavedGroup],by simp [walk,resolveSavedGroup],
          fun x => by simp [walk,resolveSavedGroup,lookups]⟩
      | some id =>
        by_cases hid : id ∈ v
        · rw [walk,resolveSavedGroup,if_pos hid]
          have hpos := List.count_pos_iff.mpr hid
          refine Or.inr ⟨.here,id,?_⟩
          rw [lookups,List.count_cons_self]
          omega
        · rw [walk,resolveSavedGroup,if_neg hid]
          refine Or.inl ⟨clean_finding,waited_finding,fun x => ?_⟩
          simp only [ahead_finding,lookups,List.count_cons]
          omega
    | operands operator ops =>
      have hall : ∀ v, ((∀ t ∈ (startAll (walk db levels) ops v).1, t.Clean) ∧
          (∀ t ∈ (startAll (walk db levels) ops v).1, t.Waited) ∧
          ∀ x, (startAll (walk db levels) ops v).2.count x + ((startAll (walk db levels) ops v).1.flatMap (Task.ahead db)).count x =
            v.count x + (ops.flatMap (lookups db levels)).count x) ∨
          (∃ t ∈ (startAll (walk db levels) ops v).1, CycleInside t) ∧
            ∃ x, 1 < v.count x + (ops.flatMap (lookups db levels)).count x := by
        induction ops with
        | nil => exact fun v => Or.inl ⟨by simp [startAll],by simp [startAll],fun x => by simp [startAll]⟩
        | cons op ops ihops =>
          intro v
          simp only [startAll,List.flatMap_cons,List.count_append,List.forall_mem_cons,List.exists_mem_cons_iff]
          rcases ih op v with hop | ⟨hcyc,x,hx⟩
          · rcases ihops (walk db levels op v).2 with ⟨hclean,hwaited,hcount⟩ | ⟨hcyc,x,hx⟩
            · refine Or.inl ⟨⟨hop.clean,hclean⟩,⟨hop.waited,hwaited⟩,fun x => ?_⟩
              have h₁ := hop.count x
              have h₂ := hcount x
              omega
            · refine Or.inr ⟨Or.inr hcyc,x,?_⟩
              have h₁ := hop.count x
              omega
          · exact Or.inr ⟨Or.inl hcyc,x,by omega⟩
      rcases hall v with ⟨hclean,hwaited,hcount⟩ | ⟨⟨t,ht,hcyc⟩,hx⟩
      · exact Or.inl ⟨clean_all.mpr hclean,waited_all.mpr hwaited,fun x => by rw [walk,ahead_all]; exact hcount x⟩
      · exact Or.inr ⟨.all ht hcyc,hx⟩
    | not op =>
      rcases ih op v with h | ⟨hcyc,hx⟩
      · refine Or.inl ⟨?_,?_,fun x => ?_⟩
        · simpa [walk] using h.clean
        · simpa [walk] using h.waited
        · simpa [walk,lookups] using h.count x
      · exact Or.inr ⟨.all List.mem_cons_self hcyc,hx⟩

theorem starts_resolveStored {id : ℕ} {row : SavedAudienceRow κ π} (hrow : db.findById id = some row) (levels : ℕ)
    (v : List ℕ) : Starts db (resolveStoredDefinition db row levels v).1 v (resolveStoredDefinition db row levels v).2
        ((storedDefinition db id).elim [] (lookups db levels)) ∨
      CycleInside (resolveStoredDefinition db row levels v).1 ∧
        ∃ x, 1 < v.count x + ((storedDefinition db id).elim [] (lookups db levels)).count x := by
  simp only [storedDefinition,hrow,Option.bind_some,resolveStoredDefinition]
  cases row.kind with
  | static => cases row.userIds <;> exact Or.inl ⟨by simp,by simp,fun x => by simp⟩
  | dynamic =>
    cases row.definition.bind AudienceDefinition.parse with
    | none => exact Or.inl ⟨by simp,by simp,fun x => by simp⟩
    | some d => exact starts_walk db levels d v

/-! ## No audience looked up twice -/

/-- No audience is in the set or still to be looked up more than once. -/
def OnceEach (db : Directory κ π ε) (s : Task ε × List ℕ) : Prop := ∀ x, s.2.count x + (s.1.ahead db).count x ≤ 1

theorem clean_of_values {ts : List (Task ε)} {t : Task ε} (h : (∀ t ∈ ts, t.Clean)) (ht : t ∈ ts) {e : ComposeError ε}
    (he : t.outcome = some (.error e)) : e ≠ .savedAudienceCycleDetected := by
  have hclean := h t ht
  cases t with
  | settled o =>
    obtain rfl := Option.some.inj he
    rintro rfl
    exact clean_settled.mp hclean rfl
  | rejected e' ts' =>
    obtain rfl := Except.error.inj (Option.some.inj he)
    exact (clean_rejected.mp hclean).1
  | _ => simp [Task.outcome] at he

theorem count_erase_le (v : List ℕ) (id x : ℕ) : (v.erase id).count x ≤ v.count x := List.erase_sublist.count_le x

theorem forall_replace {ts ts' : List (Task ε)} {t t' : Task ε} (h : ∀ t₁ ∈ ts ++ t :: ts', t₁.Clean) (ht' : t'.Clean) :
    ∀ t₁ ∈ ts ++ t' :: ts', t₁.Clean := by
  simp only [List.forall_mem_append,List.forall_mem_cons] at h ⊢
  exact ⟨h.1,ht',h.2.2⟩

theorem OnceEach.operand {ts ts' : List (Task ε)} {t : Task ε} {v : List ℕ}
    (h : ∀ x, v.count x + ((ts ++ t :: ts').flatMap (Task.ahead db)).count x ≤ 1) : OnceEach db (t,v) := by
  intro x
  have hx := h x
  simp only [List.flatMap_append,List.flatMap_cons,List.count_append] at hx ⊢
  omega

theorem ahead_replace {ts ts' : List (Task ε)} {t t' : Task ε} {v v' : List ℕ}
    (h : ∀ x, v'.count x + (t'.ahead db).count x ≤ v.count x + (t.ahead db).count x) (x : ℕ) :
    v'.count x + ((ts ++ t' :: ts').flatMap (Task.ahead db)).count x ≤
      v.count x + ((ts ++ t :: ts').flatMap (Task.ahead db)).count x := by
  have hx := h x
  simp only [List.flatMap_append,List.flatMap_cons,List.count_append] at hx ⊢
  omega

theorem clean_step {s s' : Task ε × List ℕ} (h : Step db s s') (hclean : s.1.Clean) (honce : OnceEach db s) :
    s'.1.Clean ∧ ∀ x, s'.2.count x + (s'.1.ahead db).count x ≤ s.2.count x + (s.1.ahead db).count x := by
  induction h with
  | settle => exact ⟨by simpa using hclean,fun x => by simp⟩
  | @missing id levels v hrow => exact ⟨by simp,fun x => Nat.add_le_add (count_erase_le v id x) (by simp)⟩
  | @found id levels row t v v' hrow hstart =>
    rcases starts_resolveStored hrow levels v with h | ⟨_,x,hx⟩
    · rw [hstart] at h
      refine ⟨clean_saved.mpr h.clean,fun x => ?_⟩
      have hx := h.count x
      simp only [ahead_saved,ahead_finding] at hx ⊢
      omega
    · have hle := honce x
      simp only [ahead_finding] at hle
      omega
  | finish ho => exact ⟨clean_saved.mp hclean,fun x => Nat.add_le_add (count_erase_le _ _ x) (by simp)⟩
  | fulfil hsets => exact ⟨by simp,fun x => by simp⟩
  | reject ht he => exact ⟨clean_rejected.mpr ⟨clean_of_values (clean_all.mp hclean) ht he,clean_all.mp hclean⟩,fun x => by simp⟩
  | stored _ ih =>
    obtain ⟨hc,hle⟩ := ih (clean_saved.mp hclean) (by simpa [OnceEach] using honce)
    exact ⟨clean_saved.mpr hc,by simpa using hle⟩
  | operand _ ih =>
    simp only [OnceEach,clean_all,ahead_all] at hclean honce ⊢
    obtain ⟨hc,hle⟩ := ih (hclean _ (by simp)) (OnceEach.operand honce)
    exact ⟨forall_replace hclean hc,ahead_replace hle⟩
  | background _ ih =>
    simp only [OnceEach,clean_rejected,ahead_rejected] at hclean honce ⊢
    obtain ⟨hc,hle⟩ := ih (hclean.2 _ (by simp)) (OnceEach.operand honce)
    exact ⟨⟨hclean.1,forall_replace hclean.2 hc⟩,ahead_replace hle⟩

/-- Where no audience is looked up twice, no run reports a cycle. -/
theorem no_cycle_of_nodup {d : AudienceDefinition κ π} (hd : (composeLookups db d).Nodup) {s : Task ε × List ℕ}
    (h : Reaches db (compose db d) s) : s.1.outcome ≠ some (.error .savedAudienceCycleDetected) := by
  have hstart : (compose db d).1.Clean ∧ OnceEach db (compose db d) := by
    unfold compose
    unfold composeLookups at hd
    cases hparse : d.parse with
    | none => exact ⟨by simp,fun x => by simp⟩
    | some d' =>
      rw [hparse] at hd
      have hcount := List.nodup_iff_count_le_one.mp hd
      rcases starts_walk db (AUDIENCE_MAX_DEPTH + 1) d' [] with hs | ⟨_,x,hx⟩
      · refine ⟨hs.clean,fun x => ?_⟩
        have hx := hs.count x
        have hle := hcount x
        simp only [List.count_nil,Option.elim_some] at hx hle ⊢
        omega
      · have hle := hcount x
        simp only [List.count_nil,Option.elim_some] at hx hle
        omega
  have hrun : s.1.Clean ∧ OnceEach db s := by
    induction h with
    | refl => exact hstart
    | tail _ hstep ih =>
      obtain ⟨hclean,hle⟩ := clean_step hstep ih.1 ih.2
      exact ⟨hclean,fun x => (hle x).trans (ih.2 x)⟩
  exact fun ho => clean_of_values (fun t ht => by rw [List.mem_singleton.mp ht]; exact hrun.1) (List.mem_singleton_self s.1) ho rfl

/-! ## An audience looked up twice -/

/-- A cycle that has been found may be the first error to arrive. -/
theorem CycleInside.reported {t : Task ε} (h : CycleInside t) (v : List ℕ) :
    ∃ s, Reaches db (t,v) s ∧ s.1.outcome = some (.error .savedAudienceCycleDetected) := by
  induction h generalizing v with
  | here => exact ⟨_,.refl,rfl⟩
  | saved _ ih =>
    obtain ⟨s,hs,ho⟩ := ih v
    exact ⟨_,hs.stored.tail (.finish ho),ho⟩
  | all ht _ ih =>
    obtain ⟨s,hs,ho⟩ := ih v
    obtain ⟨as,bs,rfl⟩ := List.append_of_mem ht
    exact ⟨_,hs.operand.tail (.reject (by simp) ho),rfl⟩

/-- A lookup that uncovers others can be answered before anything else happens. -/
theorem exists_found (t : Task ε) (v : List ℕ) (hw : t.Waited) (hahead : t.ahead db ≠ []) :
    ∃ s, Step db (t,v) s ∧ (CycleInside s.1 ∨ s.1.Waited ∧
      ∀ x, s.2.count x + (s.1.ahead db).count x = v.count x + (t.ahead db).count x) := by
  induction t using Task.induct generalizing v with
  | settled o => exact absurd rfl hahead
  | awaiting o => exact absurd rfl hahead
  | finding id levels =>
    cases hrow : db.findById id with
    | none => simp [storedDefinition,hrow] at hahead
    | some row =>
      refine ⟨(.saved id (resolveStoredDefinition db row levels v).1,(resolveStoredDefinition db row levels v).2),
        .found hrow rfl,?_⟩
      rcases starts_resolveStored hrow levels v with h | ⟨hcyc,_⟩
      · exact Or.inr ⟨waited_saved.mpr h.waited,fun x => by simpa only [ahead_saved,ahead_finding] using h.count x⟩
      · exact Or.inl (.saved hcyc)
  | saved id t ih =>
    obtain ⟨s,hs,h⟩ := ih v (waited_saved.mp hw) (by simpa using hahead)
    refine ⟨_,.stored hs,?_⟩
    rcases h with hcyc | ⟨hw,hcount⟩
    · exact Or.inl (.saved hcyc)
    · exact Or.inr ⟨waited_saved.mpr hw,by simpa using hcount⟩
  | all c ts ih =>
    rw [waited_all] at hw
    rw [ahead_all,ne_eq,List.flatMap_eq_nil_iff] at hahead
    push Not at hahead
    obtain ⟨t,ht,hne⟩ := hahead
    obtain ⟨s,hs,h⟩ := ih t ht v (hw t ht) hne
    obtain ⟨as,bs,rfl⟩ := List.append_of_mem ht
    refine ⟨_,.operand hs,?_⟩
    rcases h with hcyc | ⟨hws,hcount⟩
    · exact Or.inl (.all (by simp) hcyc)
    · refine Or.inr ⟨waited_all.mpr ?_,fun x => ?_⟩
      · simp only [List.forall_mem_append,List.forall_mem_cons] at hw ⊢
        exact ⟨hw.1,hws,hw.2.2⟩
      · have hx := hcount x
        simp only [ahead_all,List.flatMap_append,List.flatMap_cons,List.count_append]
        omega
  | rejected e ts => exact absurd hw not_waited_rejected

/-- Answering all lookups first puts every audience into the set, or finds a cycle. -/
theorem exists_lookUpAll (t : Task ε) (v : List ℕ) (hw : t.Waited) :
    ∃ s, Reaches db (t,v) s ∧ (CycleInside s.1 ∨ ∀ x, s.2.count x = v.count x + (t.ahead db).count x) := by
  induction hweight : t.weight db using Nat.strong_induction_on generalizing t v with
  | _ n ih =>
    by_cases hahead : t.ahead db = []
    · exact ⟨_,.refl,Or.inr fun x => by simp [hahead]⟩
    · obtain ⟨⟨t',v'⟩,hstep,hcyc | ⟨hw',hcount⟩⟩ := exists_found t v hw hahead
      · exact ⟨_,.single hstep,Or.inl hcyc⟩
      · obtain ⟨s,hs,h⟩ := ih _ (hweight ▸ weight_step hstep) t' v' hw' rfl
        refine ⟨s,.head hstep hs,h.imp id fun h x => ?_⟩
        rw [h x,hcount x]

/-- Where some audience is looked up twice, some run reports a cycle. -/
theorem cycle_of_not_nodup {d : AudienceDefinition κ π} (hd : ¬(composeLookups db d).Nodup) :
    ∃ s, Reaches db (compose db d) s ∧ s.1.outcome = some (.error .savedAudienceCycleDetected) := by
  unfold compose
  unfold composeLookups at hd
  cases hparse : d.parse with
  | none => simp [hparse] at hd
  | some d' =>
    rw [hparse,Option.elim_some] at hd
    change ∃ s, Reaches db (walk db (AUDIENCE_MAX_DEPTH + 1) d' []) s ∧ _
    have hwalk := starts_walk db (AUDIENCE_MAX_DEPTH + 1) d' []
    have howned := owned_walk db (AUDIENCE_MAX_DEPTH + 1) d' List.nodup_nil
    generalize walk db (AUDIENCE_MAX_DEPTH + 1) d' [] = s at hwalk howned
    rcases hwalk with hstart | ⟨hcyc,_⟩
    · obtain ⟨s',hreach,hcyc | hcount⟩ := exists_lookUpAll s.1 s.2 hstart.waited
      · obtain ⟨s'',hreach',ho⟩ := hcyc.reported s'.2
        exact ⟨s'',hreach.trans hreach',ho⟩
      · refine absurd (List.nodup_iff_count_le_one.mpr fun x => ?_) hd
        have howned' : Owned s'.1 s'.2 [] := by
          clear hcount
          induction hreach with
          | refl => exact howned
          | tail _ hstep ih => exact owned_step hstep ih
        have h₁ := hstart.count x
        have h₂ := hcount x
        have h₃ := List.nodup_iff_count_le_one.mp howned'.nodup x
        simp only [List.count_nil] at h₁
        omega
    · exact hcyc.reported s.2

/-! ## The whole composition -/

/-- Every run ends with an outcome. A cycle is reported only if there is one; where nothing else fails
it is reported if there is one, and the outcome is the users denoted if there is none. -/
structure WellComposed (db : Directory κ π ε) (d : AudienceDefinition κ π) : Prop where
  ends : Acc (fun s' s => Step db s s') (compose db d)
  answers : ∀ s, Reaches db (compose db d) s → s.1.outcome = none → ∃ s', Step db s s'
  cyclic : ∀ s, Reaches db (compose db d) s → s.1.outcome = some (.error .savedAudienceCycleDetected) → Cyclic db d
  reported : (∀ e ∈ composeFailures db d, e = .savedAudienceCycleDetected) → Cyclic db d →
    ∀ s o, Reaches db (compose db d) s → s.1.outcome = some o → o = .error .savedAudienceCycleDetected
  delivered : (∀ e ∈ composeFailures db d, e = .savedAudienceCycleDetected) → ¬Cyclic db d →
    ∀ s o, Reaches db (compose db d) s → s.1.outcome = some o → ∃ users : Finset ℕ, o = .ok users ∧ Denotes db d ↑users

theorem not_cyclic_of_composeFailures {d : AudienceDefinition κ π} (h : composeFailures db d = []) : ¬Cyclic db d := by
  unfold composeFailures at h
  cases hparse : d.parse with
  | none => simp [hparse] at h
  | some d' =>
    rw [hparse,Option.elim_some] at h
    obtain rfl := AudienceDefinition.eq_of_parse hparse
    exact not_cyclic_of_failures h

/-- A definition is composed well precisely if it is cyclic or looks no saved audience up twice. -/
theorem wellComposed_iff {d : AudienceDefinition κ π} :
    WellComposed db d ↔ Cyclic db d ∨ (composeLookups db d).Nodup := by
  constructor
  · intro h
    by_cases hd : (composeLookups db d).Nodup
    · exact Or.inr hd
    · obtain ⟨s,hs,ho⟩ := cycle_of_not_nodup hd
      exact Or.inl (h.cyclic s hs ho)
  · intro h
    refine ⟨acc_step _,fun s _ hs => exists_step s.1 s.2 hs,fun s hs ho => ?_,fun hf hcyc s o hs ho => ?_,
      fun hf hcyc s o hs ho => ?_⟩
    · exact h.resolve_right fun hd => no_cycle_of_nodup hd hs ho
    · rcases outcome_reaches hs ho with ⟨e,rfl,he⟩ | ⟨_,_,_,hnone⟩
      · rw [he.elim id (hf e)]
      · exact absurd hcyc (not_cyclic_of_composeFailures hnone)
    · rcases outcome_reaches hs ho with ⟨e,rfl,he⟩ | ⟨users,rfl,hden,_⟩
      · rw [he.elim id (hf e)] at ho
        exact absurd ho (no_cycle_of_nodup (h.resolve_left hcyc) hs)
      · exact ⟨users,rfl,hden⟩

/-- One static audience of one user. -/
def oneAudience : Directory Empty Unit Unit where
  registry _ := none
  findById id := if id = 1 then some { kind := .static, userIds := some [7] } else none
  members := {7}
  tenantUniverse := {7}

/-- The same audience twice: the second operand starts before the first one's lookup is answered. -/
def usedTwice : AudienceDefinition Empty Unit := .operands .or [.savedGroup (some 1),.savedGroup (some 1)]

theorem not_wellComposed : ¬WellComposed oneAudience usedTwice := by
  intro h
  have hstored : ∀ id, storedDefinition oneAudience id = none := by
    intro id
    by_cases hid : id = 1 <;> simp [storedDefinition,oneAudience,hid]
  have hrun : Reaches oneAudience (compose oneAudience usedTwice)
      (.rejected .savedAudienceCycleDetected [.finding 1 7,.settled (.error .savedAudienceCycleDetected)],[1]) :=
    .single (.reject (List.mem_cons_of_mem _ List.mem_cons_self) rfl)
  obtain ⟨a,b,_,_,hbb⟩ := h.cyclic _ hrun rfl
  obtain ⟨c,⟨d,hd,_⟩,_⟩ := Relation.TransGen.head'_iff.mp hbb
  rw [hstored b] at hd
  cases hd

end EduPod.Inbox
