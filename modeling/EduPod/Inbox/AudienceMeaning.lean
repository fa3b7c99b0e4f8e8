import EduPod.Inbox.AudienceRuns

/-! # What a composition delivers

A promise that others still wait for walks a part of the definition, below the saved audiences on
its stack; all of these are in the shared set. So a cycle is never missed, and what a promise settles
with is what its part denotes or an error of it.
-/
namespace EduPod.Inbox
variable {κ π ε : Type} {db : Directory κ π ε}

/-! ## The users a definition denotes -/

theorem Denotes.unique {d : AudienceDefinition κ π} {s s' : Set ℕ} (h : Denotes db d s) (h' : Denotes db d s') :
    s = s' := by
  induction h generalizing s' with
  | leaf hp hdata hids =>
    cases h' with
    | leaf hp' hdata' hids' =>
      obtain rfl := Option.some.inj (hp.symm.trans hp')
      obtain rfl := Option.some.inj (hdata.symm.trans hdata')
      obtain rfl := Except.ok.inj (hids.symm.trans hids')
      rfl
  | static hrow hkind hids =>
    cases h' with
    | static hrow' hkind' hids' =>
      obtain rfl := Option.some.inj (hrow.symm.trans hrow')
      obtain rfl := Option.some.inj (hids.symm.trans hids')
      rfl
    | dynamic hd' _ => simp [storedDefinition,hrow,hkind] at hd'
  | dynamic hd _ ih =>
    cases h' with
    | static hrow' hkind' hids' => simp [storedDefinition,hrow',hkind'] at hd
    | dynamic hd' h' =>
      obtain rfl := Option.some.inj (hd.symm.trans hd')
      exact ih h'
  | and sets _ ih =>
    cases h' with
    | and sets' h' =>
      ext u
      exact forall₂_congr fun op hop => by rw [ih op hop (h' op hop)]
  | or sets _ ih =>
    cases h' with
    | or sets' h' =>
      ext u
      refine exists_congr fun op => and_congr_right fun hop => ?_
      rw [ih op hop (h' op hop)]
  | not _ ih =>
    cases h' with
    | not h' => rw [ih h']

/-- The users of a definition, for those that denote any. -/
def usersOf (db : Directory κ π ε) (d : AudienceDefinition κ π) : Set ℕ := {u | ∃ s, Denotes db d s ∧ u ∈ s}

theorem Denotes.usersOf_eq {d : AudienceDefinition κ π} {s : Set ℕ} (h : Denotes db d s) : usersOf db d = s := by
  ext u
  constructor
  · rintro ⟨s',h',hu⟩
    rwa [h.unique h']
  · exact fun hu => ⟨s,h,hu⟩

theorem mem_intersect {first : Finset ℕ} {rest : List (Finset ℕ)} {u : ℕ} :
    u ∈ intersect (first :: rest) ↔ ∀ s ∈ first :: rest, u ∈ s := by
  simp [intersect]

theorem mem_union {sets : List (Finset ℕ)} {u : ℕ} : u ∈ union sets ↔ ∃ s ∈ sets, u ∈ s := by
  have hgen : ∀ acc : Finset ℕ, u ∈ sets.foldl (fun result s => result ∪ s) acc ↔ u ∈ acc ∨ ∃ s ∈ sets, u ∈ s := by
    induction sets with
    | nil => simp
    | cons s sets ih =>
      intro acc
      rw [List.foldl_cons,ih,Finset.mem_union,List.exists_mem_cons_iff,or_assoc]
  simpa [union] using hgen ∅

/-- A node whose operands deliver what they denote delivers what it denotes. -/
theorem denotes_operands {operator : Operator} {ops : List (AudienceDefinition κ π)} {sets : List (Finset ℕ)}
    (hne : ops ≠ []) (h : List.Forall₂ (fun op (s : Finset ℕ) => Denotes db op ↑s) ops sets) :
    Denotes db (.operands operator ops) ↑(operator.combine.apply sets) := by
  have hops : ∀ op ∈ ops, Denotes db op (usersOf db op) := by
    clear hne
    induction h with
    | nil => simp
    | cons hd _ ih => exact List.forall_mem_cons.mpr ⟨by rwa [hd.usersOf_eq],ih⟩
  have hall : ∀ u, (∀ s ∈ sets, u ∈ s) ↔ ∀ op ∈ ops, u ∈ usersOf db op := by
    intro u
    clear hne hops
    induction h with
    | nil => simp
    | cons hd _ ih => simp [ih,hd.usersOf_eq]
  have hex : ∀ u, (∃ s ∈ sets, u ∈ s) ↔ ∃ op ∈ ops, u ∈ usersOf db op := by
    intro u
    clear hne hops hall
    induction h with
    | nil => simp
    | cons hd _ ih => simp [ih,hd.usersOf_eq]
  cases operator with
  | and =>
    have hset : (↑(Operator.and.combine.apply sets) : Set ℕ) = {u | ∀ op ∈ ops, u ∈ usersOf db op} := by
      ext u
      rw [Set.mem_ofPred_eq,← hall u,Finset.mem_coe]
      cases h with
      | nil => exact absurd rfl hne
      | cons _ _ => exact mem_intersect
    rw [hset]
    exact .and _ hops
  | or =>
    have hset : (↑(Operator.or.combine.apply sets) : Set ℕ) = {u | ∃ op ∈ ops, u ∈ usersOf db op} := by
      ext u
      rw [Set.mem_ofPred_eq,← hex u,Finset.mem_coe]
      exact mem_union
    rw [hset]
    exact .or _ hops

/-! ## The shared set -/

/-- Every entry of the shared set belongs to one promise. -/
structure Owned (t : Task ε) (visited others : List ℕ) : Prop where
  count : ∀ a, visited.count a = t.owners.count a + others.count a
  nodup : visited.Nodup

theorem Owned.startAll {α : Type} {start : α → List ℕ → Task ε × List ℕ}
    (h : ∀ a v, v.Nodup → Owned (start a v).1 (start a v).2 v) (as : List α) {v : List ℕ} (hv : v.Nodup) :
    (startAll start as v).2.Nodup ∧ ∀ x, (startAll start as v).2.count x =
      ((startAll start as v).1.flatMap Task.owners).count x + v.count x := by
  induction as generalizing v with
  | nil => exact ⟨hv,fun x => by simp [Inbox.startAll]⟩
  | cons a as ih =>
    have ha := h a v hv
    obtain ⟨hn,hc⟩ := ih ha.nodup
    refine ⟨hn,fun x => ?_⟩
    have h₁ := hc x
    have h₂ := ha.count x
    simp only [Inbox.startAll,List.flatMap_cons,List.count_append]
    omega

theorem owned_quiet {t : Task ε} {v : List ℕ} (ht : t.owners = []) (hv : v.Nodup) : Owned t v v :=
  ⟨fun x => by simp [ht],hv⟩

theorem owners_resolveLeaf (provider : κ) (params : π) : (resolveLeaf db provider params).owners = [] := by
  unfold resolveLeaf
  repeat' split
  all_goals rfl

theorem owned_walk (db : Directory κ π ε) (levels : ℕ) (d : AudienceDefinition κ π) {v : List ℕ} (hv : v.Nodup) :
    Owned (walk db levels d v).1 (walk db levels d v).2 v := by
  induction levels generalizing d v with
  | zero => exact owned_quiet rfl hv
  | succ levels ih =>
    cases d with
    | leaf provider params => exact owned_quiet (owners_resolveLeaf provider params) hv
    | savedGroup id =>
      cases id with
      | none => exact owned_quiet rfl hv
      | some id =>
        simp only [walk,resolveSavedGroup]
        split
        · exact owned_quiet rfl hv
        · rename_i hid
          exact ⟨fun x => by simp [List.count_cons,add_comm],List.nodup_cons.mpr ⟨hid,hv⟩⟩
    | operands operator ops =>
      obtain ⟨hn,hcount⟩ := Owned.startAll (fun op w hw => ih op hw) ops hv
      exact ⟨fun x => by simpa only [walk,owners_all] using hcount x,hn⟩
    | not op =>
      have h := ih op hv
      exact ⟨fun x => by simpa [walk] using h.count x,h.nodup⟩

theorem owned_resolveStored (db : Directory κ π ε) (row : SavedAudienceRow κ π) (levels : ℕ) {v : List ℕ} (hv : v.Nodup) :
    Owned (resolveStoredDefinition db row levels v).1 (resolveStoredDefinition db row levels v).2 v := by
  unfold resolveStoredDefinition
  repeat' split
  all_goals first
    | exact owned_walk db levels _ hv
    | exact owned_quiet rfl hv

theorem Owned.erase {id : ℕ} {t : Task ε} {v others : List ℕ}
    (h : ∀ x, v.count x = (id :: t.owners).count x + others.count x) (hv : v.Nodup) : Owned t (v.erase id) others := by
  refine ⟨fun x => ?_,hv.erase id⟩
  have hx := h x
  rw [List.count_erase,hx,List.count_cons]
  by_cases hxid : id = x
  · subst hxid
    simp
  · simp [hxid]

theorem eq_settled_of_values {ts : List (Task ε)} {sets : List (Finset ℕ)} (h : ts.mapM Task.value = some sets) :
    ts = sets.map fun s => .settled (.ok s) := by
  induction ts generalizing sets with
  | nil =>
    cases h
    rfl
  | cons t ts ih =>
    rw [List.mapM_cons,Option.bind_eq_bind,Option.bind_eq_some_iff] at h
    obtain ⟨s,hs,h⟩ := h
    obtain ⟨rest,hrest,h⟩ := Option.bind_eq_some_iff.mp h
    obtain rfl := Option.some.inj h
    rw [ih hrest,List.map_cons]
    congr 1
    unfold Task.value at hs
    split at hs
    · rw [Option.some.inj hs]
    · cases hs

theorem owners_of_values {ts : List (Task ε)} {sets : List (Finset ℕ)} (h : ts.mapM Task.value = some sets) :
    ∀ t ∈ ts, t.owners = [] := by
  rw [eq_settled_of_values h]
  intro t ht
  obtain ⟨s,_,rfl⟩ := List.mem_map.mp ht
  rfl

/-- An operand of a node, beside all others. -/
theorem Owned.among {ts ts' : List (Task ε)} {t : Task ε} {v others : List ℕ} (hv : v.Nodup)
    (hc : ∀ x, v.count x = ((ts ++ t :: ts').flatMap Task.owners).count x + others.count x) :
    Owned t v (ts.flatMap Task.owners ++ ts'.flatMap Task.owners ++ others) := by
  refine ⟨fun x => ?_,hv⟩
  have hx := hc x
  simp only [List.flatMap_append,List.flatMap_cons,List.count_append] at hx ⊢
  omega

/-- One operand of a node goes on. -/
theorem Owned.operand {ts ts' : List (Task ε)} {t t' : Task ε} {v v' others : List ℕ}
    (h : ∀ {others}, Owned t v others → Owned t' v' others) (hv : v.Nodup)
    (hc : ∀ x, v.count x = ((ts ++ t :: ts').flatMap Task.owners).count x + others.count x) :
    v'.Nodup ∧ ∀ x, v'.count x = ((ts ++ t' :: ts').flatMap Task.owners).count x + others.count x := by
  have hafter := h (Owned.among hv hc)
  refine ⟨hafter.nodup,fun x => ?_⟩
  have hx := hafter.count x
  simp only [List.flatMap_append,List.flatMap_cons,List.count_append] at hx ⊢
  omega

theorem owned_step {s s' : Task ε × List ℕ} (h : Step db s s') {others : List ℕ} (hs : Owned s.1 s.2 others) :
    Owned s'.1 s'.2 others := by
  induction h generalizing others with
  | settle => exact ⟨hs.count,hs.nodup⟩
  | missing _ => exact Owned.erase hs.count hs.nodup
  | @found id levels row t v v' _ ht =>
    have h := owned_resolveStored db row levels hs.nodup
    simp only [ht] at h
    refine ⟨fun x => ?_,h.nodup⟩
    have h₁ := h.count x
    have h₂ := hs.count x
    simp only [owners_finding,owners_saved,List.count_cons,List.count_nil] at h₂ ⊢
    omega
  | finish _ => exact Owned.erase hs.count hs.nodup
  | fulfil hts =>
    have hnone := List.flatMap_eq_nil_iff.mpr (owners_of_values hts)
    exact ⟨fun x => by simpa [hnone] using hs.count x,hs.nodup⟩
  | reject _ _ => exact ⟨by simpa using hs.count,hs.nodup⟩
  | @stored id t t' v v' _ ih =>
    have h := @ih (id :: others) ⟨fun x => by simpa [List.count_cons,add_right_comm,add_assoc] using hs.count x,hs.nodup⟩
    exact ⟨fun x => by simpa [List.count_cons,add_right_comm,add_assoc] using h.count x,h.nodup⟩
  | operand _ ih =>
    obtain ⟨hn,hc⟩ := Owned.operand ih hs.nodup (by simpa only [owners_all] using hs.count)
    exact ⟨by simpa only [owners_all] using hc,hn⟩
  | background _ ih =>
    obtain ⟨hn,hc⟩ := Owned.operand ih hs.nodup (by simpa only [owners_rejected] using hs.count)
    exact ⟨by simpa only [owners_rejected] using hc,hn⟩

theorem Owned.subset {t : Task ε} {v others : List ℕ} (h : Owned t v others) : others ⊆ v := by
  intro x hx
  have hc := h.count x
  have hpos := List.count_pos_iff.mpr hx
  exact List.count_pos_iff.mp (by omega)

/-! ## Promises and their parts of the definition -/

/-- An error of a part, or a cycle, be it there or not. -/
def Blames (db : Directory κ π ε) (levels : ℕ) (stack : List ℕ) (d : AudienceDefinition κ π) (e : ComposeError ε) : Prop :=
  e = .savedAudienceCycleDetected ∨ e ∈ failures db levels stack d

/-- The promise has settled as its part allows. -/
def Settles (db : Directory κ π ε) (levels : ℕ) (stack : List ℕ) (d : AudienceDefinition κ π) (t : Task ε) : Prop :=
  (∃ e, t.outcome = some (.error e) ∧ Blames db levels stack d e) ∨
    ∃ users : Finset ℕ, t = .settled (.ok users) ∧ Denotes db d ↑users ∧ failures db levels stack d = []

/-- The promise of a static audience, or of one that cannot be resolved. -/
def TracksRow (row : SavedAudienceRow κ π) (members : Finset ℕ) (t : Task ε) : Prop :=
  match row.kind with
  | .static =>
    match row.userIds with
    | none => t = .settled (.error .savedAudienceDefinitionInvalid)
    | some userIds => t = .awaiting (.ok (userIds.toFinset.filter (· ∈ members))) ∨
        t = .settled (.ok (userIds.toFinset.filter (· ∈ members)))
  | .dynamic => t = .settled (.error .definitionInvalid)

/-- The promise is at work on its part, below the audiences on the stack; `inner` says the same of the
parts within it. -/
inductive Works (db : Directory κ π ε) (inner : List ℕ → AudienceDefinition κ π → Task ε → Prop) (levels : ℕ)
    (stack : List ℕ) : AudienceDefinition κ π → Task ε → Prop
  | leaf {provider params o} : resolveLeaf db provider params = .awaiting o →
    Works db inner levels stack (.leaf provider params) (.awaiting o)
  | finding {id} : id ∉ stack → Works db inner levels stack (.savedGroup (some id)) (.finding id levels)
  | saved {id row t} : id ∉ stack → db.findById id = some row →
    (storedDefinition db id).elim (TracksRow row db.members t) (fun d => inner (id :: stack) d t) →
    Works db inner levels stack (.savedGroup (some id)) (.saved id t)
  | operands {operator ops ts} : ops ≠ [] → List.Forall₂ (inner stack) ops ts →
    Works db inner levels stack (.operands operator ops) (.all operator.combine ts)
  | not {op operand others} : inner stack op operand →
    others = .awaiting (.ok db.tenantUniverse) ∨ others = .settled (.ok db.tenantUniverse) →
    Works db inner levels stack (.not op) (.all .not [operand,others])

/-- The promise has settled, or it is at work. -/
@[grind] def Tracks (db : Directory κ π ε) : ℕ → List ℕ → AudienceDefinition κ π → Task ε → Prop
  | 0, stack, d, t => Settles db 0 stack d t
  | levels + 1, stack, d, t => Settles db (levels + 1) stack d t ∨ Works db (Tracks db levels) levels stack d t

theorem Settles.tracks {levels : ℕ} {stack : List ℕ} {d : AudienceDefinition κ π} {t : Task ε}
    (h : Settles db levels stack d t) : Tracks db levels stack d t := by
  cases levels with
  | zero => exact h
  | succ levels => exact Or.inl h

/-- A promise with an outcome has settled as its part allows. -/
theorem Tracks.settles {levels : ℕ} {stack : List ℕ} {d : AudienceDefinition κ π} {t : Task ε} {o : Outcome ε}
    (h : Tracks db levels stack d t) (ho : t.outcome = some o) : Settles db levels stack d t := by
  cases levels with
  | zero => exact h
  | succ levels =>
    rcases h with h | h
    · exact h
    · cases h <;> simp [Task.outcome] at ho

theorem Tracks.works {levels : ℕ} {stack : List ℕ} {d : AudienceDefinition κ π} {t : Task ε}
    (h : Tracks db levels stack d t) (ho : t.outcome = none) :
    ∃ below, levels = below + 1 ∧ Works db (Tracks db below) below stack d t := by
  have hnot : ¬Settles db levels stack d t := by
    rintro (⟨e,he,_⟩ | ⟨users,rfl,_⟩)
    · simp [ho] at he
    · simp [Task.outcome] at ho
  cases levels with
  | zero => exact absurd h hnot
  | succ levels => exact ⟨levels,rfl,h.resolve_left hnot⟩

theorem allWellFormed_iff {ops : List (AudienceDefinition κ π)} :
    allWellFormed ops = true ↔ ∀ op ∈ ops, op.wellFormed = true := by
  induction ops with
  | nil => simp [allWellFormed]
  | cons op ops ih => simp [allWellFormed,ih]

theorem AudienceDefinition.eq_of_parse {d d' : AudienceDefinition κ π} (h : d.parse = some d') : d = d' := by
  unfold AudienceDefinition.parse at h
  split at h
  · exact Option.some.inj h
  · cases h

theorem AudienceDefinition.wellFormed_of_parse {d d' : AudienceDefinition κ π} (h : d.parse = some d') :
    d'.wellFormed = true := by
  unfold AudienceDefinition.parse at h
  split at h
  · rename_i hd
    obtain rfl := Option.some.inj h
    exact (Bool.and_eq_true_iff.mp hd).1
  · cases h

/-- A leaf fails at once or waits for its provider. -/
theorem resolveLeaf_cases (db : Directory κ π ε) (provider : κ) (params : π) :
    (∃ e, resolveLeaf db provider params = .settled (.error e) ∧ e ≠ .savedAudienceCycleDetected) ∨
      ∃ o, resolveLeaf db provider params = .awaiting o ∧ o ≠ .error .savedAudienceCycleDetected := by
  unfold resolveLeaf
  repeat' split
  · exact Or.inl ⟨_,rfl,by simp⟩
  · exact Or.inl ⟨_,rfl,by simp⟩
  · exact Or.inr ⟨_,rfl,by simp⟩
  · exact Or.inr ⟨_,rfl,by simp⟩

theorem tracks_walk (levels : ℕ) {d : AudienceDefinition κ π} {stack v : List ℕ} (hd : d.wellFormed = true)
    (hstack : stack ⊆ v) (hv : v.Nodup) : Tracks db levels stack d (walk db levels d v).1 := by
  induction levels generalizing d v with
  | zero => exact Or.inl ⟨_,rfl,Or.inr (by simp [failures])⟩
  | succ levels ih =>
    cases d with
    | leaf provider params =>
      rcases resolveLeaf_cases db provider params with ⟨e,hleaf,_⟩ | ⟨o,hleaf,_⟩
      · exact Or.inl (Or.inl ⟨e,by simp [walk,hleaf,Task.outcome],Or.inr (by simp [failures,hleaf])⟩)
      · exact Or.inr (by simpa only [walk,hleaf] using Works.leaf hleaf)
    | savedGroup id =>
      cases id with
      | none => exact Or.inl (Or.inl ⟨_,rfl,Or.inr (by simp [failures])⟩)
      | some id =>
        by_cases hid : id ∈ v
        · exact Or.inl (Or.inl ⟨_,by simp [walk,resolveSavedGroup,hid,Task.outcome],Or.inl rfl⟩)
        · rw [walk,resolveSavedGroup,if_neg hid]
          exact Or.inr (.finding fun h => hid (hstack h))
    | operands operator ops =>
      simp only [AudienceDefinition.wellFormed,Bool.and_eq_true,decide_eq_true_eq,allWellFormed_iff] at hd
      obtain ⟨hlen,hops⟩ := hd
      refine Or.inr (.operands (List.ne_nil_of_length_pos (by omega)) ?_)
      clear hlen
      induction ops generalizing v with
      | nil => exact .nil
      | cons op ops ihops =>
        obtain ⟨hop,hops⟩ := List.forall_mem_cons.mp hops
        have howned := owned_walk db levels op hv
        exact .cons (ih hop hstack hv) (ihops (List.Subset.trans hstack howned.subset) howned.nodup hops)
    | not op => exact Or.inr (.not (ih hd hstack hv) (Or.inl rfl))

theorem tracks_resolveStored {id : ℕ} {row : SavedAudienceRow κ π} (hrow : db.findById id = some row) (levels : ℕ)
    {stack v : List ℕ} (hstack : id :: stack ⊆ v) (hv : v.Nodup) :
    (storedDefinition db id).elim (TracksRow row db.members (resolveStoredDefinition db row levels v).1)
      fun d => Tracks db levels (id :: stack) d (resolveStoredDefinition db row levels v).1 := by
  cases hk : row.kind with
  | static =>
    have hstored : storedDefinition db id = none := by simp [storedDefinition,hrow,hk]
    simp only [hstored,TracksRow,resolveStoredDefinition,hk,Option.elim_none]
    split
    · rename_i hids
      simp [hids]
    · rename_i userIds hids
      simp [hids]
  | dynamic =>
    have hstored : storedDefinition db id = row.definition.bind AudienceDefinition.parse := by
      simp [storedDefinition,hrow,hk]
    simp only [hstored,TracksRow,resolveStoredDefinition,hk]
    cases hd : row.definition.bind AudienceDefinition.parse with
    | none => rfl
    | some d =>
      obtain ⟨_,_,hparse⟩ := Option.bind_eq_some_iff.mp hd
      exact tracks_walk levels (AudienceDefinition.wellFormed_of_parse hparse) hstack hv

/-! ## One continuation -/

/-- A leaf that has heard from its provider has settled as it may. -/
theorem settles_leaf {levels : ℕ} {stack : List ℕ} {provider : κ} {params : π} {o : Outcome ε}
    (h : resolveLeaf db provider params = .awaiting o) : Settles db (levels + 1) stack (.leaf provider params) (.settled o) := by
  cases o with
  | error e => exact Or.inl ⟨e,rfl,Or.inr (by simp [failures,h])⟩
  | ok users =>
    refine Or.inr ⟨users,rfl,?_,by simp [failures,h]⟩
    unfold resolveLeaf at h
    repeat' split at h
    · cases h
    · cases h
    · rename_i p hp _ data hdata _ userIds hids
      cases h
      rw [List.coe_toFinset]
      exact .leaf hp hdata hids
    · cases h

/-- What the stored definition of a saved audience settles with settles the audience. -/
theorem settles_savedGroup {levels id : ℕ} {stack : List ℕ} {row : SavedAudienceRow κ π} {t : Task ε} {o : Outcome ε}
    (hid : id ∉ stack) (hrow : db.findById id = some row) (ho : t.outcome = some o)
    (h : (storedDefinition db id).elim (TracksRow row db.members t) fun d => Tracks db levels (id :: stack) d t) :
    Settles db (levels + 1) stack (.savedGroup (some id)) t := by
  cases hd : storedDefinition db id with
  | none =>
    rw [hd,Option.elim_none] at h
    cases hk : row.kind with
    | static =>
      cases hids : row.userIds with
      | none =>
        simp only [TracksRow,hk,hids] at h
        subst h
        exact Or.inl ⟨_,rfl,Or.inr (by simp [failures,hid,hrow,hk,hids])⟩
      | some userIds =>
        simp only [TracksRow,hk,hids] at h
        rcases h with rfl | rfl
        · simp [Task.outcome] at ho
        · refine Or.inr ⟨_,rfl,?_,by simp [failures,hid,hrow,hk,hids]⟩
          rw [Finset.coe_filter]
          simpa using Denotes.static hrow hk hids
    | dynamic =>
      simp only [TracksRow,hk] at h
      subst h
      simp only [storedDefinition,hrow,Option.bind_some,hk] at hd
      exact Or.inl ⟨_,rfl,Or.inr (by simp [failures,hid,hrow,hk,hd])⟩
  | some d =>
    rw [hd,Option.elim_some] at h
    have hfailures : failures db (levels + 1) stack (.savedGroup (some id)) = failures db levels (id :: stack) d := by
      have hstored := hd
      simp only [storedDefinition,hrow,Option.bind_some] at hstored
      cases hk : row.kind with
      | static => simp [hk] at hstored
      | dynamic =>
        simp only [hk] at hstored
        simp [failures,hid,hrow,hk,hstored]
    rcases h.settles ho with ⟨e,he,hblame⟩ | ⟨users,rfl,hden,hnone⟩
    · refine Or.inl ⟨e,he,?_⟩
      rwa [Blames,hfailures]
    · exact Or.inr ⟨users,rfl,.dynamic hd hden,hfailures.trans hnone⟩

theorem settles_fulfil {levels : ℕ} {stack : List ℕ} {operator : Operator} {ops : List (AudienceDefinition κ π)}
    {ts : List (Task ε)} {sets : List (Finset ℕ)} (hne : ops ≠ []) (h : List.Forall₂ (Tracks db levels stack) ops ts)
    (hsets : ts.mapM Task.value = some sets) :
    Settles db (levels + 1) stack (.operands operator ops) (.settled (.ok (operator.combine.apply sets))) := by
  rw [eq_settled_of_values hsets,List.forall₂_map_right_iff] at h
  have hall : List.Forall₂ (fun op (s : Finset ℕ) => Denotes db op ↑s ∧ failures db levels stack op = []) ops sets := by
    refine h.imp fun op s hs => ?_
    rcases hs.settles rfl with ⟨e,he,_⟩ | ⟨users,hu,hden,hnone⟩
    · simp [Task.outcome] at he
    · obtain rfl := Except.ok.inj (Task.settled.inj hu)
      exact ⟨hden,hnone⟩
  refine Or.inr ⟨_,rfl,denotes_operands hne (hall.imp fun _ _ h => h.1),?_⟩
  rw [failures,List.flatMap_eq_nil_iff]
  clear h hsets hne
  induction hall with
  | nil => simp
  | cons h _ ih => exact List.forall_mem_cons.mpr ⟨h.2,ih⟩

/-- A node that hears of a rejection has settled as it may. -/
theorem settles_reject {levels : ℕ} {stack : List ℕ} {operator : Operator} {ops : List (AudienceDefinition κ π)}
    {ts : List (Task ε)} {t : Task ε} {e : ComposeError ε} (h : List.Forall₂ (Tracks db levels stack) ops ts)
    (ht : t ∈ ts) (he : t.outcome = some (.error e)) :
    Blames db (levels + 1) stack (.operands operator ops) e := by
  obtain ⟨op,hop,htracks⟩ : ∃ op ∈ ops, Tracks db levels stack op t := by
    induction h with
    | nil => cases ht
    | cons h _ ih =>
      rcases List.mem_cons.mp ht with rfl | ht
      · exact ⟨_,List.mem_cons_self,h⟩
      · obtain ⟨op,hop,h⟩ := ih ht
        exact ⟨op,List.mem_cons_of_mem _ hop,h⟩
  rcases htracks.settles he with ⟨e',he',hblame⟩ | ⟨users,rfl,_⟩
  · obtain rfl := Except.error.inj (Option.some.inj (he.symm.trans he'))
    exact hblame.imp id fun h => List.mem_flatMap.mpr ⟨op,hop,h⟩
  · simp [Task.outcome] at he

theorem forall₂_replace {α β : Type} {R : α → β → Prop} {as : List α} {bs bs' : List β} {b b' : β}
    (h : List.Forall₂ R as (bs ++ b :: bs')) (hb : ∀ a, R a b → R a b') : List.Forall₂ R as (bs ++ b' :: bs') := by
  induction bs generalizing as with
  | nil =>
    cases h with
    | cons h hs => exact .cons (hb _ h) hs
  | cons x bs ih =>
    cases h with
    | cons h hs => exact .cons h (ih hs)

theorem Owned.inside {id : ℕ} {t : Task ε} {v others : List ℕ} (h : Owned (.saved id t) v others) :
    Owned t v (id :: others) := by
  refine ⟨fun x => ?_,h.nodup⟩
  have hx := h.count x
  simp only [owners_saved,List.count_cons] at hx ⊢
  omega

theorem TracksRow.step {row : SavedAudienceRow κ π} {members : Finset ℕ} {t t' : Task ε} {v v' : List ℕ}
    (h : TracksRow row members t) (hstep : Step db (t,v) (t',v')) : TracksRow row members t' := by
  unfold TracksRow at h ⊢
  repeat' split
  all_goals simp_all only
  · subst h
    cases hstep
  · rcases h with rfl | rfl
    · cases hstep
      exact Or.inr rfl
    · cases hstep
  · subst h
    cases hstep

theorem settles_not {levels : ℕ} {stack : List ℕ} {op : AudienceDefinition κ π} {operand others : Task ε}
    {sets : List (Finset ℕ)} (hop : Tracks db levels stack op operand)
    (hothers : others = .awaiting (.ok db.tenantUniverse) ∨ others = .settled (.ok db.tenantUniverse))
    (hsets : [operand,others].mapM Task.value = some sets) :
    Settles db (levels + 1) stack (.not op) (.settled (.ok (Combine.not.apply sets))) := by
  have hts := eq_settled_of_values hsets
  obtain ⟨s,u,rfl⟩ : ∃ s u, sets = [s,u] := by
    have hlen := congrArg List.length hts
    rw [List.length_map] at hlen
    obtain ⟨s,u,h⟩ := List.length_eq_two.mp hlen.symm
    exact ⟨s,u,h⟩
  obtain ⟨rfl,hu⟩ : operand = .settled (.ok s) ∧ others = .settled (.ok u) := by simpa using hts
  rcases hothers with rfl | rfl
  · cases hu
  · cases hu
    rcases hop.settles rfl with ⟨e,he,_⟩ | ⟨users,hu,hden,hnone⟩
    · simp [Task.outcome] at he
    · obtain rfl := Except.ok.inj (Task.settled.inj hu)
      refine Or.inr ⟨_,rfl,?_,hnone⟩
      have hset : (↑(Combine.not.apply [s,db.tenantUniverse]) : Set ℕ) = {u | u ∈ (db.tenantUniverse : Set ℕ) ∧ u ∉ (s : Set ℕ)} := by
        ext u
        simp [Combine.apply,complement]
      rw [hset]
      exact .not hden

theorem blames_not {levels : ℕ} {stack : List ℕ} {op : AudienceDefinition κ π} {t operand others : Task ε}
    {e : ComposeError ε} (hop : Tracks db levels stack op operand)
    (hothers : others = .awaiting (.ok db.tenantUniverse) ∨ others = .settled (.ok db.tenantUniverse))
    (ht : t ∈ [operand,others]) (he : t.outcome = some (.error e)) : Blames db (levels + 1) stack (.not op) e := by
  rcases List.mem_pair.mp ht with rfl | rfl
  · rcases hop.settles he with ⟨e',he',hblame⟩ | ⟨users,rfl,_⟩
    · obtain rfl := Except.error.inj (Option.some.inj (he.symm.trans he'))
      exact hblame
    · simp [Task.outcome] at he
  · rcases hothers with rfl | rfl <;> simp [Task.outcome] at he

theorem tracks_step {s s' : Task ε × List ℕ} (h : Step db s s') {others : List ℕ} (howned : Owned s.1 s.2 others)
    {levels : ℕ} {stack : List ℕ} (hstack : stack ⊆ others) {d : AudienceDefinition κ π}
    (ht : Tracks db levels stack d s.1) : Tracks db levels stack d s'.1 := by
  induction h generalizing others levels stack d with
  | settle =>
    obtain ⟨below,rfl,hw⟩ := ht.works rfl
    cases hw with
    | leaf hleaf => exact (settles_leaf hleaf).tracks
  | missing hrow =>
    obtain ⟨below,rfl,hw⟩ := ht.works rfl
    cases hw with
    | finding hid => exact Or.inl (Or.inl ⟨_,rfl,Or.inr (by simp [failures,hid,hrow])⟩)
  | @found id levels row t v v' hrow hstart =>
    obtain ⟨below,rfl,hw⟩ := ht.works rfl
    cases hw with
    | finding hid =>
      have hsub : id :: stack ⊆ v := by
        refine List.cons_subset.mpr ⟨?_,List.Subset.trans hstack howned.subset⟩
        have hc := howned.count id
        exact List.count_pos_iff.mp (by simp only [owners_finding,List.count_singleton_self] at hc; omega)
      have h := tracks_resolveStored hrow levels hsub howned.nodup
      rw [hstart] at h
      exact Or.inr (.saved hid hrow h)
  | finish ho =>
    obtain ⟨below,rfl,hw⟩ := ht.works rfl
    cases hw with
    | saved hid hrow h => exact (settles_savedGroup hid hrow ho h).tracks
  | fulfil hsets =>
    obtain ⟨below,rfl,hw⟩ := ht.works rfl
    cases hw with
    | operands hne hops => exact (settles_fulfil hne hops hsets).tracks
    | not hop hothers => exact (settles_not hop hothers hsets).tracks
  | reject hmem he =>
    obtain ⟨below,rfl,hw⟩ := ht.works rfl
    cases hw with
    | operands _ hops => exact Or.inl (Or.inl ⟨_,rfl,settles_reject hops hmem he⟩)
    | not hop hothers => exact Or.inl (Or.inl ⟨_,rfl,blames_not hop hothers hmem he⟩)
  | @stored id t t' v v' hstep ih =>
    obtain ⟨below,rfl,hw⟩ := ht.works rfl
    cases hw with
    | @saved _ row _ hid hrow h =>
      refine Or.inr (.saved hid hrow ?_)
      cases hd : storedDefinition db id with
      | none =>
        rw [hd] at h
        exact h.step hstep
      | some d =>
        rw [hd] at h
        exact ih howned.inside (List.cons_subset_cons id hstack) h
  | @operand combine ts ts' t t' v v' hstep ih =>
    have hamong := Owned.among howned.nodup (by simpa only [owners_all] using howned.count)
    have hsub := List.Subset.trans hstack (List.subset_append_right (ts.flatMap Task.owners ++ ts'.flatMap Task.owners) others)
    obtain ⟨below,rfl,hw⟩ := ht.works rfl
    generalize hts : ts ++ t :: ts' = all at hw
    cases hw with
    | operands hne hops =>
      subst hts
      exact Or.inr (.operands hne (forall₂_replace hops fun op hop => ih hamong hsub hop))
    | @not op operand waiting hop hothers =>
      -- either the operand goes on or the universe arrives
      rcases ts with _ | ⟨first,ts⟩
      · obtain ⟨rfl,rfl⟩ : t = operand ∧ ts' = [waiting] := by simpa using hts
        exact Or.inr (.not (ih hamong hsub hop) hothers)
      · obtain ⟨rfl,rfl,rfl,rfl⟩ : first = operand ∧ ts = [] ∧ t = waiting ∧ ts' = [] := by
          cases ts <;> simp_all
        rcases hothers with rfl | rfl
        · cases hstep
          exact Or.inr (.not hop (Or.inr rfl))
        · cases hstep
  | background _ ih =>
    rcases ht.settles rfl with ⟨e,he,hblame⟩ | ⟨_,hu,_⟩
    · exact Settles.tracks (Or.inl ⟨e,he,hblame⟩)
    · cases hu

/-- Whatever has run, a walk from the empty set tracks its definition. -/
theorem tracks_reaches {levels : ℕ} {d : AudienceDefinition κ π} (hd : d.wellFormed = true) {s : Task ε × List ℕ}
    (h : Reaches db (walk db levels d []) s) : Owned s.1 s.2 [] ∧ Tracks db levels [] d s.1 := by
  induction h with
  | refl => exact ⟨owned_walk db levels d List.nodup_nil,tracks_walk levels hd (List.nil_subset _) List.nodup_nil⟩
  | tail _ hstep ih =>
    obtain ⟨howned,ht⟩ := ih
    exact ⟨owned_step hstep howned,tracks_step hstep howned (List.nil_subset _) ht⟩

/-- What resolving a saved audience directly delivers. -/
theorem denotes_resolveStored {id levels : ℕ} {row : SavedAudienceRow κ π} (hrow : db.findById id = some row)
    {s : Task ε × List ℕ} {users : Finset ℕ} (h : Reaches db (resolveStoredDefinition db row levels [id]) s)
    (ho : s.1.outcome = some (.ok users)) : Denotes db (.savedGroup (some id)) ↑users := by
  have hnodup : [id].Nodup := List.nodup_singleton id
  have hrun : ∀ s', Reaches db (.saved id (resolveStoredDefinition db row levels [id]).1,
      (resolveStoredDefinition db row levels [id]).2) s' →
      Owned s'.1 s'.2 [] ∧ Tracks db (levels + 1) [] (.savedGroup (some id)) s'.1 := by
    intro s' h'
    induction h' with
    | refl =>
      have howned := owned_resolveStored db row levels hnodup
      refine ⟨⟨fun x => ?_,howned.nodup⟩,Or.inr (.saved List.not_mem_nil hrow
        (tracks_resolveStored hrow levels (List.Subset.refl [id]) hnodup))⟩
      have hx := howned.count x
      simp only [owners_saved,List.count_cons,List.count_nil] at hx ⊢
      omega
    | tail _ hstep ih => exact ⟨owned_step hstep ih.1,tracks_step hstep ih.1 (List.nil_subset _) ih.2⟩
  obtain ⟨below,_,hw⟩ := (hrun _ h.stored).2.works rfl
  cases hw with
  | saved hid hrow' hs =>
    rcases settles_savedGroup hid hrow' ho hs with ⟨e,he,_⟩ | ⟨users',hu,hden,_⟩
    · simp [ho] at he
    · rw [hu] at ho
      cases ho
      exact hden

/-- What a composition settles with: the users the definition denotes, an error of one of its parts,
or a cycle. -/
theorem outcome_reaches {d : AudienceDefinition κ π} {s : Task ε × List ℕ} {o : Outcome ε}
    (h : Reaches db (compose db d) s) (ho : s.1.outcome = some o) :
    (∃ e, o = .error e ∧ (e = .savedAudienceCycleDetected ∨ e ∈ composeFailures db d)) ∨
      ∃ users : Finset ℕ, o = .ok users ∧ Denotes db d ↑users ∧ composeFailures db d = [] := by
  unfold compose at h
  unfold composeFailures
  cases hparse : d.parse with
  | none =>
    simp only [hparse] at h
    rcases Relation.ReflTransGen.cases_head h with rfl | ⟨s',hstep,_⟩
    · obtain rfl := Option.some.inj ho
      exact Or.inl ⟨_,rfl,Or.inr (by simp)⟩
    · cases hstep
  | some d' =>
    simp only [hparse] at h
    obtain rfl := AudienceDefinition.eq_of_parse hparse
    obtain ⟨_,ht⟩ := tracks_reaches (AudienceDefinition.wellFormed_of_parse hparse) h
    rcases ht.settles ho with ⟨e,he,hblame⟩ | ⟨users,hu,hden,hnone⟩
    · exact Or.inl ⟨e,Option.some.inj (ho.symm.trans he),hblame⟩
    · rw [hu] at ho
      exact Or.inr ⟨users,(Option.some.inj ho).symm,hden,hnone⟩

end EduPod.Inbox
