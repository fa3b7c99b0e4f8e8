import EduPod.Inbox.AudienceComposer

/-! # Runs of a composition

Every run of continuations ends with an outcome. The outcome is the users the definition denotes, or
an error met at one of its leaves, or a cycle.
-/
namespace EduPod.Inbox
variable {κ π ε : Type} {db : Directory κ π ε}

/-! ## The tree of promises -/

theorem Task.induct {P : Task ε → Prop} (settled : ∀ outcome, P (.settled outcome))
    (awaiting : ∀ outcome, P (.awaiting outcome)) (finding : ∀ id levels, P (.finding id levels))
    (saved : ∀ id t, P t → P (.saved id t)) (all : ∀ combine ts, (∀ t ∈ ts, P t) → P (.all combine ts))
    (rejected : ∀ reason ts, (∀ t ∈ ts, P t) → P (.rejected reason ts)) (t : Task ε) : P t :=
  @Task.rec ε P (fun ts => ∀ t ∈ ts, P t) settled awaiting finding saved all rejected
    (fun _ h => by cases h) (fun _ _ ht hts => List.forall_mem_cons.mpr ⟨ht,hts⟩) t

mutual
/-- All promises of a walk. -/
@[grind] def Task.nodes : Task ε → List (Task ε)
  | .settled outcome => [.settled outcome]
  | .awaiting outcome => [.awaiting outcome]
  | .finding id levels => [.finding id levels]
  | .saved id stored => .saved id stored :: stored.nodes
  | .all combine ts => .all combine ts :: nodesAll ts
  | .rejected reason ts => .rejected reason ts :: nodesAll ts
@[grind] def nodesAll : List (Task ε) → List (Task ε)
  | [] => []
  | t :: ts => t.nodes ++ nodesAll ts
end

theorem flatMap_nodesAll (own : Task ε → List ℕ) (ts : List (Task ε)) :
    (nodesAll ts).flatMap own = ts.flatMap fun t => t.nodes.flatMap own := by
  induction ts with
  | nil => rfl
  | cons t ts ih => rw [nodesAll,List.flatMap_append,ih,List.flatMap_cons]

/-- The saved audience a promise has put into the shared set. -/
def Task.owned : Task ε → List ℕ
  | .finding id _ | .saved id _ => [id]
  | _ => []

def Task.owners (t : Task ε) : List ℕ := t.nodes.flatMap Task.owned

@[simp] theorem owners_settled (o : Outcome ε) : (Task.settled o).owners = [] := rfl
@[simp] theorem owners_awaiting (o : Outcome ε) : (Task.awaiting o).owners = [] := rfl
@[simp] theorem owners_finding (id levels : ℕ) : (Task.finding id levels : Task ε).owners = [id] := rfl
@[simp] theorem owners_saved (id : ℕ) (t : Task ε) : (Task.saved id t).owners = id :: t.owners := rfl
@[simp] theorem owners_all (c : Combine) (ts : List (Task ε)) : (Task.all c ts).owners = ts.flatMap Task.owners :=
  flatMap_nodesAll Task.owned ts
@[simp] theorem owners_rejected (e : ComposeError ε) (ts : List (Task ε)) :
    (Task.rejected e ts).owners = ts.flatMap Task.owners := flatMap_nodesAll Task.owned ts

/-! ## Every run ends -/

/-- The number of continuations a walk may still come to. -/
@[grind] def load (db : Directory κ π ε) : ℕ → AudienceDefinition κ π → ℕ
  | 0, _ | _ + 1, .savedGroup none => 0
  | _ + 1, .leaf _ _ => 1
  | levels + 1, .savedGroup (some id) => 3 + (storedDefinition db id).elim 0 (load db levels)
  | levels + 1, .operands _ ops => 1 + (ops.map (load db levels)).sum
  | levels + 1, .not op => 2 + load db levels op

@[grind] def Task.ownWeight (db : Directory κ π ε) : Task ε → ℕ
  | .settled _ | .rejected _ _ => 0
  | .awaiting _ | .saved _ _ | .all _ _ => 1
  | .finding id levels => 3 + (storedDefinition db id).elim 0 (load db levels)

def Task.weight (db : Directory κ π ε) (t : Task ε) : ℕ := (t.nodes.map (Task.ownWeight db)).sum

@[simp] theorem weight_settled (o : Outcome ε) : (Task.settled o).weight db = 0 := rfl
@[simp] theorem weight_awaiting (o : Outcome ε) : (Task.awaiting o).weight db = 1 := rfl
@[simp] theorem weight_finding (id levels : ℕ) :
    (Task.finding id levels).weight db = 3 + (storedDefinition db id).elim 0 (load db levels) := by
  simp [Task.weight,Task.nodes,Task.ownWeight]
@[simp] theorem weight_saved (id : ℕ) (t : Task ε) : (Task.saved id t).weight db = 1 + t.weight db := by
  simp [Task.weight,Task.nodes,Task.ownWeight]

theorem weight_nodesAll (ts : List (Task ε)) :
    ((nodesAll ts).map (Task.ownWeight db)).sum = (ts.map (Task.weight db)).sum := by
  induction ts with
  | nil => rfl
  | cons t ts ih => simp [nodesAll,ih,Task.weight]

@[simp] theorem weight_all (c : Combine) (ts : List (Task ε)) :
    (Task.all c ts).weight db = 1 + (ts.map (Task.weight db)).sum := by
  simp [Task.weight,Task.nodes,Task.ownWeight,weight_nodesAll]
@[simp] theorem weight_rejected (e : ComposeError ε) (ts : List (Task ε)) :
    (Task.rejected e ts).weight db = (ts.map (Task.weight db)).sum := by
  simp [Task.weight,Task.nodes,Task.ownWeight,weight_nodesAll]

theorem weight_resolveLeaf_le (provider : κ) (params : π) : (resolveLeaf db provider params).weight db ≤ 1 := by
  unfold resolveLeaf
  repeat' split
  all_goals simp

theorem weight_walk_le (levels : ℕ) (d : AudienceDefinition κ π) (v : List ℕ) :
    (walk db levels d v).1.weight db ≤ load db levels d := by
  induction levels generalizing d v with
  | zero => simp [walk,load]
  | succ levels ih =>
    cases d with
    | leaf provider params => simpa [walk,load] using weight_resolveLeaf_le provider params
    | savedGroup id =>
      cases id with
      | none => simp [walk,load,resolveSavedGroup]
      | some id =>
        simp only [walk,load,resolveSavedGroup]
        split <;> simp
    | operands operator ops =>
      have hall : ∀ v, ((startAll (walk db levels) ops v).1.map (Task.weight db)).sum ≤
          (ops.map (load db levels)).sum := by
        induction ops with
        | nil => simp [startAll]
        | cons op ops ihops =>
          intro v
          simp only [startAll,List.map_cons,List.sum_cons]
          exact Nat.add_le_add (ih op v) (ihops _)
      simpa [walk,load] using hall v
    | not op =>
      have := ih op v
      simp only [walk,load,weight_all,List.map_cons,List.map_nil,List.sum_cons,List.sum_nil,weight_awaiting]
      omega

theorem weight_resolveStored_le (id : ℕ) {row : SavedAudienceRow κ π} (hrow : db.findById id = some row) (levels : ℕ)
    (v : List ℕ) : (resolveStoredDefinition db row levels v).1.weight db ≤
      1 + (storedDefinition db id).elim 0 (load db levels) := by
  simp only [resolveStoredDefinition,storedDefinition,hrow,Option.bind_some]
  cases row.kind with
  | static => cases row.userIds <;> simp
  | dynamic =>
    cases hd : row.definition.bind AudienceDefinition.parse with
    | none => simp
    | some d => exact (weight_walk_le levels d v).trans (Nat.le_add_left _ _)

theorem weight_step {s s' : Task ε × List ℕ} (h : Step db s s') : s'.1.weight db < s.1.weight db := by
  induction h with
  | settle => simp
  | missing hid => simp
  | @found id levels row t v v' hrow ht =>
    have := weight_resolveStored_le id hrow levels v
    simp only [ht] at this
    simp only [weight_saved,weight_finding]
    omega
  | finish ht => simp
  | fulfil hts => simp
  | reject ht he => simp
  | stored _ ih => simpa using ih
  | operand _ ih => simpa using ih
  | background _ ih => simpa using ih

theorem acc_step (s : Task ε × List ℕ) : Acc (fun b a => Step db a b) s :=
  Subrelation.accessible (fun h => weight_step h) ((measure fun st : Task ε × List ℕ => st.1.weight db).wf.apply s)

/-- A promise that has not settled has something that can go on. -/
theorem exists_step (t : Task ε) (v : List ℕ) (h : t.outcome = none) : ∃ s, Step db (t,v) s := by
  induction t using Task.induct generalizing v with
  | settled o => simp [Task.outcome] at h
  | awaiting o => exact ⟨_,.settle⟩
  | finding id levels =>
    cases hrow : db.findById id with
    | none => exact ⟨_,.missing hrow⟩
    | some row => exact ⟨_,.found hrow rfl⟩
  | saved id t ih =>
    cases ht : t.outcome with
    | none =>
      obtain ⟨s,hs⟩ := ih v ht
      exact ⟨_,.stored hs⟩
    | some o => exact ⟨_,.finish ht⟩
  | all c ts ih =>
    by_cases hpending : ∃ t ∈ ts, t.outcome = none
    · obtain ⟨t,ht,hn⟩ := hpending
      obtain ⟨as,bs,rfl⟩ := List.append_of_mem ht
      obtain ⟨s,hs⟩ := ih t ht v hn
      exact ⟨_,.operand hs⟩
    · by_cases hrejected : ∃ t ∈ ts, ∃ e, t.outcome = some (.error e)
      · obtain ⟨t,ht,e,he⟩ := hrejected
        exact ⟨_,.reject ht he⟩
      · have hvalues : ∀ ts' ⊆ ts, ∃ sets, ts'.mapM Task.value = some sets := by
          intro ts' hsub
          induction ts' with
          | nil => exact ⟨[],rfl⟩
          | cons t ts' ihts =>
            obtain ⟨ht,hsub⟩ := List.cons_subset.mp hsub
            obtain ⟨sets,hsets⟩ := ihts hsub
            cases t with
            | settled o =>
              cases o with
              | error e => exact absurd ⟨_,ht,e,rfl⟩ hrejected
              | ok users => exact ⟨users :: sets,by simp [Task.value,hsets]⟩
            | rejected e xs => exact absurd ⟨_,ht,e,rfl⟩ hrejected
            | _ => exact absurd ⟨_,ht,rfl⟩ hpending
        obtain ⟨sets,hsets⟩ := hvalues ts (List.Subset.refl ts)
        exact ⟨_,.fulfil hsets⟩
  | rejected e ts => simp [Task.outcome] at h

/-! ## Runs of a part -/

theorem Reaches.stored {id : ℕ} {s s' : Task ε × List ℕ} (h : Reaches db s s') :
    Reaches db (.saved id s.1,s.2) (.saved id s'.1,s'.2) := by
  induction h with
  | refl => exact .refl
  | tail _ hstep ih => exact ih.tail (.stored hstep)

theorem Reaches.operand {combine : Combine} {ts ts' : List (Task ε)} {s s' : Task ε × List ℕ} (h : Reaches db s s') :
    Reaches db (.all combine (ts ++ s.1 :: ts'),s.2) (.all combine (ts ++ s'.1 :: ts'),s'.2) := by
  induction h with
  | refl => exact .refl
  | tail _ hstep ih => exact ih.tail (.operand hstep)

end EduPod.Inbox
