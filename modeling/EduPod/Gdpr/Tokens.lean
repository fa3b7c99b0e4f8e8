import EduPod.Foundation.Substitution
import EduPod.Foundation.UniqueIndex

/-! # Anonymisation tokens

Fields of people leave the school as tokens, one a field, found or created in the tenant's table;
the answer comes back with tokens in it, and they are replaced by the real values one after another.
-/
namespace EduPod.Gdpr
open Substitution

abbrev Text := List Char

def tokenCharset : Text := "ABCDEFGHJKLMNPQRSTUVWXYZ23456789".toList

def tokenLength : ℕ := 14

def generateToken (bytes : Fin tokenLength → UInt8) : Text :=
  List.ofFn fun i => tokenCharset.getD ((bytes i).toNat % 32) 'A'

inductive EntityType
  | student | parent | staff | household
  deriving DecidableEq, Repr

structure FieldKey where
  entityType : EntityType
  entityId : ℕ
  fieldType : String
  deriving DecidableEq

structure GdprEntity where
  type : EntityType
  id : ℕ
  fields : List (String × Text)

structure GdprOutboundData where
  entities : List GdprEntity
  entityCount : ℕ

def GdprEntity.keyed (entity : GdprEntity) : List (FieldKey × Text) :=
  entity.fields.map fun f => (⟨entity.type,entity.id,f.1⟩,f.2)

/-- All fields, each under its key. -/
def GdprOutboundData.keyed (data : GdprOutboundData) : List (FieldKey × Text) := data.entities.flatMap GdprEntity.keyed

def GdprOutboundData.keys (data : GdprOutboundData) : List FieldKey := data.keyed.map Prod.fst

def GdprOutboundData.value (data : GdprOutboundData) (key : FieldKey) : Text := (data.keyed.lookup key).getD []

/-- The tokens of one tenant. A token is never empty and stands for one field. -/
structure TokenStore where
  rows : UniqueIndex FieldKey Text
  nonempty : ∀ r ∈ rows.rows, r.2 ≠ []
  tokens_nodup : (rows.rows.map Prod.snd).Nodup

theorem nonempty_insert {rows : UniqueIndex FieldKey Text} (h : ∀ r ∈ rows.rows, r.2 ≠ []) {key : FieldKey} {token : Text}
    (hkey : rows.get? key = none) (htoken : token ≠ []) : ∀ r ∈ (rows.insert key token).rows, r.2 ≠ [] := by
  rw [UniqueIndex.rows_insert_of_fresh hkey,List.forall_mem_append]
  exact ⟨h,List.forall_mem_singleton.mpr htoken⟩

theorem tokens_nodup_insert {rows : UniqueIndex FieldKey Text} (h : (rows.rows.map Prod.snd).Nodup) {key : FieldKey}
    {token : Text} (hkey : rows.get? key = none) (htoken : token ∉ rows.rows.map Prod.snd) :
    ((rows.insert key token).rows.map Prod.snd).Nodup := by
  rw [UniqueIndex.rows_insert_of_fresh hkey,List.map_append]
  refine List.nodup_append.mpr ⟨h,List.nodup_singleton token,?_⟩
  rintro t ht _ hs rfl
  obtain rfl : t = token := by simpa using hs
  exact htoken ht

/-- `create`: the field has no token yet, and the token is on no other field, or the insert is refused. -/
def TokenStore.create (store : TokenStore) (key : FieldKey) (token : Text) : Option TokenStore :=
  if h : store.rows.get? key = none ∧ token ∉ store.rows.rows.map Prod.snd ∧ token ≠ [] then
    some ⟨store.rows.insert key token,nonempty_insert store.nonempty h.1 h.2.2,
      tokens_nodup_insert store.tokens_nodup h.1 h.2.1⟩
  else none

/-- What the transaction has so far: the token map is an object whose keys keep the order of their
first assignment. -/
structure Tokenising where
  store : TokenStore
  tokenMap : UniqueIndex Text Text
  tokenIds : List FieldKey
  drawn : ℕ

variable (draws : ℕ → Fin tokenLength → UInt8)

def tokeniseField (run : Tokenising) (key : FieldKey) (realValue : Text) : Option (Text × Tokenising) :=
  match run.store.rows.get? key with
  | some token => some (token,{ run with
      tokenMap := run.tokenMap.set token realValue
      tokenIds := run.tokenIds ++ [key] })
  | none =>
    let newToken := generateToken (draws run.drawn)
    (run.store.create key newToken).map fun store => (newToken,{
      store
      tokenMap := run.tokenMap.set newToken realValue
      tokenIds := run.tokenIds ++ [key]
      drawn := run.drawn + 1 })

@[grind] def tokeniseFields (type : EntityType) (id : ℕ) :
    Tokenising → List (String × Text) → Option (List (String × Text) × Tokenising)
  | run, [] => some ([],run)
  | run, (fieldType,realValue) :: rest => do
    let (token,run) ← tokeniseField draws run ⟨type,id,fieldType⟩ realValue
    let (tokenised,run) ← tokeniseFields type id run rest
    return ((fieldType,token) :: tokenised,run)

/-- One entity after another. Their order in the database does not matter to what they get. -/
@[grind] def tokeniseEach : Tokenising → List GdprEntity → Option (List GdprEntity × Tokenising)
  | run, [] => some ([],run)
  | run, entity :: rest => do
    let (fields,run) ← tokeniseFields draws entity.type entity.id run entity.fields
    let (processed,run) ← tokeniseEach run rest
    return ({ entity with fields } :: processed,run)

structure Tokenised where
  processedData : GdprOutboundData
  tokenMap : UniqueIndex Text Text
  tokenIds : List FieldKey
  store : TokenStore

def tokeniseEntities (store : TokenStore) (data : GdprOutboundData) : Option Tokenised := do
  let (entities,run) ← tokeniseEach draws ⟨store,UniqueIndex.empty,[],0⟩ data.entities
  return ⟨⟨entities,data.entityCount⟩,run.tokenMap,run.tokenIds,run.store⟩

/-- The entries of the map come in some order. -/
def processInbound (response : Text) (tokenMap : List (Text × Text)) : Text :=
  tokenMap.foldl (fun result entry => join entry.2 (split entry.1 result)) response

variable {draws}

/-! ## The token map -/

def TokenStore.token (store : TokenStore) (key : FieldKey) : Text := (store.rows.get? key).getD []

theorem TokenStore.token_ne_nil {store : TokenStore} {key : FieldKey} (h : (store.rows.get? key).isSome = true) :
    store.token key ≠ [] := by
  obtain ⟨token,ht⟩ := Option.isSome_iff_exists.mp h
  rw [TokenStore.token,ht]
  exact store.nonempty _ (UniqueIndex.get?_eq_some_iff.mp ht)

/-- Two fields never share a token. -/
theorem TokenStore.eq_of_token_eq {store : TokenStore} {key key' : FieldKey} (h : (store.rows.get? key).isSome = true)
    (h' : (store.rows.get? key').isSome = true) (he : store.token key = store.token key') : key = key' := by
  obtain ⟨token,ht⟩ := Option.isSome_iff_exists.mp h
  obtain ⟨token',ht'⟩ := Option.isSome_iff_exists.mp h'
  simp only [TokenStore.token,ht,ht',Option.getD_some] at he
  subst he
  exact congrArg Prod.fst (List.inj_on_of_nodup_map store.tokens_nodup (UniqueIndex.get?_eq_some_iff.mp ht)
    (UniqueIndex.get?_eq_some_iff.mp ht') rfl)

/-- A later store has every token of an earlier one. -/
def Keeps (store store' : TokenStore) : Prop :=
  ∀ key token, store.rows.get? key = some token → store'.rows.get? key = some token

theorem Keeps.token {store store' : TokenStore} (h : Keeps store store') {key : FieldKey}
    (hkey : (store.rows.get? key).isSome = true) : store'.token key = store.token key := by
  obtain ⟨token,ht⟩ := Option.isSome_iff_exists.mp hkey
  rw [TokenStore.token,TokenStore.token,ht,h key token ht]

/-- The fields `done` have tokens, and the map leads from these to the real values. -/
structure Served (done : List (FieldKey × Text)) (run : Tokenising) : Prop where
  known : ∀ f ∈ done, (run.store.rows.get? f.1).isSome = true
  map : run.tokenMap.rows = done.map fun f => (run.store.token f.1,f.2)

theorem Served.fresh {done : List (FieldKey × Text)} {run : Tokenising} (h : Served done run) {key : FieldKey}
    {store : TokenStore} (hkeeps : Keeps run.store store) (hkey : key ∉ done.map Prod.fst)
    (hknown : (store.rows.get? key).isSome = true) : run.tokenMap.get? (store.token key) = none := by
  rw [← Option.not_isSome_iff_eq_none,← UniqueIndex.mem_keys_iff,h.map]
  intro hmem
  obtain ⟨_,hr,he⟩ := List.mem_map.mp hmem
  obtain ⟨f,hf,rfl⟩ := List.mem_map.mp hr
  have hf' := h.known f hf
  obtain ⟨token,ht⟩ := Option.isSome_iff_exists.mp hf'
  rw [← hkeeps.token hf'] at he
  have heq := TokenStore.eq_of_token_eq (by rw [hkeeps _ _ ht]; rfl) hknown he
  exact hkey (heq ▸ List.mem_map.mpr ⟨f,hf,rfl⟩)

/-- What one more field does. -/
structure Advances (done more : List (FieldKey × Text)) (run run' : Tokenising) : Prop where
  served : Served (done ++ more) run'
  keeps : Keeps run.store run'.store

theorem Advances.of_set {done : List (FieldKey × Text)} {run run' : Tokenising} (h : Served done run) {key : FieldKey}
    {realValue : Text} (hkeeps : Keeps run.store run'.store) (hkey : key ∉ done.map Prod.fst)
    (hknown : (run'.store.rows.get? key).isSome = true)
    (hmap : run'.tokenMap = run.tokenMap.set (run'.store.token key) realValue) : Advances done [(key,realValue)] run run' := by
  have hrows : run'.tokenMap.rows = run.tokenMap.rows ++ [(run'.store.token key,realValue)] := by
    rw [hmap,UniqueIndex.rows_set_of_fresh (h.fresh hkeeps hkey hknown)]
  refine ⟨⟨?_,?_⟩,hkeeps⟩
  · rw [List.forall_mem_append]
    refine ⟨fun f hf => ?_,List.forall_mem_singleton.mpr hknown⟩
    obtain ⟨token,ht⟩ := Option.isSome_iff_exists.mp (h.known f hf)
    rw [hkeeps _ _ ht]
    rfl
  · rw [hrows,h.map,List.map_append]
    congr 1
    exact List.map_congr_left fun f hf => by rw [hkeeps.token (h.known f hf)]

theorem tokeniseField_advances {done : List (FieldKey × Text)} {run run' : Tokenising} (h : Served done run)
    {key : FieldKey} {realValue token : Text} (hkey : key ∉ done.map Prod.fst)
    (ht : tokeniseField draws run key realValue = some (token,run')) :
    Advances done [(key,realValue)] run run' ∧ token = run'.store.token key := by
  unfold tokeniseField at ht
  split at ht
  · rename_i existing hexisting
    obtain ⟨rfl,rfl⟩ := Prod.mk.inj (Option.some.inj ht)
    have htoken : run.store.token key = existing := by rw [TokenStore.token,hexisting]; rfl
    exact ⟨.of_set h (fun _ _ h => h) hkey (by simp [hexisting]) (by simp only [htoken]),htoken.symm⟩
  · obtain ⟨store,hstore,he⟩ := Option.map_eq_some_iff.mp ht
    obtain ⟨rfl,rfl⟩ := Prod.mk.inj he
    unfold TokenStore.create at hstore
    split at hstore
    · rename_i hfresh
      have hrows := congrArg TokenStore.rows (Option.some.inj hstore)
      have hget : store.rows.get? key = some (generateToken (draws run.drawn)) := by
        rw [← hrows,UniqueIndex.get?_insert,if_pos ⟨rfl,hfresh.1⟩]
      have htoken : store.token key = generateToken (draws run.drawn) := by rw [TokenStore.token,hget]; rfl
      have hkeeps : Keeps run.store store := by
        intro key' token' ht'
        rw [← hrows,UniqueIndex.get?_insert,if_neg,ht']
        rintro ⟨rfl,-⟩
        rw [hfresh.1] at ht'
        cases ht'
      exact ⟨.of_set h hkeeps hkey (by simp [hget]) (by simp only [htoken]),htoken.symm⟩
    · cases hstore

theorem Advances.trans {done more more' : List (FieldKey × Text)} {run mid run' : Tokenising}
    (h : Advances done more run mid) (h' : Advances (done ++ more) more' mid run') : Advances done (more ++ more') run run' :=
  ⟨by rw [← List.append_assoc]; exact h'.served,fun key token ht => h'.keeps key token (h.keeps key token ht)⟩

/-- The tokens that stand in the place of some fields. -/
def InTokens (store : TokenStore) (fields : List (FieldKey × Text)) : List (FieldKey × Text) :=
  fields.map fun f => (f.1,store.token f.1)

theorem InTokens.keeps {done more : List (FieldKey × Text)} {run run' : Tokenising} (h : Advances done more run run')
    {fields : List (FieldKey × Text)} (hknown : ∀ f ∈ fields, (run.store.rows.get? f.1).isSome = true) :
    InTokens run'.store fields = InTokens run.store fields :=
  List.map_congr_left fun f hf => by rw [h.keeps.token (hknown f hf)]

theorem tokeniseFields_advances {type : EntityType} {id : ℕ} {fields out : List (String × Text)}
    {done : List (FieldKey × Text)} {run run' : Tokenising} (h : Served done run)
    (hnodup : ((done ++ GdprEntity.keyed ⟨type,id,fields⟩).map Prod.fst).Nodup)
    (ht : tokeniseFields draws type id run fields = some (out,run')) :
    Advances done (GdprEntity.keyed ⟨type,id,fields⟩) run run' ∧
      GdprEntity.keyed ⟨type,id,out⟩ = InTokens run'.store (GdprEntity.keyed ⟨type,id,fields⟩) := by
  induction fields generalizing done run out with
  | nil =>
    obtain ⟨rfl,rfl⟩ := Prod.mk.inj (Option.some.inj ht)
    exact ⟨⟨by simpa [GdprEntity.keyed] using h,fun _ _ h => h⟩,rfl⟩
  | cons f rest ih =>
    obtain ⟨⟨token,mid⟩,hfield,hrest⟩ := Option.bind_eq_some_iff.mp ht
    obtain ⟨⟨tokenised,last⟩,hfields,he⟩ := Option.bind_eq_some_iff.mp hrest
    obtain ⟨rfl,rfl⟩ := Prod.mk.inj (Option.some.inj he)
    have hcons : GdprEntity.keyed ⟨type,id,f :: rest⟩ = [(⟨type,id,f.1⟩,f.2)] ++ GdprEntity.keyed ⟨type,id,rest⟩ := rfl
    rw [hcons] at hnodup ⊢
    have hnot : (⟨type,id,f.1⟩ : FieldKey) ∉ done.map Prod.fst := by
      rw [List.map_append,List.nodup_append] at hnodup
      exact fun hmem => hnodup.2.2 _ hmem _ (by simp) rfl
    obtain ⟨hstep,rfl⟩ := tokeniseField_advances h hnot hfield
    obtain ⟨hmore,hout⟩ := ih hstep.served (by rwa [List.append_assoc]) hfields
    refine ⟨hstep.trans hmore,?_⟩
    have hknown := hstep.served.known (⟨type,id,f.1⟩,f.2) (by simp)
    change (_,mid.store.token ⟨type,id,f.1⟩) :: GdprEntity.keyed ⟨type,id,tokenised⟩ = _
    rw [hout,← hmore.keeps.token hknown]
    rfl

theorem tokeniseEach_advances {entities out : List GdprEntity} {done : List (FieldKey × Text)} {run run' : Tokenising}
    (h : Served done run) (hnodup : ((done ++ entities.flatMap GdprEntity.keyed).map Prod.fst).Nodup)
    (ht : tokeniseEach draws run entities = some (out,run')) :
    Advances done (entities.flatMap GdprEntity.keyed) run run' ∧
      out.flatMap GdprEntity.keyed = InTokens run'.store (entities.flatMap GdprEntity.keyed) := by
  induction entities generalizing done run out with
  | nil =>
    obtain ⟨rfl,rfl⟩ := Prod.mk.inj (Option.some.inj ht)
    exact ⟨⟨by simpa using h,fun _ _ h => h⟩,rfl⟩
  | cons entity rest ih =>
    obtain ⟨⟨fields,mid⟩,hfields,hrest⟩ := Option.bind_eq_some_iff.mp ht
    obtain ⟨⟨processed,last⟩,heach,he⟩ := Option.bind_eq_some_iff.mp hrest
    obtain ⟨rfl,rfl⟩ := Prod.mk.inj (Option.some.inj he)
    rw [List.flatMap_cons,← List.append_assoc] at hnodup
    obtain ⟨hstep,hone⟩ := tokeniseFields_advances h (List.Nodup.sublist ((List.sublist_append_left _ _).map _) hnodup) hfields
    obtain ⟨hmore,hout⟩ := ih hstep.served hnodup heach
    refine ⟨hstep.trans hmore,?_⟩
    have hknown : ∀ f ∈ entity.keyed, (mid.store.rows.get? f.1).isSome = true :=
      fun f hf => hstep.served.known f (List.mem_append_right _ hf)
    rw [List.flatMap_cons,hout,hone,← InTokens.keeps hmore hknown]
    exact List.map_append.symm

/-- Every field has its token, and the map is that of the tokens and the real values. -/
theorem tokeniseEntities_eq {store : TokenStore} {data : GdprOutboundData} {result : Tokenised} (hnodup : data.keys.Nodup)
    (h : tokeniseEntities draws store data = some result) :
    (∀ f ∈ data.keyed, (result.store.rows.get? f.1).isSome = true) ∧
      result.processedData.keyed = InTokens result.store data.keyed ∧
      result.tokenMap.rows = data.keyed.map fun f => (result.store.token f.1,f.2) := by
  obtain ⟨⟨entities,run⟩,heach,he⟩ := Option.bind_eq_some_iff.mp h
  obtain rfl := Option.some.inj he
  have hserved : Served [] ⟨store,UniqueIndex.empty,[],0⟩ := ⟨by simp,rfl⟩
  obtain ⟨hadv,hout⟩ := tokeniseEach_advances hserved hnodup heach
  exact ⟨hadv.served.known,hout,hadv.served.map⟩

/-! ## The way back -/

theorem lookup_map_value {β γ : Type*} (g : FieldKey → β → γ) (fields : List (FieldKey × β)) (key : FieldKey) :
    (fields.map fun f => (f.1,g f.1 f.2)).lookup key = (fields.lookup key).map (g key) := by
  induction fields with
  | nil => rfl
  | cons f rest ih =>
    rw [List.map_cons,List.lookup_cons,List.lookup_cons]
    cases hk : key == f.1 with
    | false => exact ih
    | true =>
      obtain rfl : key = f.1 := by simpa using hk
      rfl

theorem value_of_mem {data : GdprOutboundData} (hnodup : data.keys.Nodup) {f : FieldKey × Text} (hf : f ∈ data.keyed) :
    data.value f.1 = f.2 := by
  unfold GdprOutboundData.value
  unfold GdprOutboundData.keys at hnodup
  revert hf hnodup
  generalize data.keyed = fields
  intro hnodup hf
  induction fields with
  | nil => cases hf
  | cons g rest ih =>
    obtain ⟨hnot,hrest⟩ := List.nodup_cons.mp hnodup
    rcases List.mem_cons.mp hf with rfl | hf
    · rw [List.lookup_cons,beq_self_eq_true]
      rfl
    · have hne : (f.1 == g.1) = false := by
        simpa using fun he : f.1 = g.1 => hnot (he ▸ List.mem_map.mpr ⟨f,hf,rfl⟩)
      rw [List.lookup_cons,hne]
      exact ih hrest hf

theorem value_of_not_mem {data : GdprOutboundData} {key : FieldKey} (h : key ∉ data.keys) : data.value key = [] := by
  have hlookup : data.keyed.lookup key = none := by
    rw [List.lookup_eq_none_iff]
    intro f hf
    simpa using fun he : key = f.1 => h (he ▸ List.mem_map.mpr ⟨f,hf,rfl⟩)
  rw [GdprOutboundData.value,hlookup]
  rfl

/-- Tokens occur at the references only, however many of the fields already have their values back. -/
def NoStrayToken (data processed : GdprOutboundData) (response : List (Part Char FieldKey)) : Prop :=
  Clean processed.value data.value response data.keys

/-- The response that came, and the same response about real values. -/
theorem processInbound_eq {store : TokenStore} {data : GdprOutboundData} {result : Tokenised}
    {response : List (Part Char FieldKey)} {order : List (Text × Text)} (hnodup : data.keys.Nodup)
    (hresult : tokeniseEntities draws store data = some result)
    (hclean : NoStrayToken data result.processedData response) (horder : order.Perm result.tokenMap.rows) :
    processInbound (render result.processedData.value response) order = render data.value response := by
  obtain ⟨hknown,hprocessed,hmap⟩ := tokeniseEntities_eq hnodup hresult
  have hvalue : ∀ key, result.processedData.value key = if key ∈ data.keys then result.store.token key else [] := by
    intro key
    have hlookup : result.processedData.keyed.lookup key = (data.keyed.lookup key).map fun _ => result.store.token key := by
      rw [hprocessed]
      exact lookup_map_value (fun k _ => result.store.token k) _ _
    rw [GdprOutboundData.value,hlookup]
    by_cases hkey : key ∈ data.keys
    · obtain ⟨f,hf,rfl⟩ := List.mem_map.mp hkey
      rw [if_pos hkey]
      cases hl : data.keyed.lookup f.1 with
      | none =>
        have := List.lookup_eq_none_iff.mp hl f hf
        simp at this
      | some v => rfl
    · rw [if_neg hkey]
      cases hl : data.keyed.lookup key with
      | none => rfl
      | some v =>
        obtain ⟨l₁,l₂,he,-⟩ := List.lookup_eq_some_iff.mp hl
        exact absurd (List.mem_map.mpr ⟨(key,v),by rw [he]; simp,rfl⟩) hkey
  have hentries : result.tokenMap.rows = data.keys.map fun key => (result.processedData.value key,data.value key) := by
    rw [hmap,GdprOutboundData.keys,List.map_map]
    refine List.map_congr_left fun f hf => ?_
    have hkey : f.1 ∈ data.keys := List.mem_map.mpr ⟨f,hf,rfl⟩
    simp only [Function.comp,hvalue,if_pos hkey,value_of_mem hnodup hf]
  have hex : Relation.Comp (fun o keys => o = keys.map fun key => (result.processedData.value key,data.value key))
      List.Perm order data.keys := by
    rw [List.eq_map_comp_perm]
    rw [hentries] at horder
    exact horder
  obtain ⟨keys,rfl,hkeys⟩ := hex
  have hne : ∀ key ∈ data.keys, result.processedData.value key ≠ [] := by
    intro key hkey
    obtain ⟨f,hf,rfl⟩ := List.mem_map.mp hkey
    rw [hvalue,if_pos hkey]
    exact TokenStore.token_ne_nil (hknown f hf)
  have hfold := foldl_join_split hne hclean (hkeys.nodup_iff.mpr hnodup) (fun key hk => hkeys.subset hk) ∅ (by simp)
  have hlast : stage result.processedData.value data.value (keys.foldl (fun done key => insert key done) ∅) = data.value := by
    funext key
    unfold stage
    split
    · rfl
    · rename_i hnot
      have hkey : key ∉ data.keys := fun hk => hnot (mem_foldl_insert.mpr (.inl (hkeys.mem_iff.mpr hk)))
      rw [hvalue,if_neg hkey,value_of_not_mem hkey]
  have hfirst : stage result.processedData.value data.value ∅ = result.processedData.value := by
    funext key
    simp [stage]
  rw [hlast,hfirst] at hfold
  rw [processInbound,List.foldl_map]
  exact hfold

/-! Two fields of one student. The second is the name, and the first happens to say the name's token. -/

theorem nodup_nil_tokens : ((UniqueIndex.empty : UniqueIndex FieldKey Text).rows.map Prod.snd).Nodup := List.nodup_nil

theorem nonempty_nil_tokens : ∀ r ∈ (UniqueIndex.empty : UniqueIndex FieldKey Text).rows, r.2 ≠ [] := by
  intro r hr
  cases hr

def noTokens : TokenStore := ⟨UniqueIndex.empty,nonempty_nil_tokens,nodup_nil_tokens⟩

/-- The first token is all of one letter, the second all of the next. -/
def plainDraws (n : ℕ) (_ : Fin tokenLength) : UInt8 := n.toUInt8

def studentField (fieldType : String) : FieldKey := ⟨.student,1,fieldType⟩

def nameField (realValue : Text) : GdprOutboundData := ⟨[⟨.student,1,[("full_name",realValue)]⟩],1⟩

/-- A single token is the whole text. -/
theorem onlyAtRefs_single {α ι : Type*} {word : ι → List α} {i j : ι} (hlength : (word i).length = (word j).length)
    (hne : i ≠ j → word i ≠ word j) : OnlyAtRefs word [.ref j] i := by
  intro before after he
  rw [render_ref,render_nil,List.append_nil] at he
  have hlen := congrArg List.length he
  simp only [List.length_append] at hlen
  obtain rfl : before = [] := List.length_eq_zero_iff.mp (by omega)
  obtain rfl : after = [] := List.length_eq_zero_iff.mp (by omega)
  rw [List.nil_append,List.append_nil] at he
  obtain rfl : i = j := by
    by_contra hij
    exact hne hij he.symm
  exact ⟨[],[],rfl,rfl⟩

/-- Two fields: what is noted of the student happens to say the token of the name. -/
def seatingData : GdprOutboundData where
  entities := [⟨.student,1,[("notes","beside BBBBBBBBBBBBBB".toList),("full_name","Aoife Byrne".toList)]⟩]
  entityCount := 1

theorem exists_tokenised_name :
    ∃ result, tokeniseEntities plainDraws noTokens (nameField "Aoife Byrne".toList) = some result ∧
      processInbound (render result.processedData.value [.ref (studentField "full_name")]) result.tokenMap.rows =
        render (nameField "Aoife Byrne".toList).value [.ref (studentField "full_name")] := by
  obtain ⟨result,hresult⟩ := Option.isSome_iff_exists.mp
    (show (tokeniseEntities plainDraws noTokens (nameField "Aoife Byrne".toList)).isSome = true by decide +kernel)
  refine ⟨result,hresult,processInbound_eq (List.nodup_singleton _) hresult (fun done key hkey _ => ?_) (List.Perm.refl _)⟩
  obtain rfl : key = studentField "full_name" := List.mem_singleton.mp hkey
  exact onlyAtRefs_single rfl fun h => absurd rfl h

/-- A real value may hold a token, and it is then replaced as well. -/
theorem not_processInbound_eq : ¬ ∀ (draws : ℕ → Fin tokenLength → UInt8) (store : TokenStore) (data : GdprOutboundData)
    (result : Tokenised) (response : List (Part Char FieldKey)) (order : List (Text × Text)), data.keys.Nodup →
    tokeniseEntities draws store data = some result →
    (∀ key ∈ data.keys, OnlyAtRefs result.processedData.value response key) → order.Perm result.tokenMap.rows →
    processInbound (render result.processedData.value response) order = render data.value response := by
  intro h
  obtain ⟨result,hresult⟩ := Option.isSome_iff_exists.mp
    (show (tokeniseEntities plainDraws noTokens seatingData).isSome = true by decide +kernel)
  have hcomputed : (tokeniseEntities plainDraws noTokens seatingData).map (fun r =>
      (r.processedData.value (studentField "notes"),r.processedData.value (studentField "full_name"),r.tokenMap.rows)) =
      some ("AAAAAAAAAAAAAA".toList,"BBBBBBBBBBBBBB".toList,
        [("AAAAAAAAAAAAAA".toList,"beside BBBBBBBBBBBBBB".toList),("BBBBBBBBBBBBBB".toList,"Aoife Byrne".toList)]) := by
    decide +kernel
  rw [hresult] at hcomputed
  simp only [Option.map_some,Option.some.injEq,Prod.mk.injEq] at hcomputed
  obtain ⟨hnotes,hname,hrows⟩ := hcomputed
  have hkeys : seatingData.keys = [studentField "notes",studentField "full_name"] := rfl
  have hnodup : seatingData.keys.Nodup := by decide +kernel
  have hclean : ∀ key ∈ seatingData.keys,
      OnlyAtRefs result.processedData.value [.ref (studentField "notes")] key := by
    intro key hkey
    rw [hkeys,List.mem_cons,List.mem_singleton] at hkey
    rcases hkey with rfl | rfl
    · exact onlyAtRefs_single rfl fun h => absurd rfl h
    · refine onlyAtRefs_single ?_ fun _ => ?_
      · rw [hname,hnotes]
        decide +kernel
      · rw [hname,hnotes]
        decide +kernel
  have hwrong := h plainDraws noTokens seatingData result [.ref (studentField "notes")] _ hnodup hresult hclean
    (List.Perm.refl _)
  rw [hrows,render_ref,render_nil,hnotes] at hwrong
  exact absurd hwrong (by decide +kernel)

end EduPod.Gdpr
