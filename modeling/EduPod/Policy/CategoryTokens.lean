import Mathlib

/-! # Category tokens

An exported rule names behaviour categories by tokens instead of identifiers: the name in upper case
between double underscores, its blanks turned into underscores. The import reads tokens back.
-/
namespace EduPod.Policy

abbrev Text := List Char

inductive Json
  | null
  | bool (b : Bool)
  | num (q : ℚ)
  | str (s : Text)
  | arr (values : List Json)
  | obj (entries : List (String × Json))

/-- An object, its keys in some order. -/
abbrev JsonObject := List (String × Json)

/-- The case mappings of the language. Nothing that follows depends on what they do. -/
structure CaseMapping where
  toUpperCase : Text → Text
  toLowerCase : Text → Text

/-- The class `\s` of a regular expression. -/
def isWhiteSpace (c : Char) : Bool :=
  [0x9,0xa,0xb,0xc,0xd,0x20,0xa0,0x1680,0x2028,0x2029,0x202f,0x205f,0x3000,0xfeff].contains c.toNat ||
    (0x2000 ≤ c.toNat && c.toNat ≤ 0x200a)

/-- `replace(/\s+/g, '_')`; `inRun` says that the character before was a blank. -/
@[grind] def collapseBlanks : Bool → Text → Text
  | _, [] => []
  | inRun, c :: cs =>
    if isWhiteSpace c then if inRun then collapseBlanks true cs else '_' :: collapseBlanks true cs
    else c :: collapseBlanks false cs

def isHexDigit (c : Char) : Bool := c.isDigit || ('a' ≤ c && c ≤ 'f') || ('A' ≤ c && c ≤ 'F')

/-- The format of an identifier. -/
def isUuid (s : Text) : Bool :=
  s.length = 36 && s.zipIdx.all fun (c,i) => if [8,13,18,23].contains i then c = '-' else isHexDigit c

structure Category where
  id : Text
  name : Text
  deriving DecidableEq

/-- A tenant's categories: identifiers and names are unique. -/
structure Categories where
  rows : List Category
  ids_nodup : (rows.map Category.id).Nodup
  names_nodup : (rows.map Category.name).Nodup
  uuids : ∀ c ∈ rows, isUuid c.id = true

variable (m : CaseMapping)

def tokenOf (name : Text) : Text := ['_','_'] ++ collapseBlanks false (m.toUpperCase name) ++ ['_','_']

def isToken (s : Text) : Bool := ['_','_'].isPrefixOf s && ['_','_'].isSuffixOf s

/-- `slice(2, -2)` with every underscore a blank. -/
def tokenName (s : Text) : Text := ((s.take (s.length - 2)).drop 2).map fun c => if c = '_' then ' ' else c

/-- The first category whose name is the token's, but for the case of the letters. -/
def Categories.named (cats : Categories) (name : Text) : Option Category :=
  cats.rows.find? fun c => m.toLowerCase c.name = m.toLowerCase name

def Categories.tokenize (cats : Categories) (s : Text) : Text :=
  match cats.rows.find? fun c => c.id = s with
  | some c => tokenOf m c.name
  | none => s

def Categories.resolve (cats : Categories) (s : Text) : Text :=
  if isToken s then (cats.named m (tokenName s)).elim s Category.id else s

/-- A rewriting of the strings of a value, but only at the top or in a top-level array. -/
def Json.mapStrings (f : Text → Text) : Json → Json
  | .str s => .str (f s)
  | .arr values => .arr (values.map fun v =>
      match v with
      | .str s => .str (f s)
      | v => v)
  | v => v

def JsonObject.mapStrings (f : Text → Text) (o : JsonObject) : JsonObject := o.map fun e => (e.1,e.2.mapStrings f)

def tokenizeCategoryIds (cats : Categories) (o : JsonObject) : JsonObject := o.mapStrings (cats.tokenize m)

def resolveCategoryTokens (cats : Categories) (o : JsonObject) : JsonObject := o.mapStrings (cats.resolve m)

/-- The strings that are rewritten. -/
def Json.strings : Json → List Text
  | .str s => [s]
  | .arr values => values.filterMap fun v =>
      match v with
      | .str s => some s
      | _ => none
  | _ => []

def JsonObject.strings (o : JsonObject) : List Text := o.flatMap fun e => e.2.strings

variable {m}

/-! ## Rewriting strings -/

theorem Json.mapStrings_mapStrings (f g : Text → Text) (v : Json) :
    (v.mapStrings f).mapStrings g = v.mapStrings fun s => g (f s) := by
  cases v with
  | arr values =>
    simp only [Json.mapStrings,List.map_map]
    congr 1
    refine List.map_congr_left fun v _ => ?_
    cases v <;> rfl
  | _ => rfl

theorem JsonObject.mapStrings_mapStrings (f g : Text → Text) (o : JsonObject) :
    (o.mapStrings f).mapStrings g = o.mapStrings fun s => g (f s) := by
  simp only [JsonObject.mapStrings,List.map_map]
  refine List.map_congr_left fun e _ => ?_
  simp only [Function.comp,Json.mapStrings_mapStrings]

theorem Json.mapStrings_eq_self_iff {f : Text → Text} {v : Json} : v.mapStrings f = v ↔ ∀ s ∈ v.strings, f s = s := by
  cases v with
  | str s => simp [Json.mapStrings,Json.strings]
  | arr values =>
    simp only [Json.mapStrings,Json.strings,Json.arr.injEq]
    induction values with
    | nil => simp
    | cons v values ih =>
      cases v with
      | str s => simp [ih]
      | _ => simpa using ih
  | _ => simp [Json.mapStrings,Json.strings]

theorem JsonObject.mapStrings_eq_self_iff {f : Text → Text} {o : JsonObject} :
    o.mapStrings f = o ↔ ∀ s ∈ o.strings, f s = s := by
  unfold JsonObject.mapStrings JsonObject.strings
  induction o with
  | nil => simp
  | cons e o ih =>
    rw [List.map_cons,List.cons.injEq,ih,Prod.mk.injEq,List.flatMap_cons,List.forall_mem_append]
    simp [Json.mapStrings_eq_self_iff]

/-! ## Tokens read back -/

theorem isToken_tokenOf (name : Text) : isToken (tokenOf m name) = true := by
  simp only [isToken,tokenOf,Bool.and_eq_true,List.isPrefixOf_iff_prefix,List.isSuffixOf_iff_suffix]
  exact ⟨by simp,List.suffix_append _ _⟩

theorem tokenName_tokenOf (name : Text) : tokenName (tokenOf m name) =
    (collapseBlanks false (m.toUpperCase name)).map fun c => if c = '_' then ' ' else c := by
  unfold tokenName tokenOf
  congr 1
  generalize collapseBlanks false (m.toUpperCase name) = s
  simp

theorem not_isToken_of_isUuid {s : Text} (h : isUuid s = true) : isToken s = false := by
  cases hs : isToken s with
  | false => rfl
  | true =>
    simp only [isToken,Bool.and_eq_true,List.isPrefixOf_iff_prefix] at hs
    obtain ⟨⟨rest,rfl⟩,_⟩ := hs
    simp only [isUuid,Bool.and_eq_true,List.all_eq_true] at h
    have hfirst := h.2 ('_',0) (by simp)
    exact absurd hfirst (by decide)

/-- A token comes back as the identifier of the first category of that name. -/
theorem Categories.resolve_tokenOf (cats : Categories) (name : Text) : cats.resolve m (tokenOf m name) =
    (cats.named m (tokenName (tokenOf m name))).elim (tokenOf m name) Category.id := if_pos (isToken_tokenOf name)

/-- The name as it is read back from its token. -/
def readBack (m : CaseMapping) (name : Text) : Text :=
  (collapseBlanks false (m.toUpperCase name)).map fun c => if c = '_' then ' ' else c

/-- A token finds its category: the name comes back but for the case of its letters, and no category
before it has that name in another case. -/
def Readable (m : CaseMapping) (cats : Categories) (c : Category) : Prop :=
  m.toLowerCase (readBack m c.name) = m.toLowerCase c.name ∧
    ∀ before after, cats.rows = before ++ c :: after → ∀ c' ∈ before, m.toLowerCase c'.name ≠ m.toLowerCase c.name

/-- How a string fares on its way out of one tenant and into another: an identifier comes back if its
category is readable there; any other string is left alone unless it reads as a category's token. -/
def Survives (m : CaseMapping) (cats cats' : Categories) (s : Text) : Prop :=
  (∀ c ∈ cats.rows, c.id = s → Readable m cats' c) ∧
    ((∀ c ∈ cats.rows, c.id ≠ s) → isToken s = true →
      ∀ c ∈ cats.rows, m.toLowerCase c.name ≠ m.toLowerCase (tokenName s))

theorem named_eq_none_iff {cats : Categories} {name : Text} :
    cats.named m name = none ↔ ∀ c ∈ cats.rows, m.toLowerCase c.name ≠ m.toLowerCase name := by
  simp [Categories.named]

theorem named_readBack_iff {cats : Categories} {c : Category} (hc : c ∈ cats.rows) :
    cats.named m (readBack m c.name) = some c ↔ Readable m cats c := by
  unfold Categories.named
  rw [List.find?_eq_some_iff_append]
  constructor
  · rintro ⟨hname,before,after,hrows,hbefore⟩
    have hname' : m.toLowerCase c.name = m.toLowerCase (readBack m c.name) := by simpa using hname
    refine ⟨hname'.symm,fun before' after' hrows' c' hc' he => ?_⟩
    have hnodup := List.Nodup.of_map _ cats.ids_nodup
    have hnot : ∀ before after, cats.rows = before ++ c :: after → c ∉ before ∧ c ∉ after := by
      intro before after hrows
      rw [hrows,List.nodup_append,List.nodup_cons] at hnodup
      exact ⟨fun hmem => hnodup.2.2 c hmem c List.mem_cons_self rfl,hnodup.2.1.1⟩
    obtain ⟨rfl,-,-⟩ := (List.append_cons_inj_of_notMem (hnot _ _ hrows).1 (hnot _ _ hrows).2).mp
      (hrows.symm.trans hrows')
    have hne := hbefore c' hc'
    simp only [Bool.not_eq_true',decide_eq_false_iff_not] at hne
    exact hne (he.trans hname')
  · rintro ⟨hname,hfirst⟩
    obtain ⟨before,after,hrows⟩ := List.append_of_mem hc
    refine ⟨by simpa using hname.symm,before,after,hrows,fun c' hc' => ?_⟩
    rw [hname]
    simpa using hfirst before after hrows c' hc'

/-- Between tenants of the same categories. -/
theorem resolve_tokenize_iff {cats cats' : Categories} (hsame : cats'.rows.Perm cats.rows) {s : Text} :
    cats'.resolve m (cats.tokenize m s) = s ↔ Survives m cats cats' s := by
  unfold Categories.tokenize
  cases hfind : cats.rows.find? (fun c => c.id = s) with
  | some c =>
    have hc := List.mem_of_find?_eq_some hfind
    have hc' := hsame.mem_iff.mpr hc
    obtain rfl : c.id = s := by simpa using List.find?_some hfind
    have hnot : tokenOf m c.name ≠ c.id := by
      intro he
      have huuid := not_isToken_of_isUuid (cats.uuids c hc)
      rw [← he,isToken_tokenOf] at huuid
      cases huuid
    have hsurvives : Survives m cats cats' c.id ↔ Readable m cats' c := by
      refine ⟨fun h => h.1 c hc rfl,fun h => ⟨fun c₁ hc₁ he => ?_,fun hne => absurd rfl (hne c hc)⟩⟩
      rwa [List.inj_on_of_nodup_map cats.ids_nodup hc₁ hc he]
    rw [hsurvives,← named_readBack_iff hc',Categories.resolve_tokenOf,tokenName_tokenOf]
    change (cats'.named m (readBack m c.name)).elim _ _ = _ ↔ _
    cases hnamed : cats'.named m (readBack m c.name) with
    | none => exact iff_of_false hnot (by simp)
    | some c₁ =>
      have hc₁ := List.mem_of_find?_eq_some hnamed
      refine ⟨fun hid => ?_,fun he => ?_⟩
      · rw [List.inj_on_of_nodup_map cats'.ids_nodup hc₁ hc' hid]
      · rw [Option.some.inj he]
        rfl
  | none =>
    have hne : ∀ c ∈ cats.rows, c.id ≠ s := fun c hc => by simpa using List.find?_eq_none.mp hfind c hc
    have hsurvives : Survives m cats cats' s ↔ (isToken s = true → cats'.named m (tokenName s) = none) := by
      rw [named_eq_none_iff]
      refine ⟨fun h ht c hc => h.2 hne ht c (hsame.mem_iff.mp hc),fun h => ⟨fun c hc he => absurd he (hne c hc),?_⟩⟩
      exact fun _ ht c hc => h ht c (hsame.mem_iff.mpr hc)
    rw [hsurvives]
    unfold Categories.resolve
    cases htoken : isToken s with
    | false => simp
    | true =>
      cases hnamed : cats'.named m (tokenName s) with
      | none => simp
      | some c' =>
        refine iff_of_false (fun he => ?_) (by simp)
        have huuid := not_isToken_of_isUuid (cats'.uuids c' (List.mem_of_find?_eq_some hnamed))
        simp only [if_true,Option.elim_some] at he
        rw [he,htoken] at huuid
        cases huuid

end EduPod.Policy
