import EduPod.Scheduling.RoomClash

/-! # Enough rooms for the placed lessons

The model counts the lessons of each required type against the rooms of that type. Lessons
without a required type draw on the same rooms, so the counts suffice where lessons of
different keys do not meet, or where there is room for all of them.
-/
namespace EduPod.Scheduling
open Grouping LinearModel

/-- Lessons of the two types draw on common rooms. -/
def rivalTypes (a b : Option String) : Bool := a = none || b = none || a = b

/-- The two assignments draw on common rooms at the same time. -/
def rival (la m : Indexed) : Bool :=
  m.1.slot.timeGroupId = la.1.slot.timeGroupId && rivalTypes m.1.lesson.requiredRoomType la.1.lesson.requiredRoomType

/-- A lesson has a room for sure: its pair has one already, rooms of its type are shared, all
rivals before it are of its own type, or there are rooms for all of them. -/
def Supplied (input : SolverInputV2) (before : List Indexed) (la : Indexed) : Prop :=
  (∃ p, la.1.lesson.doublePairIndex = some p ∧ ∃ m ∈ before, m.1.lesson.doublePairIndex = some p) ∨
  hasNonexclusive input la.1.lesson.requiredRoomType = true ∨
  (∀ m ∈ before, rival la m = true → m.1.lesson.requiredRoomType = la.1.lesson.requiredRoomType) ∨
  before.countP (rival la) + pinnedRooms input input.slots la.1.lesson.requiredRoomType la.1.slot.timeGroupId <
    exclusiveSupply input la.1.lesson.requiredRoomType

def RoomsSuffice (input : SolverInputV2) (v : Var → ℤ) : Prop :=
  ∀ before la after, sortedRecords (placedRecords v input.legal) = before ++ la :: after → Supplied input before la

/-- The id is that of an open room of the type. -/
def InPool (input : SolverInputV2) (t : Option String) (r : String) : Prop :=
  ∃ room ∈ eligibleRooms input t, room.roomId = r

def NamedRooms (input : SolverInputV2) : Prop := ∀ room ∈ input.rooms, room.roomId ≠ ""

/-- No two cells have one year group, weekday and period. -/
def DistinctCells (slots : List PhysicalSlot) : Prop :=
  ∀ s ∈ slots, ∀ t ∈ slots, s.yearGroupId = t.yearGroupId → s.weekday = t.weekday →
    s.periodOrder = t.periodOrder → s = t

instance (input : SolverInputV2) : Decidable (NamedRooms input) :=
  inferInstanceAs (Decidable (∀ room ∈ input.rooms, room.roomId ≠ ""))

instance (slots : List PhysicalSlot) : Decidable (DistinctCells slots) :=
  inferInstanceAs (Decidable (∀ s ∈ slots, ∀ t ∈ slots, s.yearGroupId = t.yearGroupId → s.weekday = t.weekday →
    s.periodOrder = t.periodOrder → s = t))

section
variable {input : SolverInputV2} {slots : List PhysicalSlot}

/-! ## Pools -/

theorem mem_poolOf {rooms : List RoomInfoV2} {t : Option String} {r : String} : r ∈ poolOf rooms t ↔
    ∃ room ∈ rooms, t.all (fun t => room.roomType = t) = true ∧ room.roomId = r := by
  cases t with
  | none =>
    simp only [poolOf,List.mem_flatMap,List.mem_map,Option.all_none,true_and]
    constructor
    · rintro ⟨g,hg,room,hroom,rfl⟩
      rw [(mem_groupBy.mp hg).2] at hroom
      exact ⟨room,(List.mem_filter.mp hroom).1,rfl⟩
    · rintro ⟨room,hroom,rfl⟩
      exact ⟨_,group_mem hroom,room,List.mem_filter.mpr ⟨hroom,by simp⟩,rfl⟩
  | some t =>
    simp only [poolOf,List.mem_map,List.mem_filter,Option.all_some,and_assoc]

theorem mem_typePool {t : Option String} {r : String} : r ∈ typePool input t ↔
    ∃ room ∈ eligibleRooms input t, room.isExclusive = true ∧ room.roomId = r := by
  simp only [typePool,mem_poolOf,exclusiveRooms,eligibleRooms,List.mem_filter]
  constructor
  · rintro ⟨room,⟨ho,he⟩,ht,hr⟩
    exact ⟨room,⟨ho,ht⟩,he,hr⟩
  · rintro ⟨room,⟨ho,ht⟩,he,hr⟩
    exact ⟨room,⟨ho,he⟩,ht,hr⟩

theorem mem_nePool {t : Option String} {r : String} : r ∈ nePool input t ↔
    ∃ room ∈ eligibleRooms input t, room.isExclusive = false ∧ room.roomId = r := by
  simp only [nePool,mem_poolOf,nonexclusiveRooms,eligibleRooms,List.mem_filter,Bool.not_eq_true']
  constructor
  · rintro ⟨room,⟨ho,he⟩,ht,hr⟩
    exact ⟨room,⟨ho,ht⟩,he,hr⟩
  · rintro ⟨room,⟨ho,ht⟩,he,hr⟩
    exact ⟨room,⟨ho,he⟩,ht,hr⟩

theorem inPool_of_candidate {lesson : Lesson} {r : String} (h : r ∈ candidateRooms input lesson) :
    InPool input lesson.requiredRoomType r := by
  have hpools : r ∈ typePool input lesson.requiredRoomType ∨ r ∈ nePool input lesson.requiredRoomType := by
    simp only [candidateRooms,List.mem_append,List.mem_filter,Bool.and_eq_true,decide_eq_true_eq,Bool.or_eq_true] at h
    rcases h with (⟨-,-,h⟩ | ⟨h,-⟩) | ⟨h,-⟩
    · exact h
    · exact Or.inl h
    · exact Or.inr h
  rcases hpools with h | h
  · obtain ⟨room,hroom,-,hr⟩ := mem_typePool.mp h
    exact ⟨room,hroom,hr⟩
  · obtain ⟨room,hroom,-,hr⟩ := mem_nePool.mp h
    exact ⟨room,hroom,hr⟩

/-- The preference only moves a room of the pool to the front. -/
theorem candidate_of_inPool (hnamed : NamedRooms input) {lesson : Lesson} {r : String}
    (h : InPool input lesson.requiredRoomType r) : r ∈ candidateRooms input lesson := by
  obtain ⟨room,hroom,hr⟩ := h
  have hne : r ≠ "" := hr ▸ hnamed room (List.mem_filter.mp (List.mem_filter.mp hroom).1).1
  have hpools : r ∈ typePool input lesson.requiredRoomType ∨ r ∈ nePool input lesson.requiredRoomType := by
    cases he : room.isExclusive with
    | true => exact Or.inl (mem_typePool.mpr ⟨room,hroom,he,hr⟩)
    | false => exact Or.inr (mem_nePool.mpr ⟨room,hroom,he,hr⟩)
  simp only [candidateRooms,List.mem_append,List.mem_filter,Bool.and_eq_true,decide_eq_true_eq,Bool.or_eq_true]
  by_cases hp : preferredRoom input lesson = some r
  · refine Or.inl (Or.inl ⟨?_,?_,hpools⟩)
    · rw [hp]
      exact List.mem_singleton.mpr rfl
    · simp [truthy,hp,hne]
  · rcases hpools with h | h
    · exact Or.inl (Or.inr ⟨h,fun he => hp he.symm⟩)
    · exact Or.inr ⟨h,fun he => hp he.symm⟩

/-! ## Pairs and their rooms -/

/-- A recorded pair room is what the search gave the pair's first visited lesson. -/
theorem mem_anchorRoom {visited : List Indexed} {a : ℕ × Option String}
    (h : a ∈ (roomsAfter input slots visited).anchorRoom) : ∃ before m after, visited = before ++ m :: after ∧
      m.1.lesson.doublePairIndex = some a.1 ∧ followerRoom (roomsAfter input slots before) m.1.lesson = none ∧
      chooseRoom input (roomsAfter input slots before) m.1.lesson m.1.slot.timeGroupId = a.2 := by
  induction visited using List.reverseRecOn with
  | nil => exact absurd h List.not_mem_nil
  | append_singleton xs la ih =>
    have hold : a ∈ (roomsAfter input slots xs).anchorRoom → ∃ before m after, xs ++ [la] = before ++ m :: after ∧
        m.1.lesson.doublePairIndex = some a.1 ∧ followerRoom (roomsAfter input slots before) m.1.lesson = none ∧
        chooseRoom input (roomsAfter input slots before) m.1.lesson m.1.slot.timeGroupId = a.2 := by
      intro h
      obtain ⟨before,m,after,rfl,hm⟩ := ih h
      exact ⟨before,m,after ++ [la],by simp,hm⟩
    rw [roomsAfter_concat] at h
    cases hf : followerRoom (roomsAfter input slots xs) la.1.lesson with
    | some room =>
      rw [assignRoom_follower hf] at h
      exact hold h
    | none =>
      rw [assignRoom_search hf] at h
      dsimp only [recordAnchor] at h
      split at h
      · rename_i p hp
        split at h
        · rcases List.mem_append.mp h with h | h
          · exact hold h
          · obtain rfl := List.mem_singleton.mp h
            exact ⟨xs,la,[],by simp,hp,hf,rfl⟩
        · exact hold h
      · exact hold h

theorem anchorRoom_subset (st : RoomState) (la : Indexed) : st.anchorRoom ⊆ (assignRoom input st la).anchorRoom := by
  cases hf : followerRoom st la.1.lesson with
  | some room =>
    rw [assignRoom_follower hf]
    exact List.Subset.refl _
  | none =>
    rw [assignRoom_search hf]
    dsimp only [recordAnchor]
    split
    · split
      · exact List.subset_append_left _ _
      · exact List.Subset.refl _
    · exact List.Subset.refl _

theorem followerRoom_eq_some {st : RoomState} {lesson : Lesson} {r : String} (h : followerRoom st lesson = some r) :
    ∃ p, lesson.doublePairIndex = some p ∧ (p,some r) ∈ st.anchorRoom := by
  unfold followerRoom at h
  split at h
  · obtain ⟨p,hp,h⟩ := Option.bind_eq_some_iff.mp h
    obtain ⟨a,ha,har⟩ := Option.map_eq_some_iff.mp (Option.join_eq_some_iff.mp h)
    have hap : a.1 = p := by simpa using List.find?_some ha
    exact ⟨p,hp,hap ▸ har ▸ List.mem_of_find?_eq_some ha⟩
  · cases h

/-- Every visited pair has a record. -/
theorem pair_mem_anchorRoom {visited : List Indexed}
    (hdouble : ∀ m ∈ visited, m.1.lesson.requiresDoublePeriod = m.1.lesson.doublePairIndex.isSome) {m : Indexed}
    (hm : m ∈ visited) {p : ℕ} (hp : m.1.lesson.doublePairIndex = some p) :
    p ∈ (roomsAfter input slots visited).anchorRoom.map Prod.fst := by
  induction visited using List.reverseRecOn with
  | nil => exact absurd hm List.not_mem_nil
  | append_singleton xs la ih =>
    rw [roomsAfter_concat]
    rcases List.mem_append.mp hm with hm | hm
    · exact List.map_subset _ (anchorRoom_subset _ la) (ih (fun x hx => hdouble x (List.mem_append_left _ hx)) hm)
    · obtain rfl := List.mem_singleton.mp hm
      have hreq := hdouble m (List.mem_append_right _ List.mem_cons_self)
      rw [hp] at hreq
      cases hf : followerRoom (roomsAfter input slots xs) m.1.lesson with
      | some room =>
        obtain ⟨q,hq,ha⟩ := followerRoom_eq_some hf
        rw [hp] at hq
        rw [assignRoom_follower hf,Option.some.inj hq]
        exact List.mem_map_of_mem ha
      | none =>
        rw [assignRoom_search hf]
        by_cases hmem : p ∈ (roomsAfter input slots xs).anchorRoom.map Prod.fst
        · simp [recordAnchor,hp,hmem]
        · simp [recordAnchor,hp,hreq,hmem]

/-- A lesson only ever gets a room of its pool. -/
theorem inPool_of_stepRoom {visited : List Indexed} {la : Indexed}
    (hl : ∀ m ∈ visited, m.1.lesson ∈ buildLessons input) (hla : la.1.lesson ∈ buildLessons input) {r : String}
    (h : stepRoom input (roomsAfter input slots visited) la = some r) :
    InPool input la.1.lesson.requiredRoomType r := by
  unfold stepRoom at h
  cases hf : followerRoom (roomsAfter input slots visited) la.1.lesson with
  | some room =>
    rw [hf,Option.some_or] at h
    obtain ⟨p,hp,ha⟩ := followerRoom_eq_some (hf.trans h)
    obtain ⟨before,m,after,rfl,hmp,-,hc⟩ := mem_anchorRoom ha
    obtain ⟨d,-,ho,ho'⟩ := ofDemand_of_pairIndex hla
      (hl m (List.mem_append_right _ List.mem_cons_self)) hp hmp
    rw [ho.requiredRoomType,← ho'.requiredRoomType]
    exact inPool_of_candidate (chooseRoom_spec hc).1
  | none =>
    rw [hf,Option.none_or] at h
    exact inPool_of_candidate (chooseRoom_spec h).1

/-! ## Counting the rooms taken -/

def supplyIds (input : SolverInputV2) (t : Option String) : List String :=
  ((eligibleRooms input t).filter (·.isExclusive)).map (·.roomId)

theorem length_supplyIds (t : Option String) : (supplyIds input t).length = exclusiveSupply input t := by
  rw [supplyIds,List.length_map,← List.countP_eq_length_filter,eligibleRooms,List.countP_filter]
  cases t with
  | none => simp [exclusiveSupply,totalExclusive]
  | some t => simp [exclusiveSupply,exclusiveByType]

theorem nodup_supplyIds (hd : DistinctRooms input) (t : Option String) : (supplyIds input t).Nodup := by
  refine hd.sublist (List.Sublist.map _ ?_)
  exact List.filter_sublist.trans (List.filter_sublist.trans List.filter_sublist)

theorem mem_supplyIds {t : Option String} {r : String} : r ∈ supplyIds input t ↔
    ∃ room ∈ eligibleRooms input t, room.isExclusive = true ∧ room.roomId = r := by
  simp [supplyIds,and_assoc]

theorem room_eq (hd : DistinctRooms input) {t t' : Option String} {a b : RoomInfoV2} (ha : a ∈ eligibleRooms input t)
    (hb : b ∈ eligibleRooms input t') (h : a.roomId = b.roomId) : a = b :=
  List.inj_on_of_nodup_map hd (List.mem_filter.mp (List.mem_filter.mp ha).1).1
    (List.mem_filter.mp (List.mem_filter.mp hb).1).1 h

/-- With distinct room ids a pin's room is the one it names. -/
theorem pinRoom_eq (hd : DistinctRooms input) {room : RoomInfoV2} (hroom : room ∈ input.rooms) {pin : PinnedEntryV2}
    (h : pin.roomId = some room.roomId) : pinRoom input pin = some room := by
  obtain ⟨u,hu⟩ := Option.isSome_iff_exists.mp (isSome_lastWith
    (p := fun r : RoomInfoV2 × ℕ => r.1.roomId = room.roomId) |>.mpr (by
      obtain ⟨i,hi⟩ := List.mem_iff_getElem?.mp hroom
      exact ⟨(room,i),List.mem_zipIdx_iff_getElem?.mpr hi,by simp⟩))
  have hk := List.mem_zipIdx_iff_getElem?.mp (mem_of_lastWith hu)
  have hid : u.1.roomId = room.roomId := by simpa using lastWith_spec hu
  have hsame : u.1 = room := List.inj_on_of_nodup_map hd (List.mem_of_getElem? hk) hroom hid
  simp only [pinRoom,h,Option.bind_some,roomIdToIdx,hu,Option.map_some,hk,hsame]

/-- The exclusive rooms of a type include the room. -/
def ofSupply (input : SolverInputV2) (t : Option String) (room : RoomInfoV2) : Bool :=
  room.isExclusive && match t with
    | none => room.roomType ∈ exclusiveTypes input
    | some t => room.roomType = t

/-- The pins at a time group in exclusive rooms of the type. -/
def pinsIn (input : SolverInputV2) (t : Option String) (tg : ℕ) : List (PinnedEntryV2 × PhysicalSlot) :=
  (resolvedPins input input.slots).filter fun p => p.2.timeGroupId = tg && (pinRoom input p.1).any (ofSupply input t)

theorem length_pinsIn_le (t : Option String) (tg : ℕ) :
    (pinsIn input t tg).length ≤ pinnedRooms input input.slots t tg := by
  rw [pinsIn,← List.countP_eq_length_filter]
  cases t with
  | some t => exact le_of_eq rfl
  | none =>
    refine countP_le_sum fun p _ hp => ?_
    rw [Bool.and_eq_true,Option.any_eq_true] at hp
    obtain ⟨htg,room,hroom,hs⟩ := hp
    rw [ofSupply,Bool.and_eq_true,decide_eq_true_eq] at hs
    exact ⟨room.roomType,hs.2,by simp [htg,hroom,hs.1]⟩

/-- A supply room marked at the time group is a pin's or that of a rival visited before. -/
theorem taken_by (hd : DistinctRooms input) (hcells : DistinctCells input.slots) {before : List Indexed} {la : Indexed}
    (hn : (before.map Prod.snd).Nodup) (hl : ∀ m ∈ before, m.1.lesson ∈ buildLessons input) {r : String}
    (hr : r ∈ supplyIds input la.1.lesson.requiredRoomType)
    (hused : (r,la.1.slot.timeGroupId) ∈ (roomsAfter input input.slots before).used) :
    r ∈ (pinsIn input la.1.lesson.requiredRoomType la.1.slot.timeGroupId).filterMap (·.1.roomId) ++
      (before.filter (rival la)).filterMap fun m => roomOf (roomsAfter input input.slots before).assignments m.2 := by
  obtain ⟨room,hroom,hex,hid⟩ := mem_supplyIds.mp hr
  obtain ⟨hopen,htype⟩ := List.mem_filter.mp hroom
  rcases mem_used_roomsAfter hused with hpin | ⟨b1,m,b2,rfl,hm,htg⟩
  · refine List.mem_append_left _ ?_
    obtain ⟨e,he,hmem⟩ := List.mem_flatMap.mp hpin
    obtain ⟨p,hp,rfl⟩ := List.mem_map.mp he
    have hpr : p.1.roomId = some r ∧ p.2.timeGroupId = la.1.slot.timeGroupId := by
      split at hmem
      · exact absurd hmem List.not_mem_nil
      · rename_i room' hroom'
        obtain ⟨s,hs,hse⟩ := List.mem_map.mp hmem
        obtain ⟨hs,hkey⟩ := List.mem_filter.mp hs
        obtain ⟨hpm,hpw,hpo⟩ := mem_of_resolvePin (mem_resolvedPins.mp hp).2
        rw [Bool.and_eq_true,Bool.and_eq_true] at hkey
        have hweek : s.weekday = p.1.weekday := of_decide_eq_true hkey.1.1
        have horder : s.periodOrder = p.1.periodOrder := of_decide_eq_true hkey.1.2
        obtain ⟨rfl,hstg⟩ := Prod.mk.inj hse
        rw [← hcells s hs p.2 hpm (of_decide_eq_true hkey.2) (hweek.trans hpw.symm) (horder.trans hpo.symm)]
        exact ⟨hroom',hstg⟩
    refine List.mem_filterMap.mpr ⟨p,List.mem_filter.mpr ⟨hp,?_⟩,hpr.1⟩
    rw [pinRoom_eq hd (List.mem_filter.mp hopen).1 (hid ▸ hpr.1)]
    simp only [hpr.2,decide_true,Bool.true_and,Option.any_some,ofSupply,hex]
    cases ht : la.1.lesson.requiredRoomType with
    | none =>
      have hmem : room.roomType ∈ exclusiveTypes input :=
        List.mem_eraseDups.mpr (List.mem_map_of_mem (List.mem_filter.mpr ⟨hopen,hex⟩))
      simpa using hmem
    | some t =>
      rw [ht,Option.all_some] at htype
      exact htype
  · refine List.mem_append_right _ (List.mem_filterMap.mpr ⟨m,List.mem_filter.mpr ⟨List.mem_append_right _
      List.mem_cons_self,?_⟩,?_⟩)
    · obtain ⟨room',hroom',hid'⟩ := inPool_of_stepRoom (fun x hx => hl x (List.mem_append_left _ hx))
        (hl m (List.mem_append_right _ List.mem_cons_self)) hm
      have hsame := room_eq hd hroom hroom' (hid.trans hid'.symm)
      obtain ⟨-,htype'⟩ := List.mem_filter.mp hroom'
      rw [← hsame] at htype'
      rw [rival,Bool.and_eq_true,decide_eq_true_eq]
      refine ⟨htg,?_⟩
      cases ht : la.1.lesson.requiredRoomType with
      | none => simp [rivalTypes]
      | some t =>
        cases ht' : m.1.lesson.requiredRoomType with
        | none => simp [rivalTypes]
        | some t' =>
          rw [ht,Option.all_some,decide_eq_true_eq] at htype
          rw [ht',Option.all_some,decide_eq_true_eq] at htype'
          simp [rivalTypes,← htype,← htype']
    · rw [roomOf_eq_stepRoom hn]
      exact hm

/-- Fewer rivals and pins than rooms leave a room unmarked. -/
theorem exists_unmarked (hd : DistinctRooms input) (hcells : DistinctCells input.slots) {before : List Indexed}
    {la : Indexed} (hn : (before.map Prod.snd).Nodup) (hl : ∀ m ∈ before, m.1.lesson ∈ buildLessons input)
    (hlt : before.countP (rival la) + pinnedRooms input input.slots la.1.lesson.requiredRoomType
      la.1.slot.timeGroupId < exclusiveSupply input la.1.lesson.requiredRoomType) :
    ∃ r ∈ supplyIds input la.1.lesson.requiredRoomType,
      (r,la.1.slot.timeGroupId) ∉ (roomsAfter input input.slots before).used := by
  by_contra hno
  push Not at hno
  have hsub : supplyIds input la.1.lesson.requiredRoomType ⊆ _ := fun r hr => taken_by hd hcells hn hl hr (hno r hr)
  have hlen := (List.subperm_of_subset (nodup_supplyIds hd _) hsub).length_le
  rw [length_supplyIds,List.length_append] at hlen
  have h1 := (List.length_filterMap_le (fun p : PinnedEntryV2 × PhysicalSlot => p.1.roomId)
    (pinsIn input la.1.lesson.requiredRoomType la.1.slot.timeGroupId)).trans (length_pinsIn_le _ _)
  have h2 := List.length_filterMap_le
    (fun m : Indexed => roomOf (roomsAfter input input.slots before).assignments m.2) (before.filter (rival la))
  rw [← List.countP_eq_length_filter] at h2
  omega

/-! ## Every lesson finds a room -/

/-- Where all rivals before a lesson have its own type, the model's count leaves it a room. -/
theorem count_lt_of_same_type {v : Var → ℤ} (hsat : Sat v input.model) {before after : List Indexed} {la : Indexed}
    (hs : sortedRecords (placedRecords v input.legal) = before ++ la :: after)
    (hne : hasNonexclusive input la.1.lesson.requiredRoomType = false)
    (hsame : ∀ m ∈ before, rival la m = true → m.1.lesson.requiredRoomType = la.1.lesson.requiredRoomType) :
    before.countP (rival la) + pinnedRooms input input.slots la.1.lesson.requiredRoomType la.1.slot.timeGroupId <
      exclusiveSupply input la.1.lesson.requiredRoomType := by
  obtain ⟨hA,-,-,hD,-⟩ := sat_model_iff.mp hsat
  have hla : la ∈ placedRecords v input.legal := (perm_sortedRecords _).mem_iff.mp (by
    rw [hs]
    exact List.mem_append_right _ List.mem_cons_self)
  have hcap := (sat_sectionD_iff (PlacementBool.of_sat hA)).mp hD la (mem_legal_of_placed hla)
  rw [roomCapacity_eq hne,← (perm_sortedRecords (placedRecords v input.legal)).countP_eq,hs,List.countP_append,
    List.countP_cons_of_pos (by simp)] at hcap
  have hle : before.countP (rival la) ≤ before.countP fun w => roomKey w = roomKey la := by
    refine List.countP_mono_left fun m hm hr => ?_
    have ht := hsame m hm hr
    rw [rival,Bool.and_eq_true,decide_eq_true_eq] at hr
    simp [roomKey,ht,hr.1]
  omega

theorem chooseRoom_isSome {st : RoomState} {lesson : Lesson} {tg : ℕ} {r : String}
    (hr : r ∈ candidateRooms input lesson) (hfree : isNonexclusiveId input r = true ∨ (r,tg) ∉ st.used) :
    (chooseRoom input st lesson tg).isSome := List.find?_isSome.mpr ⟨r,hr,by simpa using hfree⟩

/-- A shared room is always free. -/
theorem chooseRoom_isSome_of_shared (hnamed : NamedRooms input) {st : RoomState} {lesson : Lesson} {tg : ℕ}
    (h : hasNonexclusive input lesson.requiredRoomType = true) : (chooseRoom input st lesson tg).isSome := by
  have hshared : ∃ room ∈ eligibleRooms input lesson.requiredRoomType, room.isExclusive = false := by
    cases ht : lesson.requiredRoomType with
    | none =>
      rw [ht,hasNonexclusive,hasAnyNonexclusive,List.any_eq_true] at h
      obtain ⟨room,hroom,hx⟩ := h
      exact ⟨room,List.mem_filter.mpr ⟨hroom,rfl⟩,by simpa using hx⟩
    | some t =>
      rw [ht,hasNonexclusive,hasNonexclusiveByType,List.any_eq_true] at h
      obtain ⟨room,hroom,hx⟩ := h
      rw [Bool.and_eq_true,Bool.not_eq_true'] at hx
      exact ⟨room,List.mem_filter.mpr ⟨hroom,by simpa using hx.2⟩,hx.1⟩
  obtain ⟨room,hroom,hx⟩ := hshared
  refine chooseRoom_isSome (candidate_of_inPool hnamed ⟨room,hroom,rfl⟩) (Or.inl ?_)
  exact List.any_eq_true.mpr ⟨room,List.mem_filter.mpr ⟨(List.mem_filter.mp hroom).1,by simp [hx]⟩,by simp⟩

/-- A lesson of a visited pair gets the pair's room, if every search so far succeeded. -/
theorem followerRoom_isSome {before : List Indexed} {la m : Indexed}
    (hdouble : ∀ m ∈ before ++ [la], m.1.lesson.requiresDoublePeriod = m.1.lesson.doublePairIndex.isSome)
    (hm : m ∈ before) {p : ℕ} (hp : la.1.lesson.doublePairIndex = some p) (hmp : m.1.lesson.doublePairIndex = some p)
    (hsome : ∀ b1 m' b2, before = b1 ++ m' :: b2 → (stepRoom input (roomsAfter input slots b1) m').isSome) :
    (followerRoom (roomsAfter input slots before) la.1.lesson).isSome := by
  have hkey : p ∈ (roomsAfter input slots before).anchorRoom.map Prod.fst :=
    pair_mem_anchorRoom (fun m hm => hdouble m (List.mem_append_left _ hm)) hm hmp
  obtain ⟨a,ha⟩ := Option.isSome_iff_exists.mp (show
      ((roomsAfter input slots before).anchorRoom.find? fun a => a.1 = p).isSome by
    obtain ⟨a,ha,hap⟩ := List.mem_map.mp hkey
    exact List.find?_isSome.mpr ⟨a,ha,by simpa using hap⟩)
  obtain ⟨b1,m',b2,hb,-,hf,hc⟩ := mem_anchorRoom (List.mem_of_find?_eq_some ha)
  have hroom := hsome b1 m' b2 hb
  rw [stepRoom,hf,Option.none_or,hc] at hroom
  rw [followerRoom,hdouble la (List.mem_append_right _ List.mem_cons_self),hp]
  simpa [ha] using hroom

/-- Every lesson is given a room when it is visited. -/
theorem stepRoom_isSome {v : Var → ℤ} (hsat : Sat v input.model) (hd : DistinctRooms input)
    (hnamed : NamedRooms input) (hcells : DistinctCells input.slots) (hsuff : RoomsSuffice input v)
    (before : List Indexed) (la : Indexed) (after : List Indexed)
    (hs : sortedRecords (placedRecords v input.legal) = before ++ la :: after) :
    (stepRoom input (roomsAfter input input.slots before) la).isSome := by
  have hlessons : ∀ m ∈ before ++ la :: after, m.1.lesson ∈ buildLessons input := by
    intro m hm
    have hp : m ∈ placedRecords v input.legal := (perm_sortedRecords _).mem_iff.mp (hs ▸ hm)
    exact List.mem_of_getElem? (wellFormed_of_zipIdx (mem_legal_of_placed hp)).lesson
  have hsearch (h : (chooseRoom input (roomsAfter input input.slots before) la.1.lesson
      la.1.slot.timeGroupId).isSome) : (stepRoom input (roomsAfter input input.slots before) la).isSome := by
    rw [stepRoom,Option.isSome_or,h,Bool.or_true]
  have hcount (hlt : before.countP (rival la) + pinnedRooms input input.slots la.1.lesson.requiredRoomType
      la.1.slot.timeGroupId < exclusiveSupply input la.1.lesson.requiredRoomType) :
      (stepRoom input (roomsAfter input input.slots before) la).isSome := by
    have hn := nodup_idx_sortedRecords v input.legal
    rw [hs,List.map_append] at hn
    obtain ⟨r,hr,hfree⟩ := exists_unmarked hd hcells (List.nodup_append.mp hn).1
      (fun m hm => hlessons m (List.mem_append_left _ hm)) hlt
    obtain ⟨room,hroom,-,hid⟩ := mem_supplyIds.mp hr
    exact hsearch (chooseRoom_isSome (candidate_of_inPool hnamed ⟨room,hroom,hid⟩) (Or.inr hfree))
  rcases hsuff before la after hs with ⟨p,hp,m,hm,hmp⟩ | hne | hsame | hlt
  · have hdouble : ∀ m ∈ before ++ [la], m.1.lesson.requiresDoublePeriod = m.1.lesson.doublePairIndex.isSome := by
      intro m hm
      obtain ⟨d,-,ho⟩ := ofDemand_buildLessons (hlessons m (by
        rw [← List.singleton_append,← List.append_assoc]
        exact List.mem_append_left _ hm))
      exact ho.double
    have hfollow := followerRoom_isSome hdouble hm hp hmp fun b1 m' b2 hb =>
      stepRoom_isSome hsat hd hnamed hcells hsuff b1 m' (b2 ++ la :: after) (by rw [hs,hb]; simp)
    rw [stepRoom,Option.isSome_or,hfollow,Bool.true_or]
  · exact hsearch (chooseRoom_isSome_of_shared hnamed hne)
  · cases hne : hasNonexclusive input la.1.lesson.requiredRoomType with
    | false => exact hcount (count_lt_of_same_type hsat hs hne hsame)
    | true => exact hsearch (chooseRoom_isSome_of_shared hnamed hne)
  · exact hcount hlt
termination_by before.length
decreasing_by
  subst hb
  simp

/-- Lessons of one type never compete with those of another. -/
theorem roomsSuffice_of_one_type {v : Var → ℤ} (h : ∀ a ∈ placedRecords v input.legal,
    ∀ b ∈ placedRecords v input.legal, a.1.lesson.requiredRoomType = b.1.lesson.requiredRoomType) :
    RoomsSuffice input v := by
  intro before la after hs
  have hmem : ∀ x ∈ before ++ la :: after, x ∈ placedRecords v input.legal := fun x hx =>
    (perm_sortedRecords _).mem_iff.mp (hs ▸ hx)
  exact Or.inr (Or.inr (Or.inl fun m hm _ => h m (hmem m (List.mem_append_left _ hm)) la
    (hmem la (List.mem_append_right _ List.mem_cons_self))))

end

def oneLab : SolverInputV2 :=
  { SolverInputV2.empty with
    yearGroups := [⟨"Y",[⟨"a"⟩,⟨"b"⟩],[.teaching firstDay 0 "09:00" "10:00"]⟩]
    curriculum := [⟨"Y","maths",1,1,false,none,none,none,some "a"⟩,
      ⟨"Y","science",1,1,false,none,some "lab",none,some "b"⟩]
    teachers := [.plain "s" [⟨"maths","Y",none⟩] [],.plain "t" [⟨"science","Y",none⟩] []]
    rooms := [⟨"lab 1","lab",true⟩] }

end EduPod.Scheduling
