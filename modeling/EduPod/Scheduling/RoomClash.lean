import EduPod.Scheduling.ModelFacts
import EduPod.Scheduling.Pruning
import EduPod.Scheduling.TeacherClash

/-! # What the room pass leaves behind

The pass handles one placed lesson at a time. What it gave a lesson is fixed when the
lesson is visited, and every exclusive room it gave out is marked in the lesson's time group.
-/
namespace EduPod.Scheduling
open LinearModel

section
section
variable {input : SolverInputV2} {slots : List PhysicalSlot}

/-- The room a lesson is given in a state. -/
def stepRoom (input : SolverInputV2) (st : RoomState) (la : Indexed) : Option String :=
  (followerRoom st la.1.lesson).or (chooseRoom input st la.1.lesson la.1.slot.timeGroupId)

/-- The state after the visited lessons. -/
def roomsAfter (input : SolverInputV2) (slots : List PhysicalSlot) (visited : List Indexed) : RoomState :=
  visited.foldl (assignRoom input) (initialRooms input slots)

theorem roomsAfter_append (xs ys : List Indexed) : roomsAfter input slots (xs ++ ys) =
    ys.foldl (assignRoom input) (roomsAfter input slots xs) := List.foldl_append

theorem roomsAfter_concat (xs : List Indexed) (la : Indexed) :
    roomsAfter input slots (xs ++ [la]) = assignRoom input (roomsAfter input slots xs) la := List.foldl_concat ..

/-! ## One step -/

theorem assignRoom_follower {st : RoomState} {la : Indexed} {room : String}
    (h : followerRoom st la.1.lesson = some room) : assignRoom input st la =
      ⟨(room,la.1.slot.timeGroupId) :: st.used,st.anchorRoom,st.assignments ++ [(la.2,some room)]⟩ := by
  simp only [assignRoom,h]

/-- The marks after a search that gave a room or none. -/
def markRoom (input : SolverInputV2) (used : List (String × ℕ)) (chosen : Option String) (tg : ℕ) :
    List (String × ℕ) :=
  match chosen with
  | some room => if isNonexclusiveId input room then used else (room,tg) :: used
  | none => used

theorem assignRoom_search {st : RoomState} {la : Indexed} (h : followerRoom st la.1.lesson = none) :
    assignRoom input st la =
      let chosen := chooseRoom input st la.1.lesson la.1.slot.timeGroupId
      ⟨markRoom input st.used chosen la.1.slot.timeGroupId,recordAnchor st la.1.lesson chosen,
        st.assignments ++ [(la.2,chosen)]⟩ := by
  simp only [assignRoom,h]
  rfl

@[simp] theorem assignments_assignRoom (st : RoomState) (la : Indexed) :
    (assignRoom input st la).assignments = st.assignments ++ [(la.2,stepRoom input st la)] := by
  cases h : followerRoom st la.1.lesson with
  | some room => rw [assignRoom_follower h,stepRoom,h,Option.some_or]
  | none => rw [assignRoom_search h,stepRoom,h,Option.none_or]

theorem used_subset_assignRoom (st : RoomState) (la : Indexed) : st.used ⊆ (assignRoom input st la).used := by
  cases h : followerRoom st la.1.lesson with
  | some room =>
    rw [assignRoom_follower h]
    exact List.subset_cons_self _ _
  | none =>
    rw [assignRoom_search h]
    dsimp only [markRoom]
    split
    · split
      · exact List.Subset.refl _
      · exact List.subset_cons_self _ _
    · exact List.Subset.refl _

/-- The room a lesson is given is marked, unless it is a non-exclusive one. -/
theorem mem_used_assignRoom {st : RoomState} {la : Indexed} {r : String} (h : stepRoom input st la = some r)
    (hex : isNonexclusiveId input r = false) : (r,la.1.slot.timeGroupId) ∈ (assignRoom input st la).used := by
  unfold stepRoom at h
  cases hf : followerRoom st la.1.lesson with
  | some room =>
    rw [hf,Option.some_or] at h
    rw [assignRoom_follower hf,Option.some.inj h]
    exact List.mem_cons_self
  | none =>
    rw [hf,Option.none_or] at h
    rw [assignRoom_search hf]
    simp only [h,markRoom,hex]
    exact List.mem_cons_self

/-- A mark that a step adds is that of the room it gives. -/
theorem mem_used_of_assignRoom {st : RoomState} {la : Indexed} {x : String × ℕ}
    (h : x ∈ (assignRoom input st la).used) :
    x ∈ st.used ∨ (stepRoom input st la = some x.1 ∧ x.2 = la.1.slot.timeGroupId) := by
  unfold stepRoom
  cases hf : followerRoom st la.1.lesson with
  | some room =>
    rw [assignRoom_follower hf] at h
    rcases List.mem_cons.mp h with rfl | h
    · exact Or.inr ⟨rfl,rfl⟩
    · exact Or.inl h
  | none =>
    rw [assignRoom_search hf] at h
    rw [Option.none_or]
    cases hc : chooseRoom input st la.1.lesson la.1.slot.timeGroupId with
    | none =>
      simp only [hc,markRoom] at h
      exact Or.inl h
    | some room =>
      simp only [hc,markRoom] at h
      split at h
      · exact Or.inl h
      · rcases List.mem_cons.mp h with rfl | h
        · exact Or.inr ⟨rfl,rfl⟩
        · exact Or.inl h

/-- A room chosen by search is non-exclusive or not marked in the time group. -/
theorem chooseRoom_spec {st : RoomState} {lesson : Lesson} {tg : ℕ} {r : String}
    (h : chooseRoom input st lesson tg = some r) :
    r ∈ candidateRooms input lesson ∧ (isNonexclusiveId input r = true ∨ (r,tg) ∉ st.used) := by
  refine ⟨List.mem_of_find?_eq_some h,?_⟩
  simpa using List.find?_some h

/-! ## The whole run -/

theorem keys_roomsAfter (visited : List Indexed) :
    (roomsAfter input slots visited).assignments.map Prod.fst = visited.map Prod.snd := by
  induction visited using List.reverseRecOn with
  | nil => rfl
  | append_singleton xs la ih => rw [roomsAfter_concat,assignments_assignRoom,List.map_append,ih,List.map_append]; rfl

theorem used_subset_foldl (ys : List Indexed) (st : RoomState) : st.used ⊆ (ys.foldl (assignRoom input) st).used := by
  induction ys generalizing st with
  | nil => exact List.Subset.refl _
  | cons y ys ih => exact List.Subset.trans (used_subset_assignRoom st y) (ih _)

theorem roomOf_append_left {xs ys : List (ℕ × Option String)} {i : ℕ} (h : i ∉ ys.map Prod.fst) :
    roomOf (xs ++ ys) i = roomOf xs i := by
  have hnone : ys.find? (fun a => a.1 = i) = none := by
    rw [List.find?_eq_none]
    intro a ha hi
    exact h (of_decide_eq_true hi ▸ List.mem_map_of_mem ha)
  rw [roomOf,roomOf,List.find?_append,hnone,Option.or_none]

theorem roomOf_concat {xs : List (ℕ × Option String)} {i : ℕ} {r : Option String} (h : i ∉ xs.map Prod.fst) :
    roomOf (xs ++ [(i,r)]) i = r := by
  have hnone : xs.find? (fun a => a.1 = i) = none := by
    rw [List.find?_eq_none]
    intro a ha hi
    exact h (of_decide_eq_true hi ▸ List.mem_map_of_mem ha)
  rw [roomOf,List.find?_append,hnone,Option.none_or]
  simp

/-- Later steps do not change the room of a visited lesson. -/
theorem roomOf_roomsAfter_append {xs ys : List Indexed} {la : Indexed} (hla : la.2 ∉ ys.map Prod.snd) :
    roomOf (roomsAfter input slots (xs ++ ys)).assignments la.2 = roomOf (roomsAfter input slots xs).assignments la.2 := by
  induction ys using List.reverseRecOn with
  | nil => rw [List.append_nil]
  | append_singleton ys y ih =>
    rw [List.map_append,List.mem_append,not_or] at hla
    rw [← List.append_assoc,roomsAfter_concat,assignments_assignRoom,roomOf_append_left (by simpa using hla.2),
      ih hla.1]

/-- The room of a lesson is the one of its step. -/
theorem roomOf_eq_stepRoom {before after : List Indexed} {la : Indexed}
    (hn : ((before ++ la :: after).map Prod.snd).Nodup) :
    roomOf (roomsAfter input slots (before ++ la :: after)).assignments la.2 =
      stepRoom input (roomsAfter input slots before) la := by
  rw [List.map_append,List.map_cons] at hn
  have hafter : la.2 ∉ after.map Prod.snd := (List.nodup_cons.mp (List.nodup_append.mp hn).2.1).1
  have hbefore : la.2 ∉ (roomsAfter input slots before).assignments.map Prod.fst := by
    rw [keys_roomsAfter]
    exact fun h => (List.nodup_append.mp hn).2.2 _ h _ List.mem_cons_self rfl
  rw [show before ++ la :: after = (before ++ [la]) ++ after by simp,roomOf_roomsAfter_append hafter,
    roomsAfter_concat,assignments_assignRoom,roomOf_concat hbefore]

/-- An exclusive room given to a visited lesson is marked from then on. -/
theorem mem_used_of_visited {before after : List Indexed} {la : Indexed} {r : String}
    (h : stepRoom input (roomsAfter input slots before) la = some r) (hex : isNonexclusiveId input r = false) :
    (r,la.1.slot.timeGroupId) ∈ (roomsAfter input slots (before ++ la :: after)).used := by
  rw [show before ++ la :: after = (before ++ [la]) ++ after by simp,roomsAfter_append,roomsAfter_concat]
  exact used_subset_foldl _ _ (mem_used_assignRoom h hex)

/-- Every mark is a pin's or that of a visited lesson. -/
theorem mem_used_roomsAfter {visited : List Indexed} {x : String × ℕ} (hx : x ∈ (roomsAfter input slots visited).used) :
    x ∈ pinnedUse slots (pinnedToAssignments input slots) ∨ ∃ before la after, visited = before ++ la :: after ∧
      stepRoom input (roomsAfter input slots before) la = some x.1 ∧ la.1.slot.timeGroupId = x.2 := by
  induction visited using List.reverseRecOn with
  | nil => exact Or.inl hx
  | append_singleton xs la ih =>
    rw [roomsAfter_concat] at hx
    rcases mem_used_of_assignRoom hx with hx | ⟨hr,htg⟩
    · rcases ih hx with h | ⟨before,m,after,rfl,hm,htg⟩
      · exact Or.inl h
      · exact Or.inr ⟨before,m,after ++ [la],by simp,hm,htg⟩
    · exact Or.inr ⟨xs,la,[],rfl,hr,htg.symm⟩

/-! ## The placed lessons in visiting order -/

theorem perm_sortedRecords (placed : List Indexed) : (sortedRecords placed).Perm placed := List.perm_insertionSort ..

theorem nodup_idx_placedRecords (v : Var → ℤ) (legal : List LegalAssignment) :
    ((placedRecords v legal).map Prod.snd).Nodup := by
  refine List.Nodup.sublist (chosen_sublist.map _) ?_
  rw [List.zipIdx_map_snd]
  exact List.nodup_range' ..

theorem nodup_idx_sortedRecords (v : Var → ℤ) (legal : List LegalAssignment) :
    ((sortedRecords (placedRecords v legal)).map Prod.snd).Nodup :=
  ((perm_sortedRecords _).map _).nodup_iff.mpr (nodup_idx_placedRecords v legal)

end

/-- Of two elements of a list one comes first. -/
theorem split_two {α : Type*} {xs : List α} {a b : α} (ha : a ∈ xs) (hb : b ∈ xs) (hne : a ≠ b) :
    (∃ before after, xs = before ++ b :: after ∧ a ∈ before) ∨
      ∃ before after, xs = before ++ a :: after ∧ b ∈ before := by
  obtain ⟨l1,l2,rfl⟩ := List.append_of_mem hb
  rcases List.mem_append.mp ha with ha | ha
  · exact Or.inl ⟨l1,l2,rfl,ha⟩
  · rcases List.mem_cons.mp ha with rfl | ha
    · exact absurd rfl hne
    · obtain ⟨l3,l4,rfl⟩ := List.append_of_mem ha
      exact Or.inr ⟨l1 ++ b :: l3,l4,by simp,by simp⟩

end

/-! ## No exclusive room in two hands

A searched room is free in its time group. A double-period follower takes its anchor's
room unseen, so whether a room ends up in two hands is decided at the followers.
-/

/-- Some exclusive room, open or not, has the id. -/
def ExclusiveId (input : SolverInputV2) (r : String) : Prop :=
  ∃ room ∈ input.rooms, room.roomId = r ∧ room.isExclusive = true

instance (input : SolverInputV2) (r : String) : Decidable (ExclusiveId input r) :=
  inferInstanceAs (Decidable (∃ room ∈ input.rooms, room.roomId = r ∧ room.isExclusive = true))

/-- Two entries overlap in one exclusive room, not both of them pinned. -/
def RoomClash (input : SolverInputV2) (a b : SolverAssignmentV2) : Prop :=
  (∃ r, a.roomId = some r ∧ b.roomId = some r ∧ ExclusiveId input r) ∧ a.weekday = b.weekday ∧
    timesOverlap a.startTime a.endTime b.startTime b.endTime = true ∧ ¬(a.isPinned = true ∧ b.isPinned = true)

def NoRoomClash (input : SolverInputV2) (entries : List SolverAssignmentV2) : Prop :=
  entries.Pairwise fun a b => ¬RoomClash input a b

def DistinctRooms (input : SolverInputV2) : Prop := (input.rooms.map (·.roomId)).Nodup

instance (input : SolverInputV2) : Decidable (DistinctRooms input) :=
  inferInstanceAs (Decidable (input.rooms.map (·.roomId)).Nodup)

/-- When a follower is visited, its anchor's room is not held in an overlapping cell, by a
lesson visited before or by a pin. -/
def FollowersFree (input : SolverInputV2) (v : Var → ℤ) : Prop :=
  ∀ before la after, sortedRecords (placedRecords v input.legal) = before ++ la :: after → ∀ r,
    followerRoom (roomsAfter input input.slots before) la.1.lesson = some r → ExclusiveId input r →
    (∀ m ∈ before, roomOf (roomsAfter input input.slots before).assignments m.2 = some r →
      slotsOverlap m.1.slot la.1.slot = false) ∧
    ∀ p ∈ resolvedPins input input.slots, p.1.roomId = some r → slotsOverlap p.2 la.1.slot = false

theorem RoomClash.symm {input : SolverInputV2} {a b : SolverAssignmentV2} (h : RoomClash input a b) :
    RoomClash input b a := by
  obtain ⟨⟨r,ha,hb,he⟩,hw,hov,hpin⟩ := h
  refine ⟨⟨r,hb,ha,he⟩,hw.symm,?_,fun hp => hpin hp.symm⟩
  rwa [timesOverlap,Bool.and_comm]

theorem isNonexclusiveId_eq_false {input : SolverInputV2} (hd : DistinctRooms input) {r : String}
    (h : ExclusiveId input r) : isNonexclusiveId input r = false := by
  obtain ⟨room,hroom,hid,hex⟩ := h
  rw [isNonexclusiveId,List.any_eq_false]
  intro other hother heq
  obtain ⟨hopen,hne⟩ := List.mem_filter.mp hother
  have hsame : other = room := List.inj_on_of_nodup_map hd (List.mem_filter.mp hopen).1 hroom
    ((of_decide_eq_true heq).trans hid.symm)
  rw [hsame,hex] at hne
  exact absurd hne (by decide)

section
variable {input : SolverInputV2} {v : Var → ℤ}

theorem mem_legal_of_placed {la : Indexed} (h : la ∈ placedRecords v input.legal) : la ∈ input.legal.zipIdx :=
  (mem_chosen.mp h).1

/-- The entry of a placed lesson, with the rooms of the whole pass. -/
def placedEntry (input : SolverInputV2) (v : Var → ℤ) (la : Indexed) : SolverAssignmentV2 :=
  lessonEntry (assignRooms input input.slots (placedRecords v input.legal)) la

theorem roomId_placedEntry {before after : List Indexed} {la : Indexed}
    (h : sortedRecords (placedRecords v input.legal) = before ++ la :: after) :
    (placedEntry input v la).roomId = stepRoom input (roomsAfter input input.slots before) la := by
  have hn := nodup_idx_sortedRecords v input.legal
  rw [h] at hn
  rw [← roomOf_eq_stepRoom hn,← h]
  rfl

theorem roomClash_lessons_iff {a b : Indexed} : RoomClash input (placedEntry input v a) (placedEntry input v b) ↔
    (∃ r, (placedEntry input v a).roomId = some r ∧ (placedEntry input v b).roomId = some r ∧ ExclusiveId input r) ∧
      slotsOverlap a.1.slot b.1.slot = true := by
  simp [RoomClash,slotsOverlap,placedEntry,lessonEntry]

theorem roomClash_pin_iff {p : PinnedEntryV2 × PhysicalSlot} (hp : p ∈ resolvedPins input input.slots) {la : Indexed} :
    RoomClash input (pinEntry p) (placedEntry input v la) ↔
      (∃ r, p.1.roomId = some r ∧ (placedEntry input v la).roomId = some r ∧ ExclusiveId input r) ∧
        slotsOverlap p.2 la.1.slot = true := by
  have hw := (mem_of_resolvePin (mem_resolvedPins.mp hp).2).2.1
  simp [RoomClash,slotsOverlap,placedEntry,lessonEntry,pinEntry,hw]

/-! ## Where rooms are marked -/

/-- The room of a pin is marked in the time group of its cell. -/
theorem mem_pinnedUse {p : PinnedEntryV2 × PhysicalSlot} (hp : p ∈ resolvedPins input input.slots) {r : String}
    (hr : p.1.roomId = some r) : (r,p.2.timeGroupId) ∈ pinnedUse input.slots (pinnedToAssignments input input.slots) := by
  obtain ⟨hmem,hw,ho⟩ := mem_of_resolvePin (mem_resolvedPins.mp hp).2
  refine List.mem_flatMap.mpr ⟨pinEntry p,List.mem_map_of_mem hp,?_⟩
  rw [show (pinEntry p).roomId = some r from hr]
  exact List.mem_map_of_mem (List.mem_filter.mpr ⟨hmem,by simp [pinEntry,hw,ho]⟩)

theorem mem_used_of_pin {p : PinnedEntryV2 × PhysicalSlot} (hp : p ∈ resolvedPins input input.slots) {r : String}
    (hr : p.1.roomId = some r) (visited : List Indexed) :
    (r,p.2.timeGroupId) ∈ (roomsAfter input input.slots visited).used :=
  used_subset_foldl visited (initialRooms input input.slots) (mem_pinnedUse hp hr)

/-- An exclusive room that a search gave was not marked in the time group. -/
theorem not_mem_used_of_search (hd : DistinctRooms input) {st : RoomState} {la : Indexed} {r : String}
    (hf : followerRoom st la.1.lesson ≠ some r) (h : stepRoom input st la = some r) (he : ExclusiveId input r) :
    (r,la.1.slot.timeGroupId) ∉ st.used := by
  unfold stepRoom at h
  cases hfr : followerRoom st la.1.lesson with
  | some room =>
    rw [hfr,Option.some_or] at h
    exact absurd (hfr.trans h) hf
  | none =>
    rw [hfr,Option.none_or] at h
    refine (chooseRoom_spec h).2.resolve_left ?_
    rw [isNonexclusiveId_eq_false hd he]
    exact Bool.false_ne_true

/-! ## At one step -/

/-- A lesson visited earlier does not share its exclusive room with an overlapping later one. -/
theorem not_clash_earlier (hd : DistinctRooms input) (ha : Aligned input.yearGroups) (hfree : FollowersFree input v)
    {before after : List Indexed} {la m : Indexed}
    (hs : sortedRecords (placedRecords v input.legal) = before ++ la :: after) (hm : m ∈ before) :
    ¬RoomClash input (placedEntry input v m) (placedEntry input v la) := by
  rw [roomClash_lessons_iff]
  rintro ⟨⟨r,hmr,hlr,he⟩,hov⟩
  rw [roomId_placedEntry hs] at hlr
  have hplaced : ∀ x ∈ before ++ la :: after, x ∈ input.legal.zipIdx := fun x hx =>
    mem_legal_of_placed ((perm_sortedRecords _).mem_iff.mp (hs ▸ hx))
  obtain ⟨b1,b2,rfl⟩ := List.append_of_mem hm
  have hs' : sortedRecords (placedRecords v input.legal) = b1 ++ m :: (b2 ++ la :: after) := by rw [hs]; simp
  have hn := nodup_idx_sortedRecords v input.legal
  rw [roomId_placedEntry hs'] at hmr
  by_cases hf : followerRoom (roomsAfter input input.slots (b1 ++ m :: b2)) la.1.lesson = some r
  · have hmroom : roomOf (roomsAfter input input.slots (b1 ++ m :: b2)).assignments m.2 = some r := by
      rw [hs,List.map_append] at hn
      rw [roomOf_eq_stepRoom (List.nodup_append.mp hn).1,hmr]
    rw [(hfree _ la after hs r hf he).1 m hm hmroom] at hov
    cases hov
  · refine not_mem_used_of_search hd hf hlr he ?_
    obtain ⟨hsm,hso⟩ := occupiable_of_legal (hplaced m (List.mem_append_left _ hm))
    obtain ⟨hsl,hlo⟩ := occupiable_of_legal (hplaced la (List.mem_append_right _ List.mem_cons_self))
    rw [← ha.timeGroupId_eq hsm hsl hso (Or.inl hlo) hov]
    exact mem_used_of_visited hmr (isNonexclusiveId_eq_false hd he)

/-- A pin does not share its exclusive room with an overlapping lesson. -/
theorem not_clash_pinned (hd : DistinctRooms input) (ha : Aligned input.yearGroups) (hfree : FollowersFree input v)
    {before after : List Indexed} {la : Indexed}
    (hs : sortedRecords (placedRecords v input.legal) = before ++ la :: after) {p : PinnedEntryV2 × PhysicalSlot}
    (hp : p ∈ resolvedPins input input.slots) : ¬RoomClash input (pinEntry p) (placedEntry input v la) := by
  rw [roomClash_pin_iff hp]
  rintro ⟨⟨r,hpr,hlr,he⟩,hov⟩
  rw [roomId_placedEntry hs] at hlr
  by_cases hf : followerRoom (roomsAfter input input.slots before) la.1.lesson = some r
  · rw [(hfree _ la after hs r hf he).2 p hp hpr] at hov
    cases hov
  · refine not_mem_used_of_search hd hf hlr he ?_
    have hla : la ∈ input.legal.zipIdx := mem_legal_of_placed ((perm_sortedRecords _).mem_iff.mp (by
      rw [hs]
      exact List.mem_append_right _ List.mem_cons_self))
    obtain ⟨hsl,hlo⟩ := occupiable_of_legal hla
    have hpin := (mem_resolvedPins.mp hp).2
    rw [ha.timeGroupId_eq hsl (mem_of_resolvePin hpin).1 hlo (Or.inr ⟨p.1,hpin⟩) (slotsOverlap_comm _ _ ▸ hov)]
    exact mem_used_of_pin hp hpr before

/-! ## The whole schedule -/

theorem noRoomClash_of_followersFree (hd : DistinctRooms input) (ha : Aligned input.yearGroups)
    (hfree : FollowersFree input v) : NoRoomClash input (solutionEntries input v) := by
  have hsplit : ∀ la ∈ placedRecords v input.legal, ∃ before after,
      sortedRecords (placedRecords v input.legal) = before ++ la :: after := fun la hla =>
    List.append_of_mem ((perm_sortedRecords _).mem_iff.mpr hla)
  have hduty : ∀ x y, y ∈ (filledDuties input input.slots v).map (fun d => supervisionEntry d.1 d.2) →
      ¬RoomClash input x y := by
    rintro x y hy ⟨⟨r,-,hr,-⟩,-⟩
    obtain ⟨d,-,rfl⟩ := List.mem_map.mp hy
    cases hr
  rw [NoRoomClash,solutionEntries,scheduleEntries,List.pairwise_append,List.pairwise_append]
  refine ⟨⟨?_,?_,?_⟩,?_,fun x _ y hy => hduty x y hy⟩
  · exact List.pairwise_map.mpr (List.pairwise_of_forall fun p q hc => hc.2.2.2 ⟨rfl,rfl⟩)
  · refine List.pairwise_map.mpr ((List.pairwise_map.mp (nodup_idx_placedRecords v input.legal)).imp_of_mem
      fun {a b} hap hbp hne => ?_)
    have hab : a ≠ b := fun h => hne (congrArg Prod.snd h)
    rcases split_two ((perm_sortedRecords _).mem_iff.mpr hap) ((perm_sortedRecords _).mem_iff.mpr hbp) hab with
      ⟨before,after,hs,hmem⟩ | ⟨before,after,hs,hmem⟩
    · exact not_clash_earlier hd ha hfree hs hmem
    · exact fun hc => not_clash_earlier hd ha hfree hs hmem hc.symm
  · intro x hx y hy
    obtain ⟨p,hp,rfl⟩ := List.mem_map.mp hx
    obtain ⟨la,hla,rfl⟩ := List.mem_map.mp hy
    obtain ⟨before,after,hs⟩ := hsplit la hla
    exact not_clash_pinned hd ha hfree hs hp
  · exact List.pairwise_iff_forall_sublist.mpr fun {x y} hxy => hduty x y (hxy.mem (by simp))

/-- Distinct lessons of a clash-free schedule do not share an exclusive room by the clock. -/
theorem not_clash_placed (hno : NoRoomClash input (solutionEntries input v)) {a b : Indexed}
    (ha : a ∈ placedRecords v input.legal) (hb : b ∈ placedRecords v input.legal) (hne : a ≠ b) :
    ¬RoomClash input (placedEntry input v a) (placedEntry input v b) := by
  have hpw : (placedRecords v input.legal).Pairwise fun a b =>
      ¬RoomClash input (placedEntry input v a) (placedEntry input v b) :=
    List.pairwise_map.mp (List.pairwise_append.mp (List.pairwise_append.mp hno).1).2.1
  have : Std.Symm fun a b : Indexed => ¬RoomClash input (placedEntry input v a) (placedEntry input v b) :=
    ⟨fun _ _ h hc => h hc.symm⟩
  exact hpw.forall ha hb hne

theorem followersFree_of_noRoomClash (hno : NoRoomClash input (solutionEntries input v)) : FollowersFree input v := by
  intro before la after hs r hf he
  have hn := nodup_idx_sortedRecords v input.legal
  have hmem : ∀ x ∈ before ++ la :: after, x ∈ placedRecords v input.legal := fun x hx =>
    (perm_sortedRecords _).mem_iff.mp (hs ▸ hx)
  have hla : (placedEntry input v la).roomId = some r := by
    rw [roomId_placedEntry hs,stepRoom,hf,Option.some_or]
  have hlaplaced := hmem la (List.mem_append_right _ List.mem_cons_self)
  constructor
  · intro m hm hroom
    obtain ⟨b1,b2,rfl⟩ := List.append_of_mem hm
    have hs' : sortedRecords (placedRecords v input.legal) = b1 ++ m :: (b2 ++ la :: after) := by rw [hs]; simp
    rw [hs,List.map_append] at hn
    have hmr : (placedEntry input v m).roomId = some r := by
      rw [roomId_placedEntry hs',← roomOf_eq_stepRoom (List.nodup_append.mp hn).1,hroom]
    have hne : m ≠ la := fun h => (List.nodup_append.mp hn).2.2 _ (List.mem_map_of_mem hm) _
      (List.mem_map_of_mem List.mem_cons_self) (congrArg Prod.snd h)
    have hno' := not_clash_placed hno (hmem m (List.mem_append_left _ hm)) hlaplaced hne
    rw [roomClash_lessons_iff] at hno'
    exact Bool.eq_false_iff.mpr fun hov => hno' ⟨⟨r,hmr,hla,he⟩,hov⟩
  · intro p hp hpr
    have hno' := (List.pairwise_append.mp (List.pairwise_append.mp hno).1).2.2 _ (List.mem_map_of_mem hp) _
      (List.mem_map_of_mem hlaplaced)
    exact Bool.eq_false_iff.mpr fun hov => hno' ((roomClash_pin_iff hp).mpr ⟨⟨r,hpr,hla,he⟩,hov⟩)

/-- With distinct room ids and aligned grids, no exclusive room is in two hands exactly when
every follower finds its anchor's room free. -/
theorem noRoomClash_iff_followersFree (hd : DistinctRooms input) (ha : Aligned input.yearGroups) :
    NoRoomClash input (solutionEntries input v) ↔ FollowersFree input v :=
  ⟨followersFree_of_noRoomClash,noRoomClash_of_followersFree hd ha⟩

end

/-! A double period of one class and a lesson of another that is visited first and sits
beside the second half; both need one of two labs. -/

def twoLabs : SolverInputV2 :=
  { SolverInputV2.empty with
    yearGroups := [⟨"Y",[⟨"a"⟩,⟨"A"⟩],[.teaching firstDay 0 "09:00" "10:00",.teaching firstDay 1 "10:00" "11:00"]⟩]
    curriculum := [⟨"Y","science",2,2,true,some 1,some "lab",none,some "a"⟩,
      ⟨"Y","art",1,1,false,none,some "lab",none,some "A"⟩]
    teachers := [.plain "s" [⟨"science","Y",none⟩] [],.plain "t" [⟨"art","Y",none⟩] []]
    rooms := [⟨"lab 1","lab",true⟩,⟨"lab 2","lab",true⟩] }

/-- The double period in both periods, the other lesson in the second. -/
def besideFollower : Var → ℤ
  | .placement i => if i ∈ [0,3,5] then 1 else 0
  | .placed _ => 1
  | _ => 0

theorem twoLabs_iff : DistinctRooms twoLabs ∧ Aligned twoLabs.yearGroups ∧
    (NoRoomClash twoLabs (solutionEntries twoLabs besideFollower) ↔ FollowersFree twoLabs besideFollower) := by
  have hd : DistinctRooms twoLabs := by decide
  have ha : Aligned twoLabs.yearGroups := aligned_of_forall (by decide)
  exact ⟨hd,ha,noRoomClash_iff_followersFree hd ha⟩

/-- The follower takes the lab that the other lesson has, and the second lab stays empty. -/
theorem not_noRoomClash : ¬∀ input v, Sat v input.model → NoRoomClash input (solutionEntries input v) := by
  intro h
  have hno := h twoLabs besideFollower (by decide)
  rw [NoRoomClash,List.pairwise_iff_getElem] at hno
  refine hno 1 2 (by decide) (by decide) (by decide) ⟨⟨"lab 1",?_,?_,?_⟩,?_,?_,?_⟩ <;> decide

end EduPod.Scheduling
