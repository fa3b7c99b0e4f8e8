import EduPod.Engagement.ConferenceBookings

/-! # Which writes keep bookings coherent

A booking that goes through keeps the slot and its row together. A cancellation never does: its row stays and
the index refuses the next booking of the slot.
-/
namespace EduPod.Engagement
open Processes Runs

variable {db db' : Store} {slotId bookingId : ℕ} {status : Availability} {b : ConferenceBooking}

/-! ## Rows and spans -/

theorem rowsOn_eq_nil_iff : rowsOn db slotId = [] ↔ ∀ i b, db.bookings.get? i = some b → b.timeSlotId ≠ slotId := by
  rw [rowsOn,Table.select,List.filter_eq_nil_iff]
  constructor
  · intro h i b hb hslot
    exact h (i,b) (Table.mem_of_get? hb) (decide_eq_true hslot)
  · intro h r hr hslot
    exact h r.1 r.2 (Table.get?_of_row hr) (of_decide_eq_true hslot)

theorem insertBooking_isSome_iff : (insertBooking db b).isSome ↔
    (db.slots.get? b.timeSlotId).isSome ∧ rowsOn db b.timeSlotId = [] := by
  rw [insertBooking]
  split
  · rename_i h
    exact iff_of_true rfl h
  · rename_i h
    exact iff_of_false Bool.false_ne_true h

/-- Bookings of an available slot go through as long as there is no row for it. -/
theorem accepted_iff : (∀ slotId slot, db.slots.get? slotId = some slot → slot.status = .available →
    ∀ b : ConferenceBooking, b.timeSlotId = slotId → (insertBooking db b).isSome) ↔
      ∀ slotId slot, db.slots.get? slotId = some slot → slot.status = .available → rowsOn db slotId = [] := by
  constructor
  · intro h slotId slot hslot hstatus
    exact (insertBooking_isSome_iff.mp (h slotId slot hslot hstatus ⟨slotId,0,0,.walkIn,.confirmed,false⟩ rfl)).2
  · rintro h _ slot hslot hstatus b rfl
    exact insertBooking_isSome_iff.mpr ⟨Option.isSome_of_eq_some hslot,h _ slot hslot hstatus⟩

/-- The same event and the same times. -/
structure SameSpan (s s' : ConferenceTimeSlot) : Prop where
  event : s.eventId = s'.eventId
  start : s.startTime = s'.startTime
  finish : s.endTime = s'.endTime

theorem SameSpan.overlaps {s s' t t' : ConferenceTimeSlot} (h : SameSpan s s') (ht : SameSpan t t') :
    s.Overlaps t ↔ s'.Overlaps t' := by
  rw [ConferenceTimeSlot.Overlaps,ConferenceTimeSlot.Overlaps,h.start,h.finish,ht.start,ht.finish]

theorem ConferenceTimeSlot.Overlaps.symm {s t : ConferenceTimeSlot} (h : s.Overlaps t) : t.Overlaps s := ⟨h.2,h.1⟩

theorem exists_old {slots : Table ConferenceTimeSlot} {k j : ℕ} {st : TimeSlotStatus} {s' : ConferenceTimeSlot}
    (h : (slots.modify k fun s => { s with status := st }).get? j = some s') : ∃ s, slots.get? j = some s ∧ SameSpan s s' := by
  rw [Table.get?_modify] at h
  split at h
  · obtain ⟨s,hs,rfl⟩ := Option.map_eq_some_iff.mp h
    exact ⟨s,hs,rfl,rfl,rfl⟩
  · exact ⟨s',h,rfl,rfl,rfl⟩

theorem exists_new {slots : Table ConferenceTimeSlot} {k j : ℕ} {s : ConferenceTimeSlot} (h : slots.get? j = some s)
    (st : TimeSlotStatus) : ∃ s', (slots.modify k fun s => { s with status := st }).get? j = some s' ∧ SameSpan s s' := by
  by_cases hj : j = k
  · subst hj
    exact ⟨_,Table.get?_modify_self h _,rfl,rfl,rfl⟩
  · exact ⟨s,(Table.get?_modify_ne _ hj _).trans h,rfl,rfl,rfl⟩

theorem Coherent.free (h : Coherent db) : ∀ slotId slot, db.slots.get? slotId = some slot → slot.status = .available →
    rowsOn db slotId = [] := accepted_iff.mp h.accepted

/-- Locks do not matter. -/
theorem coherent_congr (hchildren : db'.childrenOf = db.childrenOf) (hslots : db'.slots = db.slots)
    (hbookings : db'.bookings = db.bookings) : Coherent db' ↔ Coherent db := by
  obtain ⟨_,_,_,_,_,_,_⟩ := db
  obtain ⟨_,_,_,_,_,_,_⟩ := db'
  subst hchildren hslots hbookings
  constructor
  · exact fun h => ⟨h.booked,h.apart,accepted_iff.mpr h.free⟩
  · exact fun h => ⟨h.booked,h.apart,accepted_iff.mpr h.free⟩

theorem coherent_lock_iff : Coherent { db with locked := slotId :: db.locked } ↔ Coherent db := coherent_congr rfl rfl rfl

theorem coherent_unlock_iff : Coherent (unlock db slotId) ↔ Coherent db := coherent_congr rfl rfl rfl

/-! ## Booking -/

theorem coherent_insertBooking_iff (h : Coherent db) (hconfirmed : b.status = .confirmed)
    (hok : insertBooking db b = some db') : Coherent db' ↔ (b.byParent →
      ∀ slot, db.slots.get? b.timeSlotId = some slot → ∀ userId, b.studentId ∈ db.childrenOf userId →
        ∀ i c s, db.bookings.get? i = some c → c.byParent → c.status = .confirmed → c.studentId ∈ db.childrenOf userId →
          db.slots.get? c.timeSlotId = some s → s.eventId = slot.eventId → ¬ s.Overlaps slot) := by
  obtain ⟨⟨hslot,hrows⟩,rfl⟩ : ((db.slots.get? b.timeSlotId).isSome ∧ rowsOn db b.timeSlotId = []) ∧
      { db with
        bookings := db.bookings.insert b
        slots := db.slots.modify b.timeSlotId fun s => { s with status := .booked } } = db' := by
    rw [insertBooking] at hok
    split at hok
    · rename_i hc
      exact ⟨hc,Option.some.inj hok⟩
    · cases hok
  have hnew : (db.bookings.insert b).get? db.bookings.next = some b := by rw [Table.get?_insert,if_pos rfl]
  have hold : ∀ i c, db.bookings.get? i = some c → (db.bookings.insert b).get? i = some c := by
    intro i c hc
    rw [Table.get?_insert,if_neg (Table.lt_next_of_get? hc).ne,hc]
  have hcases : ∀ i c, (db.bookings.insert b).get? i = some c → (i = db.bookings.next ∧ c = b) ∨ db.bookings.get? i = some c := by
    intro i c hc
    rw [Table.get?_insert] at hc
    split at hc
    · rename_i hi
      exact .inl ⟨hi,(Option.some.inj hc).symm⟩
    · exact .inr hc
  have hother : ∀ i c, db.bookings.get? i = some c → c.timeSlotId ≠ b.timeSlotId := rowsOn_eq_nil_iff.mp hrows
  constructor
  · intro h' hparent slot hget userId hchild i c s hc hcparent hcstatus hcchild hs hevent hoverlap
    obtain ⟨slot',hslot',hspan⟩ := exists_new (k := b.timeSlotId) hget .booked
    obtain ⟨s',hs',hspan'⟩ := exists_new (k := b.timeSlotId) hs .booked
    refine h'.apart userId i db.bookings.next c b s' slot' (Table.lt_next_of_get? hc).ne (hold i c hc) hnew hcparent hparent
      hcstatus hconfirmed hcchild hchild hs' hslot' ?_ ((hspan'.overlaps hspan).mp hoverlap)
    exact hspan'.event.symm.trans (hevent.trans hspan.event)
  · intro hapart
    refine ⟨fun k slot hget => ?_,?_,accepted_iff.mpr fun k slot hget hstatus => ?_⟩
    · by_cases hk : k = b.timeSlotId
      · subst hk
        rw [Table.get?_modify,if_pos rfl] at hget
        obtain ⟨s,-,rfl⟩ := Option.map_eq_some_iff.mp hget
        exact iff_of_true rfl ⟨db.bookings.next,b,hnew,rfl,hconfirmed⟩
      · rw [Table.get?_modify_ne _ hk] at hget
        refine (h.booked k slot hget).trans ⟨?_,?_⟩
        · rintro ⟨i,c,hc,hon,hstatus⟩
          exact ⟨i,c,hold i c hc,hon,hstatus⟩
        · rintro ⟨i,c,hc,hon,hstatus⟩
          rcases hcases i c hc with ⟨-,rfl⟩ | hrow
          · exact absurd hon.symm hk
          · exact ⟨i,c,hrow,hon,hstatus⟩
    · intro userId i j a c s s' hij ha hc hap hcp has hcs hac hcc hs hs' hevent hoverlap
      obtain ⟨t,ht,hspan⟩ := exists_old hs
      obtain ⟨t',ht',hspan'⟩ := exists_old hs'
      have htevent : t.eventId = t'.eventId := hspan.event.trans (hevent.trans hspan'.event.symm)
      have htoverlap := (hspan.overlaps hspan').mpr hoverlap
      rcases hcases i a ha with ⟨rfl,rfl⟩ | hrow <;> rcases hcases j c hc with ⟨rfl,rfl⟩ | hrow'
      · exact hij rfl
      · exact hapart hap t ht userId hac j c t' hrow' hcp hcs hcc ht' htevent.symm htoverlap.symm
      · exact hapart hcp t' ht' userId hcc i a t hrow hap has hac ht htevent htoverlap
      · exact h.apart userId i j a c t t' hij hrow hrow' hap hcp has hcs hac hcc ht ht' htevent htoverlap
    · rw [rowsOn_eq_nil_iff]
      by_cases hk : k = b.timeSlotId
      · subst hk
        rw [Table.get?_modify,if_pos rfl] at hget
        obtain ⟨s,-,rfl⟩ := Option.map_eq_some_iff.mp hget
        cases hstatus
      · rw [Table.get?_modify_ne _ hk] at hget
        intro i c hc
        rcases hcases i c hc with ⟨-,rfl⟩ | hc
        · exact Ne.symm hk
        · exact rowsOn_eq_nil_iff.mp (h.free k slot hget hstatus) i c hc

/-! ## Cancelling and changing a slot -/

/-- A cancellation knows the slot of its booking. -/
def Known (db : Store) : Process → Prop
  | .cancelling bookingId slotId => (db.slots.get? slotId).isSome ∧ ∃ b, db.bookings.get? bookingId = some b ∧ b.timeSlotId = slotId
  | _ => True

theorem not_coherent_cancel (h : Known db (.cancelling bookingId slotId)) : ¬ Coherent (cancel db bookingId slotId) := by
  obtain ⟨hslot,b,hb,hbslot⟩ := h
  obtain ⟨slot,hslot⟩ := Option.isSome_iff_exists.mp hslot
  intro h'
  have hrows := h'.free slotId { slot with status := .available } (Table.get?_modify_self hslot _) rfl
  exact rowsOn_eq_nil_iff.mp hrows bookingId { b with status := .cancelled } (Table.get?_modify_self hb _) hbslot

theorem coherent_setStatus_iff (h : Coherent db) : Coherent (setStatus db slotId status) ↔
    ∀ slot, db.slots.get? slotId = some slot →
      ∀ i b, db.bookings.get? i = some b → b.timeSlotId = slotId → b.status ≠ .confirmed ∧ status ≠ .available := by
  have hbooked : status.status ≠ .booked := by cases status <;> decide
  constructor
  · intro h' slot hslot i b hb hbslot
    have hget : (setStatus db slotId status).slots.get? slotId = some { slot with status := status.status } :=
      Table.get?_modify_self hslot _
    refine ⟨fun hconfirmed => ?_,fun havailable => ?_⟩
    · exact hbooked ((h'.booked slotId _ hget).mpr ⟨i,b,hb,hbslot,hconfirmed⟩)
    · subst havailable
      exact rowsOn_eq_nil_iff.mp (h'.free slotId _ hget rfl) i b hb hbslot
  · intro hnone
    refine ⟨fun k slot hget => ?_,?_,accepted_iff.mpr fun k slot hget hstatus => ?_⟩
    · by_cases hk : k = slotId
      · subst hk
        rw [setStatus,Table.get?_modify,if_pos rfl] at hget
        obtain ⟨old,hold,rfl⟩ := Option.map_eq_some_iff.mp hget
        refine iff_of_false hbooked ?_
        rintro ⟨i,b,hb,hbslot,hconfirmed⟩
        exact (hnone old hold i b hb hbslot).1 hconfirmed
      · rw [setStatus,Table.get?_modify_ne _ hk] at hget
        exact h.booked k slot hget
    · intro userId i j a c s s' hij ha hc hap hcp has hcs hac hcc hs hs' hevent hoverlap
      obtain ⟨t,ht,hspan⟩ := exists_old hs
      obtain ⟨t',ht',hspan'⟩ := exists_old hs'
      exact h.apart userId i j a c t t' hij ha hc hap hcp has hcs hac hcc ht ht'
        (hspan.event.trans (hevent.trans hspan'.event.symm)) ((hspan.overlaps hspan').mpr hoverlap)
    · by_cases hk : k = slotId
      · subst hk
        rw [setStatus,Table.get?_modify,if_pos rfl] at hget
        obtain ⟨old,hold,rfl⟩ := Option.map_eq_some_iff.mp hget
        refine rowsOn_eq_nil_iff.mpr fun i b hb hbslot => (hnone old hold i b hb hbslot).2 ?_
        cases status
        · rfl
        · cases hstatus
      · rw [setStatus,Table.get?_modify_ne _ hk] at hget
        exact h.free k slot hget hstatus

/-! ## Runs -/

/-- Bookings keep their slot, and no row goes away. -/
structure Grows (db db' : Store) : Prop where
  slots : ∀ k, (db.slots.get? k).isSome → (db'.slots.get? k).isSome
  bookings : ∀ i b, db.bookings.get? i = some b → ∃ b', db'.bookings.get? i = some b' ∧ b'.timeSlotId = b.timeSlotId

theorem Grows.refl (db : Store) : Grows db db := ⟨fun _ h => h,fun _ b h => ⟨b,h,rfl⟩⟩

theorem grows_insertBooking (b : ConferenceBooking) : Grows db ((insertBooking db b).getD db) := by
  rw [insertBooking]
  split
  · refine ⟨fun k hk => ?_,fun i c hc => ⟨c,?_,rfl⟩⟩
    · rwa [Option.getD_some,Table.isSome_get?_modify]
    · rw [Option.getD_some,Table.get?_insert,if_neg (Table.lt_next_of_get? hc).ne,hc]
  · exact .refl db

theorem grows_act (db : Store) (process : Process) (input : Input) : Grows db (act db process input).1 := by
  cases process with
  | opened request => cases request <;> exact .refl db
  | creating userId dto =>
    simp only [act]
    split
    · exact .refl db
    · cases available db dto.timeSlotId with
      | none => exact .refl db
      | some slot => exact grows_insertBooking _
  | locking eventId userId dto =>
    simp only [act]
    split
    · exact .refl db
    · split <;> exact ⟨fun _ h => h,fun _ b h => ⟨b,h,rfl⟩⟩
  | comparing eventId userId dto slot =>
    simp only [act]
    split <;> exact ⟨fun _ h => h,fun _ b h => ⟨b,h,rfl⟩⟩
  | booking userId dto =>
    simp only [act]
    split
    · exact ⟨fun _ h => h,fun _ b h => ⟨b,h,rfl⟩⟩
    · exact ⟨(grows_insertBooking _).slots,(grows_insertBooking _).bookings⟩
  | cancelling bookingId slotId =>
    simp only [act]
    split
    · exact .refl db
    · refine ⟨fun k hk => ?_,fun i b hb => ?_⟩
      · rwa [cancel,Table.isSome_get?_modify]
      · rw [cancel,Table.get?_modify]
        split
        · exact ⟨{ b with status := .cancelled },by rw [hb,Option.map_some],rfl⟩
        · exact ⟨b,hb,rfl⟩
  | updating slotId status =>
    simp only [act]
    split
    · exact .refl db
    · refine ⟨fun k hk => ?_,fun _ b h => ⟨b,h,rfl⟩⟩
      rwa [setStatus,Table.isSome_get?_modify]

theorem Known.of_grows (hg : Grows db db') {process : Process} (h : Known db process) : Known db' process := by
  cases process with
  | cancelling bookingId slotId =>
    obtain ⟨hslot,b,hb,hbslot⟩ := h
    obtain ⟨b',hb',hslot'⟩ := hg.bookings bookingId b hb
    exact ⟨hg.slots slotId hslot,b',hb',hslot'.trans hbslot⟩
  | _ => trivial

theorem known_of_bookingOf {eventId : ℕ} (h : bookingOf db eventId bookingId = some b) :
    Known db (.cancelling bookingId b.timeSlotId) := by
  obtain ⟨hb,hslot⟩ := Option.filter_eq_some_iff.mp h
  refine ⟨?_,b,hb,rfl⟩
  cases hs : db.slots.get? b.timeSlotId with
  | some s => rfl
  | none =>
    rw [hs] at hslot
    cases hslot

theorem known_own {process next : Process} {input : Input} (h : Known db process)
    (hnext : (act db process input).2 = some next) : Known (act db process input).1 next := by
  cases process with
  | opened request =>
    cases request with
    | cancelBooking eventId bookingId =>
      obtain ⟨b,hb,rfl⟩ := Option.map_eq_some_iff.mp hnext
      obtain ⟨event,-,hb⟩ := Option.bind_eq_some_iff.mp hb
      exact known_of_bookingOf (Option.filter_eq_some_iff.mp hb).1
    | parentCancelBooking eventId bookingId userId =>
      obtain ⟨b,hb,rfl⟩ := Option.map_eq_some_iff.mp hnext
      obtain ⟨event,-,hb⟩ := Option.bind_eq_some_iff.mp hb
      exact known_of_bookingOf (Option.filter_eq_some_iff.mp hb).1
    | _ =>
      obtain ⟨_,-,rfl⟩ := Option.map_eq_some_iff.mp hnext
      trivial
  | creating userId dto =>
    simp only [act] at hnext
    split at hnext <;> cases hnext
    trivial
  | locking eventId userId dto =>
    simp only [act] at hnext
    split at hnext
    · cases hnext
      trivial
    · split at hnext <;> cases hnext
      trivial
  | comparing eventId userId dto slot =>
    simp only [act] at hnext
    split at hnext <;> cases hnext
    trivial
  | booking userId dto =>
    simp only [act] at hnext
    split at hnext <;> cases hnext
  | cancelling bookingId slotId =>
    have hkept := h.of_grows (grows_act db (.cancelling bookingId slotId) input)
    simp only [act] at hnext
    split at hnext <;> cases hnext
    exact hkept
  | updating slotId status =>
    simp only [act] at hnext
    split at hnext <;> cases hnext
    trivial

theorem kept_known : Kept protocol (fun _ => True) Known where
  opened := fun _ _ _ => trivial
  store := fun _ _ _ _ _ => trivial
  own := fun _ _ _ _ _ hp hnext => known_own hp hnext
  others := fun db process input _ _ _ hother => hother.of_grows (grows_act db process input)

theorem coherent_act_iff (h : Coherent db) {process : Process} (hp : Known db process) (input : Input) :
    Coherent (act db process input).1 ↔ Safe db process input := by
  cases process with
  | opened request => cases request <;> exact iff_of_true h trivial
  | creating userId dto =>
    refine iff_of_true ?_ trivial
    simp only [act]
    split
    · exact h
    · cases available db dto.timeSlotId with
      | none => exact h
      | some slot =>
        rw [Option.bind_some]
        cases hok : insertBooking db ⟨dto.timeSlotId,dto.studentId,userId,dto.bookingType.getD .parentBooked,.confirmed,false⟩ with
        | none => exact h
        | some db' => exact (coherent_insertBooking_iff h rfl hok).mpr fun hparent => (by cases hparent)
  | locking eventId userId dto =>
    refine iff_of_true ?_ trivial
    simp only [act]
    split
    · exact h
    · split
      · exact coherent_lock_iff.mpr h
      · exact h
  | comparing eventId userId dto slot =>
    refine iff_of_true ?_ trivial
    simp only [act]
    split
    · exact coherent_unlock_iff.mpr h
    · exact h
  | booking userId dto =>
    simp only [act,Safe]
    split
    · rename_i hrollback
      exact iff_of_true (coherent_unlock_iff.mpr h) fun hno => absurd (hrollback.symm.trans hno) (by decide)
    · rename_i hrollback
      rw [coherent_unlock_iff]
      cases hok : insertBooking db ⟨dto.timeSlotId,dto.studentId,userId,.parentBooked,.confirmed,true⟩ with
      | none =>
        refine iff_of_true h fun _ hrows slot hslot => ?_
        have hsome := insertBooking_isSome_iff (b := ⟨dto.timeSlotId,dto.studentId,userId,.parentBooked,.confirmed,true⟩).mpr
          ⟨Option.isSome_of_eq_some hslot,hrows⟩
        rw [hok] at hsome
        cases hsome
      | some db' =>
        have hrows := (insertBooking_isSome_iff.mp (Option.isSome_of_eq_some hok)).2
        rw [Option.getD_some,coherent_insertBooking_iff h rfl hok]
        exact ⟨fun hapart _ _ => hapart rfl,fun hsafe _ => hsafe (by simpa using hrollback) hrows⟩
  | cancelling bookingId slotId =>
    simp only [act,Safe]
    split
    · rename_i hlocked
      exact iff_of_true h hlocked
    · rename_i hlocked
      exact iff_of_false (not_coherent_cancel hp) hlocked
  | updating slotId status =>
    simp only [act,Safe]
    split
    · rename_i hlocked
      exact iff_of_true h fun hno => absurd hlocked hno
    · rename_i hlocked
      rw [coherent_setStatus_iff h]
      exact ⟨fun hnone _ => hnone,fun hsafe => hsafe hlocked⟩

/-- Bookings stay coherent precisely as long as every write is safe when it is made. -/
theorem coherent_iff {db : Store} (h : Coherent db) (events : List (Event Request Input)) :
    (∀ st ∈ trace (step protocol) (State.idle db) events, Coherent st.store) ↔
      Guarded (step protocol) (AtAct Safe) (State.idle db) events :=
  trace_iff_atAct kept_known (fun _ _ input _ hp h => coherent_act_iff h hp input) trivial h events

/-- One slot of a conference, and a parent with one child. -/
def oneSlot : Store where
  childrenOf := fun _ => [5]
  staffOf := fun _ => none
  allowParentCancellation := true
  events := Table.empty.insert ⟨true,none⟩
  slots := Table.empty.insert ⟨0,1,0,10,.available⟩
  bookings := Table.empty
  locked := []

theorem coherent_oneSlot : Coherent oneSlot where
  booked := by
    intro slotId slot hslot
    have hstatus : slot.status = .available := by
      have hall : oneSlot.slots.All fun s => s.status = .available := (Table.all_empty _).insert rfl
      exact hall.get? hslot
    rw [hstatus]
    refine iff_of_false (by decide) ?_
    rintro ⟨i,b,hb,-,-⟩
    cases hb
  apart := fun _ _ _ _ _ _ _ _ ha => (by cases ha)
  accepted := accepted_iff.mpr fun _ _ _ _ => rfl

def booked : List (Event Request Input) :=
  .start (.parentBook 0 1 ⟨0,5,none⟩) :: List.replicate 4 (.act 0 ⟨0,false⟩)

theorem coherent_booked_iff : (∀ st ∈ trace (step protocol) (State.idle oneSlot) booked, Coherent st.store) ↔
    Guarded (step protocol) (AtAct Safe) (State.idle oneSlot) booked := coherent_iff coherent_oneSlot booked

/-- The booking is cancelled: the slot is available again, and no booking of it goes through. -/
theorem not_coherent : ¬ ∀ db : Store, Coherent db → ∀ events : List (Event Request Input),
    ∀ st ∈ trace (step protocol) (State.idle db) events, Coherent st.store := by
  intro h
  have hlast := h oneSlot coherent_oneSlot (booked ++ [.start (.cancelBooking 0 0),.act 1 ⟨0,false⟩,.act 1 ⟨0,false⟩]) _
    (foldl_mem_trace _ _)
  exact absurd (hlast.accepted 0 _ rfl rfl ⟨0,5,1,.parentBooked,.confirmed,true⟩ rfl) (by decide)

end EduPod.Engagement
