import EduPod.Cover.SubstitutionCascade

/-! # First accept wins

An acceptance looks for an accepted sibling and fills the lesson later, without a lock, and every answer to an
offer writes by its id whatever the offer is by then.
-/
namespace EduPod.Cover
open Processes Runs

/-- A lesson has at most one offer that was ever accepted and at most one active record; what was accepted stays
so; and an absence whose offers were revoked after it was cancelled has no active record. -/
structure FirstWins (db : Store) : Prop where
  once : ∀ i j a b, db.offers.get? i = some a → db.offers.get? j = some b → a.everAccepted → b.everAccepted →
    a.slot = b.slot → i = j
  covered : ∀ i j r s, db.records.get? i = some r → db.records.get? j = some s → r.Active → s.Active →
    r.slot = s.slot → i = j
  lasting : ∀ i a, db.offers.get? i = some a → a.everAccepted → a.status = .accepted
  released : ∀ id absence, db.absences.get? id = some absence → absence.released →
    ∀ i r, db.records.get? i = some r → r.slot.absenceId = id → ¬ r.Active

/-- An answer that is written finds its offer unaccepted; an acceptance also finds no other accepted offer and no
active record for the lesson, and the absence not cancelled with its offers revoked. -/
def Open (db : Store) (process : Process) (_ : Input) : Prop :=
  match process with
  | .filling offerId offer =>
    (∀ i a, db.offers.get? i = some a → a.slot = offer.slot → i ≠ offerId → a.status ≠ .accepted) ∧
    (∀ i r, db.records.get? i = some r → r.slot = offer.slot → ¬ r.Active) ∧
    ∀ absence, db.absences.get? offer.slot.absenceId = some absence → ¬ absence.released
  | .declining offerId _ => ∀ a, db.offers.get? offerId = some a → a.status ≠ .accepted
  | .expiring stale => ∀ id ∈ stale.map Prod.fst, ∀ a, db.offers.get? id = some a → a.status ≠ .accepted
  | _ => True

section
variable {db db' : Store} {offers' : Table SubstitutionOffer} {offerId absenceId : ℕ} {offer : SubstitutionOffer}

/-! ## What is written -/

/-- The store after an action, whatever comes from outside. -/
@[grind] def written (db : Store) : Process → Store
  | .opened (.revokeOffersForAbsence absenceId) => revokeOffersForAbsence db absenceId
  | .offering c scheduleId fresh isNomination _ =>
    if Insertable db (c.slot scheduleId) fresh then
      { db with offers := db.offers.insertAll (fresh.map (c.offer scheduleId isNomination)) }
    else db
  | .filling offerId offer => fill db offerId offer
  | .declining offerId _ => { db with offers := db.offers.modify offerId fun o => o.close .declined }
  | .expiring stale => expire db stale
  | .cancelling absenceId => { db with absences := db.absences.modify absenceId fun a => { a with cancelled := true } }
  | _ => db

theorem act_fst (db : Store) (process : Process) (input : Input) : (act db process input).1 = written db process := by
  cases process with
  | opened request => cases request <;> rfl
  | cascading absenceId round rest =>
    simp only [act,written]
    split <;> rfl
  | loadingSettings absenceId absence round rest =>
    simp only [act,written]
    split <;> rfl
  | nextDay c rest =>
    simp only [act,written]
    split <;> rfl
  | checking c scheduleId rest =>
    simp only [act,written]
    split
    · split <;> rfl
    · rfl
  | offering c scheduleId fresh isNomination rest =>
    simp only [act,written]
    split <;> rfl
  | expired rest => cases rest <;> rfl
  | _ => rfl

/-- An offer after an acceptance. -/
theorem get?_fill (i : ℕ) : (fill db offerId offer).offers.get? i = (db.offers.get? i).map fun o =>
    if i = offerId then o.accept else if o.slot = offer.slot ∧ o.status = .pending then o.close .revoked else o := by
  rw [fill,Table.get?_mapRows,Table.get?_modify]
  by_cases hi : i = offerId
  · rw [if_pos hi,Option.map_map]
    congr 1
    funext o
    simp [hi]
  · rw [if_neg hi]
    congr 1
    funext o
    simp [hi]

/-! ## What processes know -/

/-- An offer that is accepted counts as accepted ever. -/
def Store.Sound (db : Store) : Prop := ∀ i a, db.offers.get? i = some a → a.status = .accepted → a.everAccepted

/-- An acceptance knows the lesson of its offer. -/
def Known (db : Store) : Process → Prop
  | .accepting offerId offer | .filling offerId offer => ∃ a, db.offers.get? offerId = some a ∧ a.slot = offer.slot
  | _ => True

/-- Offers stay where they are and keep their lesson. -/
def SameSlots (offers offers' : Table SubstitutionOffer) : Prop :=
  ∀ i a, offers.get? i = some a → ∃ a', offers'.get? i = some a' ∧ a'.slot = a.slot

theorem SameSlots.refl (offers : Table SubstitutionOffer) : SameSlots offers offers := fun _ a h => ⟨a,h,rfl⟩

theorem sameSlots_mapRows {f : ℕ → SubstitutionOffer → SubstitutionOffer} (hf : ∀ i a, (f i a).slot = a.slot)
    (offers : Table SubstitutionOffer) : SameSlots offers (offers.mapRows f) := by
  intro i a h
  refine ⟨f i a,?_,hf i a⟩
  rw [Table.get?_mapRows,h,Option.map_some]

theorem Known.of_sameSlots (h : SameSlots db.offers db'.offers) {process : Process} (hp : Known db process) :
    Known db' process := by
  have hoffer : ∀ offerId (offer : SubstitutionOffer), (∃ a, db.offers.get? offerId = some a ∧ a.slot = offer.slot) →
      ∃ a, db'.offers.get? offerId = some a ∧ a.slot = offer.slot := by
    rintro offerId offer ⟨a,ha,hslot⟩
    obtain ⟨a',ha',hslot'⟩ := h offerId a ha
    exact ⟨a',ha',hslot'.trans hslot⟩
  cases process with
  | accepting offerId offer => exact hoffer offerId offer hp
  | filling offerId offer => exact hoffer offerId offer hp
  | _ => trivial

theorem sameSlots_written (db : Store) (process : Process) : SameSlots db.offers (written db process).offers := by
  cases process with
  | opened request =>
    cases request with
    | revokeOffersForAbsence absenceId =>
      refine sameSlots_mapRows (fun i a => ?_) db.offers
      split <;> rfl
    | _ => exact .refl _
  | offering c scheduleId fresh isNomination rest =>
    rw [written]
    split
    · exact fun i a h => ⟨a,Table.get?_insertAll_of_some h _,rfl⟩
    · exact .refl _
  | filling offerId offer =>
    intro i a h
    rw [written,get?_fill,h]
    refine ⟨_,rfl,?_⟩
    dsimp only
    split_ifs <;> rfl
  | declining offerId offer =>
    rw [written,Table.modify_eq_mapRows]
    refine sameSlots_mapRows (fun i a => ?_) db.offers
    split <;> rfl
  | expiring stale =>
    refine sameSlots_mapRows (fun i a => ?_) db.offers
    split <;> rfl
  | _ => exact .refl _

/-- Closing offers, but for acceptance. -/
theorem Store.Sound.close (h : db.Sound) {p : ℕ → SubstitutionOffer → Prop} [∀ i a, Decidable (p i a)]
    {status : SubstitutionOfferStatus} (hstatus : status ≠ .accepted) {i : ℕ} {a : SubstitutionOffer}
    (ha : (db.offers.mapRows fun i o => if p i o then o.close status else o).get? i = some a)
    (haccepted : a.status = .accepted) : a.everAccepted := by
  rw [Table.get?_mapRows] at ha
  obtain ⟨b,hb,rfl⟩ := Option.map_eq_some_iff.mp ha
  split at haccepted
  · exact absurd haccepted hstatus
  · rename_i hp
    rw [if_neg hp]
    exact h i b hb haccepted

theorem sound_written (h : db.Sound) (process : Process) : (written db process).Sound := by
  cases process with
  | opened request =>
    cases request with
    | revokeOffersForAbsence absenceId => exact fun i a ha => h.close (by decide) ha
    | _ => exact h
  | offering c scheduleId fresh isNomination rest =>
    rw [written]
    split
    · intro i a ha haccepted
      rcases Table.get?_insertAll_cases ha with hold | ⟨-,hnew⟩
      · exact h i a hold haccepted
      · obtain ⟨id,-,rfl⟩ := List.mem_map.mp hnew
        cases haccepted
    · exact h
  | filling offerId offer =>
    intro i a ha haccepted
    rw [written,get?_fill] at ha
    obtain ⟨b,hb,rfl⟩ := Option.map_eq_some_iff.mp ha
    split
    · rfl
    · rename_i hi
      rw [if_neg hi] at haccepted
      split at haccepted
      · cases haccepted
      · rename_i hsibling
        rw [if_neg hsibling]
        exact h i b hb haccepted
  | declining offerId offer =>
    rw [written,Table.modify_eq_mapRows]
    exact fun i a ha => h.close (by decide) ha
  | expiring stale => exact fun i a ha => h.close (by decide) ha
  | _ => exact h

theorem known_continueExpired {rest : List SubstitutionOffer} {next : Process} (h : continueExpired rest = some next) :
    Known db next := by
  rw [continueExpired] at h
  split at h <;> cases h
  trivial

theorem known_advance {c : Cascade} {rest : List SubstitutionOffer} {next : Process} (h : c.advance rest = some next) :
    Known db next := by
  rw [Cascade.advance] at h
  split at h
  · cases h
    trivial
  · split at h
    · exact known_continueExpired h
    · cases h
      trivial

theorem known_own {process next : Process} {input : Input} (hp : Known db process)
    (hnext : (act db process input).2 = some next) : Known (act db process input).1 next := by
  cases process with
  | opened request =>
    cases request with
    | runCascade absenceId round =>
      cases hnext
      trivial
    | acceptOffer staffProfileId offerId =>
      obtain ⟨offer,hoffer,rfl⟩ := Option.map_eq_some_iff.mp hnext
      exact ⟨offer,(Option.filter_eq_some_iff.mp hoffer).1,rfl⟩
    | declineOffer staffProfileId offerId =>
      obtain ⟨offer,-,rfl⟩ := Option.map_eq_some_iff.mp hnext
      trivial
    | expireStaleOffers =>
      simp only [act] at hnext
      split at hnext <;> cases hnext
      trivial
    | cancelAbsence absenceId =>
      obtain ⟨absence,-,rfl⟩ := Option.map_eq_some_iff.mp hnext
      trivial
    | revokeOffersForAbsence absenceId => cases hnext
  | cascading absenceId round rest =>
    simp only [act] at hnext
    split at hnext
    · cases hnext
      trivial
    · exact known_continueExpired hnext
  | loadingSettings absenceId absence round rest =>
    simp only [act] at hnext
    split at hnext
    · dsimp only at hnext
      exact known_advance hnext
    · exact known_continueExpired hnext
  | nextDay c rest =>
    simp only [act] at hnext
    split at hnext
    · exact known_advance hnext
    · exact known_continueExpired hnext
  | checking c scheduleId rest =>
    simp only [act] at hnext
    split at hnext
    · split at hnext
      · cases hnext
        split <;> trivial
      · cases hnext
        trivial
    · exact known_advance hnext
  | suggesting c scheduleId rest =>
    cases hnext
    trivial
  | comparing c scheduleId candidates isNomination rest =>
    simp only [act] at hnext
    split at hnext
    · exact known_advance hnext
    · cases hnext
      trivial
  | offering c scheduleId fresh isNomination rest =>
    simp only [act] at hnext
    split at hnext
    · exact known_advance hnext
    · cases hnext
  | accepting offerId offer =>
    simp only [act] at hnext
    split at hnext <;> cases hnext
    exact hp
  | filling offerId offer => cases hnext
  | declining offerId offer =>
    simp only [act] at hnext
    split at hnext <;> cases hnext
    trivial
  | declined offer =>
    simp only [act] at hnext
    split at hnext <;> cases hnext
    trivial
  | expiring stale => exact known_continueExpired hnext
  | expired rest =>
    cases rest with
    | nil => cases hnext
    | cons offer rest =>
      simp only [act] at hnext
      split at hnext
      · cases hnext
        trivial
      · exact known_continueExpired hnext
  | cancelling absenceId =>
    cases hnext
    trivial

theorem kept_known : Kept protocol Store.Sound Known where
  opened := fun _ _ _ => trivial
  store := by
    intro db process input h _
    rw [protocol,act_fst]
    exact sound_written h process
  own := fun _ _ _ _ _ hp hnext => known_own hp hnext
  others := by
    intro db process input other _ _ hother
    rw [protocol,act_fst]
    exact hother.of_sameSlots (sameSlots_written db process)

/-! ## Closing and offering -/

/-- Where only the offers change, and none counts as accepted that did not, what was accepted has to stay so. -/
theorem FirstWins.offers_iff (h : FirstWins db)
    (hold : ∀ i a, offers'.get? i = some a → a.everAccepted → ∃ b, db.offers.get? i = some b ∧ b.everAccepted ∧ b.slot = a.slot) :
    FirstWins { db with offers := offers' } ↔ ∀ i a, offers'.get? i = some a → a.everAccepted → a.status = .accepted := by
  refine ⟨fun h' => h'.lasting,fun hlasting => ⟨?_,h.covered,hlasting,h.released⟩⟩
  intro i j a b ha hb hea heb hslot
  obtain ⟨a₀,ha₀,hea₀,hslota⟩ := hold i a ha hea
  obtain ⟨b₀,hb₀,heb₀,hslotb⟩ := hold j b hb heb
  exact h.once i j a₀ b₀ ha₀ hb₀ hea₀ heb₀ (hslota.trans (hslot.trans hslotb.symm))

theorem firstWins_close_iff (h : FirstWins db) (hs : db.Sound) {p : ℕ → SubstitutionOffer → Prop} [∀ i a, Decidable (p i a)]
    {status : SubstitutionOfferStatus} (hstatus : status ≠ .accepted) :
    FirstWins { db with offers := db.offers.mapRows fun i o => if p i o then o.close status else o } ↔
      ∀ i a, db.offers.get? i = some a → p i a → a.status ≠ .accepted := by
  rw [h.offers_iff]
  · constructor
    · intro hlasting i a ha hp haccepted
      have hclosed := hlasting i (a.close status) (by rw [Table.get?_mapRows,ha,Option.map_some,if_pos hp]) (hs i a ha haccepted)
      exact hstatus hclosed
    · intro hp i a ha hever
      rw [Table.get?_mapRows] at ha
      obtain ⟨b,hb,rfl⟩ := Option.map_eq_some_iff.mp ha
      split at hever
      · rename_i hclosed
        exact absurd (h.lasting i b hb hever) (hp i b hb hclosed)
      · rename_i hkept
        rw [if_neg hkept]
        exact h.lasting i b hb hever
  · intro i a ha hever
    rw [Table.get?_mapRows] at ha
    obtain ⟨b,hb,rfl⟩ := Option.map_eq_some_iff.mp ha
    refine ⟨b,hb,?_,?_⟩
    · split at hever <;> exact hever
    · split <;> rfl

theorem firstWins_insertAll (h : FirstWins db) {offers : List SubstitutionOffer} (hnew : ∀ o ∈ offers, o.everAccepted = false) :
    FirstWins { db with offers := db.offers.insertAll offers } := by
  have hold : ∀ i a, (db.offers.insertAll offers).get? i = some a → a.everAccepted → db.offers.get? i = some a := by
    intro i a ha hever
    rcases Table.get?_insertAll_cases ha with hold | ⟨-,hmem⟩
    · exact hold
    · rw [hnew a hmem] at hever
      cases hever
  rw [h.offers_iff]
  · exact fun i a ha hever => h.lasting i a (hold i a ha hever) hever
  · exact fun i a ha hever => ⟨a,hold i a ha hever,hever,rfl⟩

/-! ## Cancelling and revoking -/

theorem firstWins_cancel (h : FirstWins db) (absenceId : ℕ) :
    FirstWins { db with absences := db.absences.modify absenceId fun a => { a with cancelled := true } } := by
  refine ⟨h.once,h.covered,h.lasting,?_⟩
  intro id absence habsence hreleased
  rw [Table.get?_modify] at habsence
  split at habsence
  · obtain ⟨old,hold,rfl⟩ := Option.map_eq_some_iff.mp habsence
    exact h.released id old hold hreleased
  · exact h.released id absence habsence hreleased

theorem firstWins_revoke (h : FirstWins db) (hs : db.Sound) (absenceId : ℕ) : FirstWins (revokeOffersForAbsence db absenceId) := by
  have hoffers : FirstWins { db with offers := db.offers.mapRows fun _ o =>
      if o.slot.absenceId = absenceId ∧ o.status = .pending then o.close .revoked else o } := by
    refine (firstWins_close_iff h hs (by decide)).mpr ?_
    rintro i a - ⟨-,hpending⟩
    rw [hpending]
    decide
  have hrecord : ∀ i r, (revokeOffersForAbsence db absenceId).records.get? i = some r → r.Active →
      db.records.get? i = some r ∧ r.slot.absenceId ≠ absenceId := by
    intro i r hr hactive
    rw [revokeOffersForAbsence,Table.get?_mapRows] at hr
    obtain ⟨old,hold,rfl⟩ := Option.map_eq_some_iff.mp hr
    split at hactive
    · rcases hactive with hstatus | hstatus <;> cases hstatus
    · rename_i hkept
      rw [if_neg hkept]
      exact ⟨hold,fun he => hkept ⟨he,hactive⟩⟩
  refine ⟨hoffers.once,?_,hoffers.lasting,?_⟩
  · intro i j r s hr hs hri hsj hslot
    exact h.covered i j r s (hrecord i r hr hri).1 (hrecord j s hs hsj).1 hri hsj hslot
  · intro id absence habsence hreleased i r hr hid hactive
    obtain ⟨hold,hne⟩ := hrecord i r hr hactive
    rw [revokeOffersForAbsence,Table.get?_modify_ne _ (fun he => hne (hid.trans he))] at habsence
    exact h.released id absence habsence hreleased i r hold hid hactive

/-! ## Accepting -/

theorem firstWins_fill_iff (h : FirstWins db) (hs : db.Sound) (hknown : Known db (.filling offerId offer)) :
    FirstWins (fill db offerId offer) ↔
      (∀ i a, db.offers.get? i = some a → a.slot = offer.slot → i ≠ offerId → a.status ≠ .accepted) ∧
      (∀ i r, db.records.get? i = some r → r.slot = offer.slot → ¬ r.Active) ∧
      ∀ absence, db.absences.get? offer.slot.absenceId = some absence → ¬ absence.released := by
  obtain ⟨own,hown,hownSlot⟩ := hknown
  have hfilled : (fill db offerId offer).offers.get? offerId = some own.accept := by
    rw [get?_fill,hown,Option.map_some,if_pos rfl]
  have hother : ∀ i a, i ≠ offerId → db.offers.get? i = some a → a.status = .accepted →
      (fill db offerId offer).offers.get? i = some a := by
    intro i a hi ha haccepted
    rw [get?_fill,ha,Option.map_some,if_neg hi,if_neg]
    rintro ⟨-,hpending⟩
    exact absurd (haccepted.symm.trans hpending) (by decide)
  have hrecord : ∀ i, (fill db offerId offer).records.get? i = if i = db.records.next then
      some ⟨offer.slot,offer.candidateStaffId,some offerId,if offer.isNomination then .nomination else .cascade,.assigned⟩
      else db.records.get? i := fun i => Table.get?_insert _ _ _
  constructor
  · intro h'
    refine ⟨fun i a ha hslot hi haccepted => ?_,fun i r hr hslot hactive => ?_,fun absence habsence hreleased => ?_⟩
    · exact hi (h'.once i offerId a own.accept (hother i a hi ha haccepted) hfilled (hs i a ha haccepted) rfl
        (hslot.trans hownSlot.symm))
    · have hlt := Table.lt_next_of_get? hr
      have hi : i = db.records.next :=
        h'.covered i _ r _ (by rw [hrecord,if_neg hlt.ne,hr]) (by rw [hrecord,if_pos rfl]) hactive (.inl rfl) hslot
      exact absurd hi hlt.ne
    · exact h'.released _ absence habsence hreleased db.records.next _ (by rw [hrecord,if_pos rfl]) rfl (.inl rfl)
  · rintro ⟨hoffers,hrecords,habsences⟩
    have hold : ∀ i a, i ≠ offerId → (fill db offerId offer).offers.get? i = some a → a.everAccepted →
        db.offers.get? i = some a := by
      intro i a hi ha hever
      rw [get?_fill] at ha
      obtain ⟨b,hb,rfl⟩ := Option.map_eq_some_iff.mp ha
      rw [if_neg hi] at hever ⊢
      split at hever
      · rename_i hsibling
        exact absurd ((h.lasting i b hb hever).symm.trans hsibling.2) (by decide)
      · rename_i hkept
        rw [if_neg hkept]
        exact hb
    have hsibling : ∀ i a, i ≠ offerId → (fill db offerId offer).offers.get? i = some a → a.everAccepted →
        a.slot ≠ offer.slot := by
      intro i a hi ha hever hslot
      have ha := hold i a hi ha hever
      exact hoffers i a ha hslot hi (h.lasting i a ha hever)
    refine ⟨fun i j a b ha hb hea heb hslot => ?_,fun i j r s hr hs hri hsj hslot => ?_,fun i a ha hever => ?_,
      fun id absence habsence hreleased i r hr hid hactive => ?_⟩
    · by_cases hi : i = offerId <;> by_cases hj : j = offerId
      · exact hi.trans hj.symm
      · subst hi
        obtain rfl := Option.some.inj (hfilled.symm.trans ha)
        exact absurd (hslot.symm.trans hownSlot) (hsibling j b hj hb heb)
      · subst hj
        obtain rfl := Option.some.inj (hfilled.symm.trans hb)
        exact absurd (hslot.trans hownSlot) (hsibling i a hi ha hea)
      · exact h.once i j a b (hold i a hi ha hea) (hold j b hj hb heb) hea heb hslot
    · rw [hrecord] at hr hs
      split at hr <;> split at hs
      · omega
      · cases hr
        exact absurd hsj (hrecords j s hs hslot.symm)
      · cases hs
        exact absurd hri (hrecords i r hr hslot)
      · exact h.covered i j r s hr hs hri hsj hslot
    · by_cases hi : i = offerId
      · subst hi
        obtain rfl := Option.some.inj (hfilled.symm.trans ha)
        rfl
      · exact h.lasting i a (hold i a hi ha hever) hever
    · rw [hrecord] at hr
      split at hr
      · cases hr
        subst hid
        exact habsences absence habsence hreleased
      · exact h.released id absence habsence hreleased i r hr hid hactive

theorem firstWins_act_iff (hs : db.Sound) {process : Process} (hp : Known db process) (h : FirstWins db) (input : Input) :
    FirstWins (act db process input).1 ↔ Open db process input := by
  rw [act_fst]
  cases process with
  | opened request =>
    cases request with
    | revokeOffersForAbsence absenceId => exact iff_of_true (firstWins_revoke h hs absenceId) trivial
    | _ => exact iff_of_true h trivial
  | offering c scheduleId fresh isNomination rest =>
    refine iff_of_true ?_ trivial
    rw [written]
    split
    · refine firstWins_insertAll h fun o ho => ?_
      obtain ⟨id,-,rfl⟩ := List.mem_map.mp ho
      rfl
    · exact h
  | filling offerId offer => exact firstWins_fill_iff h hs hp
  | declining offerId offer =>
    rw [written,Table.modify_eq_mapRows,firstWins_close_iff h hs (by decide),Open]
    constructor
    · exact fun hclosed a ha => hclosed offerId a ha rfl
    · rintro hopen i a ha rfl
      exact hopen a ha
  | expiring stale =>
    rw [written,expire,firstWins_close_iff h hs (by decide),Open]
    constructor
    · exact fun hclosed id hid a ha => hclosed id a ha hid
    · exact fun hopen i a ha hid => hopen i hid a ha
  | cancelling absenceId => exact iff_of_true (firstWins_cancel h absenceId) trivial
  | _ => exact iff_of_true h trivial

end

/-- One lesson of one absence, and no settings. -/
def oneAbsence : Store :=
  ⟨none,Table.empty.insert ⟨7,4,none,true,none,none,none,false,false⟩,Table.empty,Table.empty⟩

theorem sound_oneAbsence : oneAbsence.Sound := fun _ _ ha => (by cases ha)

theorem firstWins_oneAbsence : FirstWins oneAbsence where
  once := fun _ _ _ _ ha => (by cases ha)
  covered := fun _ _ _ _ hr => (by cases hr)
  lasting := fun _ _ ha => (by cases ha)
  released := fun _ _ _ _ _ _ hr => (by cases hr)

/-- The lesson on the day, and two teachers for it. -/
def twoSubstitutes : Input := ⟨0,[⟨3,1,none⟩],[⟨8,true,true⟩,⟨9,true,true⟩]⟩

def cascade : List (Event Request Input) :=
  .start (.runCascade 0 1) :: List.replicate 8 (.act 0 twoSubstitutes)

end EduPod.Cover
