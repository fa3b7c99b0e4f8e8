import EduPod.Inbox.AudienceMeaning
import EduPod.Inbox.MessagingPolicy

/-! # The parents a teacher reaches

Direct and group conversations ask the relational scope; a broadcast leaves it to the audience, which
does not know the sender.
-/
namespace EduPod.Inbox
open Fallible

/-- The user is a parent of a student enrolled in a class the teacher is assigned to. -/
def School.IsClassParent (school : School) (teacherUserId userId : ℕ) : Prop :=
  ∃ staff ∈ school.staffProfiles, staff.userId = teacherUserId ∧
    ∃ a ∈ school.classStaff, a.staffProfileId = staff.id ∧
      ∃ e ∈ school.classEnrolments, e.classId = a.classId ∧ e.active = true ∧
        ∃ l ∈ school.studentParents, l.studentId = e.studentId ∧
          ∃ p ∈ school.parents, p.id = l.parentId ∧ p.userId = some userId

theorem isClassParent_of_mem {school : School} {teacherUserId userId : ℕ}
    (h : userId ∈ school.resolveTeacherReachableParentUserIds teacherUserId) :
    school.IsClassParent teacherUserId userId := by
  unfold School.resolveTeacherReachableParentUserIds at h
  cases hs : school.findStaffByUserId teacherUserId with
  | none => simp [hs] at h
  | some staff =>
    have hstaff : staff.userId = teacherUserId := by simpa using List.find?_some hs
    simp only [hs,List.mem_filterMap,List.mem_filter,List.contains_iff_mem,School.findParentIdsByStudentIds,
      List.mem_dedup,List.mem_map,List.mem_flatMap,School.findEnrolledStudentIds,School.findClassIdsByStaff,
      Bool.and_eq_true,decide_eq_true_eq] at h
    obtain ⟨p,⟨hp,l,⟨hl,_,⟨a,⟨ha,haid⟩,rfl⟩,e,⟨he,hec,hactive⟩,hes⟩,hlp⟩,hu⟩ := h
    exact ⟨staff,List.mem_of_find?_eq_some hs,hstaff,a,ha,haid,e,he,hec,hactive,l,hl,hes.symm,p,hp,hlp.symm,hu⟩

variable {tenant : Tenant} {senderUserId : ℕ} {recipients : List ℕ}

/-! ## Buckets -/

theorem mem_byRecipientRole {g : MessagingRole × List ℕ} (hg : g ∈ tenant.byRecipientRole recipients) {id : ℕ} :
    id ∈ g.2 ↔ id ∈ recipients ∧ tenant.school.resolveMessagingRole id = some g.1 := by
  obtain ⟨g',hg',rfl⟩ := List.mem_map.mp hg
  obtain ⟨_,hsnd⟩ := Grouping.mem_groupBy.mp hg'
  simp only [hsnd,List.mem_map,List.mem_filter,List.mem_filterMap,decide_eq_true_eq,Option.map_eq_some_iff]
  constructor
  · rintro ⟨_,⟨⟨id',hid,role,hrole,rfl⟩,hr⟩,rfl⟩
    exact ⟨hid,hrole.trans (congrArg some hr)⟩
  · rintro ⟨hid,hrole⟩
    exact ⟨(g'.1,id),⟨⟨id,hid,g'.1,hrole,rfl⟩,rfl⟩,rfl⟩

theorem exists_bucket {id : ℕ} {role : MessagingRole} (hid : id ∈ recipients)
    (hrole : tenant.school.resolveMessagingRole id = some role) :
    ∃ g ∈ tenant.byRecipientRole recipients, g.1 = role := by
  have hmem : (role,id) ∈ recipients.filterMap fun id =>
      (tenant.school.resolveMessagingRole id).map fun role => (role,id) :=
    List.mem_filterMap.mpr ⟨id,hid,by simp [hrole]⟩
  exact ⟨_,List.mem_map.mpr ⟨_,Grouping.group_mem hmem,rfl⟩,rfl⟩

/-! ## Decisions -/

/-- What an allowed conversation has passed. -/
theorem of_allowed {kind : ConversationKind} {skip : Bool}
    (h : tenant.canStartConversation senderUserId recipients kind skip = .allowed) :
    ∃ settings senderRole, tenant.school.resolveMessagingRole senderUserId = some senderRole ∧
      ∀ g ∈ tenant.byRecipientRole recipients, tenant.denial settings senderUserId senderRole kind skip g = none := by
  unfold Tenant.canStartConversation at h
  cases hsettings : tenant.settings with
  | none => simp [hsettings] at h
  | some settings =>
    cases hrole : tenant.school.resolveMessagingRole senderUserId with
    | none =>
      simp only [hsettings,hrole] at h
      split at h <;> cases h
    | some senderRole =>
      refine ⟨settings,senderRole,rfl,?_⟩
      simp only [hsettings,hrole] at h
      repeat' split at h
      all_goals try cases h
      cases hdenials : (tenant.byRecipientRole recipients).filterMap (tenant.denial settings senderUserId senderRole kind skip) with
      | nil => exact List.filterMap_eq_nil_iff.mp hdenials
      | cons d ds =>
        rw [hdenials] at h
        cases h

/-- Parents of a teacher's bucket that is let through are all reachable. -/
theorem canReach_of_denial {settings : InboxSettings} {kind : ConversationKind} {g : MessagingRole × List ℕ}
    (hkind : kind ≠ .broadcast) (hparent : g.1 = .parent)
    (h : tenant.denial settings senderUserId .teacher kind false g = none) {id : ℕ} (hid : id ∈ g.2) :
    tenant.school.canReach senderUserId .teacher .parent id = true := by
  obtain ⟨role,ids⟩ := g
  obtain rfl : role = .parent := hparent
  by_contra hreach
  have hmem : id ∈ tenant.school.canReachBatch senderUserId ids .teacher .parent := by
    simp only [School.canReachBatch,List.mem_dedup,List.mem_filter]
    exact ⟨hid,by simp [hreach]⟩
  have hne := List.ne_nil_of_mem hmem
  simp [Tenant.denial,MessagingRole.isAdminTier,hkind,hne] at h
  split at h <;> cases h

/-- A teacher allowed to start a direct or group conversation reaches every parent in it. -/
theorem isClassParent_of_allowed {kind : ConversationKind} (hkind : kind ≠ .broadcast)
    (hteacher : tenant.school.resolveMessagingRole senderUserId = some .teacher)
    (h : tenant.canStartConversation senderUserId recipients kind false = .allowed) {id : ℕ} (hid : id ∈ recipients)
    (hparent : tenant.school.resolveMessagingRole id = some .parent) : tenant.school.IsClassParent senderUserId id := by
  obtain ⟨settings,senderRole,hrole,hdenial⟩ := of_allowed h
  obtain rfl := Option.some.inj (hteacher.symm.trans hrole)
  obtain ⟨g,hg,hgrole⟩ := exists_bucket hid hparent
  have hin : id ∈ g.2 := (mem_byRecipientRole hg).mpr ⟨hid,hgrole ▸ hparent⟩
  have hreach := canReach_of_denial hkind hgrole (hdenial g hg) hin
  simp only [School.canReach,MessagingRole.isAdminTier,MessagingRole.isAlwaysReachableStaff] at hreach
  exact isClassParent_of_mem (by simpa using hreach)

theorem denial_broadcast (settings : InboxSettings) (g : MessagingRole × List ℕ) :
    tenant.denial settings senderUserId .teacher .broadcast true g =
      if tenant.matrix .teacher g.1 then none else some (.rolePairNotAllowed,g.2) := by
  cases h : tenant.matrix .teacher g.1 <;> simp [Tenant.denial,h]

/-- What the policy needs before it looks at single recipients. -/
structure Opens (tenant : Tenant) (recipients : List ℕ) : Prop where
  enabled : ∃ settings, tenant.settings = some settings ∧ settings.messagingEnabled = true
  known : ∀ id ∈ recipients, (tenant.school.resolveMessagingRole id).isSome

/-- The recipients whose role the matrix forbids to teachers. -/
def forbidden (tenant : Tenant) (recipients : List ℕ) : List ℕ :=
  ((tenant.byRecipientRole recipients).filter fun g => !tenant.matrix .teacher g.1).flatMap Prod.snd

theorem mem_forbidden {id : ℕ} : id ∈ forbidden tenant recipients ↔ id ∈ recipients ∧
    ∃ role, tenant.school.resolveMessagingRole id = some role ∧ tenant.matrix .teacher role = false := by
  simp only [forbidden,List.mem_flatMap,List.mem_filter,Bool.not_eq_true']
  constructor
  · rintro ⟨g,⟨hg,hm⟩,hid⟩
    obtain ⟨hrec,hrole⟩ := (mem_byRecipientRole hg).mp hid
    exact ⟨hrec,g.1,hrole,hm⟩
  · rintro ⟨hrec,role,hrole,hm⟩
    obtain ⟨g,hg,rfl⟩ := exists_bucket hrec hrole
    exact ⟨g,⟨hg,hm⟩,(mem_byRecipientRole hg).mpr ⟨hrec,hrole⟩⟩

/-- A teacher's broadcast is denied exactly the recipients of forbidden roles. -/
theorem canStartConversation_broadcast (hteacher : tenant.school.resolveMessagingRole senderUserId = some .teacher)
    (hopens : Opens tenant recipients) (hne : recipients ≠ []) :
    tenant.canStartConversation senderUserId recipients .broadcast true = .allowed ∧ forbidden tenant recipients = [] ∨
      tenant.canStartConversation senderUserId recipients .broadcast true =
        .denied .rolePairNotAllowed (forbidden tenant recipients) := by
  obtain ⟨⟨settings,hsettings,hon⟩,hknown⟩ := hopens
  have hunknown : (recipients.filter fun id => (tenant.school.resolveMessagingRole id).isNone) = [] := by
    refine List.filter_eq_nil_iff.mpr fun id hid => ?_
    have := hknown id hid
    cases h : tenant.school.resolveMessagingRole id <;> simp_all
  have hdenials : (tenant.byRecipientRole recipients).filterMap (tenant.denial settings senderUserId .teacher .broadcast true) =
      ((tenant.byRecipientRole recipients).filter fun g => !tenant.matrix .teacher g.1).map
        fun g => (.rolePairNotAllowed,g.2) := by
    induction tenant.byRecipientRole recipients with
    | nil => rfl
    | cons g gs ih =>
      rw [List.filterMap_cons,denial_broadcast,ih]
      cases hm : tenant.matrix .teacher g.1 <;> simp [hm]
  have hdecision : tenant.canStartConversation senderUserId recipients .broadcast true = Tenant.decisionOf
      ((tenant.byRecipientRole recipients).filterMap (tenant.denial settings senderUserId .teacher .broadcast true)) := by
    simp only [Tenant.canStartConversation,hsettings,hon,hteacher,hne,hunknown]
    simp
  rw [hdecision,hdenials]
  unfold forbidden
  cases (tenant.byRecipientRole recipients).filter fun g => !tenant.matrix .teacher g.1 with
  | nil => exact Or.inl ⟨rfl,rfl⟩
  | cons g gs => exact Or.inr (by simp [Tenant.decisionOf,List.flatMap_map])

theorem filterByPolicy_of_opens (hteacher : tenant.school.resolveMessagingRole senderUserId = some .teacher)
    (hopens : Opens tenant recipients) {id : ℕ} (hid : id ∈ recipients) (hallowed : id ∉ forbidden tenant recipients) :
    ∃ kept, tenant.filterByPolicy senderUserId recipients = .ok kept ∧ id ∈ kept := by
  unfold Tenant.filterByPolicy
  rcases canStartConversation_broadcast hteacher hopens (List.ne_nil_of_mem hid) with ⟨h,_⟩ | h
  · exact ⟨recipients,by rw [h],hid⟩
  · have hmem : id ∈ recipients.filter fun id => !(forbidden tenant recipients).contains id := by
      simpa using ⟨hid,hallowed⟩
    refine ⟨_,?_,hmem⟩
    rw [h]
    exact if_neg (List.ne_nil_of_mem hmem)

/-- A teacher's broadcast that gets through has been opened, and keeps nobody of a forbidden role. -/
theorem of_filterByPolicy (hteacher : tenant.school.resolveMessagingRole senderUserId = some .teacher) {kept : List ℕ}
    (h : tenant.filterByPolicy senderUserId recipients = .ok kept) :
    Opens tenant recipients ∧ ∀ id ∈ kept, id ∈ recipients ∧ id ∉ forbidden tenant recipients := by
  by_cases hne : recipients = []
  · subst hne
    exfalso
    unfold Tenant.filterByPolicy Tenant.canStartConversation at h
    cases hsettings : tenant.settings with
    | none => simp [hsettings] at h
    | some settings =>
      cases hon : settings.messagingEnabled <;> simp [hsettings,hon,hteacher] at h
  · have hopens : Opens tenant recipients := by
      unfold Tenant.filterByPolicy Tenant.canStartConversation at h
      cases hsettings : tenant.settings with
      | none => simp [hsettings] at h
      | some settings =>
        cases hon : settings.messagingEnabled with
        | false => simp [hsettings,hon] at h
        | true =>
          refine ⟨⟨settings,hsettings,hon⟩,?_⟩
          by_contra hunknown
          have hfilter : (recipients.filter fun id => (tenant.school.resolveMessagingRole id).isNone) ≠ [] := by
            push Not at hunknown
            obtain ⟨id,hid,hnone⟩ := hunknown
            exact List.ne_nil_of_mem (List.mem_filter.mpr ⟨hid,by simpa using hnone⟩)
          simp [hsettings,hon,hteacher,hne,hfilter] at h
    refine ⟨hopens,?_⟩
    unfold Tenant.filterByPolicy at h
    rcases canStartConversation_broadcast hteacher hopens hne with ⟨hd,hnone⟩ | hd
    · rw [hd] at h
      cases h
      intro id hid
      exact ⟨hid,by simp [hnone]⟩
    · rw [hd] at h
      dsimp only at h
      split at h
      · cases h
      · cases h
        intro id hid
        simpa using hid

/-! ## The rows that are written -/

theorem recipientRows_userIds {school : School} {ids : List ℕ} {rows : List Participant}
    (h : recipientRows school ids = .ok rows) : rows.map Participant.userId = ids := by
  induction ids generalizing rows with
  | nil =>
    cases h
    rfl
  | cons id ids ih =>
    obtain ⟨role,_,h⟩ := require_bind_eq_ok.mp h
    obtain ⟨rest,hrest,h⟩ := bind_eq_ok.mp h
    cases h
    rw [List.map_cons,ih hrest]

theorem exists_recipientRows {school : School} {ids : List ℕ} (h : ∀ id ∈ ids, (school.resolveMessagingRole id).isSome) :
    ∃ rows, recipientRows school ids = .ok rows := by
  induction ids with
  | nil => exact ⟨[],rfl⟩
  | cons id ids ih =>
    obtain ⟨hid,hids⟩ := List.forall_mem_cons.mp h
    obtain ⟨role,hrole⟩ := Option.isSome_iff_exists.mp hid
    obtain ⟨rows,hrows⟩ := ih hids
    exact ⟨_,require_bind_eq_ok.mpr ⟨role,hrole,bind_eq_ok.mpr ⟨rows,hrows,rfl⟩⟩⟩

theorem denyIfNotAllowed_eq_ok {d : PolicyDecision} {u : PUnit} : d.denyIfNotAllowed = .ok u ↔ d = .allowed := by
  cases d <;> simp [PolicyDecision.denyIfNotAllowed]

/-! ## Confinement -/

/-- No conversation the request creates has a parent from outside the teacher's classes. -/
def Tenant.Confined (tenant : Tenant) (senderUserId : ℕ) (creation : Creation) : Prop :=
  tenant.school.resolveMessagingRole senderUserId = some .teacher → ∀ participants,
    tenant.Creates senderUserId creation participants → ∀ p ∈ participants,
      tenant.school.resolveMessagingRole p.userId = some .parent → tenant.school.IsClassParent senderUserId p.userId

/-- A broadcast to these users is sent, and may reach parents: the tenant's messaging is on, everyone
has a role, the message is in order, and the matrix lets teachers write to parents. -/
structure ReachesParents (tenant : Tenant) (senderUserId : ℕ) (draft : Draft) (userIds : List ℕ) : Prop where
  opens : Opens tenant (userIds.filter fun id => id ≠ senderUserId)
  attachments : draft.attachmentsValid = true
  body : draft.bodyEmpty = false
  matrix : tenant.matrix .teacher .parent = true

/-- The parents of a broadcast's audience are those of the teacher's classes. -/
def Tenant.WellAimed (tenant : Tenant) (senderUserId : ℕ) : Creation → Prop
  | .direct _ | .group _ => True
  | .broadcast input => tenant.school.resolveMessagingRole senderUserId = some .teacher → ∀ userIds,
      tenant.Resolves input userIds → ReachesParents tenant senderUserId input.draft userIds → ∀ u ∈ userIds,
        tenant.school.resolveMessagingRole u = some .parent → tenant.school.IsClassParent senderUserId u

/-- The users an audience resolves to are those its definition denotes. -/
theorem denotes_of_resolves {input : BroadcastInput} {userIds : List ℕ} (h : tenant.Resolves input userIds) :
    ∃ definition, input.definition = some definition ∧
      Denotes (tenant.school.directory tenant.savedAudiences) definition {u | u ∈ userIds} := by
  obtain ⟨start,s,users,hstart,hreach,ho,_,rfl⟩ := h
  unfold Tenant.startAudience at hstart
  unfold BroadcastInput.definition
  rw [← List.coe_toFinset]
  cases hsaved : input.savedAudienceId with
  | some id =>
    simp only [hsaved] at hstart ⊢
    obtain ⟨row,hrow,rfl⟩ := Option.map_eq_some_iff.mp hstart
    exact ⟨_,rfl,denotes_resolveStored hrow hreach ho⟩
  | none =>
    simp only [hsaved] at hstart ⊢
    obtain ⟨d,hd,rfl⟩ := Option.map_eq_some_iff.mp hstart
    rcases outcome_reaches hreach ho with ⟨e,he,_⟩ | ⟨users',hu,hden,_⟩
    · cases he
    · cases hu
      exact ⟨d,hd,hden⟩

theorem createBroadcast_userIds (hteacher : tenant.school.resolveMessagingRole senderUserId = some .teacher)
    {input : BroadcastInput} {userIds : List ℕ} {participants : List Participant}
    (h : tenant.createBroadcast senderUserId input userIds = .ok participants) {p : Participant} (hp : p ∈ participants)
    (hparent : tenant.school.resolveMessagingRole p.userId = some .parent) :
    ReachesParents tenant senderUserId input.draft userIds ∧ p.userId ∈ userIds := by
  obtain ⟨senderRole,hrole,h⟩ := require_bind_eq_ok.mp h
  obtain rfl := Option.some.inj (hteacher.symm.trans hrole)
  obtain ⟨_,h⟩ := ensure_bind_eq_ok.mp h
  obtain ⟨hattachments,h⟩ := ensure_bind_eq_ok.mp h
  obtain ⟨_,h⟩ := ensure_bind_eq_ok.mp h
  obtain ⟨kept,hkept,h⟩ := bind_eq_ok.mp h
  obtain ⟨_,h⟩ := ensure_bind_eq_ok.mp h
  obtain ⟨rows,hrows,h⟩ := bind_eq_ok.mp h
  obtain ⟨hbody,h⟩ := ensure_bind_eq_ok.mp h
  cases h
  have hne : p.userId ≠ senderUserId := by
    intro he
    rw [he,hteacher] at hparent
    cases hparent
  have hrow : p.userId ∈ kept := by
    rcases List.mem_cons.mp hp with rfl | hp
    · exact absurd rfl hne
    · have hmem := List.mem_map_of_mem (f := Participant.userId) hp
      rw [recipientRows_userIds hrows] at hmem
      exact (List.mem_filter.mp hmem).1
  obtain ⟨hopens,hall⟩ := of_filterByPolicy hteacher hkept
  obtain ⟨hmem,hallowed⟩ := hall _ hrow
  refine ⟨⟨hopens,hattachments,hbody,?_⟩,(List.mem_filter.mp hmem).1⟩
  by_contra hmatrix
  exact hallowed (mem_forbidden.mpr ⟨hmem,.parent,hparent,by simpa using hmatrix⟩)

theorem exists_createBroadcast (hteacher : tenant.school.resolveMessagingRole senderUserId = some .teacher)
    {input : BroadcastInput} {userIds : List ℕ} (h : ReachesParents tenant senderUserId input.draft userIds) {u : ℕ}
    (hu : u ∈ userIds) (hparent : tenant.school.resolveMessagingRole u = some .parent) :
    ∃ participants, tenant.createBroadcast senderUserId input userIds = .ok participants ∧
      ∃ p ∈ participants, p.userId = u := by
  have hne : u ≠ senderUserId := by
    rintro rfl
    rw [hteacher] at hparent
    cases hparent
  have hallowed : u ∉ forbidden tenant (userIds.filter fun id => id ≠ senderUserId) := by
    intro hf
    obtain ⟨_,role,hrole,hm⟩ := mem_forbidden.mp hf
    obtain rfl := Option.some.inj (hparent.symm.trans hrole)
    rw [h.matrix] at hm
    cases hm
  obtain ⟨kept,hkept,hmem⟩ := filterByPolicy_of_opens hteacher h.opens (List.mem_filter.mpr ⟨hu,by simpa using hne⟩) hallowed
  have hlast : u ∈ kept.filter fun id => (tenant.school.resolveMessagingRole id).isSome :=
    List.mem_filter.mpr ⟨hmem,by simp [hparent]⟩
  obtain ⟨rows,hrows⟩ : ∃ rows, recipientRows tenant.school (kept.filter fun id =>
      (tenant.school.resolveMessagingRole id).isSome) = .ok rows :=
    exists_recipientRows fun id hid => (List.mem_filter.mp hid).2
  refine ⟨⟨senderUserId,.teacher,0⟩ :: rows,?_,?_⟩
  · exact require_bind_eq_ok.mpr ⟨.teacher,hteacher,ensure_bind_eq_ok.mpr ⟨by simp,ensure_bind_eq_ok.mpr ⟨h.attachments,
      ensure_bind_eq_ok.mpr ⟨List.ne_nil_of_mem hu,bind_eq_ok.mpr ⟨kept,hkept,ensure_bind_eq_ok.mpr
        ⟨List.ne_nil_of_mem hlast,bind_eq_ok.mpr ⟨rows,hrows,ensure_bind_eq_ok.mpr ⟨h.body,rfl⟩⟩⟩⟩⟩⟩⟩⟩
  · rw [← recipientRows_userIds hrows,List.mem_map] at hlast
    obtain ⟨p,hp,he⟩ := hlast
    exact ⟨p,List.mem_cons_of_mem _ hp,he⟩

/-- A teacher's request is confined precisely if it is not a broadcast that is sent to a parent from
outside the teacher's classes. -/
theorem confined_iff {creation : Creation} :
    tenant.Confined senderUserId creation ↔ tenant.WellAimed senderUserId creation := by
  constructor
  · intro h
    cases creation with
    | direct input => trivial
    | group input => trivial
    | broadcast input =>
      intro hteacher userIds hresolves hreaches u hu hparent
      obtain ⟨participants,hcreate,p,hp,rfl⟩ := exists_createBroadcast hteacher hreaches hu hparent
      exact h hteacher participants ⟨userIds,hresolves,hcreate⟩ p hp hparent
  · intro h hteacher participants hcreates p hp hparent
    cases creation with
    | direct input =>
      obtain ⟨_,hc⟩ := ensure_bind_eq_ok.mp hcreates
      obtain ⟨_,hc⟩ := ensure_bind_eq_ok.mp hc
      obtain ⟨_,hdecision,hc⟩ := bind_eq_ok.mp hc
      obtain ⟨senderRole,_,hc⟩ := require_bind_eq_ok.mp hc
      obtain ⟨recipientRole,_,hc⟩ := require_bind_eq_ok.mp hc
      obtain ⟨_,hc⟩ := ensure_bind_eq_ok.mp hc
      split at hc
      · cases hc
      · cases hc
        rcases List.mem_pair.mp hp with rfl | rfl
        · rw [hteacher] at hparent
          cases hparent
        · exact isClassParent_of_allowed (by decide) hteacher (denyIfNotAllowed_eq_ok.mp hdecision)
            List.mem_cons_self hparent
    | group input =>
      obtain ⟨_,hc⟩ := ensure_bind_eq_ok.mp hcreates
      obtain ⟨_,hc⟩ := ensure_bind_eq_ok.mp hc
      obtain ⟨_,hc⟩ := ensure_bind_eq_ok.mp hc
      obtain ⟨_,hc⟩ := ensure_bind_eq_ok.mp hc
      obtain ⟨_,hc⟩ := ensure_bind_eq_ok.mp hc
      obtain ⟨_,hdecision,hc⟩ := bind_eq_ok.mp hc
      obtain ⟨senderRole,_,hc⟩ := require_bind_eq_ok.mp hc
      obtain ⟨rows,hrows,hc⟩ := bind_eq_ok.mp hc
      obtain ⟨_,hc⟩ := ensure_bind_eq_ok.mp hc
      cases hc
      rcases List.mem_cons.mp hp with rfl | hp
      · rw [hteacher] at hparent
        cases hparent
      · have hmem := List.mem_map_of_mem (f := Participant.userId) hp
        rw [recipientRows_userIds hrows] at hmem
        exact isClassParent_of_allowed (by decide) hteacher (denyIfNotAllowed_eq_ok.mp hdecision) hmem hparent
    | broadcast input =>
      obtain ⟨userIds,hresolves,hcreate⟩ := hcreates
      obtain ⟨hreaches,hmem⟩ := createBroadcast_userIds hteacher hcreate hp hparent
      exact h hteacher userIds hresolves hreaches p.userId hmem hparent

/-- Teacher 1 has class 1; parent 5 has a child in class 2 only. -/
def twoClasses : Tenant where
  school :=
    { memberships := [⟨1,true,["teacher"]⟩,⟨5,true,["parent"]⟩]
      staffProfiles := [{ id := 10, userId := 1, active := true }]
      classStaff := [⟨1,10⟩]
      classEnrolments := [⟨2,20,true⟩]
      studentParents := [⟨20,30⟩]
      parents := [⟨30,some 5,true⟩] }
  settings := some ⟨true,false,false,false,false,false⟩
  matrix sender recipient := sender = .teacher && recipient = .parent

/-- A broadcast to the parents of class 2. -/
def otherClass : BroadcastInput := ⟨some (.leaf .classParents (.classIds [2])),none,⟨false,true⟩⟩

theorem not_confined : ¬twoClasses.Confined 1 (.broadcast otherClass) := by
  intro h
  have hstart : twoClasses.startAudience otherClass = some (.awaiting (.ok [5].toFinset),[]) := rfl
  have hresolves : twoClasses.Resolves otherClass [5] :=
    ⟨_,(.settled (.ok [5].toFinset),[]),_,hstart,.single .settle,rfl,by decide,rfl⟩
  have hparent := h (by decide +kernel) [⟨1,.teacher,0⟩,⟨5,.parent,1⟩] ⟨[5],hresolves,by decide +kernel⟩ ⟨5,.parent,1⟩
    (by decide) (by decide +kernel)
  obtain ⟨staff,hs,_,a,ha,_,e,he,hc,_⟩ := hparent
  simp [twoClasses] at hs ha he
  subst ha he
  simp at hc

end EduPod.Inbox
