import EduPod.Inbox.AudienceComposer

/-! # The people of a school

The records the inbox reads through the other modules' facades, the mapping of platform roles to
messaging roles, and the audience providers over these records.
-/
namespace EduPod.Inbox

inductive MessagingRole
  | owner | principal | vicePrincipal | office | finance | nurse | teacher | parent | student
  deriving DecidableEq, Repr

structure Membership where
  userId : ℕ
  active : Bool
  roleKeys : List String

structure StaffProfile where
  id : ℕ
  userId : ℕ
  active : Bool
  department : Option String := none

structure ClassStaff where
  classId : ℕ
  staffProfileId : ℕ

structure ClassEnrolment where
  classId : ℕ
  studentId : ℕ
  active : Bool

structure Student where
  id : ℕ
  yearGroupId : Option ℕ
  active : Bool

structure StudentParent where
  studentId : ℕ
  parentId : ℕ

structure HouseholdParent where
  householdId : ℕ
  parentId : ℕ

structure Parent where
  id : ℕ
  userId : Option ℕ
  active : Bool

/-- One tenant's records. `overdueHouseholds` is the finance facade's query for households with invoices
overdue by an amount and a number of days. -/
structure School where
  memberships : List Membership
  staffProfiles : List StaffProfile
  classStaff : List ClassStaff
  classEnrolments : List ClassEnrolment
  students : List Student := []
  studentParents : List StudentParent
  householdParents : List HouseholdParent := []
  parents : List Parent
  overdueHouseholds : Option ℚ → Option ℕ → List ℕ := fun _ _ => []

/-! ## Roles -/

/-- `PLATFORM_ROLE_TO_MESSAGING_ROLE`. -/
def messagingRoleOf : String → Option MessagingRole
  | "platform_owner" => some .owner
  | "school_owner" => some .owner
  | "school_principal" => some .principal
  | "school_vice_principal" => some .vicePrincipal
  | "admin" => some .office
  | "front_office" => some .office
  | "accounting" => some .finance
  | "finance" => some .finance
  | "nurse" => some .nurse
  | "teacher" => some .teacher
  | "parent" => some .parent
  | "student" => some .student
  | _ => none

/-- `ROLE_PRIORITY`. -/
def MessagingRole.priority : MessagingRole → ℕ
  | .owner => 100
  | .principal => 90
  | .vicePrincipal => 80
  | .teacher => 70
  | .office => 60
  | .finance => 50
  | .nurse => 40
  | .parent => 20
  | .student => 10

def mostPermissive : List MessagingRole → Option MessagingRole
  | [] => none
  | role :: roles => some (roles.foldl (fun best candidate => if best.priority < candidate.priority then candidate else best) role)

def foldRoleKeys (roleKeys : List String) : Option MessagingRole := mostPermissive (roleKeys.filterMap messagingRoleOf)

namespace School

def findActiveMembership (school : School) (userId : ℕ) : Option Membership :=
  school.memberships.find? fun m => m.active && m.userId = userId

def resolveMessagingRole (school : School) (userId : ℕ) : Option MessagingRole :=
  (school.findActiveMembership userId).bind fun m => foldRoleKeys m.roleKeys

/-! ## Facades -/

def findStaffByUserId (school : School) (userId : ℕ) : Option StaffProfile :=
  school.staffProfiles.find? fun s => s.userId = userId

def findClassIdsByStaff (school : School) (staffProfileId : ℕ) : List ℕ :=
  (school.classStaff.filter fun a => a.staffProfileId = staffProfileId).map ClassStaff.classId

def findEnrolledStudentIds (school : School) (classId : ℕ) : List ℕ :=
  (school.classEnrolments.filter fun e => e.classId = classId && e.active).map ClassEnrolment.studentId

def findClassIdsByStudentIds (school : School) (studentIds : List ℕ) : List ℕ :=
  ((school.classEnrolments.filter fun e => e.active && studentIds.contains e.studentId).map ClassEnrolment.classId).dedup

def findStaffProfileIdsByClassIds (school : School) (classIds : List ℕ) : List ℕ :=
  ((school.classStaff.filter fun a => classIds.contains a.classId).map ClassStaff.staffProfileId).dedup

def findParentIdsByStudentIds (school : School) (studentIds : List ℕ) : List ℕ :=
  ((school.studentParents.filter fun l => studentIds.contains l.studentId).map StudentParent.parentId).dedup

def findParentIdsByHouseholdIds (school : School) (householdIds : List ℕ) : List ℕ :=
  ((school.householdParents.filter fun l => householdIds.contains l.householdId).map HouseholdParent.parentId).dedup

def findParentByUserId (school : School) (userId : ℕ) : Option Parent :=
  school.parents.find? fun p => p.userId = some userId

def findLinkedStudentIds (school : School) (parentId : ℕ) : List ℕ :=
  (school.studentParents.filter fun l => l.parentId = parentId).map StudentParent.studentId

/-! ## Users of an audience -/

def parentIdsToUserIds (school : School) (parentIds : List ℕ) : List ℕ :=
  ((school.parents.filter fun p => parentIds.contains p.id && p.active).filterMap Parent.userId).dedup

def allActiveParentUserIds (school : School) : List ℕ :=
  school.parentIdsToUserIds ((school.parents.filter fun p => p.active && p.userId.isSome).map Parent.id)

def allActiveStaffUserIds (school : School) : List ℕ :=
  ((school.staffProfiles.filter StaffProfile.active).map StaffProfile.userId).dedup

def buildTenantUniverse (school : School) : List ℕ := (school.allActiveParentUserIds ++ school.allActiveStaffUserIds).dedup

def tenantMembers (school : School) : Finset ℕ := ((school.memberships.filter Membership.active).map Membership.userId).toFinset

def findActiveUserIdsByRoleKey (school : School) (roleKey : String) : List ℕ :=
  (school.memberships.filter fun m => m.active && m.roleKeys.contains roleKey).map Membership.userId

end School

/-! ## Providers -/

inductive AudienceProviderKey
  | school | parentsSchool | staffAll | staffRole | department | yearGroupParents | classParents | sectionParents
  | household | yearGroupStudents | classStudents | handpicked | feesInArrears | eventAttendees | tripRoster
  deriving DecidableEq, Repr

inductive EventStatus
  | confirmed | declined | maybe | any
  deriving DecidableEq, Repr

/-- The parameters of a leaf, by the keys of the object; the schemas are strict. -/
inductive AudienceParams
  | empty
  | roles (roles : List String)
  | departments (departments : List String)
  | yearGroupIds (ids : List ℕ)
  | classIds (ids : List ℕ)
  | sectionIds (ids : List ℕ)
  | householdIds (ids : List ℕ)
  | userIds (ids : List ℕ)
  | overdue (minAmount : Option ℚ) (minDays : Option ℕ)
  | event (id : ℕ) (status : EventStatus)
  | trip (id : ℕ)
  | other
  deriving DecidableEq, Repr

/-- Between one and `max` entries. -/
def sized {α : Type} (max : ℕ) (xs : List α) : Bool := 1 ≤ xs.length && xs.length ≤ max

/-- The schema of each provider's parameters. -/
def AudienceProviderKey.accepts : AudienceProviderKey → AudienceParams → Bool
  | .school, .empty | .parentsSchool, .empty | .staffAll, .empty => true
  | .staffRole, .roles roles => sized 50 roles && roles.all fun r => r ≠ ""
  | .department, .departments departments => sized 50 departments && departments.all fun d => d ≠ ""
  | .yearGroupParents, .yearGroupIds ids | .yearGroupStudents, .yearGroupIds ids => sized 50 ids
  | .classParents, .classIds ids | .classStudents, .classIds ids => sized 200 ids
  | .sectionParents, .sectionIds ids => sized 50 ids
  | .household, .householdIds ids => sized 1000 ids
  | .handpicked, .userIds ids => sized 10000 ids
  | .feesInArrears, .empty => true
  | .feesInArrears, .overdue minAmount _ => minAmount.all (0 ≤ ·)
  | .eventAttendees, .event _ _ | .tripRoster, .trip _ => true
  | _, _ => false

inductive ProviderError
  | notWired
  deriving DecidableEq, Repr

/-- What a provider answers. None of them knows who asks. -/
def School.resolveAudience (school : School) : AudienceProviderKey → AudienceParams → Except ProviderError (List ℕ)
  | .school, _ => .ok school.buildTenantUniverse
  | .parentsSchool, _ => .ok school.allActiveParentUserIds
  | .staffAll, _ => .ok school.allActiveStaffUserIds
  | .staffRole, .roles roles => .ok (roles.flatMap school.findActiveUserIdsByRoleKey).dedup
  | .department, .departments departments =>
    .ok ((school.staffProfiles.filter fun s => s.active && s.department.any departments.contains).map StaffProfile.userId).dedup
  | .yearGroupParents, .yearGroupIds ids =>
    .ok (school.parentIdsToUserIds (school.findParentIdsByStudentIds
      ((school.students.filter fun s => s.active && s.yearGroupId.any ids.contains).map Student.id)))
  | .classParents, .classIds ids =>
    .ok (school.parentIdsToUserIds (school.findParentIdsByStudentIds (ids.flatMap school.findEnrolledStudentIds).dedup))
  | .household, .householdIds ids => .ok (school.parentIdsToUserIds (school.findParentIdsByHouseholdIds ids))
  | .feesInArrears, .overdue minAmount minDays =>
    .ok (school.parentIdsToUserIds (school.findParentIdsByHouseholdIds (school.overdueHouseholds minAmount minDays)))
  | .feesInArrears, .empty =>
    .ok (school.parentIdsToUserIds (school.findParentIdsByHouseholdIds (school.overdueHouseholds none none)))
  | .handpicked, .userIds ids => .ok (ids.filter (· ∈ school.tenantMembers))
  | .sectionParents, _ | .eventAttendees, _ | .tripRoster, _ => .error .notWired
  | _, _ => .ok []

abbrev Audience := AudienceDefinition AudienceProviderKey AudienceParams

/-- The composer's view of a school and its saved audiences. -/
def School.directory (school : School) (savedAudiences : ℕ → Option (SavedAudienceRow AudienceProviderKey AudienceParams)) :
    Directory AudienceProviderKey AudienceParams ProviderError where
  registry key := some
    { paramsSchema := fun params => if key.accepts params then some params else none
      resolve := school.resolveAudience key }
  findById := savedAudiences
  members := school.tenantMembers
  tenantUniverse := school.buildTenantUniverse.toFinset

end EduPod.Inbox
