import Mathlib
import EduPod.Foundation.AbortingTransaction

/-! # Reading an import file

A spreadsheet is read by its first sheet, any other file as comma-separated text. Headers are normalised;
a field of a row is found by the name of its header.
-/
namespace EduPod.Imports
open AbortingTransaction AbortingTransaction.Script

section
/-- White space, lower case, the dates that parse, and the case folding of addresses. -/
structure Conventions where
  isSpace : Char → Bool
  lower : String → String
  parseDate : String → Option ℤ
  foldCase : String → String

/-- The bytes of a file: the cells of its first sheet, if it has one, and its text. -/
structure FileBuffer where
  sheet : Option (List (List String))
  content : String

namespace Conventions
variable (c : Conventions)

def trimChars (s : List Char) : List Char := ((s.dropWhile c.isSpace).reverse.dropWhile c.isSpace).reverse

def trim (s : String) : String := String.ofList (c.trimChars s.toList)

/-- Stars at the end of a header go, and the white space before them. -/
def dropStars (s : List Char) : List Char :=
  if s.getLast? = some '*' then ((s.reverse.dropWhile (· = '*')).dropWhile c.isSpace).reverse else s

/-- A run of white space becomes one underscore. -/
def underscored (s : List Char) : List Char :=
  (s.splitBy fun a b => c.isSpace a == c.isSpace b).flatMap fun run => if run.any c.isSpace then ['_'] else run

def normaliseHeader (raw : String) : String :=
  String.ofList (c.underscored (c.dropStars (c.trimChars (c.lower raw).toList)))

/-- The fields of a line, from a state inside or outside of quotes and the field so far. -/
@[grind] def csvFields : Bool → List Char → List Char → List String
  | _, current, [] => [String.ofList (c.trimChars current)]
  | true, current, '"' :: '"' :: rest => csvFields true (current ++ ['"']) rest
  | true, current, '"' :: rest => csvFields false current rest
  | true, current, char :: rest => csvFields true (current ++ [char]) rest
  | false, current, '"' :: rest => csvFields true current rest
  | false, current, ',' :: rest => String.ofList (c.trimChars current) :: csvFields false [] rest
  | false, current, char :: rest => csvFields false (current ++ [char]) rest

def parseCsvLine (line : List Char) : List String := c.csvFields false [] line

structure ParsedFile where
  headers : List String
  rows : List (List String)

def isXlsx (fileKey : String) : Bool := (c.lower fileKey).endsWith ".xlsx" || (c.lower fileKey).endsWith ".xls"

def parseFile (fileBuffer : FileBuffer) (fileKey : String) : ParsedFile :=
  if c.isXlsx fileKey then
    match fileBuffer.sheet.getD [] with
    | [] => ⟨[],[]⟩
    | headerRow :: rawRows =>
      ⟨headerRow.map c.normaliseHeader,
        (rawRows.filter fun row => row.any fun cell => c.trim cell ≠ "").map fun row => row.map c.trim⟩
  else
    match ((fileBuffer.content.toList).splitOn '\n').filter fun line => c.trimChars line ≠ [] with
    | [] => ⟨[],[]⟩
    | firstLine :: lines => ⟨(c.parseCsvLine firstLine).map c.normaliseHeader,lines.map c.parseCsvLine⟩

/-- The trimmed value under a header, nothing when it is blank. -/
def getField (headers row : List String) (fieldName : String) : Option String :=
  if headers.contains fieldName then
    (row[headers.idxOf fieldName]?).bind fun raw => if c.trim raw = "" then none else some (c.trim raw)
  else none

end Conventions

/-- White space and case of plain ASCII, dates as years. -/
def plainConventions : Conventions where
  isSpace := Char.isWhitespace
  lower := String.toLower
  parseDate := fun s => if s.toList.all Char.isDigit then some (s.toList.foldl (fun year d => 10 * year + (d.toNat - 48)) 0) else none
  foldCase := String.toLower

end

/-! ## Processing an import file

One transaction holds all rows of a file. A row that throws is counted and passed over, whether the caller
threw or the database refused a statement. The file is deleted once a transaction has committed.
-/

/-! ## Records -/

/-- What a text column takes: so many characters, none of them null. -/
def fits (limit : Option ℕ) (s : String) : Bool := limit.all (s.length ≤ ·) && !s.toList.contains (Char.ofNat 0)

structure Column (limit : Option ℕ) where
  text : String
  storable : fits limit text = true
  deriving DecidableEq

def Column.of? (limit : Option ℕ) (s : String) : Option (Column limit) := if h : fits limit s = true then some ⟨s,h⟩ else none

def Column.nullable (limit : Option ℕ) : Option String → Option (Option (Column limit))
  | none => some none
  | some s => (Column.of? limit s).map some

inductive Gender
  | male | female | other | preferNotToSay
  deriving DecidableEq

def parseGender : String → Option Gender
  | "male" => some .male
  | "female" => some .female
  | "other" => some .other
  | "prefer_not_to_say" => some .preferNotToSay
  | _ => none

/-- `fromRow` marks the row of the file that a record was made for. -/
structure Household where
  householdName : Column (some 255)
  fromRow : Option ℕ
  deriving DecidableEq

structure Student where
  householdId : ℕ
  firstName : Column (some 100)
  lastName : Column (some 100)
  fullName : Column (some 255)
  firstNameAr : Option (Column (some 100))
  lastNameAr : Option (Column (some 100))
  fullNameAr : Option (Column (some 255))
  dateOfBirth : ℤ
  gender : Option Gender
  fromRow : Option ℕ
  deriving DecidableEq

structure Parent where
  firstName : Column (some 100)
  lastName : Column (some 100)
  email : Column none
  phone : Option (Column (some 50))
  relationshipLabel : Option (Column (some 100))
  fromRow : Option ℕ
  deriving DecidableEq

inductive ImportType
  | students | parents | staff | fees | examResults | staffCompensation
  deriving DecidableEq

inductive ImportStatus
  | uploaded | validated | processing | completed | failed | rolledBack | partiallyRolledBack
  deriving DecidableEq

inductive RowError
  | missingFields
  | invalidValue
  | refused
  | aborted
  | parentExists (email : String)
  | notImplemented (importType : ImportType)
  deriving DecidableEq

inductive Summary
  | uncounted (error : Option String)
  | counted (totalRows successCount failureCount : ℕ) (rowErrors : List (ℕ × RowError))
  deriving DecidableEq

structure ImportJob where
  importType : ImportType
  fileKey : Option String
  status : ImportStatus
  summary : Summary

/-- A household's id is its position. -/
structure School where
  job : ImportJob
  households : List Household
  students : List Student
  parents : List Parent

/-! ## Statements -/

def sql {α : Type} (f : School → Option (α × School)) : Script School RowError α := statement .refused .aborted f

namespace School

def findHousehold (householdName : String) (s : School) : Option (Option ℕ × School) :=
  if fits none householdName then some (s.households.findIdx? fun h => h.householdName.text = householdName,s) else none

def createHousehold (i : ℕ) (householdName : String) (s : School) : Option (ℕ × School) :=
  (Column.of? (some 255) householdName).map fun name =>
    (s.households.length,{ s with households := s.households ++ [⟨name,some i⟩] })

/-- Addresses compare without case. -/
def findParent (c : Conventions) (email : String) (s : School) : Option (Bool × School) :=
  if fits none email then some (s.parents.any fun p => c.foldCase p.email.text = c.foldCase email,s) else none

def withJob (status : ImportStatus) (summary : Summary) (s : School) : School := { s with job := { s.job with status, summary } }

def setJob (status : ImportStatus) (summary : Summary) (s : School) : Option (Unit × School) := some ((),s.withJob status summary)

end School

/-! ## Student rows -/

structure StudentRow where
  firstName : String
  lastName : String
  dateOfBirth : String
  gender : Option String
  householdName : Option String
  firstNameAr : Option String
  lastNameAr : Option String

def studentRow (c : Conventions) (headers row : List String) : Option StudentRow := do
  let firstName ← c.getField headers row "first_name"
  let lastName ← c.getField headers row "last_name"
  let dateOfBirth ← c.getField headers row "date_of_birth"
  return {
    firstName
    lastName
    dateOfBirth
    gender := c.getField headers row "gender"
    householdName := c.getField headers row "household_name"
    firstNameAr := c.getField headers row "first_name_ar"
    lastNameAr := c.getField headers row "last_name_ar" }

/-- The date and the gender of a row, when both are values that the client takes. -/
def StudentRow.values (c : Conventions) (r : StudentRow) : Option (ℤ × Option Gender) := do
  let dateOfBirth ← c.parseDate r.dateOfBirth
  let gender ← r.gender.elim (some none) fun g => (parseGender (c.lower g)).map some
  return (dateOfBirth,gender)

def StudentRow.record (r : StudentRow) (i householdId : ℕ) (values : ℤ × Option Gender) : Option Student := do
  let firstName ← Column.of? (some 100) r.firstName
  let lastName ← Column.of? (some 100) r.lastName
  let fullName ← Column.of? (some 255) (r.firstName ++ " " ++ r.lastName)
  let firstNameAr ← Column.nullable (some 100) r.firstNameAr
  let lastNameAr ← Column.nullable (some 100) r.lastNameAr
  let fullNameAr ← Column.nullable (some 255)
    (r.firstNameAr.bind fun first => r.lastNameAr.map fun last => first ++ " " ++ last)
  return {
    householdId
    firstName
    lastName
    fullName
    firstNameAr
    lastNameAr
    fullNameAr
    dateOfBirth := values.1
    gender := values.2
    fromRow := some i }

def School.createStudent (r : StudentRow) (i householdId : ℕ) (values : ℤ × Option Gender) (s : School) :
    Option (Unit × School) :=
  (r.record i householdId values).map fun student => ((),{ s with students := s.students ++ [student] })

/-- The household of the row's name, or a new one; without a name a new one called after the student. -/
def householdFor (i : ℕ) (r : StudentRow) : Script School RowError ℕ :=
  match r.householdName with
  | some householdName => do
    let existing ← sql (School.findHousehold householdName)
    match existing with
    | some id => pure id
    | none => sql (School.createHousehold i householdName)
  | none => sql (School.createHousehold i (r.lastName ++ " Family"))

def processStudentRow (c : Conventions) (i : ℕ) (headers row : List String) : Script School RowError Unit := do
  let r ← require (studentRow c headers row) .missingFields
  let householdId ← householdFor i r
  let values ← require (r.values c) .invalidValue
  sql (School.createStudent r i householdId values)

/-! ## Parent rows -/

structure ParentRow where
  firstName : String
  lastName : String
  email : String
  phone : Option String
  relationshipLabel : Option String

def parentRow (c : Conventions) (headers row : List String) : Option ParentRow := do
  let firstName ← c.getField headers row "first_name"
  let lastName ← c.getField headers row "last_name"
  let email ← c.getField headers row "email"
  return {
    firstName
    lastName
    email
    phone := c.getField headers row "phone"
    relationshipLabel := c.getField headers row "relationship_label" }

def ParentRow.record (r : ParentRow) (i : ℕ) : Option Parent := do
  let firstName ← Column.of? (some 100) r.firstName
  let lastName ← Column.of? (some 100) r.lastName
  let email ← Column.of? none r.email
  let phone ← Column.nullable (some 50) r.phone
  let relationshipLabel ← Column.nullable (some 100) r.relationshipLabel
  return { firstName, lastName, email, phone, relationshipLabel, fromRow := some i }

def School.createParent (r : ParentRow) (i : ℕ) (s : School) : Option (Unit × School) :=
  (r.record i).map fun parent => ((),{ s with parents := s.parents ++ [parent] })

def processParentRow (c : Conventions) (i : ℕ) (headers row : List String) : Script School RowError Unit := do
  let r ← require (parentRow c headers row) .missingFields
  let existing ← sql (School.findParent c r.email)
  if existing then throw (.parentExists r.email) else sql (School.createParent r i)

/-! ## The job -/

def processRow (c : Conventions) (importType : ImportType) (i : ℕ) (headers row : List String) : Script School RowError Unit :=
  match importType with
  | .students => processStudentRow c i headers row
  | .parents => processParentRow c i headers row
  | other => throw (.notImplemented other)

structure Tally where
  successCount : ℕ
  failureCount : ℕ
  rowErrors : List (ℕ × RowError)

def Tally.succeeded (t : Tally) : Tally := { t with successCount := t.successCount + 1 }

/-- The first fifty errors are kept, with the line numbers of their rows. -/
def Tally.failed (t : Tally) (i : ℕ) (e : RowError) : Tally where
  successCount := t.successCount
  failureCount := t.failureCount + 1
  rowErrors := if t.rowErrors.length < 50 then t.rowErrors ++ [(i + 2,e)] else t.rowErrors

def tallyRow (c : Conventions) (importType : ImportType) (headers : List String) (tally : Tally) (r : List String × ℕ) :
    Script School RowError Tally :=
  caught (do
    processRow c importType r.2 headers r.1
    return tally.succeeded) fun e => pure (tally.failed r.2 e)

def processRows (c : Conventions) (importType : ImportType) (headers : List String) (rows : List (List String)) :
    Script School RowError Tally :=
  rows.zipIdx.foldlM (tallyRow c importType headers) ⟨0,0,[]⟩

def finalStatus (rows : List (List String)) (tally : Tally) : ImportStatus :=
  if tally.failureCount = rows.length then .failed else .completed

def processFile (c : Conventions) (importType : ImportType) (file : Conventions.ParsedFile) : Script School RowError Unit :=
  if file.rows = [] then sql (School.setJob .failed (.uncounted (some "CSV file has no data rows.")))
  else do
    let tally ← processRows c importType file.headers file.rows
    sql (School.setJob (finalStatus file.rows tally)
      (.counted file.rows.length tally.successCount tally.failureCount tally.rowErrors))

def processJob (c : Conventions) (fileBuffer : Option FileBuffer) : Script School RowError Unit := do
  let importJob ← sql fun s => some (s.job,s)
  match importJob.fileKey with
  | none => sql (School.setJob .failed (.uncounted (some "No file_key associated with this import job.")))
  | some fileKey =>
    sql (School.setJob .processing importJob.summary)
    match fileBuffer with
    | none => sql (School.setJob .failed (.uncounted (some "Failed to download file from storage.")))
    | some fileBuffer => processFile c importJob.importType (c.parseFile fileBuffer fileKey)

/-! ## Deliveries -/

/-- What goes wrong outside of the rows: the download, the transaction, the deletion of the file. -/
structure Delivery where
  downloadFails : Bool
  transactionFails : Bool
  deleteFails : Bool
  deriving DecidableEq

/-- The records, and the file as long as it is stored. -/
structure World where
  school : School
  file : Option FileBuffer

def execute (c : Conventions) (d : Delivery) (fileBuffer : Option FileBuffer) (s : School) : Option School :=
  if d.transactionFails then none else transaction (processJob c fileBuffer) s

/-- A transaction that fails leaves everything, the file included. -/
def process (c : Conventions) (w : World) (d : Delivery) : World :=
  match w.school.job.fileKey with
  | none => { w with school := (execute c d none w.school).getD w.school }
  | some _ =>
    match execute c d (if d.downloadFails then none else w.file) w.school with
    | none => w
    | some school => ⟨school,if d.deleteFails then w.file else none⟩

end EduPod.Imports
