import Mathlib

/-! # Attendance rows as comma-separated text

Fields with commas, quotes or line feeds are quoted when they are written. The parser cuts the text into lines,
trims them and drops comments before it looks at a quote.
-/
namespace EduPod.Attendance

abbrev Text := List Char

/-- White space and line terminators, as `trim` removes them. -/
def isWhiteSpace (c : Char) : Bool :=
  [0x09,0x0A,0x0B,0x0C,0x0D,0x20,0xA0,0x1680,0x2028,0x2029,0x202F,0x205F,0x3000,0xFEFF].contains c.toNat ||
    (0x2000 ≤ c.toNat && c.toNat ≤ 0x200A)

def trim (t : Text) : Text := (t.dropWhile isWhiteSpace).rdropWhile isWhiteSpace

/-- Lower case as far as it can give a letter of a header: the Kelvin sign is the one capital outside ASCII. -/
def toLowerCase (t : Text) : Text := t.map fun c => if c.toNat = 0x212A then 'k' else c.toLower

structure ParsedRow where
  studentNumber : Text
  studentName : Text
  className : Text
  status : Text
  deriving DecidableEq

def expectedHeaders : List Text :=
  ["student_number".toList,"student_name".toList,"class_name".toList,"status".toList]

inductive ParseError
  | missingColumns (missing : List Text)
  | noHeaderRow
  deriving DecidableEq

/-- `split(/\r?\n/)`. -/
@[grind] def splitLines : Text → List Text
  | [] => [[]]
  | '\r' :: '\n' :: rest => [] :: splitLines rest
  | c :: rest =>
    if c = '\n' then [] :: splitLines rest
    else match splitLines rest with
      | [] => [[c]]
      | line :: lines => (c :: line) :: lines

/-- From inside or outside of quotes, with the field read so far. -/
@[grind] def parseCsvLineFrom : Text → Text → Bool → List Text
  | current,'"' :: '"' :: rest,true => parseCsvLineFrom (current ++ ['"']) rest true
  | current,c :: rest,true =>
    if c = '"' then parseCsvLineFrom current rest false else parseCsvLineFrom (current ++ [c]) rest true
  | current,c :: rest,false =>
    if c = '"' then parseCsvLineFrom current rest true
    else if c = ',' then current :: parseCsvLineFrom [] rest false
    else parseCsvLineFrom (current ++ [c]) rest false
  | current,[],_ => [current]

def parseCsvLine (line : Text) : List Text := parseCsvLineFrom [] line false

/-- Empty lines and comments. -/
def isSkipped (trimmed : Text) : Bool := trimmed.isEmpty || trimmed.head? = some '#'

def cell (headers : List Text) (values : List Text) (header : Text) : Text := (values[headers.idxOf header]?).getD []

def rowOf (headers : List Text) (values : List Text) : ParsedRow where
  studentNumber := cell headers values "student_number".toList
  studentName := cell headers values "student_name".toList
  className := cell headers values "class_name".toList
  status := cell headers values "status".toList

@[grind] def parseRows (headers : List Text) : List Text → List ParsedRow
  | [] => []
  | line :: lines =>
    if isSkipped (trim line) then parseRows headers lines
    else rowOf headers (parseCsvLine (trim line)) :: parseRows headers lines

@[grind] def parseLines : List Text → Except ParseError (List ParsedRow)
  | [] => .error .noHeaderRow
  | line :: lines =>
    if isSkipped (trim line) then parseLines lines
    else
      let headers := (parseCsvLine (trim line)).map fun h => toLowerCase (trim h)
      let missing := expectedHeaders.filter fun h => !headers.contains h
      if missing ≠ [] then .error (.missingColumns missing) else .ok (parseRows headers lines)

def parseCsv (content : Text) : Except ParseError (List ParsedRow) := parseLines (splitLines content)

def doubleQuotes (value : Text) : Text := value.flatMap fun c => if c = '"' then ['"','"'] else [c]

def escapeCsvField (value : Text) : Text :=
  if value.contains ',' || value.contains '"' || value.contains '\n' then '"' :: (doubleQuotes value ++ ['"']) else value

def headerLine : Text := List.intercalate [','] expectedHeaders

def encodeRow (r : ParsedRow) : Text :=
  escapeCsvField r.studentNumber ++ ',' :: (escapeCsvField r.studentName ++ ',' ::
    (escapeCsvField r.className ++ ',' :: escapeCsvField r.status))

/-- The header line followed by the rows, each on a line of its own. -/
def document (rows : List ParsedRow) : Text := headerLine ++ rows.flatMap fun r => '\n' :: encodeRow r

/-! ## Which rows come back -/

def Quoted (value : Text) : Prop := ',' ∈ value ∨ '"' ∈ value

/-- No field breaks the line. -/
def OneLine (r : ParsedRow) : Prop :=
  '\n' ∉ r.studentNumber ∧ '\n' ∉ r.studentName ∧ '\n' ∉ r.className ∧ '\n' ∉ r.status

/-- The row stands on one line. The first field is quoted or starts with what is neither trimmed nor takes the row for a
comment, and the last one is quoted or does not end with what is trimmed. -/
structure Readable (r : ParsedRow) : Prop where
  oneLine : OneLine r
  start : Quoted r.studentNumber ∨ ∀ c, r.studentNumber.head? = some c → isWhiteSpace c = false ∧ c ≠ '#'
  ending : Quoted r.status ∨ ∀ c, r.status.getLast? = some c → isWhiteSpace c = false

/-! ## Fields -/

section
variable {value rest : Text}

instance (value : Text) : Decidable (Quoted value) := inferInstanceAs (Decidable (_ ∨ _))

theorem escapeCsvField_quoted (h : Quoted value) : escapeCsvField value = '"' :: (doubleQuotes value ++ ['"']) := by
  rw [escapeCsvField,if_pos]
  rcases h with h | h <;> simp [h]

theorem escapeCsvField_plain (h : ¬ Quoted value) (hline : '\n' ∉ value) : escapeCsvField value = value := by
  obtain ⟨hcomma,hquote⟩ := not_or.mp h
  rw [escapeCsvField,if_neg]
  simp [hcomma,hquote,hline]

theorem parseCsvLineFrom_plain (hvalue : ¬ Quoted value) (current : Text) :
    parseCsvLineFrom current (value ++ rest) false = parseCsvLineFrom (current ++ value) rest false := by
  induction value generalizing current with
  | nil => simp
  | cons c value ih =>
    simp only [Quoted,List.mem_cons,not_or] at hvalue
    rw [List.cons_append,parseCsvLineFrom,if_neg (Ne.symm hvalue.2.1),if_neg (Ne.symm hvalue.1.1),
      ih (not_or.mpr ⟨hvalue.1.2,hvalue.2.2⟩),List.append_assoc,List.singleton_append]

/-- Inside the quotes, up to the quote that closes them. -/
theorem parseCsvLineFrom_doubleQuotes (hrest : rest.head? ≠ some '"') (current : Text) :
    parseCsvLineFrom current (doubleQuotes value ++ '"' :: rest) true =
      parseCsvLineFrom (current ++ value) rest false := by
  induction value generalizing current with
  | nil =>
    rw [doubleQuotes,List.flatMap_nil,List.nil_append,List.append_nil]
    cases rest with
    | nil => rfl
    | cons c rest =>
      have hc : c ≠ '"' := fun h => hrest (by simp [h])
      rw [parseCsvLineFrom]
      · rfl
      · intro rest' _ h
        exact hc (List.cons.inj h).1
  | cons c value ih =>
    by_cases hc : c = '"'
    · subst hc
      change parseCsvLineFrom current ('"' :: '"' :: (doubleQuotes value ++ '"' :: rest)) true = _
      rw [parseCsvLineFrom,ih,List.append_assoc,List.singleton_append]
    · have hstep : doubleQuotes (c :: value) = c :: doubleQuotes value := by simp [doubleQuotes,hc]
      rw [hstep,List.cons_append,parseCsvLineFrom,if_neg hc,ih,List.append_assoc,List.singleton_append]
      intro _ h
      exact absurd h hc

theorem parseCsvLineFrom_escape (hline : '\n' ∉ value) (hrest : rest.head? ≠ some '"') :
    parseCsvLineFrom [] (escapeCsvField value ++ rest) false = parseCsvLineFrom value rest false := by
  by_cases hquoted : Quoted value
  · rw [escapeCsvField_quoted hquoted,List.cons_append,List.append_assoc,List.singleton_append,parseCsvLineFrom,
      if_pos rfl,parseCsvLineFrom_doubleQuotes hrest,List.nil_append]
  · rw [escapeCsvField_plain hquoted hline,parseCsvLineFrom_plain hquoted,List.nil_append]

/-- What is read was in the line. -/
theorem mem_of_mem_parseCsvLineFrom {current line field : Text} {inQuotes : Bool} {c : Char}
    (hfield : field ∈ parseCsvLineFrom current line inQuotes) (hc : c ∈ field) : c ∈ current ∨ c ∈ line := by
  induction current,line,inQuotes using parseCsvLineFrom.induct with
  | case1 current rest ih =>
    rw [parseCsvLineFrom] at hfield
    rcases ih hfield with h | h
    · rcases List.mem_append.mp h with h | h
      · exact .inl h
      · exact .inr (List.mem_cons.mpr (.inl (List.mem_singleton.mp h)))
    · exact .inr (by simp [h])
  | case2 current rest hnot ih =>
    rw [parseCsvLineFrom,if_pos rfl] at hfield
    · exact (ih hfield).imp_right (List.mem_cons_of_mem _)
    · exact hnot
  | case3 current a rest hnot ha ih =>
    rw [parseCsvLineFrom,if_neg ha] at hfield
    · rcases ih hfield with h | h
      · rcases List.mem_append.mp h with h | h
        · exact .inl h
        · exact .inr (List.mem_cons.mpr (.inl (List.mem_singleton.mp h)))
      · exact .inr (List.mem_cons_of_mem _ h)
    · exact hnot
  | case4 current rest ih =>
    rw [parseCsvLineFrom,if_pos rfl] at hfield
    exact (ih hfield).imp_right (List.mem_cons_of_mem _)
  | case5 current rest hne ih =>
    rw [parseCsvLineFrom,if_neg hne,if_pos rfl] at hfield
    rcases List.mem_cons.mp hfield with rfl | hfield
    · exact .inl hc
    · exact .inr ((ih hfield).elim (fun h => (by cases h)) (List.mem_cons_of_mem _))
  | case6 current a rest hquote hcomma ih =>
    rw [parseCsvLineFrom,if_neg hquote,if_neg hcomma] at hfield
    rcases ih hfield with h | h
    · rcases List.mem_append.mp h with h | h
      · exact .inl h
      · exact .inr (List.mem_cons.mpr (.inl (List.mem_singleton.mp h)))
    · exact .inr (List.mem_cons_of_mem _ h)
  | case7 current inQuotes =>
    rw [parseCsvLineFrom] at hfield
    · rw [List.mem_singleton.mp hfield] at hc
      exact .inl hc

theorem mem_escapeCsvField {c : Char} (hc : c ∈ escapeCsvField value) : c = '"' ∨ c ∈ value := by
  rw [escapeCsvField] at hc
  split at hc
  · simp only [doubleQuotes,List.mem_cons,List.mem_append,List.mem_flatMap,List.not_mem_nil,or_false] at hc
    obtain rfl | ⟨a,ha,hca⟩ | rfl := hc
    · exact .inl rfl
    · split at hca
      · exact .inl (by simpa using hca)
      · exact .inr (List.mem_singleton.mp hca ▸ ha)
    · exact .inl rfl
  · exact .inr hc

theorem newline_notMem_escapeCsvField (hline : '\n' ∉ value) : '\n' ∉ escapeCsvField value :=
  fun h => (mem_escapeCsvField h).elim (by decide) hline

end

/-! ## Lines -/

section
variable {line rest : Text}

theorem splitLines_cons {c : Char} (hc : c ≠ '\n') (hreturn : c ≠ '\r' ∨ rest.head? ≠ some '\n') {first : Text}
    {lines : List Text} (hrest : splitLines rest = first :: lines) : splitLines (c :: rest) = (c :: first) :: lines := by
  rw [splitLines.eq_3,if_neg hc,hrest]
  rintro tail rfl rfl
  simp at hreturn

/-- A line as it is cut off, without the carriage return at its end. -/
theorem splitLines_append (hline : '\n' ∉ line) : ∃ first, (line = first ∨ line = first ++ ['\r']) ∧
    splitLines (line ++ '\n' :: rest) = first :: splitLines rest := by
  induction line with
  | nil => exact ⟨[],.inl rfl,by rw [List.nil_append,splitLines.eq_3,if_pos rfl]; simp⟩
  | cons c line ih =>
    simp only [List.mem_cons,not_or] at hline
    obtain ⟨first,hfirst,hsplit⟩ := ih hline.2
    by_cases hreturn : c = '\r' ∧ line = []
    · obtain ⟨rfl,rfl⟩ := hreturn
      exact ⟨[],.inr rfl,rfl⟩
    · refine ⟨c :: first,?_,splitLines_cons (Ne.symm hline.1) ?_ hsplit⟩
      · rcases hfirst with rfl | rfl
        · exact .inl rfl
        · exact .inr rfl
      · refine (not_and_or.mp hreturn).imp_right fun hne => ?_
        obtain ⟨a,line,rfl⟩ := List.exists_cons_of_ne_nil hne
        simp only [List.mem_cons,not_or] at hline
        simpa using Ne.symm hline.2.1

theorem splitLines_single (hline : '\n' ∉ line) : splitLines line = [line] := by
  induction line with
  | nil => rfl
  | cons c line ih =>
    simp only [List.mem_cons,not_or] at hline
    refine splitLines_cons (Ne.symm hline.1) (.inr fun h => hline.2 (List.mem_of_head? h)) (ih hline.2)

theorem newline_notMem_of_mem_splitLines {text : Text} (hline : line ∈ splitLines text) : '\n' ∉ line := by
  induction text using splitLines.induct generalizing line with
  | case1 => simp [List.mem_singleton.mp hline]
  | case2 rest ih =>
    rcases List.mem_cons.mp hline with rfl | hline
    · simp
    · exact ih hline
  | case3 rest hnot ih =>
    rw [splitLines.eq_3 _ _ hnot,if_pos rfl] at hline
    rcases List.mem_cons.mp hline with rfl | hline
    · simp
    · exact ih hline
  | case4 c rest hnot hc hnil ih =>
    rw [splitLines.eq_3 _ _ hnot,if_neg hc,hnil] at hline
    simpa [List.mem_singleton.mp hline] using Ne.symm hc
  | case5 c rest hnot hc first lines hsplit ih =>
    rw [splitLines.eq_3 _ _ hnot,if_neg hc,hsplit] at hline
    rcases List.mem_cons.mp hline with rfl | hline
    · simpa [Ne.symm hc] using ih (hsplit ▸ List.mem_cons_self)
    · exact ih (hsplit ▸ List.mem_cons_of_mem _ hline)

theorem trim_append_return (line : Text) : trim (line ++ ['\r']) = trim line := by
  have hreturn : isWhiteSpace '\r' = true := by decide
  rw [trim,trim,List.dropWhile_append]
  split
  case isTrue hempty => simp [List.isEmpty_iff.mp hempty,hreturn]
  case isFalse => rw [List.rdropWhile_concat_pos _ _ _ hreturn]

theorem newline_notMem_encodeRow {r : ParsedRow}
    (hline : OneLine r) :
    '\n' ∉ encodeRow r := by
  simp [encodeRow,newline_notMem_escapeCsvField hline.1,newline_notMem_escapeCsvField hline.2.1,
    newline_notMem_escapeCsvField hline.2.2.1,newline_notMem_escapeCsvField hline.2.2.2]

/-- Rows without line feeds stand on a line each. -/
theorem trim_splitLines_rows {rows : List ParsedRow} (hline : '\n' ∉ line)
    (hrows : ∀ r ∈ rows, '\n' ∉ encodeRow r) :
    (splitLines (line ++ rows.flatMap fun r => '\n' :: encodeRow r)).map trim =
      trim line :: rows.map fun r => trim (encodeRow r) := by
  induction rows generalizing line with
  | nil => rw [List.flatMap_nil,List.append_nil,splitLines_single hline]; rfl
  | cons r rows ih =>
    rw [List.forall_mem_cons] at hrows
    rw [List.flatMap_cons,List.cons_append]
    obtain ⟨first,hfirst,hsplit⟩ :=
      @splitLines_append line (encodeRow r ++ rows.flatMap fun r => '\n' :: encodeRow r) hline
    have htrim : trim first = trim line := by
      rcases hfirst with rfl | rfl
      · rfl
      · exact (trim_append_return first).symm
    rw [hsplit,List.map_cons,ih hrows.1 hrows.2,htrim,List.map_cons]

end

/-! ## What is read -/

section
variable {headers : List Text} {rows : List ParsedRow} {r : ParsedRow}

/-- One trimmed line under the headers. -/
def readRow (headers : List Text) (trimmed : Text) : Option ParsedRow :=
  if isSkipped trimmed then none else some (rowOf headers (parseCsvLine trimmed))

theorem parseRows_eq (lines : List Text) : parseRows headers lines = (lines.map trim).filterMap (readRow headers) := by
  induction lines with
  | nil => rfl
  | cons line lines ih =>
    rw [parseRows,List.map_cons,List.filterMap_cons,readRow]
    split
    · exact ih
    · rw [ih]

theorem mem_of_mem_cell {values : List Text} {header : Text} {c : Char} (hc : c ∈ cell headers values header) :
    ∃ field ∈ values, c ∈ field := by
  rw [cell] at hc
  cases hvalue : values[headers.idxOf header]? with
  | none => simp [hvalue] at hc
  | some field => exact ⟨field,List.mem_of_getElem? hvalue,by simpa [hvalue] using hc⟩

theorem mem_of_mem_trim {text : Text} {c : Char} (hc : c ∈ trim text) : c ∈ text :=
  (List.dropWhile_sublist _).subset ((List.rdropWhile_prefix _ _).subset hc)

/-- A row has its characters from one line. -/
theorem oneLine_of_mem_parseRows {lines : List Text} (hlines : ∀ line ∈ lines, '\n' ∉ line)
    (hr : r ∈ parseRows headers lines) :
    OneLine r := by
  rw [parseRows_eq,List.mem_filterMap] at hr
  obtain ⟨trimmed,htrimmed,hread⟩ := hr
  obtain ⟨line,hline,rfl⟩ := List.mem_map.mp htrimmed
  have hcell (header : Text) : '\n' ∉ cell headers (parseCsvLine (trim line)) header := by
    intro hc
    obtain ⟨field,hfield,hc⟩ := mem_of_mem_cell hc
    rcases mem_of_mem_parseCsvLineFrom hfield hc with h | h
    · cases h
    · exact hlines line hline (mem_of_mem_trim h)
  rw [readRow] at hread
  split at hread
  · cases hread
  · cases hread
    exact ⟨hcell _,hcell _,hcell _,hcell _⟩

theorem oneLine_of_mem_parseLines {lines : List Text} (hlines : ∀ line ∈ lines, '\n' ∉ line)
    (hparse : parseLines lines = .ok rows) (hr : r ∈ rows) :
    OneLine r := by
  induction lines with
  | nil => cases hparse
  | cons line lines ih =>
    rw [List.forall_mem_cons] at hlines
    rw [parseLines] at hparse
    split at hparse
    · exact ih hlines.2 hparse
    · dsimp only at hparse
      split at hparse
      · cases hparse
      · cases hparse
        exact oneLine_of_mem_parseRows hlines.2 hr

theorem parseLines_header {line : Text} {lines : List Text} (hheader : trim line = headerLine) :
    parseLines (line :: lines) = .ok (parseRows expectedHeaders lines) := by
  have hskip : isSkipped headerLine = false := by decide
  have hheaders : (parseCsvLine headerLine).map (fun h => toLowerCase (trim h)) = expectedHeaders := by decide
  have hmissing : (expectedHeaders.filter fun h => !expectedHeaders.contains h) = [] := by decide
  rw [parseLines,hheader,hskip]
  simp only [Bool.false_eq_true,if_false,hheaders,hmissing,ne_eq,not_true_eq_false]

theorem parseCsv_document (hrows : ∀ r ∈ rows, '\n' ∉ encodeRow r) :
    parseCsv (document rows) = .ok (rows.filterMap fun r => readRow expectedHeaders (trim (encodeRow r))) := by
  have hlines := trim_splitLines_rows (by decide : '\n' ∉ headerLine) hrows
  rw [parseCsv,document]
  obtain ⟨line,lines,hsplit⟩ : ∃ line lines, splitLines (headerLine ++ rows.flatMap fun r => '\n' :: encodeRow r) =
      line :: lines := by
    cases hsplit : splitLines (headerLine ++ rows.flatMap fun r => '\n' :: encodeRow r) with
    | nil => simp [hsplit] at hlines
    | cons line lines => exact ⟨line,lines,rfl⟩
  rw [hsplit,List.map_cons,List.cons.injEq] at hlines
  rw [hsplit,parseLines_header (hlines.1.trans (by decide)),parseRows_eq,hlines.2,List.filterMap_map]
  rfl

/-- The number is trimmed from the left and the status from the right, unless they are quoted. -/
def trimEnds (r : ParsedRow) : ParsedRow :=
  { r with
    studentNumber := if Quoted r.studentNumber then r.studentNumber else r.studentNumber.dropWhile isWhiteSpace
    status := if Quoted r.status then r.status else r.status.rdropWhile isWhiteSpace }

theorem oneLine_trimEnds (hline : OneLine r) : OneLine (trimEnds r) := by
  refine ⟨?_,hline.2.1,hline.2.2.1,?_⟩
  · change '\n' ∉ if Quoted r.studentNumber then r.studentNumber else r.studentNumber.dropWhile isWhiteSpace
    split
    · exact hline.1
    · exact fun h => hline.1 ((List.dropWhile_sublist _).subset h)
  · change '\n' ∉ if Quoted r.status then r.status else r.status.rdropWhile isWhiteSpace
    split
    · exact hline.2.2.2
    · exact fun h => hline.2.2.2 ((List.rdropWhile_prefix _ _).subset h)

theorem quoted_mono {value part : Text} (hsub : part ⊆ value) (h : ¬ Quoted value) : ¬ Quoted part :=
  fun hpart => h (hpart.imp (fun h => hsub h) fun h => hsub h)

theorem dropWhile_escapeCsvField {value : Text} (hline : '\n' ∉ value) :
    (escapeCsvField value).dropWhile isWhiteSpace =
      escapeCsvField (if Quoted value then value else value.dropWhile isWhiteSpace) := by
  have hquote : isWhiteSpace '"' = false := by decide
  split
  case isTrue h => rw [escapeCsvField_quoted h,List.dropWhile_cons_of_neg (by simp [hquote])]
  case isFalse h =>
    have hsub : value.dropWhile isWhiteSpace ⊆ value := (List.dropWhile_sublist _).subset
    rw [escapeCsvField_plain h hline,escapeCsvField_plain (quoted_mono hsub h) fun hc => hline (hsub hc)]

theorem rdropWhile_escapeCsvField {value : Text} (hline : '\n' ∉ value) :
    (escapeCsvField value).rdropWhile isWhiteSpace =
      escapeCsvField (if Quoted value then value else value.rdropWhile isWhiteSpace) := by
  have hquote : isWhiteSpace '"' = false := by decide
  split
  case isTrue h =>
    rw [escapeCsvField_quoted h,← List.cons_append,List.rdropWhile_concat_neg _ _ _ (by simp [hquote])]
  case isFalse h =>
    have hsub : value.rdropWhile isWhiteSpace ⊆ value := (List.rdropWhile_prefix _ _).subset
    rw [escapeCsvField_plain h hline,escapeCsvField_plain (quoted_mono hsub h) fun hc => hline (hsub hc)]

/-- A comma stops what is cut from the right. -/
theorem rdropWhile_comma {left right : Text} : (left ++ ',' :: right).rdropWhile isWhiteSpace =
    left ++ ',' :: right.rdropWhile isWhiteSpace := by
  have hcomma : isWhiteSpace ',' = false := by decide
  rw [List.rdropWhile,List.reverse_append,List.reverse_cons,List.append_assoc,List.dropWhile_append]
  split
  case isTrue hempty =>
    rw [List.rdropWhile,List.isEmpty_iff.mp hempty,List.singleton_append,List.dropWhile_cons_of_neg (by simp [hcomma])]
    simp
  case isFalse =>
    rw [List.rdropWhile]
    simp

theorem dropWhile_comma {left right : Text} : (left ++ ',' :: right).dropWhile isWhiteSpace =
    left.dropWhile isWhiteSpace ++ ',' :: right := by
  have hcomma : isWhiteSpace ',' = false := by decide
  rw [List.dropWhile_append]
  split
  case isTrue hempty => rw [List.isEmpty_iff.mp hempty,List.dropWhile_cons_of_neg (by simp [hcomma]),List.nil_append]
  case isFalse => rfl

theorem trim_encodeRow (hline : OneLine r) : trim (encodeRow r) = encodeRow (trimEnds r) := by
  rw [encodeRow,trim,dropWhile_comma,rdropWhile_comma,rdropWhile_comma,rdropWhile_comma,
    dropWhile_escapeCsvField hline.1,rdropWhile_escapeCsvField hline.2.2.2]
  rfl

theorem parseCsvLine_encodeRow
    (hline : OneLine r) :
    parseCsvLine (encodeRow r) = [r.studentNumber,r.studentName,r.className,r.status] := by
  have hstep (field rest : Text) :
      parseCsvLineFrom field (',' :: rest) false = field :: parseCsvLineFrom [] rest false := by
    rw [parseCsvLineFrom,if_neg (by decide),if_pos rfl]
  have hlast : parseCsvLineFrom [] (escapeCsvField r.status) false = [r.status] := by
    have h := @parseCsvLineFrom_escape r.status [] hline.2.2.2 (by simp)
    rw [List.append_nil] at h
    rw [h,parseCsvLineFrom]
  rw [parseCsvLine,encodeRow,parseCsvLineFrom_escape hline.1 (by simp),hstep,parseCsvLineFrom_escape hline.2.1 (by simp),
    hstep,parseCsvLineFrom_escape hline.2.2.1 (by simp),hstep,hlast]

theorem rowOf_encodeRow
    (hline : OneLine r) :
    rowOf expectedHeaders (parseCsvLine (encodeRow r)) = r := by
  rw [parseCsvLine_encodeRow hline]
  rfl

theorem isSkipped_encodeRow (hline : OneLine r) :
    isSkipped (encodeRow r) = true ↔ ¬ Quoted r.studentNumber ∧ r.studentNumber.head? = some '#' := by
  have hempty : (encodeRow r).isEmpty = false := by
    rw [encodeRow]
    cases escapeCsvField r.studentNumber <;> rfl
  rw [isSkipped,hempty,Bool.false_or,decide_eq_true_iff,encodeRow]
  by_cases h : Quoted r.studentNumber
  · simp [escapeCsvField_quoted h,h]
  · rw [escapeCsvField_plain h hline.1,eq_true h,true_and]
    cases r.studentNumber with
    | nil => simp
    | cons c number => simp

theorem dropWhile_eq_self {value : Text} : value.dropWhile isWhiteSpace = value ↔
    ∀ c, value.head? = some c → isWhiteSpace c = false := by
  rw [List.dropWhile_eq_self_iff]
  cases value <;> simp

theorem rdropWhile_eq_self {value : Text} : value.rdropWhile isWhiteSpace = value ↔
    ∀ c, value.getLast? = some c → isWhiteSpace c = false := by
  rw [List.rdropWhile,List.reverse_eq_iff,dropWhile_eq_self]
  simp

theorem trimEnds_eq_self : trimEnds r = r ↔
    (Quoted r.studentNumber ∨ r.studentNumber.dropWhile isWhiteSpace = r.studentNumber) ∧
      (Quoted r.status ∨ r.status.rdropWhile isWhiteSpace = r.status) := by
  obtain ⟨number,name,className,status⟩ := r
  simp only [trimEnds,ParsedRow.mk.injEq,true_and]
  refine and_congr ?_ ?_
  · split <;> simp [*]
  · split <;> simp [*]

/-- The line of a row is read back as the row exactly when trimming leaves it alone and it is no comment. -/
theorem readRow_encodeRow (hline : OneLine r) :
    readRow expectedHeaders (trim (encodeRow r)) = some r ↔ Readable r := by
  have htrimmed := oneLine_trimEnds hline
  rw [trim_encodeRow hline,readRow,rowOf_encodeRow htrimmed]
  have hread : (if isSkipped (encodeRow (trimEnds r)) then none else some (trimEnds r)) = some r ↔
      trimEnds r = r ∧ isSkipped (encodeRow r) = false := by
    constructor
    · intro h
      split at h
      case isTrue => cases h
      case isFalse hskip =>
        have hself := Option.some.inj h
        exact ⟨hself,by simpa [hself] using hskip⟩
    · rintro ⟨hself,hskip⟩
      rw [hself,hskip]
      rfl
  rw [hread,trimEnds_eq_self,← Bool.not_eq_true,isSkipped_encodeRow hline,dropWhile_eq_self,rdropWhile_eq_self]
  constructor
  · rintro ⟨⟨hnumber,hstatus⟩,hskip⟩
    refine ⟨hline,?_,hstatus⟩
    by_cases hquoted : Quoted r.studentNumber
    · exact .inl hquoted
    · refine .inr fun c hc => ⟨hnumber.resolve_left hquoted c hc,?_⟩
      rintro rfl
      exact hskip ⟨hquoted,hc⟩
  · intro h
    refine ⟨⟨h.start.imp_right fun h c hc => (h c hc).1,h.ending⟩,?_⟩
    rintro ⟨hquoted,hc⟩
    exact ((h.start.resolve_left hquoted) '#' hc).2 rfl

theorem filterMap_eq_self {α : Type} {g : α → Option α} {rows : List α} :
    rows.filterMap g = rows ↔ ∀ r ∈ rows, g r = some r := by
  induction rows with
  | nil => simp
  | cons r rows ih =>
    rw [List.filterMap_cons,List.forall_mem_cons,← ih]
    cases hr : g r with
    | none =>
      have hshort := List.length_filterMap_le g rows
      simp only [reduceCtorEq,false_and,iff_false]
      intro h
      rw [h,List.length_cons] at hshort
      omega
    | some r' => simp

end

/-! ## Round trip -/

/-- The rows of a document come back exactly when each of them is readable. -/
theorem parseCsv_document_iff (rows : List ParsedRow) :
    parseCsv (document rows) = .ok rows ↔ ∀ r ∈ rows, Readable r := by
  have hread (hlines : ∀ r ∈ rows, OneLine r) :
      parseCsv (document rows) = .ok rows ↔ ∀ r ∈ rows, Readable r := by
    rw [parseCsv_document fun r hr => newline_notMem_encodeRow (hlines r hr),Except.ok.injEq,filterMap_eq_self]
    exact forall₂_congr fun r hr => readRow_encodeRow (hlines r hr)
  constructor
  · intro h
    exact (hread fun r hr => oneLine_of_mem_parseLines (fun _ => newline_notMem_of_mem_splitLines) h hr).mp h
  · intro h
    exact (hread fun r hr => (h r hr).oneLine).mpr h

/-- A name over two lines comes back cut in two rows. -/
theorem not_parseCsv_document : ¬ ∀ rows, parseCsv (document rows) = .ok rows := by
  intro h
  exact absurd (h [⟨"S1".toList,"Ana\nBo".toList,"1A".toList,"P".toList⟩]) (by decide)

end EduPod.Attendance
