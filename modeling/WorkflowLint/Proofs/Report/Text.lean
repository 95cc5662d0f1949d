import WorkflowLint.Proofs.Report.Lines
import WorkflowLint.Proofs.Report.Pushes
import WorkflowLint.Proofs.Rules.Codes
import WorkflowLint.Report.Text

/-!
# The lines of a report as text

The text of a report is read a line at a time: a line that begins with two blanks and a bracket is the
headline of a finding, and the lines behind it are its detail, up to the next headline or the empty
line at the end of its section (`findingsIn`). What is read so is what the report says
(`Report.Faithful`) exactly if no title and no description has a line feed (`Report.faithful_iff`).
-/

set_option autoImplicit false

namespace WorkflowLint

open Markup

/-- The lines of a text, each ended by a line feed. -/
def printedLines (text : String) : List String :=
  (text.toList.splitOn '\n').dropLast.map String.ofList

/-- The line is where the text of a finding begins. -/
def isHeadline (line : String) : Bool := "  [".toList.isPrefixOf line.toList

/-- The line may be part of a detail. -/
def mayBeDetail (line : String) : Bool := !isHeadline line && line != ""

/-- The headlines among the lines, each with the lines of its detail. -/
def findingsIn : List String → List (String × List String)
  | [] => []
  | line :: rest =>
    if isHeadline line then (line, rest.takeWhile mayBeDetail) :: findingsIn rest
    else findingsIn rest

namespace Finding

/-- The line that begins the text of a finding, with all names of severities equally wide. -/
def headlineText (f : Finding) : String :=
  let severity := match f.severity with
    | .success => "success"
    | .info => "info   "
    | .warning => "warning"
    | .error => "error  "
  "  [" ++ severity ++ "] " ++ f.code ++ " " ++ f.title ++ ": " ++ f.description

/-- The lines of the detail behind it, each of them indented by fourteen blanks. -/
def detailText (f : Finding) : List String :=
  match f.moreInfo with
  | some text => (Text.lines text).map fun line => String.ofList (List.replicate 14 ' ') ++ line
  | none => []

end Finding

/-- The findings of the report are read from its text, all of them, nothing else and in order. -/
structure Report.Faithful (r : Report) : Prop where
  read : findingsIn (printedLines r.text) =
    r.toList.map fun p => (p.2.headlineText, p.2.detailText)
  counted : (printedLines r.text).countP isHeadline = r.summary.total

/-! ### Lines -/

theorem printedLines_ofLines {lines : List String} (h : ∀ line ∈ lines, OneLine line) :
    printedLines (ofLines lines) = lines := by
  induction lines with
  | nil => rfl
  | cons line rest ih =>
    obtain ⟨here, others⟩ := List.forall_mem_cons.1 h
    have split : (ofLines (line :: rest)).toList.splitOn '\n' =
        line.toList :: (ofLines rest).toList.splitOn '\n' := by
      rw [toList_ofLines_cons]
      exact List.splitOn_append_cons_self_of_not_mem here _
    have tail := ih others
    unfold printedLines at tail ⊢
    rw [split, List.dropLast_cons_of_ne_nil (List.splitOn_ne_nil _ _), List.map_cons, tail,
      String.ofList_toList]

theorem not_mem_of_mem_splitOn {cs part : List Char} (h : part ∈ cs.splitOn '\n') : '\n' ∉ part := by
  induction cs generalizing part with
  | nil =>
    rw [List.splitOn_nil, List.mem_singleton] at h
    rw [h]
    exact List.not_mem_nil
  | cons c cs ih =>
    rw [List.splitOn_cons_eq_if_modifyHead] at h
    split at h
    · rcases List.mem_cons.1 h with rfl | h
      · exact List.not_mem_nil
      · exact ih h
    · next other =>
      have feed : '\n' ≠ c := fun e => other (beq_iff_eq.2 e.symm)
      cases pieces : cs.splitOn '\n' with
      | nil => exact absurd pieces (List.splitOn_ne_nil _ _)
      | cons first more =>
        rw [pieces, List.modifyHead_cons] at h
        rw [pieces] at ih
        rcases List.mem_cons.1 h with rfl | h
        · rw [List.mem_cons, not_or]
          exact ⟨feed, ih List.mem_cons_self⟩
        · exact ih (List.mem_cons_of_mem _ h)

theorem oneLine_of_mem_printedLines {text line : String} (h : line ∈ printedLines text) :
    OneLine line := by
  obtain ⟨part, mem, rfl⟩ := List.mem_map.1 h
  rw [OneLine, String.toList_ofList]
  exact not_mem_of_mem_splitOn (List.dropLast_subset _ mem)

/-! ### Headlines -/

theorem Finding.textEntry_eq_headlineText (f : Finding) : f.textEntry = f.headlineText := by
  have padded : f.severity.padded = match f.severity with
      | .success => "success"
      | .info => "info   "
      | .warning => "warning"
      | .error => "error  " := by
    cases f.severity <;> decide
  rw [textEntry, padded, headlineText]

theorem Finding.detailEntries_eq_detailText (f : Finding) : f.detailEntries = f.detailText := by
  have blanks : "              " = String.ofList (List.replicate 14 ' ') := by decide
  unfold detailEntries detailText
  cases f.moreInfo with
  | none => rfl
  | some text => simp only [blanks]

theorem countP_isHeadline (lines : List String) :
    lines.countP isHeadline = (findingsIn lines).length := by
  induction lines with
  | nil => rfl
  | cons line rest ih =>
    rw [List.countP_cons, findingsIn, ih]
    split <;> simp

theorem mem_of_mem_findingsIn {lines : List String} {found : String × List String}
    (h : found ∈ findingsIn lines) : found.1 ∈ lines := by
  induction lines with
  | nil => cases h
  | cons line rest ih =>
    rw [findingsIn] at h
    split at h
    · rcases List.mem_cons.1 h with rfl | h
      · exact List.mem_cons_self
      · exact List.mem_cons_of_mem _ (ih h)
    · exact List.mem_cons_of_mem _ (ih h)

theorem findingsIn_append {lines : List String} (h : ∀ line ∈ lines, isHeadline line = false)
    (rest : List String) : findingsIn (lines ++ rest) = findingsIn rest := by
  induction lines with
  | nil => rfl
  | cons line lines ih =>
    obtain ⟨here, others⟩ := List.forall_mem_cons.1 h
    rw [List.cons_append, findingsIn, if_neg (by simp [here]), ih others]

theorem isHeadline_textEntry (f : Finding) : isHeadline f.textEntry = true := by
  rw [isHeadline, List.isPrefixOf_iff_prefix, Finding.textEntry]
  simp only [String.append_assoc, String.toList_append]
  exact List.prefix_append _ _

theorem mayBeDetail_of_mem {f : Finding} {line : String} (h : line ∈ f.detailEntries) :
    mayBeDetail line = true := by
  unfold Finding.detailEntries at h
  cases more : f.moreInfo with
  | none =>
    rw [more] at h
    cases h
  | some text =>
    rw [more] at h
    obtain ⟨line, -, rfl⟩ := List.mem_map.1 h
    have blank : isHeadline ("              " ++ line) = false := by
      rw [isHeadline, String.toList_append]
      rfl
    have indented : "              " ++ line ≠ "" := by simp
    simp [mayBeDetail, blank, indented]

theorem isHeadline_of_mayBeDetail {line : String} (h : mayBeDetail line = true) :
    isHeadline line = false := by
  rw [mayBeDetail, Bool.and_eq_true, Bool.not_eq_true'] at h
  exact h.1

/-! ### Sections -/

/-- The lines of findings, and what is behind the empty line that ends their section. -/
def findingEntries (findings : List Finding) (rest : List String) : List String :=
  findings.flatMap (fun f => f.textEntry :: f.detailEntries) ++ "" :: rest

theorem takeWhile_findingEntries (findings : List Finding) (rest : List String) :
    (findingEntries findings rest).takeWhile mayBeDetail = [] := by
  cases findings with
  | nil => exact List.takeWhile_cons_of_neg (by decide)
  | cons f findings =>
    exact List.takeWhile_cons_of_neg (by simp [mayBeDetail, isHeadline_textEntry])

theorem findingsIn_findingEntries (findings : List Finding) (rest : List String) :
    findingsIn (findingEntries findings rest) =
      findings.map (fun f => (f.textEntry, f.detailEntries)) ++ findingsIn rest := by
  induction findings with
  | nil => rfl
  | cons f findings ih =>
    have split : findingEntries (f :: findings) rest =
        f.textEntry :: (f.detailEntries ++ findingEntries findings rest) := by
      simp [findingEntries]
    have detail : (f.detailEntries ++ findingEntries findings rest).takeWhile mayBeDetail =
        f.detailEntries := by
      rw [List.takeWhile_append_of_pos fun _ => mayBeDetail_of_mem, takeWhile_findingEntries,
        List.append_nil]
    have others := findingsIn_append (fun line h => isHeadline_of_mayBeDetail
      (mayBeDetail_of_mem (f := f) h)) (findingEntries findings rest)
    rw [split, findingsIn, if_pos (isHeadline_textEntry f), detail, others, ih, List.map_cons,
      List.cons_append]

theorem isHeadline_title (b : Bucket) : isHeadline b.title = false := by
  cases b <;> decide

theorem isHeadline_summary (s : Summary) : isHeadline s.text = false := by
  -- it begins with a digit
  rw [Bool.eq_false_iff, ne_eq, isHeadline, List.isPrefixOf_iff_prefix, Summary.text]
  simp only [String.append_assoc, String.toList_append, Nat.toString_eq_ofList_toDigits,
    String.toList_ofList]
  rintro ⟨back, begins⟩
  cases digits : Nat.toDigits 10 s.success with
  | nil => exact Nat.toDigits_ne_nil digits
  | cons c cs =>
    have digit : c.isDigit := Nat.isDigit_of_mem_toDigits (by decide) (by decide)
      (digits ▸ List.mem_cons_self)
    rw [digits] at begins
    have blank : ' ' = c := (List.cons.inj begins).1
    exact absurd (blank ▸ digit) (by decide)

namespace Report

/-- Read an entry at a time, the text of a report tells its findings. -/
theorem findingsIn_textEntries (r : Report) : findingsIn r.textEntries =
    r.nonEmptyBuckets.flatMap fun b =>
      (r.inBucket b).map fun f => (f.textEntry, f.detailEntries) := by
  have summary : findingsIn [r.summary.text] = [] := by
    rw [findingsIn, if_neg (by simp [isHeadline_summary]), findingsIn]
  rw [textEntries]
  induction r.nonEmptyBuckets with
  | nil => exact summary
  | cons b rest ih =>
    have split : (b :: rest).flatMap (fun b => b.textEntries (r.inBucket b)) ++ [r.summary.text] =
        b.title :: findingEntries (r.inBucket b)
          (rest.flatMap (fun b => b.textEntries (r.inBucket b)) ++ [r.summary.text]) := by
      simp [findingEntries, Bucket.textEntries]
    rw [split, findingsIn, if_neg (by simp [isHeadline_title]), findingsIn_findingEntries, ih,
      List.flatMap_cons]

end Report

/-! ### One line an entry -/

theorem not_mem_linesFrom {line cs : List Char} (h : '\n' ∉ line) :
    ∀ part ∈ Text.linesFrom line cs, '\n' ∉ part := by
  have closed {line : List Char} (h : '\n' ∉ line) : '\n' ∉ Text.closeLine line := by
    unfold Text.closeLine
    split
    · simpa using h
    · simpa using h
  induction cs generalizing line with
  | nil =>
    intro part mem
    rw [Text.linesFrom] at mem
    split at mem
    · cases mem
    · rw [List.mem_singleton.1 mem, List.mem_reverse]
      exact h
  | cons c cs ih =>
    intro part mem
    rw [Text.linesFrom] at mem
    split at mem
    · rcases List.mem_cons.1 mem with rfl | mem
      · exact closed h
      · exact ih List.not_mem_nil part mem
    · next other =>
      exact ih (List.not_mem_cons_of_ne_of_not_mem (Ne.symm other) h) part mem

theorem Finding.oneLine_detailEntries (f : Finding) : ∀ line ∈ f.detailEntries, OneLine line := by
  unfold detailEntries
  cases f.moreInfo with
  | none => exact fun _ mem => absurd mem List.not_mem_nil
  | some text =>
    intro line mem
    obtain ⟨detail, inText, rfl⟩ := List.mem_map.1 mem
    obtain ⟨part, cut, rfl⟩ := List.mem_map.1 inText
    refine oneLine_append.2 ⟨by decide, ?_⟩
    rw [OneLine, String.toList_ofList]
    exact not_mem_linesFrom List.not_mem_nil part cut

/-- The texts of the finding that stand on its headline have no line feed. -/
def Finding.OnOneLine (f : Finding) : Prop := OneLine f.title ∧ OneLine f.description

theorem Finding.oneLine_textEntry {f : Finding} (code : OneLine f.code) :
    OneLine f.textEntry ↔ f.OnOneLine := by
  have severity : OneLine f.severity.padded := by cases f.severity <;> decide
  have front : OneLine "  [" := by decide
  have back : OneLine "] " := by decide
  have blank : OneLine " " := by decide
  have colon : OneLine ": " := by decide
  simp [textEntry, oneLine_append, OnOneLine, severity, code, front, back, blank, colon]

namespace Report

/-- The entries of a report have one line each if its headlines do. -/
theorem oneLine_textEntries {r : Report}
    (headlines : ∀ b, ∀ f ∈ r.inBucket b, OneLine f.textEntry) :
    ∀ entry ∈ r.textEntries, OneLine entry := by
  have summary : OneLine r.summary.text := by
    simp only [Summary.text, oneLine_append, oneLine_toString, true_and]
    decide
  refine List.forall_mem_append.2 ⟨?_, List.forall_mem_singleton.2 summary⟩
  intro entry mem
  obtain ⟨b, -, mem⟩ := List.mem_flatMap.1 mem
  have title : OneLine b.title := by cases b <;> decide
  rcases List.mem_append.1 mem with mem | mem
  · rcases List.mem_cons.1 mem with rfl | mem
    · exact title
    · obtain ⟨f, hf, mem⟩ := List.mem_flatMap.1 mem
      rcases List.mem_cons.1 mem with rfl | mem
      · exact headlines b f hf
      · exact f.oneLine_detailEntries entry mem
  · rw [List.mem_singleton.1 mem]
    decide

/-- What is read entry by entry, for a report that was made from pushes. -/
theorem findingsIn_ofPushes (pushes : Pass) : findingsIn (ofPushes pushes).textEntries =
    (ofPushes pushes).toList.map fun p => (p.2.headlineText, p.2.detailText) := by
  have sections : (ofPushes pushes).toList = (ofPushes pushes).nonEmptyBuckets.flatMap fun b =>
      ((ofPushes pushes).inBucket b).map fun f => (b, f) := by
    rw [toList, sections_ofPushes, ← map_nonEmptyBuckets, Sections.toList, List.flatMap_map]
  rw [findingsIn_textEntries, sections, List.map_flatMap]
  simp only [List.map_map, Function.comp_def, Finding.textEntry_eq_headlineText,
    Finding.detailEntries_eq_detailText]

theorem mem_toList_ofPushes {pushes : Pass} {b : Bucket} {f : Finding} :
    (b, f) ∈ (ofPushes pushes).toList ↔ f ∈ (ofPushes pushes).inBucket b := by
  rw [(toList_ofPushes_perm pushes).mem_iff, inBucket_ofPushes, Pass.mem_inBucket]

/-- **A report is read from its text** exactly if its headlines stand on one line each. -/
theorem faithful_iff {pushes : Pass} (codes : ∀ b, ∀ f ∈ (ofPushes pushes).inBucket b, OneLine f.code) :
    (ofPushes pushes).Faithful ↔ ∀ p ∈ (ofPushes pushes).toList, p.2.OnOneLine := by
  constructor
  · rintro ⟨read, -⟩ ⟨b, f⟩ mem
    have code : OneLine f.code := codes b f (mem_toList_ofPushes.1 mem)
    have headline : (f.headlineText, f.detailText) ∈
        findingsIn (printedLines (ofPushes pushes).text) := by
      rw [read]
      exact List.mem_map.2 ⟨(b, f), mem, rfl⟩
    have printed := oneLine_of_mem_printedLines (mem_of_mem_findingsIn headline)
    rw [← f.textEntry_eq_headlineText] at printed
    exact (Finding.oneLine_textEntry code).1 printed
  · intro oneLine
    have entries := oneLine_textEntries fun b f hf =>
      (Finding.oneLine_textEntry (codes b f hf)).2 (oneLine (b, f) (mem_toList_ofPushes.2 hf))
    have printed : printedLines (ofPushes pushes).text = (ofPushes pushes).textEntries :=
      printedLines_ofLines entries
    refine ⟨?_, ?_⟩
    · rw [printed, findingsIn_ofPushes]
    · rw [countP_isHeadline, printed, findingsIn_ofPushes, List.length_map,
        (toList_ofPushes_perm pushes).length_eq,
        Summary.total_eq_length (get_summary_eq_count pushes), List.length_map]

end Report

end WorkflowLint
