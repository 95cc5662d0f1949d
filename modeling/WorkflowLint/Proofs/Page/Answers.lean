import WorkflowLint.Proofs.Page
import WorkflowLint.Proofs.Report.Json
import WorkflowLint.Proofs.Report.Message
import WorkflowLint.Proofs.Report.Template

/-!
# Answers of a page

A page adds a count to the analysis and nothing else. It answers to a text with the outcome of the
text's analysis, shown from the number that comes after all details shown before
(`getElem?_analyzeAll`), so what was asked before can show in the numbers of details only
(`answers_stateless`).
-/

set_option autoImplicit false

namespace WorkflowLint.Page

/-- The answer that shows an outcome; the details of a report are numbered from `row` on. -/
def Answer.ofOutcome (row : Nat) : Except Failure Report → Answer
  | .ok report => .success (report.html row) report
  | .error f => .failure f.html f

/-- The answers show the same failure, or the same report from one template, in which nothing but
the numbers of its details is open. -/
inductive Answer.Renumbered : Answer → Answer → Prop
  | failure (html : String) (f : Failure) : Renumbered (.failure html f) (.failure html f)
  | success {report : Report} {template : Template}
      (numbers : template.numbers = twice 0 report.detailCount) (row row' : Nat) :
      Renumbered (.success (template.fill row) report) (.success (template.fill row') report)

theorem Answer.ofOutcome_eq_success_iff {row : Nat} {outcome : Except Failure Report} {html : String}
    {report : Report} : ofOutcome row outcome = .success html report ↔
      outcome = .ok report ∧ html = report.html row := by
  cases outcome with
  | error f => simp [ofOutcome]
  | ok r =>
    simp only [ofOutcome, Answer.success.injEq, Except.ok.injEq]
    constructor
    · rintro ⟨rfl, rfl⟩
      exact ⟨rfl, rfl⟩
    · rintro ⟨rfl, rfl⟩
      exact ⟨rfl, rfl⟩

theorem Answer.ofOutcome_eq_failure_iff {row : Nat} {outcome : Except Failure Report} {html : String}
    {f : Failure} : ofOutcome row outcome = .failure html f ↔ outcome = .error f ∧ html = f.html := by
  cases outcome with
  | error g =>
    simp only [ofOutcome, Answer.failure.injEq, Except.error.injEq]
    constructor
    · rintro ⟨rfl, rfl⟩
      exact ⟨rfl, rfl⟩
    · rintro ⟨rfl, rfl⟩
      exact ⟨rfl, rfl⟩
  | ok r => simp [ofOutcome]

theorem analyze_eq_ofOutcome (p : Page) (text : String) :
    p.analyze text = (.ofOutcome p.nextRow (WorkflowLint.analyze text p.config),
      { p with nextRow := p.nextRow + detailsOf p.config text }) := by
  refine Prod.ext ?_ (p.numbers_analyze text).2
  cases h : WorkflowLint.analyze text p.config with
  | error f => rw [analyze_of_error h, Answer.ofOutcome]
  | ok report => rw [analyze_of_ok h, Answer.ofOutcome]

theorem analyzeAll_append (p : Page) (earlier later : List String) :
    p.analyzeAll (earlier ++ later) =
      p.analyzeAll earlier ++ (p.after earlier).analyzeAll later := by
  induction earlier generalizing p with
  | nil => rfl
  | cons text rest ih => exact congrArg ((p.analyze text).1 :: ·) (ih (p.analyze text).2)

theorem length_analyzeAll (p : Page) (texts : List String) :
    (p.analyzeAll texts).length = texts.length := by
  induction texts generalizing p with
  | nil => rfl
  | cons text rest ih => exact congrArg (· + 1) (ih (p.analyze text).2)

/-- The page has counted the details of the earlier answers when it comes to a text. -/
theorem getElem?_analyzeAll (config : Config) (earlier : List String) (text : String)
    (later : List String) :
    ((new config).analyzeAll (earlier ++ text :: later))[earlier.length]? =
      some (.ofOutcome (1 + total config earlier) (WorkflowLint.analyze text config)) := by
  have counted : (new config).after earlier = ⟨config, 1 + total config earlier⟩ :=
    ((new config).numbers_shown earlier).2
  have reached : earlier.length = ((new config).analyzeAll earlier).length + 0 :=
    ((new config).length_analyzeAll earlier).symm
  rw [analyzeAll_append, reached, List.getElem?_append_right (Nat.le_add_right _ _),
    Nat.add_sub_cancel_left, counted]
  show some ((⟨config, 1 + total config earlier⟩ : Page).analyze text).1 = _
  rw [analyze_eq_ofOutcome]

theorem Answer.renumbered_ofOutcome (row row' : Nat) (outcome : Except Failure Report) :
    (ofOutcome row outcome).Renumbered (ofOutcome row' outcome) := by
  cases outcome with
  | error f => exact .failure f.html f
  | ok report =>
    obtain ⟨template, numbers, filled⟩ := report.fills_html
    have shown : report.html row = template.fill row := filled row
    have shown' : report.html row' = template.fill row' := filled row'
    rw [ofOutcome, ofOutcome, shown, shown']
    exact .success numbers row row'

/-- The members that tell what failed: the code and the name of its phase, and the message. -/
def told (f : Failure) : List (String × Json) :=
  match f.phase with
  | .parse => [("code", .str "P001"), ("phase", .str "Parse"), ("message", .str f.message)]
  | .shape => [("code", .str "S001"), ("phase", .str "Structure"), ("message", .str f.message)]
  | .config => [("code", .str "C001"), ("phase", .str "Config"), ("message", .str f.message)]

theorem toMembers_eq_told (f : Failure) : f.toMembers = told f := by
  obtain ⟨phase, message⟩ := f
  cases phase <;> rfl

/-- The answer as JSON has the markup, and what failed or the report, which can be read back from it;
without a page there is the same but for the markup. A failure is shown as a single message. -/
structure Answer.Told (outcome : Except Failure Report) (answer : Answer) : Prop where
  success : ∀ html report, answer = .success html report →
    answer.toJson =
        .obj [("status", .str "success"), ("html", .str html), ("report", report.toJson)] ∧
      analysisJson outcome = .obj [("status", .str "success"),
        ("buckets", report.sections.toJson), ("summary", report.summary.toJson)] ∧
      Report.ofJson? report.toJson = some report
  failure : ∀ html f, answer = .failure html f →
    html =
        "<div class=\"message message-error\">\n  <i class=\"fas fa-exclamation-circle\"></i>\n" ++
          "  <span class=\"message-text\">" ++
          Markup.escape ("Error analyzing workflow: " ++ f.message) ++ "</span>\n</div>\n" ∧
      answer.toJson = .obj (("status", .str "error") :: ("html", .str html) :: told f) ∧
      analysisJson outcome = .obj (("status", .str "error") :: told f)

theorem Answer.told_ofOutcome (row : Nat) (outcome : Except Failure Report) :
    (ofOutcome row outcome).Told outcome where
  success html report h := by
    obtain ⟨rfl, rfl⟩ := ofOutcome_eq_success_iff.1 h
    exact ⟨rfl, rfl, report.ofJson?_toJson⟩
  failure html f h := by
    obtain ⟨rfl, rfl⟩ := ofOutcome_eq_failure_iff.1 h
    rw [ofOutcome, toJson, analysisJson, toMembers_eq_told]
    exact ⟨f.html_eq_written, rfl, rfl⟩

/-- **A page is the analysis and a count.** A text is answered with a report exactly if its analysis
gives that report, which is shown from the number behind the details of the earlier answers; it is
answered with a failure exactly if its analysis gives that failure. Other texts before it, or behind
it, change at most the numbers of details. As JSON the answer has the members that the report or the
failure has without a page, and its markup. -/
theorem answers_stateless (config : Config) (earlier : List String) (text : String)
    (later : List String) :
    ((new config).analyzeAll (earlier ++ text :: later)).length =
        (earlier ++ text :: later).length ∧
    ∃ answer,
      ((new config).analyzeAll (earlier ++ text :: later))[earlier.length]? = some answer ∧
      (∀ html report, answer = .success html report ↔
        WorkflowLint.analyze text config = .ok report ∧
          html = report.html (1 + (earlier.map (detailsOf config)).sum)) ∧
      (∀ html f, answer = .failure html f ↔
        WorkflowLint.analyze text config = .error f ∧ html = f.html) ∧
      (∀ earlier' later', ∃ answer',
        ((new config).analyzeAll (earlier' ++ text :: later'))[earlier'.length]? = some answer' ∧
          answer.Renumbered answer') ∧
      answer.Told (WorkflowLint.analyze text config) := by
  refine ⟨length_analyzeAll _ _, _, getElem?_analyzeAll config earlier text later,
    fun _ _ => Answer.ofOutcome_eq_success_iff, fun _ _ => Answer.ofOutcome_eq_failure_iff, ?_,
    Answer.told_ofOutcome _ _⟩
  intro earlier' later'
  exact ⟨_, getElem?_analyzeAll config earlier' text later', Answer.renumbered_ofOutcome _ _ _⟩

end WorkflowLint.Page
