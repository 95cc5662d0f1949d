import WorkflowLint.Page
import WorkflowLint.CommandLine.Run
import WorkflowLint.Proofs.CommandLine.Arguments
import WorkflowLint.Proofs.Document.Edits
import WorkflowLint.Proofs.Json.RoundTrip

/-!
# What a run comes to

A run with well-formed arguments is an analysis with its delivery: where the text of the workflow
comes from is of no account, unless there is no text (`run_outcome`). `Comes` says what a run comes
to, a constructor for each step at which it can end, and `run_eq_iff` says that it comes to nothing
else.
-/

set_option autoImplicit false

namespace WorkflowLint.CommandLine

/-- What can be read, as bytes. -/
structure Sources where
  file : String → Except InputError ByteArray
  stdin : Except InputError ByteArray

/-- The bytes that were read encode the text. -/
def Holds (bytes : Except InputError ByteArray) (text : String) : Prop := bytes = .ok text.toUTF8

/-- Why there is no text. -/
inductive Unreadable : Except InputError ByteArray → InputError → Prop
  | failed (e : InputError) : Unreadable (.error e) e
  | notText {bytes : ByteArray} (other : ∀ text, ¬Holds (.ok bytes) text) :
    Unreadable (.ok bytes) .notText

namespace Sources

/-- The texts that the bytes encode. -/
def inputs (s : Sources) : Inputs where
  file path := (s.file path).bind decode
  stdin := s.stdin.bind decode

/-- The bytes of the workflow: only a path that is not `-` names a file. -/
def workflow (s : Sources) (o : Options) : Except InputError ByteArray :=
  match o.file with
  | none => s.stdin
  | some path => if path = "-" then s.stdin else s.file path

/-- Where the workflow comes from, as an error message names it. -/
def origin (o : Options) : String :=
  match o.file with
  | none => "from stdin"
  | some path => if path = "-" then "from stdin" else path

variable (s : Sources)

/-- The configuration of a run, for which a file may be named. -/
inductive Configured : Option String → Config → Prop
  | builtIn : Configured none Config.builtIn
  | given {path text : String} {config : Config} (holds : Holds (s.file path) text)
    (read : Config.ofText text = .ok config) : Configured (some path) config

/-- Why there is no configuration. -/
inductive Misconfigured : Option String → String → Prop
  | unread {path : String} {e : InputError} (unreadable : Unreadable (s.file path) e) :
    Misconfigured (some path) ("failed to read config " ++ path ++ ": " ++ e.message)
  | refused {path text : String} {f : Failure} (holds : Holds (s.file path) text)
    (read : Config.ofText text = .error f) : Misconfigured (some path) f.words

end Sources

/-- The report as a run writes it; markup comes from a new page. -/
def Format.write (format : Format) (config : Config) (report : Report) : String :=
  match format with
  | .text => report.text
  | .json => report.toJson.pretty ++ "\n"
  | .html => ((Page.new config).display report).1

/-- What a run makes of the text of a workflow. -/
def answer (format : Format) (config : Config) (text : String) : Outcome :=
  match analyze text config with
  | .ok report => ⟨0, format.write config report, ""⟩
  | .error f => ⟨1, "", "Error: " ++ ("error analyzing workflow: " ++ f.words) ++ "\n"⟩

/-- What a run with these options comes to: an exit code and what is on the standard output and on
the error output. -/
inductive Comes (s : Sources) (o : Options) : Outcome → Prop
  | misconfigured {message : String} (fault : s.Misconfigured o.config message) :
    Comes s o ⟨1, "", "Error: " ++ message ++ "\n"⟩
  | unread {config : Config} {e : InputError} (configured : s.Configured o.config config)
    (unreadable : Unreadable (s.workflow o) e) :
    Comes s o ⟨1, "",
      "Error: " ++ ("failed to read workflow " ++ Sources.origin o ++ ": " ++ e.message) ++ "\n"⟩
  | answered {config : Config} {text : String} (configured : s.Configured o.config config)
    (holds : Holds (s.workflow o) text) : Comes s o (answer (o.format.getD .text) config text)

/-- The run gets a report on its workflow. -/
inductive Reports (s : Sources) (o : Options) (config : Config) (report : Report) : Prop
  | intro {text : String} (configured : s.Configured o.config config)
    (holds : Holds (s.workflow o) text) (analysed : analyze text config = .ok report)

/-! ### Texts -/

theorem fromUTF8?_eq_some_iff {bytes : ByteArray} {text : String} :
    String.fromUTF8? bytes = some text ↔ bytes = text.toUTF8 := by
  constructor
  · intro h
    unfold String.fromUTF8? at h
    split at h
    · cases h
      rfl
    · cases h
  · rintro rfl
    exact dif_pos text.isValidUTF8

theorem decode_toUTF8 (text : String) : decode text.toUTF8 = .ok text := by
  rw [decode, fromUTF8?_eq_some_iff.2 rfl]

theorem bind_decode_eq_ok_iff {bytes : Except InputError ByteArray} {text : String} :
    bytes.bind decode = .ok text ↔ Holds bytes text := by
  constructor
  · intro h
    cases bytes with
    | error e => cases h
    | ok bytes =>
      simp only [Except.bind, decode] at h
      split at h
      · next found =>
        cases h
        exact congrArg Except.ok (fromUTF8?_eq_some_iff.1 found)
      · cases h
  · rintro rfl
    exact decode_toUTF8 text

theorem bind_decode_eq_error_iff {bytes : Except InputError ByteArray} {e : InputError} :
    bytes.bind decode = .error e ↔ Unreadable bytes e := by
  constructor
  · intro h
    have other (text : String) : ¬Holds bytes text := fun holds => by
      rw [bind_decode_eq_ok_iff.2 holds] at h
      cases h
    cases bytes with
    | error e' =>
      cases h
      exact .failed e
    | ok bytes =>
      simp only [Except.bind, decode] at h
      split at h <;> cases h
      exact .notText other
  · rintro (_ | other)
    · rfl
    · cases h : Except.bind (.ok _) decode with
      | ok text => exact absurd (bind_decode_eq_ok_iff.1 h) (other text)
      | error e =>
        simp only [Except.bind, decode] at h
        split at h <;> cases h
        rfl

/-- What was read encodes a text or there is a reason why not. -/
theorem holds_or_unreadable (bytes : Except InputError ByteArray) :
    (∃ text, Holds bytes text) ∨ ∃ e, Unreadable bytes e := by
  cases h : bytes.bind decode with
  | ok text => exact .inl ⟨text, bind_decode_eq_ok_iff.1 h⟩
  | error e => exact .inr ⟨e, bind_decode_eq_error_iff.1 h⟩

theorem Holds.not_unreadable {bytes : Except InputError ByteArray} {text : String} {e : InputError}
    (h : Holds bytes text) : ¬Unreadable bytes e := fun unreadable => by
  have ok := bind_decode_eq_ok_iff.2 h
  rw [bind_decode_eq_error_iff.2 unreadable] at ok
  cases ok

/-! ### Steps of a run -/

theorem Format.write_eq_deliver (format : Format) (config : Config) (report : Report) :
    format.write config report = deliver format report := by
  cases format with
  | html => simp only [write, deliver, Page.display, Page.new]
  | _ => simp only [write, deliver]

namespace Sources

variable {s : Sources} {o : Options}

theorem configuration_eq_ok {config : Config} (h : s.Configured o.config config) :
    configuration s.inputs o = .ok config := by
  unfold configuration
  generalize o.config = named at h
  cases h with
  | builtIn => rfl
  | given holds read =>
    simp only [inputs, bind_decode_eq_ok_iff.2 holds, read, Except.mapError]

theorem configuration_eq_error {message : String} (h : s.Misconfigured o.config message) :
    configuration s.inputs o = .error message := by
  unfold configuration
  generalize o.config = named at h
  cases h with
  | unread unreadable => simp only [inputs, bind_decode_eq_error_iff.2 unreadable]
  | refused holds read =>
    simp only [inputs, bind_decode_eq_ok_iff.2 holds, read, Except.mapError, Failure.display_eq_words]

/-- There is a configuration or a reason why not. -/
theorem configured_or_misconfigured (s : Sources) (named : Option String) :
    (∃ config, s.Configured named config) ∨ ∃ message, s.Misconfigured named message := by
  cases named with
  | none => exact .inl ⟨_, .builtIn⟩
  | some path =>
    rcases holds_or_unreadable (s.file path) with ⟨text, holds⟩ | ⟨e, unreadable⟩
    · cases read : Config.ofText text with
      | ok config => exact .inl ⟨config, .given holds read⟩
      | error f => exact .inr ⟨_, .refused holds read⟩
    · exact .inr ⟨_, .unread unreadable⟩

theorem workflow_inputs (s : Sources) (o : Options) :
    CommandLine.workflow s.inputs o = ((s.workflow o).bind decode).mapError fun e =>
      "failed to read workflow " ++ origin o ++ ": " ++ e.message := by
  unfold CommandLine.workflow workflow origin
  cases o.file with
  | none => rfl
  | some path =>
    by_cases dash : path = "-"
    · subst dash
      rfl
    · have file : (some path).filter (fun path => path != "-") = some path := by simp [dash]
      simp only [file, if_neg dash, inputs]

theorem workflow_eq_ok {text : String} (h : Holds (s.workflow o) text) :
    CommandLine.workflow s.inputs o = .ok text := by
  rw [workflow_inputs, bind_decode_eq_ok_iff.2 h]
  rfl

theorem workflow_eq_error {e : InputError} (h : Unreadable (s.workflow o) e) :
    CommandLine.workflow s.inputs o =
      .error ("failed to read workflow " ++ origin o ++ ": " ++ e.message) := by
  rw [workflow_inputs, bind_decode_eq_error_iff.2 h]
  rfl

end Sources

/-- A run comes to what it is said to come to. -/
theorem run_eq_of_comes {arguments : List String} {o : Options} (asked : WellFormed arguments o)
    {s : Sources} {outcome : Outcome} (h : Comes s o outcome) : run arguments s.inputs = outcome := by
  rw [run, request_eq_run_iff.2 asked]
  cases h with
  | misconfigured fault =>
    simp only [output, Sources.configuration_eq_error fault, bind, Except.bind, Outcome.failed]
  | unread configured unreadable =>
    simp only [output, Sources.configuration_eq_ok configured,
      Sources.workflow_eq_error unreadable, bind, Except.bind, Outcome.failed]
  | @answered config text configured holds =>
    simp only [output, Sources.configuration_eq_ok configured, Sources.workflow_eq_ok holds, bind,
      Except.bind, answer, Format.write_eq_deliver, ← Failure.display_eq_words]
    cases analyze text config with
    | error f => rfl
    | ok report => rfl

/-- There is something that a run comes to. -/
theorem exists_comes (s : Sources) (o : Options) : ∃ outcome, Comes s o outcome := by
  rcases s.configured_or_misconfigured o.config with ⟨config, configured⟩ | ⟨message, fault⟩
  · rcases holds_or_unreadable (s.workflow o) with ⟨text, holds⟩ | ⟨e, unreadable⟩
    · exact ⟨_, .answered configured holds⟩
    · exact ⟨_, .unread configured unreadable⟩
  · exact ⟨_, .misconfigured fault⟩

/-- **What a run comes to**, and nothing else. -/
theorem run_eq_iff {arguments : List String} {o : Options} (asked : WellFormed arguments o)
    {s : Sources} {outcome : Outcome} : run arguments s.inputs = outcome ↔ Comes s o outcome := by
  refine ⟨?_, run_eq_of_comes asked⟩
  rintro rfl
  obtain ⟨outcome, comes⟩ := exists_comes s o
  rw [run_eq_of_comes asked comes]
  exact comes

section

variable {arguments : List String} {o : Options} {s : Sources}

theorem Reports.run_eq {config : Config} {report : Report} (h : Reports s o config report)
    (asked : WellFormed arguments o) :
    run arguments s.inputs = ⟨0, (o.format.getD .text).write config report, ""⟩ := by
  obtain ⟨configured, holds, analysed⟩ := h
  rw [run_eq_of_comes asked (.answered configured holds), answer, analysed]

/-- A run that gets no report fails. -/
theorem Comes.failed_or_reports {outcome : Outcome} (h : Comes s o outcome) :
    (∃ message, outcome = ⟨1, "", "Error: " ++ message ++ "\n"⟩) ∨
      ∃ config report, Reports s o config report := by
  cases h with
  | misconfigured fault => exact .inl ⟨_, rfl⟩
  | unread configured unreadable => exact .inl ⟨_, rfl⟩
  | @answered config text configured holds =>
    unfold answer
    cases analysed : analyze text config with
    | error f => exact .inl ⟨_, rfl⟩
    | ok report => exact .inr ⟨config, report, configured, holds, analysed⟩

theorem exitCode_eq_zero_iff (asked : WellFormed arguments o) :
    (run arguments s.inputs).exitCode = 0 ↔ ∃ config report, Reports s o config report := by
  constructor
  · intro zero
    refine ((run_eq_iff asked).1 rfl).failed_or_reports.resolve_left ?_
    rintro ⟨message, failed⟩
    rw [failed] at zero
    have one : (1 : UInt8) ≠ 0 := by decide
    exact one zero
  · rintro ⟨config, report, reports⟩
    rw [reports.run_eq asked]

/-- A run that fails writes nothing on its standard output. -/
theorem run_eq_failed (asked : WellFormed arguments o) (h : (run arguments s.inputs).exitCode ≠ 0) :
    ∃ message, run arguments s.inputs = ⟨1, "", "Error: " ++ message ++ "\n"⟩ :=
  ((run_eq_iff asked).1 rfl).failed_or_reports.resolve_right
    fun reports => h ((exitCode_eq_zero_iff asked).2 reports)

/-- Two runs with one configuration, in one format and with the same bytes for the workflow come to
the same, but for the name of a workflow that cannot be read. -/
theorem run_congr {arguments' : List String} {o' : Options} {s' : Sources} {config : Config}
    (asked : WellFormed arguments o) (asked' : WellFormed arguments' o')
    (configured : s.Configured o.config config) (configured' : s'.Configured o'.config config)
    (format : o.format.getD .text = o'.format.getD .text) (same : s.workflow o = s'.workflow o') :
    (run arguments s.inputs).exitCode = (run arguments' s'.inputs).exitCode ∧
      (run arguments s.inputs).stdout = (run arguments' s'.inputs).stdout ∧
      ∀ text, Holds (s.workflow o) text → run arguments s.inputs = run arguments' s'.inputs := by
  rcases holds_or_unreadable (s.workflow o) with ⟨text, holds⟩ | ⟨e, unreadable⟩
  · have equal : run arguments s.inputs = run arguments' s'.inputs := by
      rw [run_eq_of_comes asked (.answered configured holds),
        run_eq_of_comes asked' (.answered configured' (same ▸ holds)), format]
    exact ⟨congrArg _ equal, congrArg _ equal, fun _ _ => equal⟩
  · rw [run_eq_of_comes asked (.unread configured unreadable),
      run_eq_of_comes asked' (.unread configured' (same ▸ unreadable))]
    exact ⟨rfl, rfl, fun text holds => absurd unreadable holds.not_unreadable⟩

end

/-- **A run is an analysis with its delivery.** A configuration that cannot be had is the first
thing to end a run. After that the text of the workflow decides, whether it comes from a file or from
the standard input. The run succeeds if there is a report, and then it writes the report and nothing
else; if it fails, it writes nothing on its standard output. -/
theorem run_outcome {arguments : List String} {o : Options} (asked : WellFormed arguments o)
    (s : Sources) :
    (∀ message, s.Misconfigured o.config message →
      run arguments s.inputs = ⟨1, "", "Error: " ++ message ++ "\n"⟩) ∧
    (∀ config text, s.Configured o.config config → Holds (s.workflow o) text →
      run arguments s.inputs = answer (o.format.getD .text) config text) ∧
    (∀ config e, s.Configured o.config config → Unreadable (s.workflow o) e →
      run arguments s.inputs = ⟨1, "",
        "Error: " ++ ("failed to read workflow " ++ Sources.origin o ++ ": " ++ e.message) ++ "\n"⟩) ∧
    (∀ {arguments' : List String} {o' : Options} {s' : Sources} {config : Config},
      WellFormed arguments' o' → s.Configured o.config config → s'.Configured o'.config config →
      o.format.getD .text = o'.format.getD .text → s.workflow o = s'.workflow o' →
      (run arguments s.inputs).exitCode = (run arguments' s'.inputs).exitCode ∧
        (run arguments s.inputs).stdout = (run arguments' s'.inputs).stdout ∧
        ∀ text, Holds (s.workflow o) text → run arguments s.inputs = run arguments' s'.inputs) ∧
    ((run arguments s.inputs).exitCode = 0 ↔ ∃ config report, Reports s o config report) ∧
    (∀ config report, Reports s o config report →
      (run arguments s.inputs).exitCode = 0 ∧
        (run arguments s.inputs).stdout = (o.format.getD .text).write config report ∧
        (run arguments s.inputs).stderr = "") ∧
    ((run arguments s.inputs).exitCode ≠ 0 →
      (run arguments s.inputs).exitCode = 1 ∧ (run arguments s.inputs).stdout = "" ∧
        ∃ message, (run arguments s.inputs).stderr = "Error: " ++ message ++ "\n") := by
  refine ⟨fun _ fault => run_eq_of_comes asked (.misconfigured fault),
    fun _ _ configured holds => run_eq_of_comes asked (.answered configured holds),
    fun _ _ configured unreadable => run_eq_of_comes asked (.unread configured unreadable),
    fun asked' configured configured' => run_congr asked asked' configured configured',
    exitCode_eq_zero_iff asked, fun _ _ reports => ?_, fun failing => ?_⟩
  · rw [reports.run_eq asked]
    exact ⟨rfl, rfl, rfl⟩
  · obtain ⟨message, failed⟩ := run_eq_failed asked failing
    rw [failed]
    exact ⟨rfl, rfl, message, rfl⟩

/-- Only the workflow can be read, from the standard input. -/
def piping (v : Json) : Sources := ⟨fun _ => .error .missing, .ok v.compact.toUTF8⟩

theorem run_outcome_piping :
    WellFormed ["-", "--format=json"] ⟨some "-", some .json, none⟩ ∧
      ∃ report, analyze (atomicWith []).compact .builtIn = .ok report ∧
        (run ["-", "--format=json"] (piping (atomicWith [])).inputs).exitCode = 0 ∧
        (run ["-", "--format=json"] (piping (atomicWith [])).inputs).stdout =
          report.toJson.pretty ++ "\n" ∧
        (run ["-", "--format=json"] (piping (atomicWith [])).inputs).stderr = "" := by
  have asked : WellFormed ["-", "--format=json"] ⟨some "-", some .json, none⟩ :=
    request_eq_run_iff.1 (by decide)
  obtain ⟨-, -, -, -, -, reported, -⟩ := run_outcome asked (piping (atomicWith []))
  have read : Json.ofText (atomicWith []).compact = .ok (atomicWith []) := by
    apply Json.ofText_compact_of_exact
    simp [atomicWith, Json.nestingLimit]
  have analysed := analyze_eq_report read rfl .builtIn
  exact ⟨asked, _, analysed, reported _ _ ⟨.builtIn, rfl, analysed⟩⟩

end WorkflowLint.CommandLine
