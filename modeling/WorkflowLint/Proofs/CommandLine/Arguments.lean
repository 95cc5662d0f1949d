import WorkflowLint.CommandLine.Arguments

/-!
# Well-formed arguments

Arguments that ask for a run state a file, a format and a configuration, in any order and each at
most once. A grammar says how that can be written (`Written`), and what it allows is what is
understood as a run (`request_eq_run_iff`): all other arguments ask for help or for the version, or
make no sense.
-/

set_option autoImplicit false

namespace WorkflowLint.CommandLine

def Format.name : Format → String
  | .text => "text"
  | .json => "json"
  | .html => "html"

def Setting.name : Setting → String
  | .format => "--format"
  | .config => "--config"

/-- What arguments can state. -/
inductive Statement where
  /-- The workflow file. -/
  | file (path : String)
  | format (format : Format)
  /-- The configuration file. -/
  | config (path : String)

/-- The option with this value makes the statement. -/
inductive Setting.Sets : Setting → String → Statement → Prop
  | format (format : Format) : Sets .format format.name (.format format)
  | config {path : String} (named : path ≠ "") : Sets .config path (.config path)

/-- The argument does not look like an option. -/
def IsPlain (argument : String) : Prop := argument = "-" ∨ argument.toList.head? ≠ some '-'

/-- The ways to write a statement. What looks like an option is a file or a value only behind an
equals sign. -/
inductive Statement.Spells : Statement → List String → Prop
  | file {path : String} (named : path ≠ "") (plain : IsPlain path) : Spells (.file path) [path]
  | joined {setting : Setting} {value : String} {s : Statement} (sets : setting.Sets value s) :
    Spells s [setting.name ++ "=" ++ value]
  | apart {setting : Setting} {value : String} {s : Statement} (sets : setting.Sets value s)
    (plain : IsPlain value) : Spells s [setting.name, value]

/-- The ways to write statements. Behind `--` there are only files, whatever they look like. -/
inductive Written : List Statement → List String → Prop
  | nil : Written [] []
  | cons {s : Statement} {more : List Statement} {words rest : List String} (first : s.Spells words)
    (others : Written more rest) : Written (s :: more) (words ++ rest)
  | files {paths : List String} (named : ∀ path ∈ paths, path ≠ "") :
    Written (paths.map .file) ("--" :: paths)

/-- The options with one more statement, which must not be about what is stated already. -/
def Options.state? (o : Options) : Statement → Option Options
  | .file path => if o.file.isSome then .none else some { o with file := some path }
  | .format format => if o.format.isSome then .none else some { o with format := some format }
  | .config path => if o.config.isSome then .none else some { o with config := some path }

/-- The options behind the statements. -/
def Options.stateAll? (o : Options) (statements : List Statement) : Option Options :=
  statements.foldlM Options.state? o

/-- The arguments state these options. -/
def WellFormed (arguments : List String) (o : Options) : Prop :=
  ∃ statements, Written statements arguments ∧
    (⟨none, none, none⟩ : Options).stateAll? statements = some o

/-! ### One statement -/

theorem isValue_iff_isPlain (argument : String) : isValue argument = true ↔ IsPlain argument := by
  simp [isValue, IsPlain]

theorem Format.ofName?_eq_some_iff {name : String} {format : Format} :
    Format.ofName? name = some format ↔ name = format.name := by
  constructor
  · intro h
    unfold Format.ofName? at h
    split at h
    · cases h
      assumption
    · split at h
      · cases h
        assumption
      · split at h
        · cases h
          assumption
        · cases h
  · rintro rfl
    cases format <;> rfl

namespace Setting

theorem ofName?_eq_some_iff {name : String} {setting : Setting} :
    ofName? name = some setting ↔ name = setting.name := by
  constructor
  · intro h
    unfold ofName? at h
    split at h
    · cases h
      assumption
    · split at h
      · cases h
        assumption
      · cases h
  · rintro rfl
    cases setting <;> rfl

theorem set?_eq_some_iff {setting : Setting} {value : String} {o o' : Options} :
    setting.set? o value = some o' ↔ ∃ s, setting.Sets value s ∧ o.state? s = some o' := by
  cases setting with
  | format =>
    simp only [set?, Options.withFormat?]
    constructor
    · intro h
      rw [Option.ite_none_left_eq_some, Option.map_eq_some_iff] at h
      obtain ⟨unset, format, known, rfl⟩ := h
      rw [Format.ofName?_eq_some_iff] at known
      subst known
      exact ⟨_, .format format, if_neg unset⟩
    · rintro ⟨_, sets, h⟩
      cases sets with
      | format format =>
        rw [Format.ofName?_eq_some_iff.2 rfl, Option.map_some]
        exact h
  | config =>
    simp only [set?, Options.withConfig?]
    constructor
    · intro h
      rw [Option.ite_none_left_eq_some, not_or, String.isEmpty_iff] at h
      obtain ⟨⟨unset, named⟩, h⟩ := h
      exact ⟨_, .config named, (if_neg unset).trans h⟩
    · rintro ⟨_, sets, h⟩
      cases sets with
      | config named =>
        simp only [String.isEmpty_iff, named, or_false]
        exact h

end Setting

theorem Options.withFile?_eq_some_iff {path : String} {o o' : Options} :
    o.withFile? path = some o' ↔ path ≠ "" ∧ o.state? (.file path) = some o' := by
  simp only [withFile?, state?, Option.ite_none_left_eq_some, not_or, String.isEmpty_iff, ne_eq]
  constructor
  · rintro ⟨⟨unset, named⟩, h⟩
    exact ⟨named, unset, h⟩
  · rintro ⟨named, unset, h⟩
    exact ⟨⟨unset, named⟩, h⟩

/-! ### Cutting at the equals sign -/

theorem cutValue_joined {name : String} (h : '=' ∉ name.toList) (value : String) :
    cutValue (name ++ "=" ++ value) = (name, some value) := by
  have chars : (name ++ "=" ++ value).toList = name.toList ++ '=' :: value.toList := by simp
  have before : ∀ c ∈ name.toList, (c != '=') = true :=
    fun c mem => bne_iff_ne.2 fun e => h (e ▸ mem)
  unfold cutValue
  rw [chars]
  simp [List.dropWhile_append_of_pos before, List.takeWhile_append_of_pos before]

theorem cutValue_eq_some {argument name value : String} (h : cutValue argument = (name, some value)) :
    argument = name ++ "=" ++ value := by
  dsimp only [cutValue] at h
  split at h
  · cases h
  · next c rest cut =>
    cases h
    have sign : c = '=' := by
      have stops := List.head?_dropWhile_not (fun c => c != '=') argument.toList
      rw [cut] at stops
      simpa using stops
    have whole := List.takeWhile_append_dropWhile (p := fun c => c != '=') (l := argument.toList)
    rw [cut, sign] at whole
    rw [← String.toList_inj]
    simpa using whole.symm

theorem cutValue_eq_none {argument name : String} (h : cutValue argument = (name, none)) :
    name = argument := by
  dsimp only [cutValue] at h
  split at h <;> cases h
  rfl

/-! ### All arguments -/

/-- One statement and what is behind it. -/
theorem Options.stateAll?_cons_eq_some {o o' : Options} {s : Statement} {more : List Statement} :
    o.stateAll? (s :: more) = some o' ↔
      ∃ next, o.state? s = some next ∧ next.stateAll? more = some o' := by
  rw [stateAll?, List.foldlM_cons]
  exact Option.bind_eq_some_iff

theorem files_eq_run_iff {paths : List String} {o o' : Options} :
    files o paths = .run o' ↔
      (∀ path ∈ paths, path ≠ "") ∧ o.stateAll? (paths.map .file) = some o' := by
  induction paths generalizing o with
  | nil => simp [files, Options.stateAll?]
  | cons path paths ih =>
    rw [files, List.forall_mem_cons, List.map_cons, Options.stateAll?_cons_eq_some]
    cases h : o.withFile? path with
    | some next =>
      obtain ⟨named, states⟩ := Options.withFile?_eq_some_iff.1 h
      simp [named, states, ih]
    | none =>
      refine iff_of_false Request.noConfusion ?_
      rintro ⟨⟨named, -⟩, next, first, -⟩
      have := Options.withFile?_eq_some_iff.2 ⟨named, first⟩
      rw [h] at this
      cases this

/-- Something behind two dashes is neither a file nor the end of the options. -/
theorem option_of_dashes {argument : String} {c : Char} {cs : List Char}
    (h : argument.toList = '-' :: '-' :: c :: cs) :
    argument ≠ "--" ∧ isValue argument = false ∧ argument.toList.take 2 = ['-', '-'] := by
  refine ⟨?_, ?_, by rw [h]; rfl⟩
  · rintro rfl
    cases h
  · have single : argument ≠ "-" := by
      rintro rfl
      cases h
    simp [isValue, single, h]

namespace Setting

variable (setting : Setting)

theorem dashes_append (text : String) :
    ∃ c cs, (setting.name ++ text).toList = '-' :: '-' :: c :: cs := by
  cases setting <;> exact ⟨_, _, String.toList_append⟩

theorem requestFrom_joined {o next : Options} {value : String} (h : setting.set? o value = some next)
    (rest : List String) :
    requestFrom o ((setting.name ++ "=" ++ value) :: rest) = requestFrom next rest := by
  obtain ⟨c, cs, dashes⟩ := setting.dashes_append ("=" ++ value)
  rw [← String.append_assoc] at dashes
  obtain ⟨notEnd, notValue, long⟩ := option_of_dashes dashes
  have cut : cutValue (setting.name ++ "=" ++ value) = (setting.name, some value) :=
    cutValue_joined (by cases setting <;> decide) value
  rw [requestFrom, if_neg notEnd, if_neg (by rw [notValue]; exact Bool.false_ne_true), if_pos long]
  simp only [cut, ofName?_eq_some_iff.2 rfl, Option.bind_some, h]

theorem requestFrom_apart {o next : Options} {value : String} (plain : IsPlain value)
    (h : setting.set? o value = some next) (rest : List String) :
    requestFrom o (setting.name :: value :: rest) = requestFrom next rest := by
  obtain ⟨c, cs, dashes⟩ := setting.dashes_append ""
  rw [String.append_empty] at dashes
  obtain ⟨notEnd, notValue, long⟩ := option_of_dashes dashes
  have cut : cutValue setting.name = (setting.name, none) := by cases setting <;> decide
  have noHelp : setting.name ≠ "--help" := by cases setting <;> decide
  have noVersion : setting.name ≠ "--version" := by cases setting <;> decide
  rw [requestFrom, if_neg notEnd, if_neg (by rw [notValue]; exact Bool.false_ne_true), if_pos long]
  simp only [cut, if_neg noHelp, if_neg noVersion, ofName?_eq_some_iff.2 rfl,
    if_pos ((isValue_iff_isPlain value).2 plain), h]

end Setting

theorem requestFrom_file {o next : Options} {path : String} (named : path ≠ "")
    (plain : IsPlain path) (h : o.state? (.file path) = some next) (rest : List String) :
    requestFrom o (path :: rest) = requestFrom next rest := by
  have value := (isValue_iff_isPlain path).2 plain
  have notEnd : path ≠ "--" := by
    rintro rfl
    exact absurd value (by decide)
  rw [requestFrom, if_neg notEnd, if_pos value]
  simp only [Options.withFile?_eq_some_iff.2 ⟨named, h⟩]

/-- What is understood as a run is written in the grammar. -/
theorem exists_written_of_requestFrom {arguments : List String} {o o' : Options}
    (h : requestFrom o arguments = .run o') :
    ∃ statements, Written statements arguments ∧ o.stateAll? statements = some o' := by
  fun_induction requestFrom o arguments with
  | case1 o =>
    cases h
    exact ⟨[], .nil, rfl⟩
  | case2 o rest =>
    obtain ⟨named, states⟩ := files_eq_run_iff.1 h
    exact ⟨_, .files named, states⟩
  | case3 o path rest _ plain next set ih =>
    obtain ⟨more, written, states⟩ := ih h
    obtain ⟨named, first⟩ := Options.withFile?_eq_some_iff.1 set
    have plain := (isValue_iff_isPlain path).1 plain
    exact ⟨_, .cons (.file named plain) written, Options.stateAll?_cons_eq_some.2 ⟨next, first, states⟩⟩
  | case5 o argument rest _ _ _ name value cut next set ih =>
    obtain ⟨more, written, states⟩ := ih h
    obtain ⟨setting, known, set⟩ := Option.bind_eq_some_iff.1 set
    obtain ⟨s, sets, first⟩ := Setting.set?_eq_some_iff.1 set
    rw [cutValue_eq_some cut, Setting.ofName?_eq_some_iff.1 known]
    exact ⟨_, .cons (.joined sets) written, Options.stateAll?_cons_eq_some.2 ⟨next, first, states⟩⟩
  | case9 o argument _ _ _ name cut _ _ setting value rest known plain next set ih =>
    obtain ⟨more, written, states⟩ := ih h
    obtain ⟨s, sets, first⟩ := Setting.set?_eq_some_iff.1 set
    rw [← cutValue_eq_none cut, Setting.ofName?_eq_some_iff.1 known]
    have plain := (isValue_iff_isPlain value).1 plain
    exact ⟨_, .cons (.apart sets plain) written, Options.stateAll?_cons_eq_some.2 ⟨next, first, states⟩⟩
  | case13 o argument rest =>
    unfold shortFlag at h
    split at h <;> cases h
  | _ => cases h

/-- What is written in the grammar is understood as a run. -/
theorem requestFrom_of_written {statements : List Statement} {arguments : List String}
    (written : Written statements arguments) {o o' : Options}
    (h : o.stateAll? statements = some o') : requestFrom o arguments = .run o' := by
  induction written generalizing o with
  | nil =>
    cases h
    rfl
  | files named =>
    rw [requestFrom, if_pos rfl]
    exact files_eq_run_iff.2 ⟨named, h⟩
  | cons first _ ih =>
    obtain ⟨next, states, h⟩ := Options.stateAll?_cons_eq_some.1 h
    rw [← ih h]
    cases first with
    | file named plain => exact requestFrom_file named plain states _
    | joined sets =>
      exact Setting.requestFrom_joined _ (Setting.set?_eq_some_iff.2 ⟨_, sets, states⟩) _
    | apart sets plain =>
      exact Setting.requestFrom_apart _ plain (Setting.set?_eq_some_iff.2 ⟨_, sets, states⟩) _

/-- **The arguments that ask for a run** are those that the grammar allows. -/
theorem request_eq_run_iff {arguments : List String} {o : Options} :
    request arguments = .run o ↔ WellFormed arguments o :=
  ⟨exists_written_of_requestFrom, fun ⟨_, written, states⟩ => requestFrom_of_written written states⟩

end WorkflowLint.CommandLine
