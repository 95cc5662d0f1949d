import WorkflowLint.Proofs.Markup.Lines
import WorkflowLint.Proofs.Report.Sections
import WorkflowLint.Report.Markup

/-!
# The lines of a report

The markup of a report shows all there is in the report. It is read a line at a time: each line of a
row shows one text of the finding, and the depth of the line behind the description tells whether
there is a detail, the depth of the line behind a row whether another row follows.
-/

set_option autoImplicit false

namespace WorkflowLint

open Markup

/-! ### One line a step -/

theorem oneLine_toString (n : Nat) : OneLine (toString n) := by
  intro mem
  rw [Nat.toString_eq_ofList_toDigits, String.toList_ofList] at mem
  have digit := Nat.isDigit_of_mem_toDigits (by decide) (by decide) mem
  exact absurd digit (by decide)

theorem oneLine_between {front text back : String} (hf : OneLine front) (ht : OneLine text)
    (hb : OneLine back) : OneLine (front ++ text ++ back) :=
  oneLine_append.2 ⟨oneLine_append.2 ⟨hf, ht⟩, hb⟩

theorem Severity.oneLine_name (severity : Severity) : OneLine severity.name := by
  cases severity <;> decide

theorem Severity.oneLine_icon (severity : Severity) : OneLine severity.icon := by
  cases severity <;> decide

theorem Numbered.forall_mem_all {α : Type} {item : Nat → α → Numbered} {p : Step → Prop}
    {list : List α} (h : ∀ a ∈ list, ∀ row, ∀ s ∈ (item row a).1, p s) (row : Nat) :
    ∀ s ∈ (Numbered.all item row list).1, p s := by
  induction list generalizing row with
  | nil => exact fun _ mem => absurd mem List.not_mem_nil
  | cons a rest ih =>
    obtain ⟨first, others⟩ := List.forall_mem_cons.1 h
    exact List.forall_mem_append.2 ⟨first row, ih others (item row a).2⟩

theorem Finding.oneLine_detailSteps (f : Finding) (row : Nat) :
    ∀ s ∈ (f.detailSteps row).1, s.OneLine := by
  unfold detailSteps
  cases f.moreInfo with
  | none => exact fun _ mem => absurd mem List.not_mem_nil
  | some text =>
    have link : Step.OneLine (.line ("<small><a class=\"more-info-toggle\" data-index=\"" ++
        toString row ++ "\">(details)</a></small>")) :=
      oneLine_between (by decide) (oneLine_toString row) (by decide)
    have block : Step.OneLine (.element "div"
        ("id=\"more-info-" ++ toString row ++ "\" class=\"more-info\"") (escape text)) :=
      ⟨⟨by decide, oneLine_between (by decide) (oneLine_toString row) (by decide)⟩,
        oneLine_escape text⟩
    exact List.forall_mem_cons.2 ⟨link, List.forall_mem_singleton.2 block⟩

theorem Finding.oneLine_steps {f : Finding} (code : OneLine f.code) (row : Nat) :
    ∀ s ∈ (f.steps row).1, s.OneLine := by
  have title : Step.OneLine (.element "td" "class=\"item-row\"" (escape f.title)) :=
    ⟨⟨by decide, by decide⟩, oneLine_escape f.title⟩
  have cell : Step.OneLine (.opening "td" ("class=\"analyzer-row " ++ f.severity.name ++ "\"")) :=
    ⟨by decide, oneLine_between (by decide) f.severity.oneLine_name (by decide)⟩
  have icon : Step.OneLine
      (.element "i" ("class=\"fa fa-fw fa-" ++ f.severity.icon ++ " mr-1\"") "") :=
    ⟨⟨by decide, oneLine_between (by decide) f.severity.oneLine_icon (by decide)⟩, by decide⟩
  have description : Step.OneLine (.element "span" "" (escape f.description)) :=
    ⟨⟨by decide, by decide⟩, oneLine_escape f.description⟩
  have row' : Step.OneLine (.opening "tr" ("data-code=\"" ++ f.code ++ "\"")) :=
    ⟨by decide, oneLine_between (by decide) code (by decide)⟩
  have closing : Step.OneLine .closing := trivial
  have detail := f.oneLine_detailSteps row
  simp only [steps, List.forall_mem_append, List.forall_mem_cons]
  exact ⟨⟨⟨row', title, cell, icon, description, by simp⟩, detail⟩, closing, closing, by simp⟩

theorem Bucket.oneLine_steps (b : Bucket) {findings : List Finding}
    (codes : ∀ f ∈ findings, OneLine f.code) (row : Nat) :
    ∀ s ∈ (b.steps row findings).1, s.OneLine := by
  have heading : Step.OneLine (.element "h3" "" b.title) :=
    ⟨⟨by decide, by decide⟩, by cases b <;> decide⟩
  have label {text : String} (h : OneLine text) : Step.OneLine (.element "th" "" text) :=
    ⟨⟨by decide, by decide⟩, h⟩
  have item := label (show OneLine "Item" by decide)
  have details := label (show OneLine "Details" by decide)
  have bare {tag attributes : String} (ht : OneLine tag) (ha : OneLine attributes) :
      Step.OneLine (.opening tag attributes) := ⟨ht, ha⟩
  have closing : Step.OneLine .closing := trivial
  have rows := Numbered.forall_mem_all (fun f hf row => Finding.oneLine_steps (codes f hf) row) row
  simp only [steps, List.forall_mem_append, List.forall_mem_cons]
  exact ⟨⟨⟨bare (by decide) (by decide), heading, bare (by decide) (by decide),
    bare (by decide) (by decide), bare (by decide) (by decide), item, details, closing, closing,
    bare (by decide) (by decide), by simp⟩, rows⟩, closing, closing, closing, by simp⟩

theorem Summary.oneLine_steps (s : Summary) : ∀ step ∈ s.steps, step.OneLine := by
  have counts : ∀ step ∈ Severity.all.map (fun severity =>
      .element "span" ("class=\"summary-count " ++ severity.name ++ "\"")
        (severity.name ++ ": " ++ toString (s.get severity))), Step.OneLine step := by
    intro step mem
    obtain ⟨severity, -, rfl⟩ := List.mem_map.1 mem
    have attributes : OneLine ("class=\"summary-count " ++ severity.name ++ "\"") :=
      oneLine_between (by decide) severity.oneLine_name (by decide)
    have count : OneLine (severity.name ++ ": " ++ toString (s.get severity)) :=
      oneLine_between severity.oneLine_name (by decide) (oneLine_toString _)
    exact ⟨⟨by decide, attributes⟩, count⟩
  have opening : Step.OneLine (.opening "div" "class=\"analysis-summary\"") :=
    ⟨by decide, by decide⟩
  have closing : Step.OneLine .closing := trivial
  simp only [steps, List.forall_mem_append, List.forall_mem_cons]
  exact ⟨⟨opening, counts⟩, closing, by simp⟩

/-- Codes on one line are all it takes for a report to be written a line a step. -/
theorem Report.oneLine_steps {r : Report} (codes : ∀ b, ∀ f ∈ r.inBucket b, OneLine f.code)
    (row : Nat) : ∀ s ∈ (r.steps row).1, s.OneLine := by
  have table : ∀ b ∈ r.nonEmptyBuckets, ∀ row, ∀ s ∈ (b.steps row (r.inBucket b)).1, s.OneLine :=
    fun b _ row => b.oneLine_steps (codes b) row
  have tables := Numbered.forall_mem_all table row
  exact List.forall_mem_append.2 ⟨r.summary.oneLine_steps, tables⟩

/-! ### From the lines to the report -/

section

variable {α : Type} {item : Nat → α → Numbered} {tags : List String}

/-- Whatever comes behind an item, its lines and those behind it are known from the lines of both. -/
def Numbered.Legible (tags : List String) (item : Nat → α → Numbered) : Prop :=
  ∀ row a b rest rest',
    layout tags ((item row a).1 ++ rest) = layout tags ((item row b).1 ++ rest') →
      a = b ∧ layout tags rest = layout tags rest'

/-- Legible items are legible one after the other if none looks like what comes behind them all. -/
theorem Numbered.Legible.all (legible : Legible tags item) {stop stop' : List Step}
    (ends : ∀ row a rest, layout tags ((item row a).1 ++ rest) ≠ layout tags stop)
    (ends' : ∀ row a rest, layout tags ((item row a).1 ++ rest) ≠ layout tags stop')
    {row : Nat} {list list' : List α}
    (same : layout tags ((Numbered.all item row list).1 ++ stop) =
      layout tags ((Numbered.all item row list').1 ++ stop')) :
    list = list' ∧ layout tags stop = layout tags stop' := by
  induction list generalizing row list' with
  | nil =>
    cases list' with
    | nil => exact ⟨rfl, same⟩
    | cons b rest' =>
      simp only [Numbered.all, List.append_assoc] at same
      exact absurd same.symm (ends row b _)
  | cons a rest ih =>
    cases list' with
    | nil =>
      simp only [Numbered.all, List.append_assoc] at same
      exact absurd same (ends' row a _)
    | cons b rest' =>
      simp only [Numbered.all, List.append_assoc] at same
      obtain ⟨rfl, others⟩ := legible row a b _ _ same
      obtain ⟨rfl, behind⟩ := ih others
      exact ⟨rfl, behind⟩

end

theorem Severity.name_injective {a b : Severity} (h : a.name = b.name) : a = b := by
  revert h
  cases a <;> cases b <;> decide

theorem Bucket.title_injective {a b : Bucket} (h : a.title = b.title) : a = b := by
  revert h
  cases a <;> cases b <;> decide

/-- An element's line says what stands between its tags. -/
theorem element_inj {depth : Nat} {name attributes s t : String}
    (h : indent depth (openingTag name attributes ++ s ++ closingTag name) =
      indent depth (openingTag name attributes ++ t ++ closingTag name)) : s = t :=
  between_inj (indent_right_inj h)

/-- The line behind the description stands deeper than the end of the cell if there is a detail. -/
theorem Finding.detail_inj {row : Nat} {f g : Finding} {name : String} {outer : List String}
    {rest rest' : List Step}
    (same : layout (name :: outer) ((f.detailSteps row).1 ++ .closing :: rest) =
      layout (name :: outer) ((g.detailSteps row).1 ++ .closing :: rest')) :
    f.moreInfo = g.moreInfo ∧ layout outer rest = layout outer rest' := by
  have link : Tagged ("<small><a class=\"more-info-toggle\" data-index=\"" ++ toString row ++
      "\">(details)</a></small>") :=
    (Tagged.append (by decide) _).append _
  have deeper : ¬(name :: outer).length = outer.length := Nat.succ_ne_self _
  unfold detailSteps at same
  cases hf : f.moreInfo with
  | none =>
    cases hg : g.moreInfo with
    | none =>
      rw [hf, hg] at same
      exact ⟨rfl, (List.cons.inj same).2⟩
    | some text =>
      rw [hf, hg] at same
      have depths := indent_inj (tagged_closingTag name) link (List.cons.inj same).1
      exact absurd depths.1.symm deeper
  | some text =>
    cases hg : g.moreInfo with
    | none =>
      rw [hf, hg] at same
      have depths := indent_inj link (tagged_closingTag name) (List.cons.inj same).1
      exact absurd depths.1 deeper
    | some text' =>
      rw [hf, hg] at same
      obtain ⟨-, block⟩ := List.cons.inj same
      obtain ⟨detail, closing⟩ := List.cons.inj block
      obtain ⟨-, behind⟩ := List.cons.inj closing
      have texts := escape_injective (element_inj detail)
      rw [texts]
      exact ⟨rfl, behind⟩

/-- The lines of a row say what the finding is. -/
theorem Finding.legible_steps (tags : List String) : Numbered.Legible tags Finding.steps := by
  intro row f g rest rest' same
  simp only [steps, List.append_assoc, List.cons_append, List.nil_append, layout] at same
  obtain ⟨first, same⟩ := List.cons.inj same
  obtain ⟨title, same⟩ := List.cons.inj same
  obtain ⟨cell, same⟩ := List.cons.inj same
  obtain ⟨-, same⟩ := List.cons.inj same
  obtain ⟨description, same⟩ := List.cons.inj same
  obtain ⟨detail, same⟩ := detail_inj same
  obtain ⟨-, behind⟩ := List.cons.inj same
  have code := between_inj (openingTag_right_inj (by simp) (by simp) (indent_right_inj first))
  have name := between_inj (openingTag_right_inj (by simp) (by simp) (indent_right_inj cell))
  have severity := Severity.name_injective name
  have title := escape_injective (element_inj title)
  have description := escape_injective (element_inj description)
  refine ⟨?_, behind⟩
  cases f
  cases g
  simp only [Finding.mk.injEq]
  exact ⟨code, severity, title, description, detail⟩

/-- A section written as a table. -/
def sectionSteps (row : Nat) (s : Bucket × List Finding) : Numbered := s.1.steps row s.2

/-- The lines of a table say what the section is; the end of the table's body stands less deep than
its rows. -/
theorem legible_sectionSteps (tags : List String) : Numbered.Legible tags sectionSteps := by
  intro row s t rest rest' same
  simp only [sectionSteps, Bucket.steps, List.append_assoc, List.cons_append, List.nil_append,
    layout] at same
  obtain ⟨-, same⟩ := List.cons.inj same
  obtain ⟨heading, same⟩ := List.cons.inj same
  iterate 8 obtain ⟨-, same⟩ := List.cons.inj same
  have ends (next : List Step) (row : Nat) (f : Finding) (more : List Step) :
      layout ("tbody" :: "table" :: "div" :: tags) ((Finding.steps row f).1 ++ more) ≠
        layout ("tbody" :: "table" :: "div" :: tags) (.closing :: next) := by
    intro e
    have depths := indent_inj (tagged_openingTag _ _) (tagged_closingTag _) (List.cons.inj e).1
    exact absurd depths.1 (Nat.succ_ne_self _)
  obtain ⟨findings, same⟩ := (Finding.legible_steps _).all (ends _) (ends _) same
  iterate 3 obtain ⟨-, same⟩ := List.cons.inj same
  have bucket := Bucket.title_injective (element_inj heading)
  exact ⟨Prod.ext bucket findings, same⟩

theorem Numbered.all_map {α β : Type} (item : Nat → β → Numbered) (g : α → β) (row : Nat)
    (list : List α) :
    Numbered.all item row (list.map g) = Numbered.all (fun row a => item row (g a)) row list := by
  induction list generalizing row with
  | nil => rfl
  | cons a rest ih =>
    rw [List.map_cons, Numbered.all, Numbered.all, ih]

namespace Report

/-- The line with the counts, then the sections as tables. -/
theorem steps_ofPushes (pushes : Pass) (row : Nat) :
    ((ofPushes pushes).steps row).1 = (ofPushes pushes).summary.steps ++
      (Numbered.all sectionSteps row (ofPushes pushes).sections).1 := by
  rw [sections_ofPushes, ← map_nonEmptyBuckets, Numbered.all_map]
  rfl

/-- The line with the counts has no influence on the lines behind it. -/
theorem drop_layout_summary (s : Summary) (rest : List Step) :
    (layout [] (s.steps ++ rest)).drop 6 = layout [] rest :=
  rfl

theorem oneLine_steps_ofPushes {pushes : Pass} (codes : ∀ p ∈ pushes, OneLine p.2.code) (row : Nat) :
    ∀ s ∈ ((ofPushes pushes).steps row).1, s.OneLine := by
  refine oneLine_steps (fun b f hf => ?_) row
  rw [inBucket_ofPushes] at hf
  exact codes (b, f) (Pass.mem_inBucket.1 hf)

/-- The sections can be told from the markup. -/
theorem sections_eq_of_html_eq {row : Nat} {pushes pushes' : Pass}
    (codes : ∀ p ∈ pushes, OneLine p.2.code) (codes' : ∀ p ∈ pushes', OneLine p.2.code)
    (same : (ofPushes pushes).html row = (ofPushes pushes').html row) :
    (ofPushes pushes).sections = (ofPushes pushes').sections := by
  have lines := layout_eq_of_render_eq (oneLine_steps_ofPushes codes row)
    (oneLine_steps_ofPushes codes' row) same
  rw [steps_ofPushes, steps_ofPushes] at lines
  have tables := congrArg (List.drop 6) lines
  rw [drop_layout_summary, drop_layout_summary] at tables
  -- a table begins with a line, and behind the last table there is none
  have ends (row : Nat) (s : Bucket × List Finding) (more : List Step) :
      layout [] ((sectionSteps row s).1 ++ more) ≠ layout [] [] :=
    List.cons_ne_nil _ _
  rw [← List.append_nil (Numbered.all _ row (ofPushes pushes).sections).1,
    ← List.append_nil (Numbered.all _ row (ofPushes pushes').sections).1] at tables
  exact ((legible_sectionSteps []).all ends ends tables).1

/-- **The markup loses nothing**: whatever the texts of two reports say, their markups differ if
the reports do. Of the codes it only takes that each stands on one line. -/
theorem ofPushes_eq_of_html_eq (row : Nat) {pushes pushes' : Pass}
    (codes : ∀ p ∈ pushes, OneLine p.2.code) (codes' : ∀ p ∈ pushes', OneLine p.2.code)
    (same : (ofPushes pushes).html row = (ofPushes pushes').html row) :
    ofPushes pushes = ofPushes pushes' :=
  ofPushes_eq_of_sections (sections_eq_of_html_eq codes codes' same)

/-- Findings whose texts spell out markup. -/
def spelling : Pass :=
  [(.variables, (Finding.warning "VAR003" "</td>\n" "&lt;").withMoreInfo "<br />"),
    (.variables, Finding.error "VAR001" "\n" "&"), (.triggers, Finding.info "TRG001" "" "")]

/-- In which order two buckets are filled does not show, in the markup as little as in the report. -/
theorem ofPushes_eq_of_html_eq_spelling :
    (∀ p ∈ spelling, OneLine p.2.code) ∧ (∀ p ∈ spelling.rotate 2, OneLine p.2.code) ∧
      spelling.rotate 2 ≠ spelling ∧ ofPushes (spelling.rotate 2) = ofPushes spelling := by
  have codes : ∀ p ∈ spelling, OneLine p.2.code := by decide
  have codes' : ∀ p ∈ spelling.rotate 2, OneLine p.2.code := by decide
  have reports : ofPushes (spelling.rotate 2) = ofPushes spelling := by decide
  have same : (ofPushes (spelling.rotate 2)).html 7 = (ofPushes spelling).html 7 := by rw [reports]
  exact ⟨codes, codes', by decide, ofPushes_eq_of_html_eq 7 codes' codes same⟩

end Report

end WorkflowLint
