import WorkflowLint.Proofs.Document.Nodes
import WorkflowLint.Proofs.Json.OneLine
import WorkflowLint.Proofs.Report.Text

/-!
# Headlines on one line

The headline of a finding shows its title and its description. Those that the rules write out have no
line feed; the others are made of texts of the document, and what these texts are is
`Document.OneLiner`. Details may have any texts: they are cut into lines when they are written.
-/

set_option autoImplicit false

namespace WorkflowLint

open Markup

/-- None of the texts that headlines are made of has a line feed. -/
structure Document.OneLiner (d : Document) : Prop where
  categories : ∀ name ∈ Rules.categoryNames d, OneLine name
  declared : ∀ body ∈ d.workflow.present?, ∀ vs ∈ body.declarations.present?, ∀ v, some v ∈ vs →
    (∀ s ∈ v.name, OneLine s) ∧ (∀ s ∈ v.scope, OneLine s) ∧ ∀ s ∈ v.type, OneLine s
  triggers : ∀ t ∈ d.triggers.present?.getD [],
    (∀ s ∈ t.name, OneLine s) ∧ ∀ s ∈ t.type, OneLine s
  groups : ∀ g ∈ d.targetGroups.present?.getD [],
    OneLine g.1 ∧ (∀ s ∈ g.2.name, OneLine s) ∧ ∀ t ∈ g.2.targets, ∀ s ∈ t.type, OneLine s
  activities : ∀ a ∈ d.activities, ∀ s ∈ a.displayName, OneLine s
  references : ∀ r ∈ d.atomicReferences, OneLine r

namespace Rules

theorem oneLine_intercalate {parts : List String} (h : ∀ s ∈ parts, OneLine s) :
    OneLine (", ".intercalate parts) := by
  rw [OneLine, String.toList_intercalate]
  induction parts with
  | nil => exact List.not_mem_nil
  | cons s rest ih =>
    obtain ⟨here, others⟩ := List.forall_mem_cons.1 h
    cases rest with
    | nil =>
      rw [List.map_singleton, List.intercalate_singleton]
      exact here
    | cons t rest =>
      rw [List.map_cons, List.map_cons, List.intercalate_cons_cons]
      have comma : '\n' ∉ ", ".toList := by decide
      have tail := ih others
      rw [List.map_cons] at tail
      simp only [List.mem_append, not_or]
      exact ⟨⟨here, comma⟩, tail⟩

theorem oneLine_listOr {otherwise : String} {parts : List String} (fallback : OneLine otherwise)
    (h : ∀ s ∈ parts, OneLine s) : OneLine (listOr otherwise parts) := by
  unfold listOr
  split
  · exact fallback
  · exact oneLine_intercalate h

theorem oneLine_getD {text : Option String} {fallback : String} (h : ∀ s ∈ text, OneLine s)
    (other : OneLine fallback) : OneLine (text.getD fallback) := by
  cases text with
  | none => exact other
  | some s => exact h s rfl

theorem oneLine_nonEmpty? {text : Option String} (h : ∀ s ∈ text, OneLine s) :
    ∀ s ∈ nonEmpty? text, OneLine s := fun s mem => h s (Option.eq_some_of_filter_eq_some mem)

theorem onOneLine_ite {c : Prop} [Decidable c] {fs gs : List Finding}
    (hf : ∀ f ∈ fs, f.OnOneLine) (hg : ∀ f ∈ gs, f.OnOneLine) :
    ∀ f ∈ if c then fs else gs, f.OnOneLine := by
  split
  · exact hf
  · exact hg

variable {d : Document} (h : d.OneLiner)

include h

theorem onOneLine_properties (mode : Mode) : ∀ f ∈ properties mode d, f.OnOneLine := by
  have type : (definitionType mode).OnOneLine := by
    cases mode <;> exact ⟨oneLine_ofList (by decide), oneLine_ofList (by decide)⟩
  have names : (categories d).OnOneLine :=
    ⟨oneLine_ofList (by decide), oneLine_listOr (oneLine_ofList (by decide)) h.categories⟩
  exact List.forall_mem_cons.2 ⟨type, List.forall_mem_singleton.2 names⟩

theorem onOneLine_triggers : ∀ f ∈ triggers d, f.OnOneLine := by
  refine List.forall_mem_singleton.2 ⟨oneLine_ofList (by decide), ?_⟩
  refine oneLine_listOr (oneLine_ofList (by decide)) fun label mem => ?_
  obtain ⟨t, ht, rfl⟩ := List.mem_map.1 mem
  obtain ⟨name, type⟩ := h.triggers t ht
  have named : OneLine ((nonEmpty? t.name).getD "Unnamed Trigger") :=
    oneLine_getD (oneLine_nonEmpty? name) (oneLine_ofList (by decide))
  have typed : OneLine ((nonEmpty? t.type).getD "Unknown Type") :=
    oneLine_getD (oneLine_nonEmpty? type) (oneLine_ofList (by decide))
  simp only [triggerLabel, oneLine_append]
  exact ⟨⟨⟨named, oneLine_ofList (by decide)⟩, typed⟩, oneLine_ofList (by decide)⟩

theorem onOneLine_targets (config : Config) : ∀ f ∈ targets config d, f.OnOneLine := by
  have embedded : (embeddedTargets d).OnOneLine := by
    unfold embeddedTargets
    split <;> exact ⟨oneLine_ofList (by decide), oneLine_ofList (by decide)⟩
  refine List.forall_mem_cons.2 ⟨embedded, ?_⟩
  rw [List.forall_mem_flatMap]
  intro g hg f hf
  obtain ⟨target, ht, hf⟩ := List.mem_flatMap.1 hf
  obtain ⟨id, name, types⟩ := h.groups g hg
  have title : OneLine (groupTitle g.1 g.2) :=
    oneLine_append.2 ⟨oneLine_ofList (by decide), oneLine_getD name id⟩
  have type : OneLine (target.type.getD "unspecified") :=
    oneLine_getD (types target ht) (oneLine_ofList (by decide))
  have selected : ∀ f ∈ selectedTargets (groupTitle g.1 g.2) target, f.OnOneLine :=
    onOneLine_ite (List.forall_mem_nil _)
      (List.forall_mem_singleton.2 ⟨title, oneLine_ofList (by decide)⟩)
  have typed : ∀ f ∈ targetType config (groupTitle g.1 g.2) target, f.OnOneLine := by
    refine onOneLine_ite (List.forall_mem_nil _) (List.forall_mem_singleton.2 ⟨title, ?_⟩)
    exact oneLine_between (oneLine_ofList (by decide)) type (oneLine_ofList (by decide))
  exact List.forall_mem_append.2 ⟨selected, onOneLine_ite typed (List.forall_mem_nil _)⟩ f hf

omit h in
theorem oneLine_stripLeadingDigits {name : String} (h : OneLine name) :
    OneLine (Naming.stripLeadingDigits name) := by
  rw [OneLine, Naming.stripLeadingDigits, String.toList_ofList]
  exact fun mem => h (List.dropWhile_subset _ mem)

omit h in
theorem onOneLine_declaration (config : Config) {v : Option Variable}
    (texts : ∀ x ∈ v, (∀ s ∈ x.name, OneLine s) ∧ (∀ s ∈ x.scope, OneLine s) ∧
      ∀ s ∈ x.type, OneLine s) : ∀ f ∈ declaration config v, f.OnOneLine := by
  unfold declaration
  cases declared : Declared.ofVariable? v with
  | none => exact List.forall_mem_singleton.2 ⟨oneLine_ofList (by decide), oneLine_ofList (by decide)⟩
  | some w =>
    cases v with
    | none => cases declared
    | some x =>
      obtain ⟨name, hname, declared⟩ := Option.bind_eq_some_iff.1 declared
      obtain ⟨scope, hscope, declared⟩ := Option.bind_eq_some_iff.1 declared
      obtain ⟨description, -, declared⟩ := Option.bind_eq_some_iff.1 declared
      cases declared
      obtain ⟨names, scopes, types⟩ := texts x rfl
      have named : OneLine name := oneLine_nonEmpty? names name hname
      have inScope : OneLine scope := oneLine_nonEmpty? scopes scope hscope
      have typed : OneLine ((nonEmpty? x.type).getD "unknown") :=
        oneLine_getD (oneLine_nonEmpty? types) (oneLine_ofList (by decide))
      have title : OneLine ("Variable: " ++ name) :=
        oneLine_append.2 ⟨oneLine_ofList (by decide), named⟩
      refine List.forall_mem_append.2 ⟨List.forall_mem_append.2 ⟨?_, ?_⟩, ?_⟩
      · refine onOneLine_ite (List.forall_mem_singleton.2 ⟨title, ?_⟩) (List.forall_mem_nil _)
        refine oneLine_append.2 ⟨oneLine_between ?_ inScope ?_, named⟩
        all_goals exact oneLine_ofList (by decide)
      · refine onOneLine_ite (List.forall_mem_nil _) (List.forall_mem_singleton.2 ⟨title, ?_⟩)
        refine oneLine_append.2 ⟨?_, ?_⟩
        all_goals exact oneLine_ofList (by decide)
      · refine List.forall_mem_singleton.2 ⟨oneLine_stripLeadingDigits named, ?_⟩
        exact oneLine_append.2 ⟨oneLine_ofList (by decide), typed⟩

theorem onOneLine_declarations (config : Config) : ∀ f ∈ declarations config d, f.OnOneLine := by
  have globals : (globalVariables (d.workflow.present?.map WorkflowBody.declarations)).OnOneLine := by
    unfold globalVariables
    split <;> exact ⟨oneLine_ofList (by decide), oneLine_ofList (by decide)⟩
  refine List.forall_mem_append.2 ⟨?_, List.forall_mem_singleton.2 globals⟩
  split
  · next vs found =>
    obtain ⟨_, there, present⟩ := Option.bind_eq_some_iff.1 found
    obtain ⟨body, hbody, rfl⟩ := Option.map_eq_some_iff.1 there
    rw [List.forall_mem_flatMap]
    intro v hv
    refine onOneLine_declaration config fun x some => ?_
    cases some
    exact h.declared body hbody vs present x hv
  · exact List.forall_mem_singleton.2 ⟨oneLine_ofList (by decide), oneLine_ofList (by decide)⟩

omit h in
theorem oneLine_shownName {a : Activity} (name : ∀ s ∈ a.displayName, OneLine s) :
    OneLine a.shownName := by
  unfold Activity.shownName
  split
  · next s shown =>
    split
    · decide
    · exact name s shown
  · decide

omit h in
theorem onOneLine_activity {a : Activity} (name : ∀ s ∈ a.displayName, OneLine s) :
    ∀ f ∈ activity a, f.OnOneLine := by
  have title := oneLine_shownName name
  -- what a finding describes is written out, whatever its title is
  have titled {f : Finding} {cs : List Char} (name : f.title = a.shownName)
      (written : f.description = String.ofList cs) (h : '\n' ∉ cs) : f.OnOneLine :=
    ⟨name ▸ title, written ▸ oneLine_ofList h⟩
  have due {c : Bool} {f : Finding} (h : f.OnOneLine) : ∀ g ∈ if c then [f] else [], g.OnOneLine :=
    onOneLine_ite (List.forall_mem_singleton.2 h) (List.forall_mem_nil _)
  have dueElse {c : Bool} {f : Finding} (h : f.OnOneLine) : ∀ g ∈ if c then [] else [f], g.OnOneLine :=
    onOneLine_ite (List.forall_mem_nil _) (List.forall_mem_singleton.2 h)
  have request : ∀ f ∈ httpRequest a, f.OnOneLine := List.forall_mem_append.2
    ⟨due (titled rfl rfl (by decide)), dueElse (titled rfl rfl (by decide))⟩
  have query : ∀ f ∈ jsonPathQuery a, f.OnOneLine := onOneLine_ite
    (List.forall_mem_singleton.2 (titled rfl rfl (by decide)))
    (List.forall_mem_singleton.2 (titled rfl rfl (by decide)))
  have other : ∀ f ∈ anyOther a, f.OnOneLine := List.forall_mem_append.2
    ⟨due (titled rfl rfl (by decide)), due (titled rfl rfl (by decide))⟩
  have keys : ∀ f ∈ accountKeys a, f.OnOneLine := due (titled rfl rfl (by decide))
  have status : ∀ f ∈ statusCode a, f.OnOneLine := due (titled rfl rfl (by decide))
  have byType : ∀ f ∈ byType a, f.OnOneLine := onOneLine_ite request (onOneLine_ite query other)
  exact List.forall_mem_append.2 ⟨List.forall_mem_append.2 ⟨keys, byType⟩, status⟩

theorem onOneLine_activities (mode : Mode) : ∀ f ∈ activities mode d, f.OnOneLine := by
  have overview : (activitiesOverview mode).OnOneLine := by
    cases mode <;> exact ⟨oneLine_ofList (by decide), oneLine_ofList (by decide)⟩
  refine List.forall_mem_cons.2 ⟨overview, ?_⟩
  split
  · exact List.forall_mem_singleton.2 ⟨oneLine_ofList (by decide), oneLine_ofList (by decide)⟩
  · rw [(Document.records_walk d).found, List.reverse_reverse, List.forall_mem_flatMap]
    exact fun a ha => onOneLine_activity (h.activities a ha)

theorem onOneLine_atomics : ∀ f ∈ atomics d, f.OnOneLine := by
  unfold atomics
  dsimp only
  split
  · exact List.forall_mem_singleton.2 ⟨oneLine_ofList (by decide), oneLine_ofList (by decide)⟩
  · intro f hf
    obtain ⟨reference, mem, rfl⟩ := List.mem_map.1 hf
    unfold atomic
    rw [(Document.records_walk d).calls]
    cases caller : d.activities.find? (Activity.calls reference) with
    | none => exact ⟨h.references reference mem, oneLine_ofList (by decide)⟩
    | some a =>
      exact ⟨oneLine_shownName (h.activities a (List.mem_of_find?_eq_some caller)),
        oneLine_ofList (by decide)⟩

omit h in
theorem onOneLine_statistics (d : Document) : ∀ f ∈ statistics d, f.OnOneLine :=
  List.forall_mem_cons.2 ⟨⟨oneLine_ofList (by decide), oneLine_toString _⟩,
    List.forall_mem_singleton.2 ⟨oneLine_ofList (by decide), oneLine_toString _⟩⟩

/-- The headlines of a document without line feeds stand on one line each. -/
theorem onOneLine_bucketFindings (config : Config) (mode : Mode) (b : Bucket) :
    ∀ f ∈ d.bucketFindings config mode b, f.OnOneLine :=
  match b with
  | .properties => onOneLine_properties h mode
  | .variables => onOneLine_declarations h config
  | .triggers => onOneLine_triggers h
  | .targets => onOneLine_targets h config
  | .activities => onOneLine_activities h mode
  | .atomics => onOneLine_atomics h
  | .statistics => onOneLine_statistics d

end Rules

end WorkflowLint
