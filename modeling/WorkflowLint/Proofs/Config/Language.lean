import Mathlib.Data.Set.List
import WorkflowLint.Config.Reader
import WorkflowLint.Proofs.Json.Record

/-!
# The texts of configurations

A text gives settings by name or in order (`Gives`), and those are all the texts that are read: what
comes out are the built-in settings with the given ones in their place (`ofText_iff_gives`). Nothing
else is a configuration, whatever is wrong with it.
-/

set_option autoImplicit false

namespace WorkflowLint

namespace Config

open Json (Padded Spells)
open Json.Record (fits_iff spells_count_iff)

/-- One setting and the value that it is given. -/
inductive Setting where
  | minDescriptionLength (n : Nat)
  | descriptionScopes (scopes : List String)
  | namingExceptions (words : List String)
  | defaultTargetGroupId (id : String)
  | defaultTargetTypes (types : List String)

namespace Setting

def name : Setting → String
  | minDescriptionLength _ => "min_description_length"
  | descriptionScopes _ => "description_scopes"
  | namingExceptions _ => "naming_exceptions"
  | defaultTargetGroupId _ => "default_target_group_id"
  | defaultTargetTypes _ => "default_target_types"

/-- The value as a text has it. -/
def value : Setting → Json
  | minDescriptionLength n => .num (.int n)
  | descriptionScopes scopes => .arr (scopes.map .str)
  | namingExceptions words => .arr (words.map .str)
  | defaultTargetGroupId id => .str id
  | defaultTargetTypes types => .arr (types.map .str)

def member (s : Setting) : String × Json := (s.name, s.value)

/-- The configuration with the setting replaced. -/
def put : Setting → Config → Config
  | minDescriptionLength n, c => { c with minDescriptionLength := n }
  | descriptionScopes scopes, c => { c with descriptionScopes := scopes }
  | namingExceptions words, c => { c with namingExceptions := words }
  | defaultTargetGroupId id, c => { c with defaultTargetGroupId := id }
  | defaultTargetTypes types, c => { c with defaultTargetTypes := types }

/-- The members that are settings are those of the record. -/
theorem exists_member_iff {m : String × Json} : (∃ s : Setting, s.member = m) ↔
    ∃ kind, fields.lookup m.1 = some kind ∧ kind.Holds m.2 := by
  obtain ⟨key, v⟩ := m
  constructor
  · rintro ⟨s, e⟩
    obtain ⟨rfl, rfl⟩ := Prod.mk.inj e
    cases s with
    | minDescriptionLength n => exact ⟨.count, rfl, n, rfl⟩
    | descriptionScopes scopes => exact ⟨.texts, rfl, scopes, rfl⟩
    | namingExceptions words => exact ⟨.texts, rfl, words, rfl⟩
    | defaultTargetGroupId id => exact ⟨.text, rfl, id, rfl⟩
    | defaultTargetTypes types => exact ⟨.texts, rfl, types, rfl⟩
  · rintro ⟨kind, known, holds⟩
    have field : (key, kind) ∈ fields := by
      obtain ⟨before, behind, e, -⟩ := List.lookup_eq_some_iff.1 known
      exact e ▸ List.mem_append_right before List.mem_cons_self
    simp only [fields, List.mem_cons, List.not_mem_nil, or_false, Prod.mk.injEq] at field
    obtain ⟨rfl, rfl⟩ | ⟨rfl, rfl⟩ | ⟨rfl, rfl⟩ | ⟨rfl, rfl⟩ | ⟨rfl, rfl⟩ := field
    · obtain ⟨n, rfl⟩ := holds
      exact ⟨.minDescriptionLength n, rfl⟩
    · obtain ⟨scopes, rfl⟩ := holds
      exact ⟨.descriptionScopes scopes, rfl⟩
    · obtain ⟨words, rfl⟩ := holds
      exact ⟨.namingExceptions words, rfl⟩
    · obtain ⟨id, rfl⟩ := holds
      exact ⟨.defaultTargetGroupId id, rfl⟩
    · obtain ⟨types, rfl⟩ := holds
      exact ⟨.defaultTargetTypes types, rfl⟩

theorem exists_map_member_iff {ms : Members Json} :
    (∃ given : List Setting, ms = given.map member) ↔
      ∀ m ∈ ms, ∃ kind, fields.lookup m.1 = some kind ∧ kind.Holds m.2 := by
  have range : (∃ given : List Setting, ms = given.map member) ↔ ms ∈ Set.range (List.map member) :=
    exists_congr fun _ => eq_comm
  rw [range, Set.range_list_map]
  exact forall₂_congr fun m _ => exists_member_iff

end Setting

theorem texts?_map (ss : List String) : texts? (.arr (ss.map .str)) = some ss := by
  have strings : (ss.map Json.str).mapM Json.string? = some ss := by
    induction ss with
    | nil => rfl
    | cons s ss ih => simp [ih, Json.string?]
  exact strings

theorem ofMembers_cons (s : Setting) (ms : Members Json) :
    ofMembers (s.member :: ms) = s.put (ofMembers ms) := by
  cases s <;>
    simp [ofMembers, Setting.member, Setting.name, Setting.value, Setting.put, lookup_cons_ite,
      count?, texts?_map, Json.string?]

theorem ofMembers_map_member (given : List Setting) :
    ofMembers (given.map Setting.member) = given.foldr Setting.put builtIn := by
  induction given with
  | nil => rfl
  | cons s given ih => rw [List.map_cons, ofMembers_cons, ih, List.foldr_cons]

/-- The names of the settings, in the order of their declaration. -/
def names : List String :=
  ["min_description_length", "description_scopes", "naming_exceptions", "default_target_group_id",
    "default_target_types"]

/-- The text gives these settings: by name in an object, none twice, or in a list, which has the first
ones in their order. -/
inductive Gives (given : List Setting) (text : List Char) : Prop
  | byName (distinct : (given.map Setting.name).Nodup)
      (object : Padded (Spells Json.nestingLimit) (.obj (given.map Setting.member)) text) :
    Gives given text
  | inOrder (first : given.map Setting.name <+: names)
      (list : Padded (Spells Json.nestingLimit) (.arr (given.map Setting.value)) text) :
    Gives given text

theorem map_fst_fields : fields.map Prod.fst = names := rfl

theorem distinct_fields : (fields.map Prod.fst).Nodup := by decide

theorem readMembers_eq_ok {text : String} {ms : Members Json} :
    readMembers text = .ok ms ↔
      ∃ given, Gives given text.toList ∧ ms = given.map Setting.member := by
  have keys (given : List Setting) :
      (given.map Setting.member).map Prod.fst = given.map Setting.name := by
    rw [List.map_map]
    rfl
  have values (given : List Setting) :
      (given.map Setting.member).map Prod.snd = given.map Setting.value := by
    rw [List.map_map]
    rfl
  rw [readMembers, Json.Reader.whole_eq_ok fun bound =>
    Json.Record.read_takes "struct AnalyzerConfig" bound 125]
  generalize text.toList = text
  constructor
  · rintro ⟨blank, gives, blank'⟩
    cases gives with
    | named distinct known spells =>
      obtain ⟨given, rfl⟩ := Setting.exists_map_member_iff.2 known
      rw [keys] at distinct
      exact ⟨given, .byName distinct ⟨blank, spells, blank'⟩, rfl⟩
    | inOrder fits spells =>
      obtain ⟨first, known⟩ := (fits_iff distinct_fields).1 fits
      obtain ⟨given, rfl⟩ := Setting.exists_map_member_iff.2 known
      rw [keys, map_fst_fields] at first
      rw [values] at spells
      exact ⟨given, .inOrder first ⟨blank, spells, blank'⟩, rfl⟩
  · rintro ⟨given, gives, rfl⟩
    have known := Setting.exists_map_member_iff.1 ⟨given, rfl⟩
    cases gives with
    | byName distinct object =>
      obtain ⟨blank, spells, blank'⟩ := object
      rw [← keys] at distinct
      exact ⟨blank, .named distinct known spells, blank'⟩
    | inOrder first list =>
      obtain ⟨blank, spells, blank'⟩ := list
      rw [← keys, ← map_fst_fields] at first
      rw [← values] at spells
      exact ⟨blank, .inOrder ((fits_iff distinct_fields).2 ⟨first, known⟩) spells, blank'⟩

theorem ofText_eq_ok_iff {text : String} {c : Config} : ofText text = .ok c ↔
    ∃ given, Gives given text.toList ∧ c = given.foldr Setting.put builtIn := by
  have read : ofText text = .ok c ↔ ∃ ms, readMembers text = .ok ms ∧ c = ofMembers ms := by
    unfold ofText
    cases readMembers text with
    | ok ms => simp [eq_comm]
    | error e => simp
  rw [read]
  constructor
  · rintro ⟨_, members, rfl⟩
    obtain ⟨given, gives, rfl⟩ := readMembers_eq_ok.1 members
    exact ⟨given, gives, ofMembers_map_member given⟩
  · rintro ⟨given, gives, rfl⟩
    exact ⟨_, readMembers_eq_ok.2 ⟨given, gives, rfl⟩, (ofMembers_map_member given).symm⟩

theorem code_of_ofText_eq_error {text : String} {f : Failure} (h : ofText text = .error f) :
    f.code = "C001" := by
  unfold ofText at h
  split at h
  · cases h
  · obtain rfl := Except.error.inj h
    rfl

/-- **The texts of configurations.** A text is read as a configuration exactly if it gives settings,
as JSON and in one of the two forms, and the configuration is the built-in one with these settings
replaced. Every other text fails, with the code for configurations. The one number among the settings
has to be written in decimal digits, without a sign, and in 64 bits. -/
theorem ofText_iff_gives (text : String) :
    (∀ c, ofText text = .ok c ↔
      ∃ given, Gives given text.toList ∧ c = given.foldr Setting.put builtIn) ∧
    ((∃ f, ofText text = .error f ∧ f.code = "C001") ↔ ∀ given, ¬Gives given text.toList) ∧
    ∀ room n number, Spells room (Setting.minDescriptionLength n).value number ↔
      n < 2 ^ 64 ∧ number = Nat.toDigits 10 n := by
  refine ⟨fun c => ofText_eq_ok_iff, ⟨?_, fun refused => ?_⟩, fun _ _ _ => spells_count_iff⟩
  · rintro ⟨f, failed, -⟩ given gives
    have accepted := ofText_eq_ok_iff.2 ⟨given, gives, rfl⟩
    rw [failed] at accepted
    cases accepted
  · cases read : ofText text with
    | ok c =>
      obtain ⟨given, gives, -⟩ := ofText_eq_ok_iff.1 read
      exact absurd gives (refused given)
    | error f => exact ⟨f, rfl, code_of_ofText_eq_error read⟩

end Config

end WorkflowLint
