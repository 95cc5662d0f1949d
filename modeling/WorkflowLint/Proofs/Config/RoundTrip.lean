import Mathlib.Data.List.Nodup
import WorkflowLint.Proofs.Config.Language
import WorkflowLint.Proofs.Json.Property

/-!
# Configurations in their own format

A configuration is written as an object of its settings. Some of them, in any order, are a text again
that gives just these settings, over the built-in ones (`ofText_of_subperm`); all of them give the
configuration back. A configuration that was read is one that can be written
(`minDescriptionLength_lt_of_ofText`).
-/

set_option autoImplicit false

namespace WorkflowLint

namespace Config

open Json (Padded Spells Exact)

/-- The settings, in the order of their declaration. -/
def settings (c : Config) : List Setting :=
  [.minDescriptionLength c.minDescriptionLength, .descriptionScopes c.descriptionScopes,
    .namingExceptions c.namingExceptions, .defaultTargetGroupId c.defaultTargetGroupId,
    .defaultTargetTypes c.defaultTargetTypes]

/-- The built-in settings, with those of these names taken from `c`. -/
def taking (c : Config) (names : List String) : Config where
  minDescriptionLength :=
    if "min_description_length" ∈ names then c.minDescriptionLength else builtIn.minDescriptionLength
  descriptionScopes :=
    if "description_scopes" ∈ names then c.descriptionScopes else builtIn.descriptionScopes
  namingExceptions :=
    if "naming_exceptions" ∈ names then c.namingExceptions else builtIn.namingExceptions
  defaultTargetGroupId :=
    if "default_target_group_id" ∈ names then c.defaultTargetGroupId else builtIn.defaultTargetGroupId
  defaultTargetTypes :=
    if "default_target_types" ∈ names then c.defaultTargetTypes else builtIn.defaultTargetTypes

theorem map_member_settings (c : Config) : c.settings.map Setting.member = c.toMembers := rfl

theorem distinct_toMembers (c : Config) : Members.Distinct c.toMembers := distinct_fields

/-- Where all settings are taken, none is built in. -/
theorem taking_of_forall (c : Config) {names : List String}
    (all : ∀ name ∈ fields.map Prod.fst, name ∈ names) : c.taking names = c := by
  simp only [fields, List.map_cons, List.map_nil, List.forall_mem_cons] at all
  simp only [taking, if_pos all.1, if_pos all.2.1, if_pos all.2.2.1, if_pos all.2.2.2.1,
    if_pos all.2.2.2.2.1]

section

variable {c : Config} {given : Members Json} (some : given.Subperm c.toMembers)

include some

theorem distinct_of_subperm : Members.Distinct given := by
  obtain ⟨listed, permuted, sublist⟩ := some
  have distinct : (listed.map Prod.fst).Nodup := c.distinct_toMembers.sublist (sublist.map Prod.fst)
  exact (permuted.map Prod.fst).nodup_iff.1 distinct

/-- Of the given settings a look-up finds those of the configuration. -/
theorem lookup_of_subperm (name : String) : given.lookup name =
    if name ∈ given.map Prod.fst then c.toMembers.lookup name else none := by
  split
  · next mem =>
    obtain ⟨⟨_, v⟩, hm, rfl⟩ := List.mem_map.1 mem
    rw [(Members.lookup_eq_some_iff (distinct_of_subperm some) _ v).2 hm]
    exact ((Members.lookup_eq_some_iff c.distinct_toMembers _ v).2 (some.subset hm)).symm
  · next absent =>
    refine Option.eq_none_iff_forall_ne_some.2 fun v found => absent ?_
    exact List.mem_map.2
      ⟨_, (Members.lookup_eq_some_iff (distinct_of_subperm some) name v).1 found, rfl⟩

theorem ofMembers_of_subperm : ofMembers given = c.taking (given.map Prod.fst) := by
  have setting {α : Type} {name : String} {v : Json} {read? : Json → Option α} {a b : α}
      (written : c.toMembers.lookup name = Option.some v) (reads : read? v = Option.some a) :
      ((given.lookup name).bind read?).getD b = if name ∈ given.map Prod.fst then a else b := by
    rw [lookup_of_subperm some, written]
    split
    · rw [Option.bind_some, reads, Option.getD_some]
    · rfl
  unfold ofMembers taking
  rw [setting rfl (a := c.minDescriptionLength) rfl, setting rfl (texts?_map _),
    setting rfl (texts?_map _), setting rfl (a := c.defaultTargetGroupId) rfl,
    setting rfl (texts?_map _)]

/-- Every text of an object with some of the settings is read as these. -/
theorem ofText_of_subperm {text : String} (said : Json.ofText text = .ok (.obj given)) :
    ofText text = .ok (c.taking (given.map Prod.fst)) := by
  have settings (m : String × Json) (hm : m ∈ given) : ∃ s : Setting, s.member = m := by
    have mem := some.subset hm
    rw [← map_member_settings] at mem
    obtain ⟨s, -, e⟩ := List.mem_map.1 mem
    exact ⟨s, e⟩
  obtain ⟨written, e⟩ := Setting.exists_map_member_iff.2 fun m hm =>
    Setting.exists_member_iff.1 (settings m hm)
  have distinct : (written.map Setting.name).Nodup := by
    have names := distinct_of_subperm some
    rwa [e, Members.Distinct, List.map_map] at names
  have gives : Gives written text.toList := .byName distinct (e ▸ Json.ofText_eq_ok_iff.1 said)
  rw [ofText, readMembers_eq_ok.2 ⟨written, gives, e⟩]
  exact congrArg Except.ok (ofMembers_of_subperm some)

theorem exact_of_subperm (fits : c.minDescriptionLength < 2 ^ 64) :
    Exact Json.nestingLimit (.obj given) := by
  have texts (ss : List String) : Exact 1 (.arr (ss.map .str)) := by
    simp
  have inside : Exact 2 (.obj given) := by
    refine .obj fun m hm => ?_
    have mem := some.subset hm
    simp only [toMembers, List.mem_cons, List.not_mem_nil, or_false] at mem
    rcases mem with rfl | rfl | rfl | rfl | rfl
    · exact .int (by omega) (by omega)
    · exact texts _
    · exact texts _
    · exact .str _
    · exact texts _
  exact inside.mono (by decide)

end

/-! ### Configurations that were read -/

/-- The values of the settings that a text gives keep within the bounds of the reader. -/
theorem Gives.fits {given : List Setting} {text : List Char} (h : Gives given text) :
    ∀ s ∈ given, Json.Fits 126 s.value := by
  cases h with
  | byName _ object =>
    obtain ⟨_, spells⟩ := object.exists_text
    have inside := Json.Fits.obj_iff.1 spells.fits
    exact fun s hs => inside _ (List.mem_map_of_mem hs)
  | inOrder _ list =>
    obtain ⟨_, spells⟩ := list.exists_text
    have inside := Json.Fits.arr_iff.1 spells.fits
    exact fun s hs => inside _ (List.mem_map_of_mem hs)

/-- A length that was read has 64 bits. -/
theorem minDescriptionLength_lt_of_ofText {text : String} {c : Config} (read : ofText text = .ok c) :
    c.minDescriptionLength < 2 ^ 64 := by
  obtain ⟨given, gives, rfl⟩ := ofText_eq_ok_iff.1 read
  have fits := gives.fits
  clear gives read
  induction given with
  | nil => decide
  | cons s given ih =>
    obtain ⟨first, others⟩ := List.forall_mem_cons.1 fits
    cases s with
    | minDescriptionLength n =>
      exact Int.ofNat_lt.1 (Json.Fits.int_iff.1 first).2
    | _ => exact ih others

theorem ofText_toJson {c : Config} (fits : c.minDescriptionLength < 2 ^ 64) :
    ofText c.toJson.compact = .ok c := by
  have all := List.Subperm.refl c.toMembers
  have read := ofText_of_subperm all (Json.ofText_compact_of_exact (exact_of_subperm all fits))
  have names : c.taking (c.toMembers.map Prod.fst) = c := c.taking_of_forall fun _ mem => mem
  rw [names] at read
  exact read

/-- **Configurations survive their own format.** Some settings of a configuration, in any order, are
read as the built-in ones with these replaced, from the object as it is written and from every other
text of it; if there are all of them, the configuration itself is read. What is read from any text is
read again from its own. -/
theorem ofText_written :
    (∀ (c : Config) (given : Members Json), c.minDescriptionLength < 2 ^ 64 →
      given.Subperm c.toMembers →
        ofText (Json.obj given).compact = .ok (c.taking (given.map Prod.fst)) ∧
        (∀ text, Json.ofText text = .ok (.obj given) →
          ofText text = .ok (c.taking (given.map Prod.fst))) ∧
        (given.Perm c.toMembers → ofText (Json.obj given).compact = .ok c)) ∧
    ∀ text c, ofText text = .ok c → ofText c.toJson.compact = .ok c := by
  refine ⟨fun c given fits some => ?_, fun text c read => ?_⟩
  · have written := ofText_of_subperm some
      (Json.ofText_compact_of_exact (exact_of_subperm some fits))
    refine ⟨written, fun text => ofText_of_subperm some, fun permuted => ?_⟩
    have names := permuted.map Prod.fst
    rw [written, c.taking_of_forall fun name mem => names.mem_iff.2 mem]
  · exact ofText_toJson (minDescriptionLength_lt_of_ofText read)

/-- A configuration with the greatest length, no scopes, and words of every kind of escape. -/
def unusual : Config where
  minDescriptionLength := 18446744073709551615
  descriptionScopes := []
  namingExceptions := ["\"\\/", "\x08\x0c\n\r\t", "\x00\x1f", "é"]
  defaultTargetGroupId := "\x7b\x7d[],:"
  defaultTargetTypes := [""]

/-- Three of its settings, the last of them first. -/
def threeSettings : Members Json :=
  [("default_target_types", .arr [.str ""]), ("description_scopes", .arr []),
    ("min_description_length", .num (.int 18446744073709551615))]

theorem subperm_threeSettings : threeSettings.Subperm unusual.toMembers := by
  refine ⟨threeSettings.reverse, List.reverse_perm _, ?_⟩
  exact .cons_cons _ (.cons_cons _ (.cons _ (.cons _ (.cons_cons _ .slnil))))

theorem ofText_written_unusual :
    unusual.minDescriptionLength < 2 ^ 64 ∧ threeSettings.Subperm unusual.toMembers ∧
      ofText (Json.obj threeSettings).compact =
        .ok { unusual with
          namingExceptions := builtIn.namingExceptions
          defaultTargetGroupId := builtIn.defaultTargetGroupId } ∧
      ofText unusual.toJson.compact = .ok unusual := by
  have fits : unusual.minDescriptionLength < 2 ^ 64 := by decide
  have some := (ofText_written.1 unusual threeSettings fits subperm_threeSettings).1
  have all := (ofText_written.1 unusual unusual.toMembers fits (.refl _)).2.2 (.refl _)
  exact ⟨fits, subperm_threeSettings, some, all⟩

end Config

end WorkflowLint
