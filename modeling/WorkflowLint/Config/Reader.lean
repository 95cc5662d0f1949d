import WorkflowLint.Config.Basic
import WorkflowLint.Failure
import WorkflowLint.Json.Record

/-!
# Reading a configuration

A configuration is a record of five fields, none of which must be given: `ofMembers` puts the given
ones over the built-in settings. `toMembers` writes all of them.
-/

set_option autoImplicit false

namespace WorkflowLint.Config

/-- The settings by name, in the order of their declaration. -/
def fields : List (String × Json.Record.Kind) :=
  [("min_description_length", .count), ("description_scopes", .texts),
    ("naming_exceptions", .texts), ("default_target_group_id", .text),
    ("default_target_types", .texts)]

def count? : Json → Option Nat
  | .num (.int n) => some n.toNat
  | _ => none

def texts? (v : Json) : Option (List String) :=
  v.items?.bind fun items => items.mapM Json.string?

/-- The built-in settings but for those that the members give. -/
def ofMembers (members : List (String × Json)) : Config where
  minDescriptionLength :=
    ((members.lookup "min_description_length").bind count?).getD builtIn.minDescriptionLength
  descriptionScopes :=
    ((members.lookup "description_scopes").bind texts?).getD builtIn.descriptionScopes
  namingExceptions :=
    ((members.lookup "naming_exceptions").bind texts?).getD builtIn.namingExceptions
  defaultTargetGroupId :=
    ((members.lookup "default_target_group_id").bind Json.string?).getD builtIn.defaultTargetGroupId
  defaultTargetTypes :=
    ((members.lookup "default_target_types").bind texts?).getD builtIn.defaultTargetTypes

/-- All settings by name, in the order of their declaration. -/
def toMembers (c : Config) : List (String × Json) :=
  [("min_description_length", .num (.int c.minDescriptionLength)),
    ("description_scopes", .arr (c.descriptionScopes.map .str)),
    ("naming_exceptions", .arr (c.namingExceptions.map .str)),
    ("default_target_group_id", .str c.defaultTargetGroupId),
    ("default_target_types", .arr (c.defaultTargetTypes.map .str))]

def toJson (c : Config) : Json := .obj c.toMembers

/-- The settings that a text gives, as the record's members. -/
def readMembers (text : String) : Except Json.ReadError (List (String × Json)) :=
  Json.Reader.whole (Json.Record.read "struct AnalyzerConfig" fields) text.toList

/-- The configuration that a text describes. -/
def ofText (text : String) : Except Failure Config :=
  match readMembers text with
  | .ok members => .ok (ofMembers members)
  | .error e => .error ⟨.config, "Failed to parse analyzer config: " ++ e.message⟩

end WorkflowLint.Config
