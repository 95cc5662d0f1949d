/-!
# Configuration

The settings of the rules, with the built-in ones. Only three rules look at them: long enough
descriptions, the naming of variables, and the types of the default target group.
-/

set_option autoImplicit false

namespace WorkflowLint

/-- The settings of the rules. -/
structure Config where
  /-- Least length, in characters, of a description in one of `descriptionScopes`. -/
  minDescriptionLength : Nat
  descriptionScopes : List String
  /-- Words with a fixed spelling in variable names. -/
  namingExceptions : List String
  defaultTargetGroupId : String
  /-- The target types that the default target group may have. -/
  defaultTargetTypes : List String
  deriving DecidableEq

namespace Config

/-- The settings where nothing else is said. -/
def builtIn : Config where
  minDescriptionLength := 10
  descriptionScopes := ["input", "local", "static"]
  namingExceptions := ["ID", "IDS", "TO", "FROM", "OF", "FOR"]
  defaultTargetGroupId := "target_group_01EJ0TQWPQWBD0qiWqClJKj9FOzwiZRfOFH"
  defaultTargetTypes := ["web-service.endpoint", "email.smtp_endpoint"]

instance : Inhabited Config := ⟨builtIn⟩

def requiresLongDescription (c : Config) (scope : String) : Bool :=
  c.descriptionScopes.contains scope

/-- The two words differ at most in the case of ASCII letters. -/
def sameWord (a b : String) : Bool :=
  a.toList.map Char.toLower == b.toList.map Char.toLower

/-- The fixed spelling of a word: the first exception that is the same word. -/
def namingException? (c : Config) (word : String) : Option String :=
  c.namingExceptions.find? fun exception => sameWord exception word

def isDefaultTargetType (c : Config) (type : String) : Bool :=
  c.defaultTargetTypes.contains type

/-- A target type as readers know it. -/
def targetTypeLabel (type : String) : String :=
  if type = "web-service.endpoint" then "HTTP Endpoint"
  else if type = "email.smtp_endpoint" then "SMTP Endpoint"
  else type

/-- A list in words: commas between its parts and "and" before the last. -/
def enumerate : List String → String
  | [] => "none"
  | [last] => last
  | parts => ", ".intercalate parts.dropLast ++ " and " ++ parts.getLastD ""

/-- The default target types as readers know them. -/
def defaultTargetTypesLabel (c : Config) : String :=
  enumerate (c.defaultTargetTypes.map targetTypeLabel)

end Config

end WorkflowLint
