import WorkflowLint.Document.Basic
import WorkflowLint.Report.Basic

/-!
# Rules on activities

The rules of this module look at one activity at a time; several may find fault with the same one.
Each finding is a function of the name to show (`keysOverridden` and those after it), each rule says
when it is due.
-/

set_option autoImplicit false

namespace WorkflowLint.Rules

def continueChecked : String := "\"Continue Workflow Execution on Failure\" is checked"

def continueReassurance : String :=
  "Setting continue workflow execution on failure means the workflow will continue running even " ++
    "if this activity fails. It's ok to use this if you're using a Condition Block to do some " ++
    "error handling."

def statusCodeAdvice : String :=
  "You should check this and use a Condition Block to handle HTTP error codes."

/-! ### Findings -/

def keysOverridden (title : String) : Finding :=
  (Finding.warning "ACT002" title "Account Key Configuration").withMoreInfo
    ("Most activities should have their account key set to \"Use Target's Default Account " ++
      "Keys.\" It's uncommon that a target's account keys should be overridden.")

def requestContinues (title : String) : Finding :=
  (Finding.info "ACT003" title continueChecked).withMoreInfo
    ("In most cases, you probably want \"Continue on HTTP error status code\" instead. " ++
      "If you're using this option intentionally, make sure you're using a Condition " ++
      "Block to handle failures.")

def requestStopsOnStatus (title : String) : Finding :=
  (Finding.warning "ACT004" title
    "\"Continue on HTTP error status code\" is not checked").withMoreInfo statusCodeAdvice

def queryStops (title : String) : Finding :=
  (Finding.warning "ACT005" title
    "\"Continue Workflow Execution on Failure\" is not checked").withMoreInfo
    ("If the JSON path query you look for isn't found, the activity will fail and your " ++
      "workflow will fail with it. If you want to avoid this, you can check continue on " ++
      "failure and use a Condition Block to check if the path query was successful.")

def queryContinues (title : String) : Finding :=
  (Finding.info "ACT006" title continueChecked).withMoreInfo continueReassurance

def otherContinues (title : String) : Finding :=
  (Finding.info "ACT007" title continueChecked).withMoreInfo continueReassurance

def redirects (title : String) : Finding :=
  (Finding.warning "ACT008" title "\"Allow Auto Redirect\" is checked").withMoreInfo
    ("If you're using a web request, you should check this and use a Condition Block " ++
      "to handle redirects.")

def continuesOnStatus (title : String) : Finding :=
  (Finding.warning "ACT009" title
    "\"Continue on HTTP error status code\" is checked").withMoreInfo statusCodeAdvice

/-! ### Rules -/

/-- The account keys are there but are not those of the target. -/
def overridesAccountKeys (a : Activity) : Bool :=
  match a.runtimeUser with
  | .missing => false
  | .present user => !user.usesTargetDefault
  | .null => true
  | .invalid _ => true

def accountKeys (a : Activity) : List Finding :=
  if overridesAccountKeys a then [keysOverridden a.shownName] else []

def httpRequest (a : Activity) : List Finding :=
  (if a.continueOnFailure.isTruthy then [requestContinues a.shownName] else []) ++
  (if a.continueOnErrorStatusCode.isTruthy then [] else [requestStopsOnStatus a.shownName])

def jsonPathQuery (a : Activity) : List Finding :=
  if a.continueOnFailure.isTruthy then [queryContinues a.shownName] else [queryStops a.shownName]

def anyOther (a : Activity) : List Finding :=
  (if a.continueOnFailure.isTruthy then [otherContinues a.shownName] else []) ++
  (if a.allowAutoRedirect.isTruthy then [redirects a.shownName] else [])

/-- The rules that depend on the type of the activity. -/
def byType (a : Activity) : List Finding :=
  if a.type = some "web-service.http_request" then httpRequest a
  else if a.type = some "corejava.jsonpathquery" then jsonPathQuery a
  else anyOther a

def statusCode (a : Activity) : List Finding :=
  if a.continueOnErrorStatusCode.isTruthy then [continuesOnStatus a.shownName] else []

/-- The findings on one activity. -/
def activity (a : Activity) : List Finding :=
  accountKeys a ++ byType a ++ statusCode a

end WorkflowLint.Rules
