import WorkflowLint.Config.Basic
import WorkflowLint.Document.Basic
import WorkflowLint.Report.Basic

/-!
# Rules on targets

A document must not hold targets of its own. A target of a group must not be picked by hand, and in
the default group it must be of one of the configured types.
-/

set_option autoImplicit false

namespace WorkflowLint.Rules

def embeddedTargets (d : Document) : Finding :=
  if d.targets.isSet then
    (Finding.error "TGT001" "Targets" "Failed").withMoreInfo
      "Workflows should not have any hard-coded targets"
  else
    (Finding.success "TGT001" "Targets" "Passed").withMoreInfo
      "The workflow does not appear to have any targets embedded in it"

def groupTitle (id : String) (group : TargetGroup) : String :=
  "Target Group: " ++ group.name.getD id

/-- Targets picked by hand, however many. -/
def selectedTargets (title : String) (target : GroupTarget) : List Finding :=
  if target.selectedIds.isEmpty then []
  else
    [(Finding.warning "TGT002" title
      "Should not contain manually selected targets").withMoreInfo
      ("In the target group configuration, you probably added a specific target manually. " ++
        "We don't recommend doing this unless you have a specific use case and suggest you " ++
        "consider using target group criteria instead")]

/-- A target of the default group whose type is not among the default types. -/
def targetType (config : Config) (title : String) (target : GroupTarget) : List Finding :=
  if target.type.any config.isDefaultTargetType then []
  else
    [(Finding.warning "TGT003" title
      ("Non-default target type (" ++ target.type.getD "unspecified" ++ ")")).withMoreInfo
      ("By default, the Default TargetGroup doesn't contain target types besides " ++
        config.defaultTargetTypesLabel ++
        ". If you need additional target types for your workflow, the end user may need to " ++
        "add them to the target group configuration before running the workflow")]

/-- The findings on one target of the group with this identifier. -/
def groupTarget (config : Config) (id : String) (group : TargetGroup) (target : GroupTarget) :
    List Finding :=
  let title := groupTitle id group
  selectedTargets title target ++
    if id = config.defaultTargetGroupId then targetType config title target else []

/-- The findings on one group. -/
def targetGroup (config : Config) (entry : String × TargetGroup) : List Finding :=
  entry.2.targets.flatMap (groupTarget config entry.1 entry.2)

/-- The findings on the targets, in order. -/
def targets (config : Config) (d : Document) : List Finding :=
  embeddedTargets d :: (d.targetGroups.present?.getD []).flatMap (targetGroup config)

end WorkflowLint.Rules
