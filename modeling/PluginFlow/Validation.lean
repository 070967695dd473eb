import PluginFlow.Catalog.Spec
import PluginFlow.Flow.Definition
import PluginFlow.Reference
import PluginFlow.Text.Quoted

/-!
The checks of a flow before it may run: its ids and references, every param against its
declaration, and the side effects against the grants. All findings are reported at once. Only an
undeclared param is a warning. A param that is a reference is not checked further, since its value
is known only in a run.
-/

namespace PluginFlow

inductive Issue
  | emptyFlowId
  | duplicateNodeId (id : String)
  | danglingReference (nodeId target : String)
  | missingStartNode (trigger target : String)
  | unknownNodeType (nodeId nodeType : String)
  | missingParam (nodeId key : String)
  | unknownParam (nodeId key : String)
  | invalidType (nodeId key : String) (expected : ParamType) (value : String)
  | outOfRange (nodeId key : String) (value min max : Number)
  | tooLong (nodeId key : String) (max : Nat)
  | notAllowed (nodeId key value : String) (allowed : List String)
  | sideEffectNotGranted (nodeId : String) (effect : SideEffect)
  deriving DecidableEq

namespace Issue

def message : Issue → String
  | emptyFlowId => "flow id must not be blank"
  | duplicateNodeId id => "duplicate node id '" ++ id ++ "'"
  | danglingReference n t => "node '" ++ n ++ "' references missing node '" ++ t ++ "'"
  | missingStartNode t s => "trigger " ++ t ++ " starts at missing node '" ++ s ++ "'"
  | unknownNodeType n t => "node '" ++ n ++ "' has unknown type '" ++ t ++ "'"
  | missingParam n k => "node '" ++ n ++ "' is missing required param '" ++ k ++ "'"
  | unknownParam n k => "node '" ++ n ++ "' has unknown param '" ++ k ++ "'"
  | invalidType n k e v =>
    "node '" ++ n ++ "' param '" ++ k ++ "' is not a valid " ++ e.name ++ ": " ++ v
  | outOfRange n k v lo hi =>
    "node '" ++ n ++ "' param '" ++ k ++ "' = " ++ v.plainText ++ " is outside [" ++
      lo.plainText ++ ", " ++ hi.plainText ++ "]"
  | tooLong n k max =>
    "node '" ++ n ++ "' param '" ++ k ++ "' exceeds " ++ Number.intText max ++ " characters"
  | notAllowed n k v allowed =>
    "node '" ++ n ++ "' param '" ++ k ++ "' = '" ++ v ++ "' is not one of " ++
      Text.quotedList allowed
  | sideEffectNotGranted n e =>
    "node '" ++ n ++ "' needs side effect '" ++ e.name ++ "' which is not granted"

def isWarning : Issue → Bool
  | unknownParam .. => true
  | _ => false

end Issue

/-- Findings by severity, each list in the order of the checks. -/
structure Report where
  errors : List Issue := []
  warnings : List Issue := []
  deriving DecidableEq

namespace Report

def ofIssues (issues : List Issue) : Report :=
  ⟨issues.filter (!·.isWarning), issues.filter (·.isWarning)⟩

def isOk (r : Report) : Bool := r.errors.isEmpty

end Report

/-- The bounds of a numeric param; a missing bound lets everything through. -/
def ParamSpec.bounds (p : ParamSpec) : Number × Number :=
  (p.min.getD (.infinite true), p.max.getD (.infinite false))

def ParamSpec.numericValue? (p : ParamSpec) (v : Value) : Option Number :=
  if p.type = .long then v.asInteger?.map Number.ofInt else v.asNumber?

def ParamSpec.issue? (p : ParamSpec) (nodeId : String) (v : Value) : Option Issue :=
  if (v.asText?.map isReference).getD false then none
  else match p.type with
    | .any => none
    | .string => p.maxLength.bind fun max =>
      if max < v.toText.toList.length then some (.tooLong nodeId p.key max) else none
    | .boolean =>
      if v.asBool?.isNone then some (.invalidType nodeId p.key p.type v.toText) else none
    | .long | .double =>
      match p.numericValue? v with
      | none => some (.invalidType nodeId p.key p.type v.toText)
      | some x =>
        let (lo, hi) := p.bounds
        if x.less lo || hi.less x then some (.outOfRange nodeId p.key x lo hi) else none
    | .enum =>
      if v.toText ∈ p.allowedValues then none
      else some (.notAllowed nodeId p.key v.toText p.allowedValues)

/-- The value of a param, unless it is absent or null. -/
def presentParam? (params : KeyMap Value) (key : String) : Option Value :=
  (params.get? key).filter (!·.isNull)

def ParamSpec.check (p : ParamSpec) (nodeId : String) (params : KeyMap Value) : Option Issue :=
  match presentParam? params p.key with
  | some v => p.issue? nodeId v
  | none =>
    if p.required && p.defaultValue.isNone then some (.missingParam nodeId p.key) else none

def paramIssues (spec : NodeSpec) (nodeId : String) (params : KeyMap Value) : List Issue :=
  ((params.keys.filter fun k => (spec.param? k).isNone).map (Issue.unknownParam nodeId)) ++
    spec.params.filterMap fun p => p.check nodeId params

def nodeIssues (registry : Registry) (n : Node) : List Issue :=
  match registry.spec? n.type with
  | some spec => paramIssues spec n.id n.params
  | none => [.unknownNodeType n.id n.type]

def repeatedIds : List String → List String → List String
  | _, [] => []
  | seen, id :: rest =>
    if id ∈ seen then id :: repeatedIds seen rest else repeatedIds (id :: seen) rest

def Flow.nodeFindings (f : Flow) (registry : Registry) (grants : Grants) (n : Node) : List Issue :=
  ((n.successors.filter (· ∉ f.nodeIds)).map (Issue.danglingReference n.id)) ++
    nodeIssues registry n ++
    (grants.missing (registry.sideEffects n.type).toList).map (Issue.sideEffectNotGranted n.id)

def Flow.issues (f : Flow) (registry : Registry) (grants : Grants) : List Issue :=
  (if Text.isBlankText f.id then [Issue.emptyFlowId] else []) ++
    (repeatedIds [] f.nodeIds).map Issue.duplicateNodeId ++
    ((f.triggers.filter (·.startNodeId ∉ f.nodeIds)).map fun t =>
      Issue.missingStartNode t.type.name t.startNodeId) ++
    f.nodes.flatMap (f.nodeFindings registry grants)

def Flow.validate (f : Flow) (registry : Registry) (grants : Grants) : Report :=
  .ofIssues (f.issues registry grants)

end PluginFlow
