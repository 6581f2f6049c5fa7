import IdentityFederation.Api.Cluster

/-!
# Merging bindings (`kif-webhook/src/merge.rs`)

`mergeInputs` folds the bindings of one ServiceAccount into the specification of its
`ResolvedCloudRoleBinding`, or reports the first `MergeIssue` it meets.  The Rust loop threads
four accumulators (`MergeAcc`); its body is `mergeStep`, cut into one function per check in the
order in which the checks are made.

`buildResolvedFromSpec` and `buildFailedResolved` make the object that is stored from either
outcome, `buildCrbStatus` the status of one binding, and `upsertResolved` stores the object
with two requests.

`sha256` is the SHA-256 digest in lower-case hexadecimal, a function of the hashed text; `now`
is the reading of the clock that `Timestamp::now()` returns.  The objects are made to be sent, and
a `Time` is sent with whole seconds, so `Time(now)` is `now.wholeSeconds`.
-/

namespace IdentityFederation

structure MergeIssue where
  conditionType : ConditionType
  reason : ConditionReason
  message : String
  /-- Names of the bindings to be marked with the condition. -/
  affectedCrbNames : List String
  deriving DecidableEq

/-- `metadata.name.unwrap_or_default()`. -/
def CloudRoleBinding.nameOrDefault (crb : CloudRoleBinding) : String :=
  crb.metadata.name.getD ""

/-! ## `merge_inputs` -/

/-- The accumulators of the loop. -/
structure MergeAcc where
  aws : Option AwsProviderSpec := none
  awsSetBy : Option String := none
  includeProv : Option Bool := none
  extra : BTreeMap String String := ∅

/-- The names reported when every binding is affected. -/
def inputNames (inputs : List CloudRoleBinding) : List String :=
  inputs.filterMap fun c => c.metadata.name

/-! ### The issues -/

def missingProviderIssue (crb : CloudRoleBinding) : MergeIssue where
  conditionType := .invalidSpec
  reason := .validationFailed
  message := "CloudRoleBinding must set at least one provider block"
  affectedCrbNames := [crb.nameOrDefault]

def awsConflictIssue (acc : MergeAcc) (crb : CloudRoleBinding) : MergeIssue where
  conditionType := .conflict
  reason := .providerConflict
  message := "conflict: multiple CloudRoleBindings set providers.aws"
  affectedCrbNames := [acc.awsSetBy.getD "", crb.nameOrDefault].filter fun n => n ≠ ""

def includeProvenanceIssue (inputs : List CloudRoleBinding) : MergeIssue where
  conditionType := .conflict
  reason := .attributeConflict
  message := "conflict: includeProvenance differs across CloudRoleBindings"
  affectedCrbNames := inputNames inputs

def duplicateExtraIssue (inputs : List CloudRoleBinding) (k : String) : MergeIssue where
  conditionType := .conflict
  reason := .attributeConflict
  message := "conflict: duplicate attributes.extra key: " ++ k
  affectedCrbNames := inputNames inputs

def noProvidersIssue (inputs : List CloudRoleBinding) : MergeIssue where
  conditionType := .invalidSpec
  reason := .validationFailed
  message := "no providers configured after merge"
  affectedCrbNames := inputNames inputs

/-! ### The checks -/

/-- All the bindings must have at least one provider set. -/
def requireProvider (crb : CloudRoleBinding) : Except MergeIssue Unit :=
  let providers := crb.spec.providers
  if providers.aws.isSome || providers.azure.isSome || providers.gcp.isSome then .ok ()
  else .error (missingProviderIssue crb)

/-- There is a conflict if two bindings define the `aws` provider. -/
def mergeAws (acc : MergeAcc) (crb : CloudRoleBinding) : Except MergeIssue MergeAcc :=
  match crb.spec.providers.aws with
  | none => .ok acc
  | some p =>
      if acc.aws.isSome then .error (awsConflictIssue acc crb)
      else .ok { acc with aws := some p, awsSetBy := some crb.nameOrDefault }

/-- An explicit `includeProvenance` must agree with the explicit values met before. -/
def mergeIncludeProvenance (inputs : List CloudRoleBinding) (acc : MergeAcc)
    (a : AttributesSpec) : Except MergeIssue MergeAcc :=
  match a.includeProvenance with
  | none => .ok acc
  | some v =>
      match acc.includeProv with
      | some prev =>
          if prev ≠ v then .error (includeProvenanceIssue inputs) else .ok acc
      | none => .ok { acc with includeProv := some v }

/-- The entries of one `extra` map are inserted one by one; a key that is there already is a
conflict. -/
def mergeExtraEntries (inputs : List CloudRoleBinding) :
    BTreeMap String String → List (String × String) → Except MergeIssue (BTreeMap String String)
  | extra, [] => .ok extra
  | extra, (k, v) :: m =>
      if extra.contains k then .error (duplicateExtraIssue inputs k)
      else mergeExtraEntries inputs (extra.insert k v) m

def mergeExtra (inputs : List CloudRoleBinding) (acc : MergeAcc) (a : AttributesSpec) :
    Except MergeIssue MergeAcc :=
  match a.extra with
  | none => .ok acc
  | some m => do
      let extra ← mergeExtraEntries inputs acc.extra m.toList
      return { acc with extra := extra }

/-- The body of the loop. -/
def mergeStep (inputs : List CloudRoleBinding) (acc : MergeAcc) (crb : CloudRoleBinding) :
    Except MergeIssue MergeAcc := do
  requireProvider crb
  let acc ← mergeAws acc crb
  match crb.spec.attributes with
  | none => return acc
  | some a => do
      let acc ← mergeIncludeProvenance inputs acc a
      mergeExtra inputs acc a

/-- Merge and validate the bindings of a ServiceAccount. -/
def mergeInputs (saName : String) (inputs : List CloudRoleBinding) :
    Except MergeIssue ResolvedCloudRoleBindingSpec := do
  let acc ← inputs.foldlM (mergeStep inputs) {}
  match acc.aws with
  | none => throw (noProvidersIssue inputs)
  | some aws =>
      return {
        subject := { serviceAccountName := saName }
        attributes := some
          { includeProvenance := acc.includeProv.or (some true)
            extra := if acc.extra.isEmpty then none else some acc.extra }
        providers := { aws := some aws, azure := none, gcp := none } }

/-! ### What the merge reads

The merge looks at the name and the specification of a binding and at nothing else, so it does
not change when other parts of the bindings do.
-/

section Reads

variable {f : CloudRoleBinding → CloudRoleBinding}

lemma inputNames_map (hname : ∀ c, (f c).metadata.name = c.metadata.name)
    (inputs : List CloudRoleBinding) : inputNames (inputs.map f) = inputNames inputs := by
  simp only [inputNames, List.filterMap_map, Function.comp_def, hname]

lemma mergeExtraEntries_names {inputs inputs' : List CloudRoleBinding}
    (hnames : inputNames inputs' = inputNames inputs) (extra : BTreeMap String String)
    (m : List (String × String)) :
    mergeExtraEntries inputs' extra m = mergeExtraEntries inputs extra m := by
  induction m generalizing extra with
  | nil => rfl
  | cons p m ih =>
      obtain ⟨k, v⟩ := p
      simp only [mergeExtraEntries, duplicateExtraIssue, hnames, ih]

lemma mergeStep_map (hname : ∀ c, (f c).metadata.name = c.metadata.name)
    (hspec : ∀ c, (f c).spec = c.spec) (inputs : List CloudRoleBinding) (acc : MergeAcc)
    (c : CloudRoleBinding) : mergeStep (inputs.map f) acc (f c) = mergeStep inputs acc c := by
  simp only [mergeStep, requireProvider, missingProviderIssue, mergeAws, awsConflictIssue,
    mergeIncludeProvenance, includeProvenanceIssue, mergeExtra, CloudRoleBinding.nameOrDefault,
    hname, hspec, inputNames_map hname, mergeExtraEntries_names (inputNames_map hname inputs)]

lemma mergeInputs_map (hname : ∀ c, (f c).metadata.name = c.metadata.name)
    (hspec : ∀ c, (f c).spec = c.spec) (saName : String) (inputs : List CloudRoleBinding) :
    mergeInputs saName (inputs.map f) = mergeInputs saName inputs := by
  simp only [mergeInputs, List.foldlM_map, mergeStep_map hname hspec, noProvidersIssue,
    inputNames_map hname]

end Reads

/-! ## The objects that are written -/

def providersSummary (p : ProvidersSpec) : String :=
  ",".intercalate
    ((if p.aws.isSome then ["aws"] else []) ++
      (if p.azure.isSome then ["azure"] else []) ++
      (if p.gcp.isSome then ["gcp"] else []))

/-- The largest generation among the sources, `0` when none carries one. -/
def sourcesGeneration (sources : List CloudRoleBindingRef) : ℤ :=
  ((sources.filterMap fun s => s.generation).max?).getD 0

/-- The hash of a resolved specification: SHA-256 of its JSON text, in hexadecimal. -/
def configHashOf (sha256 : String → String) (spec : ResolvedCloudRoleBindingSpec) : String :=
  sha256 spec.toJson.text

def buildResolvedFromSpec (sha256 : String → String) (ns saName : String)
    (sources : List CloudRoleBindingRef) (merged : ResolvedCloudRoleBindingSpec) (now : Time) :
    ResolvedCloudRoleBinding where
  metadata := { name := some saName, ns := some ns }
  spec := merged
  status := some
    { configHash := some (configHashOf sha256 merged)
      providers := providersSummary merged.providers
      sources := sources
      lastError := none
      conditions :=
        [{ type := .ready
           status := .true
           reason := .validated
           message := "resolved and validated"
           observedGeneration := sourcesGeneration sources
           lastTransitionTime := now.wholeSeconds }] }

def buildFailedResolved (ns saName : String) (sources : List CloudRoleBindingRef)
    (issue : MergeIssue) (now : Time) : ResolvedCloudRoleBinding where
  metadata := { name := some saName, ns := some ns }
  spec :=
    { subject := { serviceAccountName := saName }
      attributes := none
      providers := {} }
  status := some
    { configHash := none
      providers := ""
      sources := sources
      lastError := some issue.message
      conditions :=
        [{ type := .ready
           status := .false
           reason := issue.reason
           message := issue.message
           observedGeneration := sourcesGeneration sources
           lastTransitionTime := now.wholeSeconds }] }

/-- The `Ready` condition of a binding. -/
def crbReadyCondition (generation : ℤ) (ready : Bool) (issue : Option MergeIssue) (now : Time) :
    Condition where
  type := .ready
  status := if ready then .true else .false
  reason := if ready then .validated else (issue.map MergeIssue.reason).getD .error
  message := if ready then "validated" else (issue.map MergeIssue.message).getD "not ready"
  observedGeneration := generation
  lastTransitionTime := now.wholeSeconds

/-- The condition an issue adds, with status `True`. -/
def crbIssueCondition (type : ConditionType) (generation : ℤ) (issue : MergeIssue) (now : Time) :
    Condition where
  type := type
  status := .true
  reason := issue.reason
  message := issue.message
  observedGeneration := generation
  lastTransitionTime := now.wholeSeconds

/-- The conditions that are cleared explicitly when the binding is healthy. -/
def crbClearedConditions (generation : ℤ) (now : Time) : List Condition :=
  [{ type := .conflict
     status := .false
     reason := .validated
     message := "no conflicts"
     observedGeneration := generation
     lastTransitionTime := now.wholeSeconds },
   { type := .invalidSpec
     status := .false
     reason := .validated
     message := "spec is valid"
     observedGeneration := generation
     lastTransitionTime := now.wholeSeconds }]

def buildCrbStatus (crb : CloudRoleBinding) (ready : Bool) (issue : Option MergeIssue)
    (now : Time) : CloudRoleBindingStatus :=
  let generation := crb.metadata.generation.getD 0
  { providers := providersSummary crb.spec.providers
    conditions :=
      crbReadyCondition generation ready issue now ::
        match issue with
        | some i =>
            match i.conditionType with
            | .invalidSpec => [crbIssueCondition .invalidSpec generation i now]
            | .conflict => [crbIssueCondition .conflict generation i now]
            | .ready => []
        | none => crbClearedConditions generation now
    lastError := if ready then none else issue.map MergeIssue.message }

/-! ## `upsert_resolved` -/

/-- Store a resolved binding: its specification first, then its status. -/
def upsertResolved (ns : String) (resolved : ResolvedCloudRoleBinding) : ApiM Unit := do
  let name := resolved.metadata.name.getD ""
  if name = "" then
    throw (.msg "ResolvedCloudRoleBinding.metadata.name is required")
  else
    ApiM.send (.patchRcrb ns name resolved)
    ApiM.send (.patchRcrbStatus ns name resolved)

end IdentityFederation
