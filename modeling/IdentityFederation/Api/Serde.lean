import Mathlib.Algebra.Ring.Int.Defs
import IdentityFederation.Api.Crds
import IdentityFederation.Framework.Schema

/-!
# Reading and writing the custom resources (`kif-api/src/crds.rs`)

The serde encodings that the derive attributes stand for, of the specification and of the status of
both resources; those of a resolved specification are in `Crds.lean`.

A record is read from an object with its fields, each at most once, in any order and among others,
or from an array.  An optional field may be missing or `null`; a field with `#[serde(default)]` may
be missing.

How a `Time` is written is not in the source: `TimeText` is the RFC 3339 text of the library, in
which fractions of a second are lost.  The API server has a check of its own, which takes what the
library writes, and may take texts that the library does not read.
-/

namespace IdentityFederation

/-! ## Scalars -/

def bool? : Json → Option Bool
  | .bool b => some b
  | _ => none

/-- An `i64`. -/
def int64? : Json → Option ℤ
  | .num n => if -2 ^ 63 ≤ n ∧ n < 2 ^ 63 then some n else none
  | _ => none

/-- A variant of an enumeration: its name, or an object with its name for the only member. -/
def variant? {α : Type} (ofName? : String → Option α) : Json → Option α
  | .str name => ofName? name
  | .obj [(name, .null)] => ofName? name
  | _ => none

/-- The text of an instant, and the instant of a text. -/
structure TimeText where
  toText : Time → String
  ofText? : String → Option Time
  /-- The check of the API server for `format: date-time`. -/
  dateTime : String → Bool
  ofText?_toText : ∀ t, ofText? (toText t) = some t.wholeSeconds
  dateTime_toText : ∀ t, dateTime (toText t) = true

namespace TimeText

variable (tt : TimeText)

/-- The library reads whatever the server takes. -/
def ReadsAll : Prop := ∀ s, tt.dateTime s = true → (tt.ofText? s).isSome

/-- The texts of a server that takes what the library reads only. -/
def strict : TimeText where
  toText := tt.toText
  ofText? := tt.ofText?
  dateTime s := tt.dateTime s && (tt.ofText? s).isSome
  ofText?_toText := tt.ofText?_toText
  dateTime_toText t := by rw [tt.dateTime_toText, tt.ofText?_toText]; rfl

lemma readsAll_strict : tt.strict.ReadsAll := fun _ h => (Bool.and_eq_true_iff.mp h).2

def toJson (t : Time) : Json := .str (tt.toText t)

def ofJson? (j : Json) : Option Time := (Json.str? j).bind tt.ofText?

end TimeText

/-! ## Specifications -/

def SubjectRef.ofJson? (j : Json) : Option SubjectRef := do
  let members ← j.record? ["serviceAccountName"] 1
  let serviceAccountName ← (Json.member? "serviceAccountName" members).bind Json.str?
  return { serviceAccountName := serviceAccountName }

def AttributesSpec.ofJson? (j : Json) : Option AttributesSpec := do
  let members ← j.record? ["includeProvenance", "extra"] 0
  let includeProvenance ← Json.optionalMember? "includeProvenance" bool? members
  let extra ← Json.optionalMember? "extra" (Json.stringMap? Json.str?) members
  return { includeProvenance := includeProvenance, extra := extra }

def AwsProviderSpec.ofJson? (j : Json) : Option AwsProviderSpec := do
  let members ← j.record?
    ["roleArn", "region", "stsRegionalEndpoints", "audience", "maxSessionDurationSeconds"] 1
  let roleArn ← (Json.member? "roleArn" members).bind Json.str?
  let region ← Json.optionalMember? "region" Json.str? members
  let stsRegionalEndpoints ←
    Json.default? bool? true (Json.member? "stsRegionalEndpoints" members)
  let audience ← Json.optionalMember? "audience" Json.str? members
  let maxSessionDurationSeconds ←
    Json.optionalMember? "maxSessionDurationSeconds" Json.uint64? members
  return {
    roleArn := roleArn
    region := region
    stsRegionalEndpoints := stsRegionalEndpoints
    audience := audience
    maxSessionDurationSeconds := maxSessionDurationSeconds }

def AzureProviderSpec.ofJson? (j : Json) : Option AzureProviderSpec := do
  let members ← j.record? ["tenantId", "clientId", "audience"] 2
  let tenantId ← (Json.member? "tenantId" members).bind Json.str?
  let clientId ← (Json.member? "clientId" members).bind Json.str?
  let audience ← Json.optionalMember? "audience" Json.str? members
  return { tenantId := tenantId, clientId := clientId, audience := audience }

def GcpProviderSpec.ofJson? (j : Json) : Option GcpProviderSpec := do
  let members ← j.record?
    ["workloadIdentityProvider", "serviceAccountEmail", "audience", "projectId"] 2
  let workloadIdentityProvider ←
    (Json.member? "workloadIdentityProvider" members).bind Json.str?
  let serviceAccountEmail ← (Json.member? "serviceAccountEmail" members).bind Json.str?
  let audience ← Json.optionalMember? "audience" Json.str? members
  let projectId ← Json.optionalMember? "projectId" Json.str? members
  return {
    workloadIdentityProvider := workloadIdentityProvider
    serviceAccountEmail := serviceAccountEmail
    audience := audience
    projectId := projectId }

def ProvidersSpec.ofJson? (j : Json) : Option ProvidersSpec := do
  let members ← j.record? ["aws", "azure", "gcp"] 0
  let aws ← Json.optionalMember? "aws" AwsProviderSpec.ofJson? members
  let azure ← Json.optionalMember? "azure" AzureProviderSpec.ofJson? members
  let gcp ← Json.optionalMember? "gcp" GcpProviderSpec.ofJson? members
  return { aws := aws, azure := azure, gcp := gcp }

def CloudRoleBindingSpec.toJson (s : CloudRoleBindingSpec) : Json :=
  .obj ([("subject", s.subject.toJson)] ++
    Json.optional "attributes" AttributesSpec.toJson s.attributes ++
    [("providers", s.providers.toJson)])

def CloudRoleBindingSpec.ofJson? (j : Json) : Option CloudRoleBindingSpec := do
  let members ← j.record? ["subject", "attributes", "providers"] 1
  let subject ← (Json.member? "subject" members).bind SubjectRef.ofJson?
  let attributes ← Json.optionalMember? "attributes" AttributesSpec.ofJson? members
  let providers ← Json.default? ProvidersSpec.ofJson? {} (Json.member? "providers" members)
  return { subject := subject, attributes := attributes, providers := providers }

def ResolvedCloudRoleBindingSpec.ofJson? (j : Json) : Option ResolvedCloudRoleBindingSpec := do
  let members ← j.record? ["subject", "attributes", "providers"] 1
  let subject ← (Json.member? "subject" members).bind SubjectRef.ofJson?
  let attributes ← Json.optionalMember? "attributes" AttributesSpec.ofJson? members
  let providers ← Json.default? ProvidersSpec.ofJson? {} (Json.member? "providers" members)
  return { subject := subject, attributes := attributes, providers := providers }

/-! ## Status -/

def ConditionStatus.name : ConditionStatus → String
  | .true => "True"
  | .false => "False"
  | .unknown => "Unknown"

def ConditionStatus.ofName? : String → Option ConditionStatus
  | "True" => some .true
  | "False" => some .false
  | "Unknown" => some .unknown
  | _ => none

def ConditionType.name : ConditionType → String
  | .ready => "Ready"
  | .conflict => "Conflict"
  | .invalidSpec => "InvalidSpec"

def ConditionType.ofName? : String → Option ConditionType
  | "Ready" => some .ready
  | "Conflict" => some .conflict
  | "InvalidSpec" => some .invalidSpec
  | _ => none

def ConditionReason.name : ConditionReason → String
  | .validated => "Validated"
  | .providerConflict => "ProviderConflict"
  | .attributeConflict => "AttributeConflict"
  | .validationFailed => "ValidationFailed"
  | .error => "Error"

def ConditionReason.ofName? : String → Option ConditionReason
  | "Validated" => some .validated
  | "ProviderConflict" => some .providerConflict
  | "AttributeConflict" => some .attributeConflict
  | "ValidationFailed" => some .validationFailed
  | "Error" => some .error
  | _ => none

section Status

variable (tt : TimeText)

def Condition.toJson (c : Condition) : Json :=
  .obj [("type", .str c.type.name), ("status", .str c.status.name),
    ("observedGeneration", .num c.observedGeneration), ("reason", .str c.reason.name),
    ("message", .str c.message), ("lastTransitionTime", tt.toJson c.lastTransitionTime)]

def Condition.ofJson? (j : Json) : Option Condition := do
  let members ← j.record?
    ["type", "status", "observedGeneration", "reason", "message", "lastTransitionTime"] 6
  let type ← (Json.member? "type" members).bind (variant? ConditionType.ofName?)
  let status ← (Json.member? "status" members).bind (variant? ConditionStatus.ofName?)
  let observedGeneration ← (Json.member? "observedGeneration" members).bind int64?
  let reason ← (Json.member? "reason" members).bind (variant? ConditionReason.ofName?)
  let message ← (Json.member? "message" members).bind Json.str?
  let lastTransitionTime ← (Json.member? "lastTransitionTime" members).bind tt.ofJson?
  return {
    type := type
    status := status
    observedGeneration := observedGeneration
    reason := reason
    message := message
    lastTransitionTime := lastTransitionTime }

def CloudRoleBindingStatus.toJson (s : CloudRoleBindingStatus) : Json :=
  .obj ([("providers", .str s.providers),
      ("conditions", .arr (s.conditions.map (Condition.toJson tt)))] ++
    Json.optional "lastError" .str s.lastError)

def CloudRoleBindingStatus.ofJson? (j : Json) : Option CloudRoleBindingStatus := do
  let members ← j.record? ["providers", "conditions", "lastError"] 0
  let providers ← Json.default? Json.str? "" (Json.member? "providers" members)
  let conditions ←
    Json.default? (Json.list? (Condition.ofJson? tt)) [] (Json.member? "conditions" members)
  let lastError ← Json.optionalMember? "lastError" Json.str? members
  return { providers := providers, conditions := conditions, lastError := lastError }

def CloudRoleBindingRef.toJson (r : CloudRoleBindingRef) : Json :=
  .obj ([("name", .str r.name)] ++ Json.optional "generation" .num r.generation)

def CloudRoleBindingRef.ofJson? (j : Json) : Option CloudRoleBindingRef := do
  let members ← j.record? ["name", "generation"] 1
  let name ← (Json.member? "name" members).bind Json.str?
  let generation ← Json.optionalMember? "generation" int64? members
  return { name := name, generation := generation }

def ResolvedCloudRoleBindingStatus.toJson (s : ResolvedCloudRoleBindingStatus) : Json :=
  .obj ([("providers", .str s.providers),
      ("conditions", .arr (s.conditions.map (Condition.toJson tt))),
      ("sources", .arr (s.sources.map CloudRoleBindingRef.toJson))] ++
    Json.optional "configHash" .str s.configHash ++ Json.optional "lastError" .str s.lastError)

def ResolvedCloudRoleBindingStatus.ofJson? (j : Json) : Option ResolvedCloudRoleBindingStatus := do
  let members ← j.record? ["providers", "conditions", "sources", "configHash", "lastError"] 0
  let providers ← Json.default? Json.str? "" (Json.member? "providers" members)
  let conditions ←
    Json.default? (Json.list? (Condition.ofJson? tt)) [] (Json.member? "conditions" members)
  let sources ←
    Json.default? (Json.list? CloudRoleBindingRef.ofJson?) [] (Json.member? "sources" members)
  let configHash ← Json.optionalMember? "configHash" Json.str? members
  let lastError ← Json.optionalMember? "lastError" Json.str? members
  return {
    providers := providers
    conditions := conditions
    sources := sources
    configHash := configHash
    lastError := lastError }

end Status

end IdentityFederation
