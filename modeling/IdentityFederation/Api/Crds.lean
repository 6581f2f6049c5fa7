import Mathlib.Data.Int.Notation
import Std.Data.ExtTreeMap
import IdentityFederation.Framework.Json

/-!
# The custom resources (`kif-api/src/crds.rs`)

The data types of the two custom resources, field by field: `CloudRoleBinding`, which users
write, and `ResolvedCloudRoleBinding`, which the webhook derives from it and the federation
service reads.  An `i64` is an `ℤ` (nothing here computes with it) and a `u64` is a `UInt64`.

A `BTreeMap` is `Std.ExtTreeMap`: iteration is in key order, and two maps with the same
entries are equal.

The serde encoding is given for the one value whose bytes matter: the spec of a
`ResolvedCloudRoleBinding`, whose JSON text the webhook hashes.
-/

namespace IdentityFederation

/-- Rust's `BTreeMap`. -/
abbrev BTreeMap (κ ν : Type) [Ord κ] := Std.ExtTreeMap κ ν

/-- An instant on the clock of the process, in nanoseconds since the epoch. -/
abbrev Time := ℤ

/-- What the text of an instant keeps of it: RFC 3339 with whole seconds. -/
def Time.wholeSeconds (t : Time) : Time := t / 1000000000 * 1000000000

/-! ## The specification of a binding -/

structure SubjectRef where
  serviceAccountName : String
  deriving DecidableEq

structure AttributesSpec where
  /-- Unset is treated as true. -/
  includeProvenance : Option Bool := none
  extra : Option (BTreeMap String String) := none
  deriving DecidableEq

structure AwsProviderSpec where
  roleArn : String
  region : Option String := none
  stsRegionalEndpoints : Bool := true
  audience : Option String := none
  maxSessionDurationSeconds : Option UInt64 := none
  deriving DecidableEq

structure AzureProviderSpec where
  tenantId : String
  clientId : String
  audience : Option String := none
  deriving DecidableEq

structure GcpProviderSpec where
  workloadIdentityProvider : String
  serviceAccountEmail : String
  audience : Option String := none
  projectId : Option String := none
  deriving DecidableEq

structure ProvidersSpec where
  aws : Option AwsProviderSpec := none
  azure : Option AzureProviderSpec := none
  gcp : Option GcpProviderSpec := none
  deriving DecidableEq

structure CloudRoleBindingSpec where
  subject : SubjectRef
  attributes : Option AttributesSpec := none
  providers : ProvidersSpec := {}
  deriving DecidableEq

/-! ## Status -/

inductive ConditionStatus where
  | true | false | unknown
  deriving DecidableEq

inductive ConditionType where
  | ready | conflict | invalidSpec
  deriving DecidableEq

inductive ConditionReason where
  | validated | providerConflict | attributeConflict | validationFailed | error
  deriving DecidableEq

structure Condition where
  type : ConditionType
  status : ConditionStatus
  observedGeneration : ℤ
  reason : ConditionReason
  message : String
  lastTransitionTime : Time
  deriving DecidableEq

structure CloudRoleBindingStatus where
  providers : String := ""
  conditions : List Condition := []
  lastError : Option String := none
  deriving DecidableEq

structure CloudRoleBindingRef where
  name : String
  generation : Option ℤ
  deriving DecidableEq

structure ResolvedCloudRoleBindingStatus where
  providers : String := ""
  conditions : List Condition := []
  sources : List CloudRoleBindingRef := []
  configHash : Option String := none
  lastError : Option String := none
  deriving DecidableEq

structure ResolvedCloudRoleBindingSpec where
  subject : SubjectRef
  attributes : Option AttributesSpec := none
  providers : ProvidersSpec := {}
  deriving DecidableEq

/-! ## Objects -/

/-- The metadata of an object, as far as the code reads it. -/
structure ObjectMeta where
  name : Option String := none
  /-- The namespace (the word is reserved in Lean). -/
  ns : Option String := none
  generation : Option ℤ := none
  resourceVersion : Option ℕ := none
  deriving DecidableEq

structure CloudRoleBinding where
  metadata : ObjectMeta := {}
  spec : CloudRoleBindingSpec
  status : Option CloudRoleBindingStatus := none
  deriving DecidableEq

structure ResolvedCloudRoleBinding where
  metadata : ObjectMeta := {}
  spec : ResolvedCloudRoleBindingSpec
  status : Option ResolvedCloudRoleBindingStatus := none
  deriving DecidableEq

/-! ## The JSON encoding of a resolved specification -/

def SubjectRef.toJson (s : SubjectRef) : Json :=
  .obj [("serviceAccountName", .str s.serviceAccountName)]

/-- A map of strings, members in key order. -/
def stringMapToJson (m : BTreeMap String String) : Json :=
  .obj (m.toList.map fun p => (p.1, .str p.2))

def AttributesSpec.toJson (a : AttributesSpec) : Json :=
  .obj (Json.optional "includeProvenance" .bool a.includeProvenance ++
    Json.optional "extra" stringMapToJson a.extra)

def AwsProviderSpec.toJson (p : AwsProviderSpec) : Json :=
  .obj ([("roleArn", .str p.roleArn)] ++
    Json.optional "region" .str p.region ++
    [("stsRegionalEndpoints", .bool p.stsRegionalEndpoints)] ++
    Json.optional "audience" .str p.audience ++
    Json.optional "maxSessionDurationSeconds" (fun n => .num n.toNat)
      p.maxSessionDurationSeconds)

def AzureProviderSpec.toJson (p : AzureProviderSpec) : Json :=
  .obj ([("tenantId", .str p.tenantId), ("clientId", .str p.clientId)] ++
    Json.optional "audience" .str p.audience)

def GcpProviderSpec.toJson (p : GcpProviderSpec) : Json :=
  .obj ([("workloadIdentityProvider", .str p.workloadIdentityProvider),
      ("serviceAccountEmail", .str p.serviceAccountEmail)] ++
    Json.optional "audience" .str p.audience ++
    Json.optional "projectId" .str p.projectId)

def ProvidersSpec.toJson (p : ProvidersSpec) : Json :=
  .obj (Json.optional "aws" AwsProviderSpec.toJson p.aws ++
    Json.optional "azure" AzureProviderSpec.toJson p.azure ++
    Json.optional "gcp" GcpProviderSpec.toJson p.gcp)

def ResolvedCloudRoleBindingSpec.toJson (s : ResolvedCloudRoleBindingSpec) : Json :=
  .obj ([("subject", s.subject.toJson)] ++
    Json.optional "attributes" AttributesSpec.toJson s.attributes ++
    [("providers", s.providers.toJson)])

end IdentityFederation
