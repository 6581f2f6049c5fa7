import IdentityFederation.Api.Serde

/-!
# The schemas of the custom resources (`charts/kif/templates/crds`)

The `openAPIV3Schema` of the two CustomResourceDefinitions, for `spec` and `status`; titles,
descriptions and printer columns are left out.  The properties stand in the order of the files.

A `pattern` is a condition on the characters of a string, and a `format` is the range of its type:
`int64` and `uint64` bound an integer, and a `date-time` is a text that stands for an instant.
-/

namespace IdentityFederation

open Json (Schema Properties Presence)

/-! ## Patterns -/

/-- `minLength: 1`. -/
def nonempty (s : String) : Bool := !s.isEmpty

/-- `^arn:aws:iam::\d{12}:role\/.+$`; the dot does not stand for a line feed. -/
def isRoleArn (s : String) : Bool :=
  let account := s.toList.drop 13
  let role := account.drop 18
  s.toList.take 13 = "arn:aws:iam::".toList && (account.take 12).all Char.isDigit &&
    (account.drop 12).take 6 = ":role/".toList && !role.isEmpty && role.all fun c => c ≠ '\n'

def isHexDigit (c : Char) : Bool :=
  c.isDigit || ('a' ≤ c && c ≤ 'f') || ('A' ≤ c && c ≤ 'F')

/-- `^[0-9a-fA-F-]{36}$`. -/
def isUuid (s : String) : Bool :=
  s.length = 36 && s.toList.all fun c => isHexDigit c || c = '-'

/-- `\s`. -/
def isSpace (c : Char) : Bool :=
  c = ' ' || c = '\t' || c = '\n' || c = '\x0c' || c = '\r'

/-- `^[^@\s]+@[^@\s]+\.iam\.gserviceaccount\.com$`. -/
def isServiceAccountEmail (s : String) : Bool :=
  let user := s.toList.takeWhile fun c => c ≠ '@'
  let domain := (s.toList.drop user.length).drop 1
  let project := domain.take (domain.length - ".iam.gserviceaccount.com".length)
  s.toList.contains '@' && !user.isEmpty && !project.isEmpty &&
    domain.drop project.length = ".iam.gserviceaccount.com".toList &&
    (user ++ domain).all fun c => c ≠ '@' && !isSpace c

/-! ## Specifications -/

def subjectSchema : Schema :=
  .object <|
    .cons "serviceAccountName" .mandatory (.string nonempty) .nil

def attributesSchema : Schema :=
  .object <|
    .cons "extra" .optional (.map (.string fun _ => true)) <|
    .cons "includeProvenance" .optional .boolean .nil

def awsSchema : Schema :=
  .object <|
    .cons "audience" .optional (.string nonempty) <|
    .cons "maxSessionDurationSeconds" .optional (.integer 0 (2 ^ 64)) <|
    .cons "region" .optional (.string nonempty) <|
    .cons "roleArn" .mandatory (.string fun s => nonempty s && isRoleArn s) <|
    .cons "stsRegionalEndpoints" (.defaulted (.bool true)) .boolean .nil

def azureSchema : Schema :=
  .object <|
    .cons "audience" .optional (.string nonempty) <|
    .cons "clientId" .mandatory (.string fun s => nonempty s && isUuid s) <|
    .cons "tenantId" .mandatory (.string fun s => nonempty s && isUuid s) .nil

def gcpSchema : Schema :=
  .object <|
    .cons "audience" .optional (.string nonempty) <|
    .cons "projectId" .optional (.string nonempty) <|
    .cons "serviceAccountEmail" .mandatory
      (.string fun s => nonempty s && isServiceAccountEmail s) <|
    .cons "workloadIdentityProvider" .mandatory (.string nonempty) .nil

def providersSchema : Schema :=
  .object <|
    .cons "aws" .optional awsSchema <|
    .cons "azure" .optional azureSchema <|
    .cons "gcp" .optional gcpSchema .nil

/-- The two resources have the same schema of a specification. -/
def specSchema : Schema :=
  .object <|
    .cons "attributes" .optional attributesSchema <|
    .cons "providers" (.defaulted (.obj [])) providersSchema <|
    .cons "subject" .mandatory subjectSchema .nil

/-! ## Status -/

section Status

variable (tt : TimeText)

def conditionSchema : Schema :=
  .object <|
    .cons "lastTransitionTime" .mandatory (.string tt.dateTime) <|
    .cons "message" .mandatory (.string nonempty) <|
    .cons "observedGeneration" .mandatory (.integer (-2 ^ 63) (2 ^ 63)) <|
    .cons "reason" .mandatory (.string fun s => decide (s ∈
      ["Validated", "ProviderConflict", "AttributeConflict", "ValidationFailed", "Error"])) <|
    .cons "status" .mandatory (.string fun s => decide (s ∈ ["True", "False", "Unknown"])) <|
    .cons "type" .mandatory
      (.string fun s => decide (s ∈ ["Ready", "Conflict", "InvalidSpec"])) .nil

def crbStatusSchema : Schema :=
  .object <|
    .cons "conditions" (.defaulted (.arr [])) (.array (conditionSchema tt)) <|
    .cons "lastError" .optional (.string fun _ => true) <|
    .cons "providers" (.defaulted (.str "")) (.string fun _ => true) .nil

def sourceSchema : Schema :=
  .object <|
    .cons "generation" .optional (.integer (-2 ^ 63) (2 ^ 63)) <|
    .cons "name" .mandatory (.string nonempty) .nil

def rcrbStatusSchema : Schema :=
  .object <|
    .cons "conditions" (.defaulted (.arr [])) (.array (conditionSchema tt)) <|
    .cons "configHash" .optional (.string fun _ => true) <|
    .cons "lastError" .optional (.string fun _ => true) <|
    .cons "providers" (.defaulted (.str "")) (.string fun _ => true) <|
    .cons "sources" (.defaulted (.arr [])) (.array sourceSchema) .nil

end Status

end IdentityFederation
