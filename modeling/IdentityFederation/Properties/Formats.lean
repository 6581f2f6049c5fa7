import IdentityFederation.Deploy.Crd

/-!
# The code and the schemas of the custom resources fit

The chart installs the schemas of `Crd.lean`, and the code reads and writes with the encodings of
`Serde.lean`.  Each part of a resource gets its list of fields, its encoder and its format, in the
order of `crds.rs`; `resources_fit` has the specification and the status of both resources.
-/

namespace IdentityFederation

open Json (Schema Properties Presence Format RecordField RecordEncoder)

/-! ## Scalars -/

lemma stringFormat (accepts : String → Bool) :
    Format True (.string accepts) .str Json.str? id := by
  refine .scalar (fun _ => nofun) (fun _ d hd => ?_) fun _ _ => rfl
  cases d with
  | str s => exact ⟨s, rfl, hd⟩
  | _ => cases hd

lemma boolFormat : Format True .boolean .bool bool? id := by
  refine .scalar (fun _ => nofun) (fun _ d hd => ?_) fun _ _ => rfl
  cases d with
  | bool b => exact ⟨b, rfl, rfl⟩
  | _ => cases hd

lemma uint64Format :
    Format True (.integer 0 (2 ^ 64)) (fun n : UInt64 => .num n.toNat) Json.uint64? id := by
  have hrange : ∀ n : UInt64, (0 : ℤ) ≤ n.toNat ∧ (n.toNat : ℤ) < 2 ^ 64 := fun n =>
    ⟨Int.natCast_nonneg _, by exact_mod_cast n.toNat_lt⟩
  refine .scalar (fun _ => nofun) (fun _ d hd => ?_) fun n _ => ?_
  · cases d with
    | num n =>
        exact ⟨UInt64.ofNat n.toNat, if_pos (of_decide_eq_true hd), decide_eq_true (hrange _)⟩
    | _ => cases hd
  · rw [Json.uint64?, if_pos (by simpa [UInt64.size] using (hrange n).2), Int.toNat_natCast,
      UInt64.ofNat_toNat]
    rfl

lemma int64Format : Format True (.integer (-2 ^ 63) (2 ^ 63)) .num int64? id := by
  refine .scalar (fun _ => nofun) (fun _ d hd => ?_) fun n hn => ?_
  · cases d with
    | num n => exact ⟨n, if_pos (of_decide_eq_true hd), hd⟩
    | _ => cases hd
  · exact if_pos (of_decide_eq_true hn)

lemma timeFormat (tt : TimeText) :
    Format tt.ReadsAll (.string tt.dateTime) tt.toJson tt.ofJson? Time.wholeSeconds := by
  refine .scalar (fun _ => nofun) (fun hreads d hd => ?_) fun t _ => tt.ofText?_toText t
  cases d with
  | str s =>
      obtain ⟨t, ht⟩ := Option.isSome_iff_exists.mp (hreads s hd)
      exact ⟨t, ht, tt.dateTime_toText t⟩
  | _ => cases hd

/-- An enumeration is written by the names of its variants. -/
lemma variantFormat {α : Type} {names : List String} {name : α → String}
    {ofName? : String → Option α} (hread : ∀ s ∈ names, ∃ a, ofName? s = some a)
    (hname : ∀ a, name a ∈ names ∧ ofName? (name a) = some a) :
    Format True (.string fun s => decide (s ∈ names)) (fun a => .str (name a)) (variant? ofName?)
      id := by
  refine .scalar (fun _ => nofun) (fun _ d hd => ?_) fun a _ => (hname a).2
  cases d with
  | str s =>
      obtain ⟨a, ha⟩ := hread s (of_decide_eq_true hd)
      exact ⟨a, ha, decide_eq_true (hname a).1⟩
  | _ => cases hd

/-! ## Specifications -/

def subjectFields : List (RecordField True SubjectRef) :=
  [.mandatory "serviceAccountName" (·.serviceAccountName) (stringFormat nonempty)]

lemma subjectEncoder : RecordEncoder subjectFields subjectSchema SubjectRef.toJson where
  schema := ⟨_, rfl, by decide, rfl⟩
  members _ := ⟨_, rfl, by simp [subjectFields]⟩

lemma subjectFormat : Format True subjectSchema SubjectRef.toJson SubjectRef.ofJson? id := by
  refine .record subjectEncoder (fun _ => rfl) (fun ms a => ?_) ?_ (by simp [subjectFields])
  · simp only [Option.bind_eq_bind, Option.bind_eq_some_iff]
    constructor
    · rintro ⟨_, hname, h⟩
      obtain rfl := Option.some.inj h
      exact Option.bind_eq_some_iff.mpr hname
    · exact fun hname => ⟨_, Option.bind_eq_some_iff.mp hname, rfl⟩
  · rintro P ⟨name, hname⟩
    exact ⟨⟨name⟩, hname⟩

def attributesFields : List (RecordField True AttributesSpec) :=
  [.optional "extra" (·.extra) (stringFormat fun _ => true).stringMap,
    .optional "includeProvenance" (·.includeProvenance) boolFormat]

lemma attributesEncoder :
    RecordEncoder attributesFields attributesSchema AttributesSpec.toJson where
  schema := ⟨_, rfl, by decide, rfl⟩
  members a := by
    refine ⟨_, rfl, ?_⟩
    simp only [attributesFields, List.Forall, RecordField.optional, Json.member?_append,
      Json.member?_optional]
    exact ⟨by simp; rfl, by simp⟩

lemma attributesFormat :
    Format True attributesSchema AttributesSpec.toJson AttributesSpec.ofJson? id := by
  refine .record attributesEncoder (fun _ => rfl) (fun ms a => ?_) ?_ (by simp [attributesFields])
  · simp only [Option.bind_eq_bind, Option.bind_eq_some_iff]
    constructor
    · rintro ⟨_, hprovenance, _, hextra, h⟩
      obtain rfl := Option.some.inj h
      exact ⟨hextra, hprovenance⟩
    · rintro ⟨hextra, hprovenance⟩
      exact ⟨_, hprovenance, _, hextra, rfl⟩
  · rintro P ⟨⟨extra, hextra⟩, provenance, hprovenance⟩
    exact ⟨⟨provenance, extra⟩, hextra, hprovenance⟩

def awsFields : List (RecordField True AwsProviderSpec) :=
  [.optional "audience" (·.audience) (stringFormat nonempty),
    .optional "maxSessionDurationSeconds" (·.maxSessionDurationSeconds) uint64Format,
    .optional "region" (·.region) (stringFormat nonempty),
    .mandatory "roleArn" (·.roleArn) (stringFormat fun s => nonempty s && isRoleArn s),
    .defaulted "stsRegionalEndpoints" (·.stsRegionalEndpoints) boolFormat (j := .bool true) rfl rfl]

lemma awsEncoder : RecordEncoder awsFields awsSchema AwsProviderSpec.toJson where
  schema := ⟨_, rfl, by decide, rfl⟩
  members _ := ⟨_, rfl, by simp [awsFields]⟩

lemma awsFormat : Format True awsSchema AwsProviderSpec.toJson AwsProviderSpec.ofJson? id := by
  refine .record awsEncoder (fun _ => rfl) (fun ms a => ?_) ?_ (by simp [awsFields])
  · simp only [Option.bind_eq_bind, Option.bind_eq_some_iff]
    constructor
    · rintro ⟨_, hrole, _, hregion, _, hsts, _, haudience, _, hduration, h⟩
      obtain rfl := Option.some.inj h
      exact ⟨haudience, hduration, hregion, Option.bind_eq_some_iff.mpr hrole, hsts⟩
    · rintro ⟨haudience, hduration, hregion, hrole, hsts⟩
      exact ⟨_, Option.bind_eq_some_iff.mp hrole, _, hregion, _, hsts, _, haudience, _, hduration,
        rfl⟩
  · rintro P ⟨⟨audience, haudience⟩, ⟨duration, hduration⟩, ⟨region, hregion⟩, ⟨role, hrole⟩,
      sts, hsts⟩
    exact ⟨⟨role, region, sts, audience, duration⟩, haudience, hduration, hregion, hrole, hsts⟩

def azureFields : List (RecordField True AzureProviderSpec) :=
  [.optional "audience" (·.audience) (stringFormat nonempty),
    .mandatory "clientId" (·.clientId) (stringFormat fun s => nonempty s && isUuid s),
    .mandatory "tenantId" (·.tenantId) (stringFormat fun s => nonempty s && isUuid s)]

lemma azureEncoder : RecordEncoder azureFields azureSchema AzureProviderSpec.toJson where
  schema := ⟨_, rfl, by decide, rfl⟩
  members _ := ⟨_, rfl, by simp [azureFields]⟩

lemma azureFormat :
    Format True azureSchema AzureProviderSpec.toJson AzureProviderSpec.ofJson? id := by
  refine .record azureEncoder (fun _ => rfl) (fun ms a => ?_) ?_ (by simp [azureFields])
  · simp only [Option.bind_eq_bind, Option.bind_eq_some_iff]
    constructor
    · rintro ⟨_, htenant, _, hclient, _, haudience, h⟩
      obtain rfl := Option.some.inj h
      exact ⟨haudience, Option.bind_eq_some_iff.mpr hclient, Option.bind_eq_some_iff.mpr htenant⟩
    · rintro ⟨haudience, hclient, htenant⟩
      exact ⟨_, Option.bind_eq_some_iff.mp htenant, _, Option.bind_eq_some_iff.mp hclient, _,
        haudience, rfl⟩
  · rintro P ⟨⟨audience, haudience⟩, ⟨client, hclient⟩, tenant, htenant⟩
    exact ⟨⟨tenant, client, audience⟩, haudience, hclient, htenant⟩

def gcpFields : List (RecordField True GcpProviderSpec) :=
  [.optional "audience" (·.audience) (stringFormat nonempty),
    .optional "projectId" (·.projectId) (stringFormat nonempty),
    .mandatory "serviceAccountEmail" (·.serviceAccountEmail)
      (stringFormat fun s => nonempty s && isServiceAccountEmail s),
    .mandatory "workloadIdentityProvider" (·.workloadIdentityProvider) (stringFormat nonempty)]

lemma gcpEncoder : RecordEncoder gcpFields gcpSchema GcpProviderSpec.toJson where
  schema := ⟨_, rfl, by decide, rfl⟩
  members _ := ⟨_, rfl, by simp [gcpFields]⟩

lemma gcpFormat : Format True gcpSchema GcpProviderSpec.toJson GcpProviderSpec.ofJson? id := by
  refine .record gcpEncoder (fun _ => rfl) (fun ms a => ?_) ?_ (by simp [gcpFields])
  · simp only [Option.bind_eq_bind, Option.bind_eq_some_iff]
    constructor
    · rintro ⟨_, hprovider, _, hemail, _, haudience, _, hproject, h⟩
      obtain rfl := Option.some.inj h
      exact ⟨haudience, hproject, Option.bind_eq_some_iff.mpr hemail,
        Option.bind_eq_some_iff.mpr hprovider⟩
    · rintro ⟨haudience, hproject, hemail, hprovider⟩
      exact ⟨_, Option.bind_eq_some_iff.mp hprovider, _, Option.bind_eq_some_iff.mp hemail, _,
        haudience, _, hproject, rfl⟩
  · rintro P ⟨⟨audience, haudience⟩, ⟨project, hproject⟩, ⟨email, hemail⟩, provider, hprovider⟩
    exact ⟨⟨provider, email, audience, project⟩, haudience, hproject, hemail, hprovider⟩

def providersFields : List (RecordField True ProvidersSpec) :=
  [.optional "aws" (·.aws) awsFormat, .optional "azure" (·.azure) azureFormat,
    .optional "gcp" (·.gcp) gcpFormat]

lemma providersEncoder : RecordEncoder providersFields providersSchema ProvidersSpec.toJson where
  schema := ⟨_, rfl, by decide, rfl⟩
  members _ := ⟨_, rfl, by simp [providersFields]⟩

lemma providersFormat :
    Format True providersSchema ProvidersSpec.toJson ProvidersSpec.ofJson? id := by
  refine .record providersEncoder (fun _ => rfl) (fun ms a => ?_) ?_ (by simp [providersFields])
  · simp only [Option.bind_eq_bind, Option.bind_eq_some_iff]
    constructor
    · rintro ⟨_, haws, _, hazure, _, hgcp, h⟩
      obtain rfl := Option.some.inj h
      exact ⟨haws, hazure, hgcp⟩
    · rintro ⟨haws, hazure, hgcp⟩
      exact ⟨_, haws, _, hazure, _, hgcp, rfl⟩
  · rintro P ⟨⟨aws, haws⟩, ⟨azure, hazure⟩, gcp, hgcp⟩
    exact ⟨⟨aws, azure, gcp⟩, haws, hazure, hgcp⟩

def crbSpecFields : List (RecordField True CloudRoleBindingSpec) :=
  [.optional "attributes" (·.attributes) attributesFormat,
    .defaulted "providers" (·.providers) providersFormat (j := .obj []) rfl rfl,
    .mandatory "subject" (·.subject) subjectFormat]

lemma crbSpecEncoder : RecordEncoder crbSpecFields specSchema CloudRoleBindingSpec.toJson where
  schema := ⟨_, rfl, by decide, rfl⟩
  members _ := ⟨_, rfl, by simp [crbSpecFields]⟩

lemma crbSpecFormat :
    Format True specSchema CloudRoleBindingSpec.toJson CloudRoleBindingSpec.ofJson? id := by
  refine .record crbSpecEncoder (fun _ => rfl) (fun ms a => ?_) ?_ (by simp [crbSpecFields])
  · simp only [Option.bind_eq_bind, Option.bind_eq_some_iff]
    constructor
    · rintro ⟨_, hsubject, _, hattributes, _, hproviders, h⟩
      obtain rfl := Option.some.inj h
      exact ⟨hattributes, hproviders, Option.bind_eq_some_iff.mpr hsubject⟩
    · rintro ⟨hattributes, hproviders, hsubject⟩
      exact ⟨_, Option.bind_eq_some_iff.mp hsubject, _, hattributes, _, hproviders, rfl⟩
  · rintro P ⟨⟨attributes, hattributes⟩, ⟨providers, hproviders⟩, subject, hsubject⟩
    exact ⟨⟨subject, attributes, providers⟩, hattributes, hproviders, hsubject⟩

/-- The specifications of the two resources have the same fields. -/
def resolvedSpec : CloudRoleBindingSpec ≃ ResolvedCloudRoleBindingSpec where
  toFun s := ⟨s.subject, s.attributes, s.providers⟩
  invFun s := ⟨s.subject, s.attributes, s.providers⟩
  left_inv _ := rfl
  right_inv _ := rfl

lemma rcrbSpecFormat :
    Format True specSchema ResolvedCloudRoleBindingSpec.toJson ResolvedCloudRoleBindingSpec.ofJson?
      id := by
  have hread : ∀ j, ResolvedCloudRoleBindingSpec.ofJson? j =
      (CloudRoleBindingSpec.ofJson? j).map resolvedSpec := by
    intro j
    unfold ResolvedCloudRoleBindingSpec.ofJson? CloudRoleBindingSpec.ofJson?
    simp only [Option.bind_eq_bind]
    iterate 4
      rw [Option.map_bind]
      refine Option.bind_congr fun _ _ => ?_
      rw [Function.comp_apply]
    rfl
  rw [funext hread]
  exact crbSpecFormat.equiv resolvedSpec

/-! ## Status -/

lemma reasonFormat :
    Format True (.string fun s => decide (s ∈
        ["Validated", "ProviderConflict", "AttributeConflict", "ValidationFailed", "Error"]))
      (fun r => .str (ConditionReason.name r)) (variant? ConditionReason.ofName?) id :=
  variantFormat (by simp [ConditionReason.ofName?]) fun a => by cases a <;> exact ⟨by decide, rfl⟩

lemma statusFormat :
    Format True (.string fun s => decide (s ∈ ["True", "False", "Unknown"]))
      (fun s => .str (ConditionStatus.name s)) (variant? ConditionStatus.ofName?) id :=
  variantFormat (by simp [ConditionStatus.ofName?]) fun a => by cases a <;> exact ⟨by decide, rfl⟩

lemma typeFormat :
    Format True (.string fun s => decide (s ∈ ["Ready", "Conflict", "InvalidSpec"]))
      (fun t => .str (ConditionType.name t)) (variant? ConditionType.ofName?) id :=
  variantFormat (by simp [ConditionType.ofName?]) fun a => by cases a <;> exact ⟨by decide, rfl⟩

section Status

variable (tt : TimeText)

/-- What is left of a condition when it was written. -/
def Condition.truncate (c : Condition) : Condition :=
  { c with lastTransitionTime := c.lastTransitionTime.wholeSeconds }

def conditionFields : List (RecordField tt.ReadsAll Condition) :=
  [.mandatory "lastTransitionTime" (·.lastTransitionTime) (timeFormat tt),
    .mandatory "message" (·.message) (stringFormat nonempty).weaken,
    .mandatory "observedGeneration" (·.observedGeneration) int64Format.weaken,
    .mandatory "reason" (·.reason) reasonFormat.weaken,
    .mandatory "status" (·.status) statusFormat.weaken,
    .mandatory "type" (·.type) typeFormat.weaken]

lemma conditionEncoder :
    RecordEncoder (conditionFields tt) (conditionSchema tt) (Condition.toJson tt) where
  schema := ⟨_, rfl, by simp [Properties.names, Properties.toList], rfl⟩
  members _ := by
    refine ⟨_, rfl, ?_, ?_, ?_, ?_, ?_, ?_⟩
    all_goals simp [RecordField.mandatory]

lemma conditionFormat :
    Format tt.ReadsAll (conditionSchema tt) (Condition.toJson tt) (Condition.ofJson? tt)
      Condition.truncate := by
  refine .record (conditionEncoder tt) (fun _ => rfl) (fun ms a => ?_) ?_
    (by simp [conditionFields, Condition.truncate])
  · simp only [Option.bind_eq_bind, Option.bind_eq_some_iff]
    constructor
    · rintro ⟨_, htype, _, hstatus, _, hgeneration, _, hreason, _, hmessage, _, htime, h⟩
      obtain rfl := Option.some.inj h
      refine ⟨?_, ?_, ?_, ?_, ?_, ?_⟩
      all_goals exact Option.bind_eq_some_iff.mpr ‹_›
    · rintro ⟨htime, hmessage, hgeneration, hreason, hstatus, htype⟩
      exact ⟨_, Option.bind_eq_some_iff.mp htype, _, Option.bind_eq_some_iff.mp hstatus, _,
        Option.bind_eq_some_iff.mp hgeneration, _, Option.bind_eq_some_iff.mp hreason, _,
        Option.bind_eq_some_iff.mp hmessage, _, Option.bind_eq_some_iff.mp htime, rfl⟩
  · rintro P ⟨⟨time, htime⟩, ⟨message, hmessage⟩, ⟨generation, hgeneration⟩, ⟨reason, hreason⟩,
      ⟨status, hstatus⟩, type, htype⟩
    exact ⟨⟨type, status, generation, reason, message, time⟩, htime, hmessage, hgeneration, hreason,
      hstatus, htype⟩

/-- What is left of a status when it was written. -/
def CloudRoleBindingStatus.truncate (s : CloudRoleBindingStatus) : CloudRoleBindingStatus :=
  { s with conditions := s.conditions.map Condition.truncate }

def crbStatusFields : List (RecordField tt.ReadsAll CloudRoleBindingStatus) :=
  [.defaulted "conditions" (·.conditions) (conditionFormat tt).array (j := .arr []) rfl rfl,
    .optional "lastError" (·.lastError) (stringFormat fun _ => true).weaken,
    .defaulted "providers" (·.providers) (stringFormat fun _ => true).weaken (j := .str "") rfl rfl]

lemma crbStatusEncoder :
    RecordEncoder (crbStatusFields tt) (crbStatusSchema tt) (CloudRoleBindingStatus.toJson tt) where
  schema := ⟨_, rfl, by simp [Properties.names, Properties.toList], rfl⟩
  members _ := ⟨_, rfl, by simp [crbStatusFields]⟩

lemma crbStatusFormat :
    Format tt.ReadsAll (crbStatusSchema tt) (CloudRoleBindingStatus.toJson tt)
      (CloudRoleBindingStatus.ofJson? tt) (CloudRoleBindingStatus.truncate) := by
  refine .record (crbStatusEncoder tt) (fun _ => rfl) (fun ms a => ?_) ?_
    (by simp [crbStatusFields, CloudRoleBindingStatus.truncate])
  · simp only [Option.bind_eq_bind, Option.bind_eq_some_iff]
    constructor
    · rintro ⟨_, hproviders, _, hconditions, _, herror, h⟩
      obtain rfl := Option.some.inj h
      exact ⟨hconditions, herror, hproviders⟩
    · rintro ⟨hconditions, herror, hproviders⟩
      exact ⟨_, hproviders, _, hconditions, _, herror, rfl⟩
  · rintro P ⟨⟨conditions, hconditions⟩, ⟨lastError, herror⟩, providers, hproviders⟩
    exact ⟨⟨providers, conditions, lastError⟩, hconditions, herror, hproviders⟩

def sourceFields : List (RecordField True CloudRoleBindingRef) :=
  [.optional "generation" (·.generation) int64Format,
    .mandatory "name" (·.name) (stringFormat nonempty)]

lemma sourceEncoder : RecordEncoder sourceFields sourceSchema CloudRoleBindingRef.toJson where
  schema := ⟨_, rfl, by decide, rfl⟩
  members _ := ⟨_, rfl, by simp [sourceFields]⟩

lemma sourceFormat :
    Format True sourceSchema CloudRoleBindingRef.toJson CloudRoleBindingRef.ofJson? id := by
  refine .record sourceEncoder (fun _ => rfl) (fun ms a => ?_) ?_ (by simp [sourceFields])
  · simp only [Option.bind_eq_bind, Option.bind_eq_some_iff]
    constructor
    · rintro ⟨_, hname, _, hgeneration, h⟩
      obtain rfl := Option.some.inj h
      exact ⟨hgeneration, Option.bind_eq_some_iff.mpr hname⟩
    · rintro ⟨hgeneration, hname⟩
      exact ⟨_, Option.bind_eq_some_iff.mp hname, _, hgeneration, rfl⟩
  · rintro P ⟨⟨generation, hgeneration⟩, name, hname⟩
    exact ⟨⟨name, generation⟩, hgeneration, hname⟩

/-- What is left of a status when it was written. -/
def ResolvedCloudRoleBindingStatus.truncate (s : ResolvedCloudRoleBindingStatus) :
    ResolvedCloudRoleBindingStatus :=
  { s with conditions := s.conditions.map Condition.truncate }

def rcrbStatusFields : List (RecordField tt.ReadsAll ResolvedCloudRoleBindingStatus) :=
  [.defaulted "conditions" (·.conditions) (conditionFormat tt).array (j := .arr []) rfl rfl,
    .optional "configHash" (·.configHash) (stringFormat fun _ => true).weaken,
    .optional "lastError" (·.lastError) (stringFormat fun _ => true).weaken,
    .defaulted "providers" (·.providers) (stringFormat fun _ => true).weaken (j := .str "") rfl rfl,
    .defaulted "sources" (·.sources) sourceFormat.weaken.array (j := .arr []) rfl rfl]

lemma rcrbStatusEncoder :
    RecordEncoder (rcrbStatusFields tt) (rcrbStatusSchema tt)
      (ResolvedCloudRoleBindingStatus.toJson tt) where
  schema := ⟨_, rfl, by simp [Properties.names, Properties.toList], rfl⟩
  members _ := ⟨_, rfl, by simp [rcrbStatusFields]⟩

lemma rcrbStatusFormat :
    Format tt.ReadsAll (rcrbStatusSchema tt) (ResolvedCloudRoleBindingStatus.toJson tt)
      (ResolvedCloudRoleBindingStatus.ofJson? tt) (ResolvedCloudRoleBindingStatus.truncate) := by
  refine .record (rcrbStatusEncoder tt) (fun _ => rfl) (fun ms a => ?_) ?_
    (by simp [rcrbStatusFields, ResolvedCloudRoleBindingStatus.truncate])
  · simp only [Option.bind_eq_bind, Option.bind_eq_some_iff]
    constructor
    · rintro ⟨_, hproviders, _, hconditions, _, hsources, _, hhash, _, herror, h⟩
      obtain rfl := Option.some.inj h
      exact ⟨hconditions, hhash, herror, hproviders, hsources⟩
    · rintro ⟨hconditions, hhash, herror, hproviders, hsources⟩
      exact ⟨_, hproviders, _, hconditions, _, hsources, _, hhash, _, herror, rfl⟩
  · rintro P ⟨⟨conditions, hconditions⟩, ⟨configHash, hhash⟩, ⟨lastError, herror⟩,
      ⟨providers, hproviders⟩, sources, hsources⟩
    exact ⟨⟨providers, conditions, sources, configHash, lastError⟩, hconditions, hhash, herror,
      hproviders, hsources⟩

/-- **The code and the schemas fit.**  Whatever the API server stores of a specification under the
schemas of the chart is decoded, and what was decoded can be written back.  What the code writes, of
a specification or of a status, is read back as it was, up to the fractions of a second of its
instants.  What the schemas fill in is what the code takes for a missing member, and nothing that
they prune is read.

The server has its own check for the times in a status.  A status that it stores is decoded when the
library reads all that passes this check, and otherwise when the library reads the times that are in
it. -/
theorem resources_fit :
    Format True specSchema CloudRoleBindingSpec.toJson CloudRoleBindingSpec.ofJson? id ∧
      Format True specSchema ResolvedCloudRoleBindingSpec.toJson
        ResolvedCloudRoleBindingSpec.ofJson? id ∧
      Format tt.ReadsAll (crbStatusSchema tt) (CloudRoleBindingStatus.toJson tt)
        (CloudRoleBindingStatus.ofJson? tt) CloudRoleBindingStatus.truncate ∧
      Format tt.ReadsAll (rcrbStatusSchema tt) (ResolvedCloudRoleBindingStatus.toJson tt)
        (ResolvedCloudRoleBindingStatus.ofJson? tt) ResolvedCloudRoleBindingStatus.truncate ∧
      (∀ d, (crbStatusSchema tt.strict).Stored d → ∃ st,
        CloudRoleBindingStatus.ofJson? tt d = some st ∧
          (crbStatusSchema tt.strict).Accepts (st.toJson tt)) ∧
      ∀ d, (rcrbStatusSchema tt.strict).Stored d → ∃ st,
        ResolvedCloudRoleBindingStatus.ofJson? tt d = some st ∧
          (rcrbStatusSchema tt.strict).Accepts (st.toJson tt) :=
  ⟨crbSpecFormat, rcrbSpecFormat, crbStatusFormat tt, rcrbStatusFormat tt,
    (crbStatusFormat tt.strict).decodes tt.readsAll_strict,
    (rcrbStatusFormat tt.strict).decodes tt.readsAll_strict⟩

end Status

end IdentityFederation
