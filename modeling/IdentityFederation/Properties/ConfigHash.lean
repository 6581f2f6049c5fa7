import IdentityFederation.Framework.JsonText
import IdentityFederation.Properties.DisjointMerge

/-!
# The config hash identifies the effective configuration

`build_resolved_from_spec` hashes the JSON bytes of the merged specification, and a pod is
turned away when the hash it was started with is no longer the stored one.  So the bytes have to
say what the configuration is, no more and no less.

They do.  The encoding of a specification is injective (`ResolvedCloudRoleBindingSpec.toJson_injective`),
member by member: each member of a record is read back by its name, whichever of the optional
ones around it are left out, and each map by its entries.  The text of a document determines the
document (`Json.text_injective`).  Two merges therefore have the same bytes exactly when their
results are equal, and that is the case exactly when the bindings say the same thing
(`SameConfiguration`): the order and the names of the bindings, their generations and the way in
which the attributes are spread over them do not enter.
-/

namespace IdentityFederation

/-! ## The encoding is injective -/

lemma uint64ToJson_injective :
    Function.Injective fun n : UInt64 => Json.num (n.toNat : Int) := by
  intro m n h
  have hnat : (m.toNat : Int) = n.toNat := Json.num.inj h
  exact UInt64.toNat_inj.mp (by exact_mod_cast hnat)

/-- Equal objects have equal members. -/
lemma member?_eq_of_obj_eq {ms ms' : List (String × Json)} (h : Json.obj ms = Json.obj ms')
    (name : String) : Json.member? name ms = Json.member? name ms' := by
  rw [Json.obj.inj h]

lemma SubjectRef.toJson_injective : Function.Injective SubjectRef.toJson := by
  intro s t h
  have hname := member?_eq_of_obj_eq h "serviceAccountName"
  cases s
  cases t
  simpa using hname

lemma stringMapToJson_injective : Function.Injective stringMapToJson := by
  intro m n h
  have hentry : Function.Injective fun p : String × String => (p.1, Json.str p.2) := by
    intro p q hpq
    obtain ⟨hkey, hvalue⟩ := Prod.mk.inj hpq
    exact Prod.ext hkey (Json.str.inj hvalue)
  have hlist : m.toList = n.toList := List.map_injective_iff.mpr hentry (Json.obj.inj h)
  refine Std.ExtTreeMap.ext_getElem? fun k => Option.ext fun w => ?_
  rw [← Std.ExtTreeMap.mem_toList_iff_getElem?_eq_some, hlist,
    Std.ExtTreeMap.mem_toList_iff_getElem?_eq_some]

lemma str_injective : Function.Injective Json.str :=
  fun _ _ => Json.str.inj

lemma bool_injective : Function.Injective Json.bool :=
  fun _ _ => Json.bool.inj

lemma AttributesSpec.toJson_injective : Function.Injective AttributesSpec.toJson := by
  intro a b h
  have hprovenance : a.includeProvenance.map Json.bool = b.includeProvenance.map Json.bool := by
    simpa using member?_eq_of_obj_eq h "includeProvenance"
  have hextra : a.extra.map stringMapToJson = b.extra.map stringMapToJson := by
    simpa using member?_eq_of_obj_eq h "extra"
  cases a
  cases b
  rw [AttributesSpec.mk.injEq]
  exact ⟨Option.map_injective bool_injective hprovenance,
    Option.map_injective stringMapToJson_injective hextra⟩

lemma AwsProviderSpec.toJson_injective : Function.Injective AwsProviderSpec.toJson := by
  intro p q h
  have hrole : p.roleArn = q.roleArn := by
    simpa using member?_eq_of_obj_eq h "roleArn"
  have hregion : p.region.map Json.str = q.region.map Json.str := by
    simpa using member?_eq_of_obj_eq h "region"
  have hsts : p.stsRegionalEndpoints = q.stsRegionalEndpoints := by
    simpa using member?_eq_of_obj_eq h "stsRegionalEndpoints"
  have haudience : p.audience.map Json.str = q.audience.map Json.str := by
    simpa using member?_eq_of_obj_eq h "audience"
  have hduration : p.maxSessionDurationSeconds.map (fun n => Json.num n.toNat) =
      q.maxSessionDurationSeconds.map fun n => Json.num n.toNat := by
    simpa using member?_eq_of_obj_eq h "maxSessionDurationSeconds"
  cases p
  cases q
  rw [AwsProviderSpec.mk.injEq]
  exact ⟨hrole, Option.map_injective str_injective hregion, hsts,
    Option.map_injective str_injective haudience,
    Option.map_injective uint64ToJson_injective hduration⟩

lemma AzureProviderSpec.toJson_injective : Function.Injective AzureProviderSpec.toJson := by
  intro p q h
  have htenant : p.tenantId = q.tenantId := by
    simpa using member?_eq_of_obj_eq h "tenantId"
  have hclient : p.clientId = q.clientId := by
    simpa using member?_eq_of_obj_eq h "clientId"
  have haudience : p.audience.map Json.str = q.audience.map Json.str := by
    simpa using member?_eq_of_obj_eq h "audience"
  cases p
  cases q
  rw [AzureProviderSpec.mk.injEq]
  exact ⟨htenant, hclient, Option.map_injective str_injective haudience⟩

lemma GcpProviderSpec.toJson_injective : Function.Injective GcpProviderSpec.toJson := by
  intro p q h
  have hprovider : p.workloadIdentityProvider = q.workloadIdentityProvider := by
    simpa using member?_eq_of_obj_eq h "workloadIdentityProvider"
  have hemail : p.serviceAccountEmail = q.serviceAccountEmail := by
    simpa using member?_eq_of_obj_eq h "serviceAccountEmail"
  have haudience : p.audience.map Json.str = q.audience.map Json.str := by
    simpa using member?_eq_of_obj_eq h "audience"
  have hproject : p.projectId.map Json.str = q.projectId.map Json.str := by
    simpa using member?_eq_of_obj_eq h "projectId"
  cases p
  cases q
  rw [GcpProviderSpec.mk.injEq]
  exact ⟨hprovider, hemail, Option.map_injective str_injective haudience,
    Option.map_injective str_injective hproject⟩

lemma ProvidersSpec.toJson_injective : Function.Injective ProvidersSpec.toJson := by
  intro p q h
  have haws : p.aws.map AwsProviderSpec.toJson = q.aws.map AwsProviderSpec.toJson := by
    simpa using member?_eq_of_obj_eq h "aws"
  have hazure : p.azure.map AzureProviderSpec.toJson = q.azure.map AzureProviderSpec.toJson := by
    simpa using member?_eq_of_obj_eq h "azure"
  have hgcp : p.gcp.map GcpProviderSpec.toJson = q.gcp.map GcpProviderSpec.toJson := by
    simpa using member?_eq_of_obj_eq h "gcp"
  cases p
  cases q
  rw [ProvidersSpec.mk.injEq]
  exact ⟨Option.map_injective AwsProviderSpec.toJson_injective haws,
    Option.map_injective AzureProviderSpec.toJson_injective hazure,
    Option.map_injective GcpProviderSpec.toJson_injective hgcp⟩

/-- **The encoding of a specification loses nothing.** -/
lemma ResolvedCloudRoleBindingSpec.toJson_injective :
    Function.Injective ResolvedCloudRoleBindingSpec.toJson := by
  intro s t h
  have hsubject : s.subject.toJson = t.subject.toJson := by
    simpa using member?_eq_of_obj_eq h "subject"
  have hattributes : s.attributes.map AttributesSpec.toJson =
      t.attributes.map AttributesSpec.toJson := by
    simpa using member?_eq_of_obj_eq h "attributes"
  have hproviders : s.providers.toJson = t.providers.toJson := by
    simpa using member?_eq_of_obj_eq h "providers"
  cases s
  cases t
  rw [ResolvedCloudRoleBindingSpec.mk.injEq]
  exact ⟨SubjectRef.toJson_injective hsubject,
    Option.map_injective AttributesSpec.toJson_injective hattributes,
    ProvidersSpec.toJson_injective hproviders⟩

/-! ## The bytes that are hashed -/

/-- `serde_json::to_vec` of a specification, which is what is hashed. -/
def ResolvedCloudRoleBindingSpec.bytes (s : ResolvedCloudRoleBindingSpec) : ByteArray :=
  s.toJson.text.toUTF8

lemma ResolvedCloudRoleBindingSpec.bytes_inj {s t : ResolvedCloudRoleBindingSpec} :
    s.bytes = t.bytes ↔ s = t := by
  constructor
  · intro h
    have htext : s.toJson.text = t.toJson.text := String.toByteArray_inj.mp h
    exact ResolvedCloudRoleBindingSpec.toJson_injective (Json.text_injective htext)
  · rintro rfl
    rfl

/-! ## What the bindings say together -/

/-- The bindings `inputs` for `saName` and `inputs'` for `saName'` ask for the same effective
configuration.  No field looks at the order or at the names of the bindings. -/
structure SameConfiguration (saName saName' : String) (inputs inputs' : List CloudRoleBinding) :
    Prop where
  serviceAccount : saName = saName'
  aws : ∀ p, (∃ c ∈ inputs, c.spec.providers.aws = some p) ↔
    ∃ c ∈ inputs', c.spec.providers.aws = some p
  /-- Unset is treated as true, so what counts is whether a binding turns provenance off. -/
  provenance : (∃ c ∈ inputs, c.explicitProvenance = some false) ↔
    ∃ c ∈ inputs', c.explicitProvenance = some false
  extra : ∀ k w : String, (∃ c ∈ inputs, c.extraMap[k]? = some w) ↔
    ∃ c ∈ inputs', c.extraMap[k]? = some w

/-- The specification with these contents, as `merge_inputs` returns it. -/
def mergedSpec (saName : String) (p : AwsProviderSpec) (v : Bool) (u : BTreeMap String String) :
    ResolvedCloudRoleBindingSpec where
  subject := { serviceAccountName := saName }
  attributes := some { includeProvenance := some v, extra := if u.isEmpty then none else some u }
  providers := { aws := some p, azure := none, gcp := none }

/-- What a merge returns says exactly what the bindings say. -/
lemma mergeInputs_contents {saName : String} {inputs : List CloudRoleBinding}
    {s : ResolvedCloudRoleBindingSpec} (h : mergeInputs saName inputs = .ok s) :
    ∃ p v u, s = mergedSpec saName p v u ∧
      (∀ q, p = q ↔ ∃ c ∈ inputs, c.spec.providers.aws = some q) ∧
      (v = false ↔ ∃ c ∈ inputs, c.explicitProvenance = some false) ∧
      ∀ k w : String, u[k]? = some w ↔ ∃ c ∈ inputs, c.extraMap[k]? = some w := by
  obtain ⟨hm, hspec⟩ := mergeInputs_ok h
  obtain ⟨c, hc, hset, haws⟩ := hspec.aws
  obtain ⟨p, hp⟩ := Option.isSome_iff_exists.mp hset
  obtain ⟨v, u, hattr, hv, hdefault, hu⟩ := hspec.attributes
  refine ⟨p, v, u, ?_, fun q => ?_, ?_, hu⟩
  · obtain ⟨subject, attributes, ⟨aws, azure, gcp⟩⟩ := s
    simp only [mergedSpec, ResolvedCloudRoleBindingSpec.mk.injEq, ProvidersSpec.mk.injEq]
    exact ⟨hspec.subject, hattr, haws.trans hp, hspec.azure, hspec.gcp⟩
  · constructor
    · rintro rfl
      exact ⟨c, hc, hp⟩
    · rintro ⟨c', hc', hq⟩
      -- Only one binding sets the block.
      have hone := hm.oneAws
      rw [countP_aws_eq_length] at hone
      obtain ⟨q', hlist⟩ := List.length_eq_one_iff.mp hone
      have hmem : p ∈ [q'] := hlist ▸ List.mem_filterMap.mpr ⟨c, hc, hp⟩
      have hmem' : q ∈ [q'] := hlist ▸ List.mem_filterMap.mpr ⟨c', hc', hq⟩
      rw [List.mem_singleton.mp hmem, List.mem_singleton.mp hmem']
  · constructor
    · rintro rfl
      by_contra hnone
      have hunset : ∀ c ∈ inputs, c.explicitProvenance = none := by
        intro c hc
        cases hexp : c.explicitProvenance with
        | none => rfl
        | some v =>
            obtain rfl := hv c hc v hexp
            exact absurd ⟨c, hc, hexp⟩ hnone
      cases hdefault hunset
    · rintro ⟨c', hc', hfalse⟩
      exact hv c' hc' false hfalse

lemma mergedSpec_inj {saName saName' : String} {p p' : AwsProviderSpec} {v v' : Bool}
    {u u' : BTreeMap String String} :
    mergedSpec saName p v u = mergedSpec saName' p' v' u' ↔
      saName = saName' ∧ p = p' ∧ v = v' ∧ u = u' := by
  constructor
  · intro h
    obtain ⟨hsubject, hattributes, hproviders⟩ := ResolvedCloudRoleBindingSpec.mk.inj h
    obtain ⟨hv, hextra⟩ := AttributesSpec.mk.inj (Option.some.inj hattributes)
    have hu : u = u' := by
      split at hextra <;> split at hextra <;> simp_all [Std.ExtTreeMap.isEmpty_iff]
    exact ⟨SubjectRef.mk.inj hsubject, Option.some.inj (ProvidersSpec.mk.inj hproviders).1,
      Option.some.inj hv, hu⟩
  · rintro ⟨rfl, rfl, rfl, rfl⟩
    rfl

/-- The results of two merges are equal exactly when the bindings say the same. -/
lemma eq_iff_sameConfiguration {saName saName' : String} {inputs inputs' : List CloudRoleBinding}
    {s s' : ResolvedCloudRoleBindingSpec} (h : mergeInputs saName inputs = .ok s)
    (h' : mergeInputs saName' inputs' = .ok s') :
    s = s' ↔ SameConfiguration saName saName' inputs inputs' := by
  obtain ⟨p, v, u, rfl, hp, hv, hu⟩ := mergeInputs_contents h
  obtain ⟨p', v', u', rfl, hp', hv', hu'⟩ := mergeInputs_contents h'
  rw [mergedSpec_inj]
  constructor
  · rintro ⟨hname, rfl, rfl, rfl⟩
    exact
      { serviceAccount := hname
        aws := fun q => (hp q).symm.trans (hp' q)
        provenance := hv.symm.trans hv'
        extra := fun k w => (hu k w).symm.trans (hu' k w) }
  · intro hsame
    refine ⟨hsame.serviceAccount, ?_, ?_, ?_⟩
    · have hset : ∃ c ∈ inputs', c.spec.providers.aws = some p :=
        (hsame.aws p).mp ((hp p).mp rfl)
      exact ((hp' p).mpr hset).symm
    · have hoff : v = false ↔ v' = false := hv.trans (hsame.provenance.trans hv'.symm)
      cases v <;> cases v' <;> simp_all
    · refine Std.ExtTreeMap.ext_getElem? fun k => Option.ext fun w => ?_
      rw [hu, hu', hsame.extra]

/-! ## Reordering and renaming -/

section Renamed

variable {f : CloudRoleBinding → CloudRoleBinding} {inputs inputs' : List CloudRoleBinding}

/-- Bindings that were reordered, renamed or given other generations still merge. -/
lemma Mergeable.renamed (hm : Mergeable inputs) (hspec : ∀ c, (f c).spec = c.spec)
    (hperm : inputs'.Perm (inputs.map f)) : Mergeable inputs' := by
  refine Mergeable.perm ?_ hperm.symm
  constructor
  case provider =>
    simpa [CloudRoleBinding.SetsProvider, hspec] using hm.provider
  case oneAws =>
    rw [List.countP_map]
    simpa [Function.comp_def, hspec] using hm.oneAws
  case provenance =>
    simpa [CloudRoleBinding.explicitProvenance, hspec] using hm.provenance
  case extra =>
    rw [List.pairwise_map]
    simpa [CloudRoleBinding.extraMap, hspec] using hm.extra

lemma sameConfiguration_renamed (saName : String) (hspec : ∀ c, (f c).spec = c.spec)
    (hperm : inputs'.Perm (inputs.map f)) : SameConfiguration saName saName inputs inputs' where
  serviceAccount := rfl
  aws := by simp [hperm.mem_iff, hspec]
  provenance := by simp [hperm.mem_iff, CloudRoleBinding.explicitProvenance, hspec]
  extra := by simp [hperm.mem_iff, CloudRoleBinding.extraMap, hspec]

end Renamed

/-! ## The theorem -/

/-- **The hashed bytes identify the effective configuration.**  Two merges have the same bytes
exactly when they have the same result, which is exactly when the bindings ask for the same
configuration; so do the hashes, unless the digest collides on the two texts.  And bindings that
are reordered, renamed or given other generations are merged to the same bytes. -/
theorem bytes_identify_configuration {saName saName' : String}
    {inputs inputs' : List CloudRoleBinding} {s s' : ResolvedCloudRoleBindingSpec}
    (h : mergeInputs saName inputs = .ok s) (h' : mergeInputs saName' inputs' = .ok s') :
    (s.bytes = s'.bytes ↔ s = s') ∧
      (s = s' ↔ SameConfiguration saName saName' inputs inputs') ∧
      (∀ sha256 : String → String,
        (sha256 s.toJson.text = sha256 s'.toJson.text → s.toJson.text = s'.toJson.text) →
        (configHashOf sha256 s = configHashOf sha256 s' ↔ s = s')) ∧
      ∀ (f : CloudRoleBinding → CloudRoleBinding) (reordered : List CloudRoleBinding),
        (∀ c, (f c).spec = c.spec) → reordered.Perm (inputs.map f) →
        ∃ s'', mergeInputs saName reordered = .ok s'' ∧ s''.bytes = s.bytes := by
  refine ⟨ResolvedCloudRoleBindingSpec.bytes_inj, eq_iff_sameConfiguration h h',
    fun sha256 hcollision => ?_, fun f reordered hspec hperm => ?_⟩
  · constructor
    · intro hhash
      have hjson : s.toJson = s'.toJson := Json.text_injective (hcollision hhash)
      exact ResolvedCloudRoleBindingSpec.toJson_injective hjson
    · rintro rfl
      rfl
  · have hm := (mergeInputs_ok h).1.renamed hspec hperm
    obtain ⟨s'', hs''⟩ := hm.exists_ok saName
    have hsame := (eq_iff_sameConfiguration h hs'').mpr
      (sameConfiguration_renamed saName hspec hperm)
    exact ⟨s'', hs'', by rw [hsame]⟩

/-- A binding for the ServiceAccount `app` with this role. -/
def appBinding (name roleArn : String) : CloudRoleBinding where
  metadata := { name := some name }
  spec :=
    { subject := { serviceAccountName := "app" }
      providers := { aws := some { roleArn := roleArn } } }

/-- Another role gives other bytes, another name does not. -/
theorem bytes_identify_configuration_roles :
    ((mergedSpec "app" { roleArn := "reader" } true ∅).bytes ≠
      (mergedSpec "app" { roleArn := "writer" } true ∅).bytes) ∧
    ∃ s'', mergeInputs "app" [appBinding "renamed" "reader"] = .ok s'' ∧
      s''.bytes = (mergedSpec "app" { roleArn := "reader" } true ∅).bytes := by
  have hread : mergeInputs "app" [appBinding "one" "reader"] =
      .ok (mergedSpec "app" { roleArn := "reader" } true ∅) := by rfl
  have hwrite : mergeInputs "app" [appBinding "two" "writer"] =
      .ok (mergedSpec "app" { roleArn := "writer" } true ∅) := by rfl
  obtain ⟨hbytes, -, -, hrenamed⟩ := bytes_identify_configuration hread hwrite
  refine ⟨fun h => ?_, ?_⟩
  · have hrole := (mergedSpec_inj.mp (hbytes.mp h)).2.1
    exact absurd hrole (by decide)
  · refine hrenamed (fun c => { c with metadata := { name := some "renamed" } }) _
      (fun _ => rfl) ?_
    exact .refl _

end IdentityFederation
