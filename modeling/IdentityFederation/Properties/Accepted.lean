import Std.Data.String.ToInt
import IdentityFederation.Properties.Authority
import IdentityFederation.Properties.Formats
import IdentityFederation.Properties.MergeIssues

/-!
# What the webhook writes is accepted

The API server validates what it is sent against the schemas of the chart, so a reconcile whose
documents do not fit would fail for ever.  `writes_accepted` rules that out: as long as users'
bindings are accepted, so is all that reconciles write, whatever they are interleaved with.

A resolved specification is accepted because its blocks are those of bindings.  A status is
accepted because each of its messages has a text, its sources have names, and its generations are
generations of bindings.
-/

namespace IdentityFederation

open Interaction Program
open Json (Schema Format)

/-- A generation that fits an `int64`. -/
def IsInt64 (n : ℤ) : Prop := -2 ^ 63 ≤ n ∧ n < 2 ^ 63

/-! ## The documents that the schemas accept -/

section Documents

variable {tt : TimeText}

lemma attributes_accepted (a : AttributesSpec) : attributesSchema.Accepts a.toJson := by
  rw [attributesEncoder.accepts_iff]
  refine ⟨?_, ?_⟩
  · refine ((stringFormat fun _ => true).stringMap.accepts_option ..).mpr fun m _ => ?_
    exact Schema.accepts_map.mpr (List.forall_mem_map.mpr fun _ _ => rfl)
  · exact (boolFormat.accepts_option ..).mpr fun b _ => Schema.accepts_boolean b

lemma providers_accepted_iff (p : ProvidersSpec) : providersSchema.Accepts p.toJson ↔
    (∀ aws ∈ p.aws, awsSchema.Accepts aws.toJson) ∧
      (∀ azure ∈ p.azure, azureSchema.Accepts azure.toJson) ∧
      ∀ gcp ∈ p.gcp, gcpSchema.Accepts gcp.toJson := by
  rw [providersEncoder.accepts_iff]
  simp [providersFields, awsFormat.accepts_option, azureFormat.accepts_option,
    gcpFormat.accepts_option]

lemma subject_accepted_iff (s : SubjectRef) :
    subjectSchema.Accepts s.toJson ↔ s.serviceAccountName ≠ "" := by
  rw [subjectEncoder.accepts_iff]
  simp [subjectFields, (stringFormat _).accepts_member, nonempty]

lemma spec_accepted_iff (spec : CloudRoleBindingSpec) : specSchema.Accepts spec.toJson ↔
    providersSchema.Accepts spec.providers.toJson ∧ spec.subject.serviceAccountName ≠ "" := by
  rw [crbSpecEncoder.accepts_iff]
  simp [crbSpecFields, attributesFormat.accepts_option, providersFormat.accepts_member,
    subjectFormat.accepts_member, attributes_accepted, subject_accepted_iff]

lemma resolvedSpec_accepted_iff (spec : ResolvedCloudRoleBindingSpec) :
    specSchema.Accepts spec.toJson ↔
      providersSchema.Accepts spec.providers.toJson ∧ spec.subject.serviceAccountName ≠ "" :=
  spec_accepted_iff (resolvedSpec.symm spec)

lemma condition_accepted_iff (c : Condition) : (conditionSchema tt).Accepts (c.toJson tt) ↔
    c.message ≠ "" ∧ IsInt64 c.observedGeneration := by
  have htime : (Schema.string tt.dateTime).Accepts (tt.toJson c.lastTransitionTime) :=
    tt.dateTime_toText c.lastTransitionTime
  have hmessage : nonempty c.message = true ↔ c.message ≠ "" := by simp [nonempty]
  rw [(conditionEncoder tt).accepts_iff]
  simp only [conditionFields, List.Forall, Json.RecordField.mandatory,
    (timeFormat tt).accepts_member, (stringFormat nonempty).accepts_member,
    int64Format.accepts_member, reasonFormat.accepts_member, statusFormat.accepts_member,
    typeFormat.accepts_member, htime, Schema.accepts_string, Schema.accepts_integer, hmessage]
  refine ⟨fun h => ⟨h.2.1, h.2.2.1⟩, fun h => ⟨trivial, h.1, h.2, ?_, ?_, ?_⟩⟩
  · cases c.reason <;> rfl
  · cases c.status <;> rfl
  · cases c.type <;> rfl

lemma crbStatus_accepted_iff (s : CloudRoleBindingStatus) :
    (crbStatusSchema tt).Accepts (s.toJson tt) ↔
      ∀ c ∈ s.conditions, (conditionSchema tt).Accepts (c.toJson tt) := by
  rw [(crbStatusEncoder tt).accepts_iff]
  simp [crbStatusFields, (conditionFormat tt).array.accepts_member,
    (stringFormat _).accepts_member, (stringFormat _).accepts_option]

lemma source_accepted_iff (r : CloudRoleBindingRef) : sourceSchema.Accepts r.toJson ↔
    (∀ n ∈ r.generation, IsInt64 n) ∧ r.name ≠ "" := by
  have hname : nonempty r.name = true ↔ r.name ≠ "" := by simp [nonempty]
  rw [sourceEncoder.accepts_iff]
  simp only [sourceFields, List.Forall, Json.RecordField.optional, Json.RecordField.mandatory,
    int64Format.accepts_option, (stringFormat nonempty).accepts_member, Schema.accepts_string,
    Schema.accepts_integer, hname, IsInt64]

lemma rcrbStatus_accepted_iff (s : ResolvedCloudRoleBindingStatus) :
    (rcrbStatusSchema tt).Accepts (s.toJson tt) ↔
      (∀ c ∈ s.conditions, (conditionSchema tt).Accepts (c.toJson tt)) ∧
        ∀ r ∈ s.sources, sourceSchema.Accepts r.toJson := by
  rw [(rcrbStatusEncoder tt).accepts_iff]
  simp [rcrbStatusFields, (conditionFormat tt).array.accepts_member,
    sourceFormat.array.accepts_member, (stringFormat _).accepts_member,
    (stringFormat _).accepts_option]

end Documents

/-! ## Accepted objects -/

section Objects

variable (tt : TimeText)

/-- The schemas accept the binding, which has a name and a generation in range. -/
structure AcceptedCrb (crb : CloudRoleBinding) : Prop where
  name : crb.nameOrDefault ≠ ""
  generation : ∀ n ∈ crb.metadata.generation, IsInt64 n
  spec : specSchema.Accepts crb.spec.toJson
  status : ∀ st ∈ crb.status, (crbStatusSchema tt).Accepts (st.toJson tt)

structure AcceptedRcrb (resolved : ResolvedCloudRoleBinding) : Prop where
  spec : specSchema.Accepts resolved.spec.toJson
  status : ∀ st ∈ resolved.status, (rcrbStatusSchema tt).Accepts (st.toJson tt)

structure AcceptedCluster (s : Cluster) : Prop where
  crbs : ∀ (key : ObjectKey) c, s.crbs[key]? = some c → AcceptedCrb tt (c.object key)
  rcrbs : ∀ key r, s.rcrbs key = some r → AcceptedRcrb tt (r.object key)

/-- What is stored of the object is decoded to it, up to the fractions of seconds. -/
structure ReadsBack (resolved : ResolvedCloudRoleBinding) : Prop where
  spec : ResolvedCloudRoleBindingSpec.ofJson? (specSchema.conform resolved.spec.toJson) =
    some resolved.spec
  status : ∀ st ∈ resolved.status, ResolvedCloudRoleBindingStatus.ofJson? tt
    ((rcrbStatusSchema tt).conform (st.toJson tt)) = some st.truncate

/-- The document that the request carries is accepted. -/
def CarriesAccepted : ApiRequest → Prop
  | .replaceCrbStatus _ _ crb => AcceptedCrb tt crb
  | .patchRcrb _ _ resolved | .patchRcrbStatus _ _ resolved => AcceptedRcrb tt resolved
  | _ => True

end Objects

variable {tt : TimeText} {sha256 : String → String} {key : Key} {all : List CloudRoleBinding}

/-! ## What a reconcile computes -/

/-- Every issue has a message. -/
lemma message_ne_empty {saName : String} {inputs : List CloudRoleBinding} {issue : MergeIssue}
    (h : mergeInputs saName inputs = .error issue) : issue.message ≠ "" := by
  rcases mergeInputs_error h with ⟨seen, c, later, acc, -, hloop, hstep⟩ | rfl
  · rcases mergeStep_error (accumulates_of_loop hloop) hstep with
      ⟨-, rfl⟩ | ⟨-, -, rfl⟩ | ⟨-, rfl⟩ | ⟨k, -, -, rfl⟩
    · simp [missingProviderIssue]
    · simp [awsConflictIssue]
    · simp [includeProvenanceIssue]
    · simp [duplicateExtraIssue]
  · simp [noProvidersIssue]

lemma isInt64_zero : IsInt64 0 := by simp [IsInt64]

lemma crbStatusFor_accepted {verdict : Verdict}
    (hverdict : ∀ issue, verdict = .error issue → issue.message ≠ "") {crb : CloudRoleBinding}
    (hcrb : AcceptedCrb tt crb) (now : Time) :
    (crbStatusSchema tt).Accepts ((crbStatusFor verdict crb now).toJson tt) := by
  have hgeneration : IsInt64 (crb.metadata.generation.getD 0) := by
    cases hg : crb.metadata.generation with
    | none => exact isInt64_zero
    | some n => exact hcrb.generation n hg
  rw [crbStatus_accepted_iff]
  cases verdict with
  | ok merged =>
      simp [crbStatusFor, buildCrbStatus, crbReadyCondition, crbClearedConditions,
        condition_accepted_iff, hgeneration]
  | error issue =>
      have hmessage := hverdict issue rfl
      have hready : (conditionSchema tt).Accepts ((crbReadyCondition
          (crb.metadata.generation.getD 0) false (some issue) now).toJson tt) :=
        (condition_accepted_iff _).mpr ⟨hmessage, hgeneration⟩
      have hissue : ∀ type, (conditionSchema tt).Accepts ((crbIssueCondition type
          (crb.metadata.generation.getD 0) issue now).toJson tt) := fun type =>
        (condition_accepted_iff _).mpr ⟨hmessage, hgeneration⟩
      simp only [crbStatusFor, buildCrbStatus]
      split <;> simp [hready, hissue]

/-- The sources of a resolved binding, and their generation. -/
lemma sources_accepted (hall : ∀ crb ∈ all, AcceptedCrb tt crb) :
    (∀ r ∈ sourcesOf all, sourceSchema.Accepts r.toJson) ∧
      IsInt64 (sourcesGeneration (sourcesOf all)) := by
  have hgeneration : ∀ n ∈ (sourcesOf all).filterMap CloudRoleBindingRef.generation, IsInt64 n := by
    intro n hn
    obtain ⟨r, hr, hn⟩ := List.mem_filterMap.mp hn
    obtain ⟨crb, hcrb, rfl⟩ := List.mem_map.mp hr
    exact (hall crb hcrb).generation n hn
  constructor
  · intro r hr
    obtain ⟨crb, hcrb, rfl⟩ := List.mem_map.mp hr
    exact (source_accepted_iff _).mpr ⟨(hall crb hcrb).generation, (hall crb hcrb).name⟩
  · unfold sourcesGeneration
    cases hmax : ((sourcesOf all).filterMap fun s => s.generation).max? with
    | none => exact isInt64_zero
    | some n => exact hgeneration n (List.max?_mem hmax)

/-- **The outcome of accepted bindings is accepted.** -/
lemma outcome_accepted (hkey : key.serviceAccountName ≠ "")
    (hall : ∀ crb ∈ relevantCrbs key.serviceAccountName all, AcceptedCrb tt crb) (now : Time) :
    AcceptedRcrb tt (outcome sha256 key all now) := by
  obtain ⟨hsources, hgeneration⟩ := sources_accepted hall
  unfold outcome resolvedFor
  cases hverdict : verdictOn key all with
  | ok merged =>
      have hmerge := (mergeInputs_ok hverdict).2
      constructor
      · refine (resolvedSpec_accepted_iff _).mpr ⟨(providers_accepted_iff _).mpr ?_, ?_⟩
        · -- The AWS block is that of a binding, and the others are left out.
          obtain ⟨crb, hcrb, -, haws⟩ := hmerge.aws
          have hspec := ((spec_accepted_iff _).mp (hall crb hcrb).spec).1
          simp only [buildResolvedFromSpec, haws, hmerge.azure, hmerge.gcp]
          refine ⟨((providers_accepted_iff _).mp hspec).1, ?_, ?_⟩
          all_goals
            intro _ hnone
            cases hnone
        · have hsubject : merged.subject.serviceAccountName = key.serviceAccountName :=
            congrArg SubjectRef.serviceAccountName hmerge.subject
          exact hsubject ▸ hkey
      · rintro st ⟨⟩
        rw [rcrbStatus_accepted_iff]
        simpa [condition_accepted_iff, hgeneration] using hsources
  | error issue =>
      have hmessage := message_ne_empty hverdict
      constructor
      · refine (resolvedSpec_accepted_iff _).mpr
          ⟨(providers_accepted_iff _).mpr ⟨?_, ?_, ?_⟩, hkey⟩
        all_goals
          intro _ hnone
          cases hnone
      · rintro st ⟨⟩
        rw [rcrbStatus_accepted_iff]
        simpa [condition_accepted_iff, hgeneration, hmessage] using hsources

/-! ## What a reconcile sends -/

lemma writeStatuses_accepted {verdict : Verdict}
    (hverdict : ∀ issue, verdict = .error issue → issue.message ≠ "") (ns : String)
    (clock : ℕ → Time) {l : List CloudRoleBinding} (hl : ∀ crb ∈ l, AcceptedCrb tt crb) :
    (writeStatuses ns verdict clock l).run.Sends (CarriesAccepted tt) := by
  induction l generalizing clock with
  | nil => trivial
  | cons crb rest ih =>
      obtain ⟨hcrb, hrest⟩ := List.forall_mem_cons.mp hl
      simp only [writeStatuses]
      split
      · exact ih clock hrest
      split
      · have hupdated : AcceptedCrb tt
            { crb with status := some (crbStatusFor verdict crb (clock 0)) } :=
          { hcrb with
            status := by
              rintro st ⟨⟩
              exact crbStatusFor_accepted hverdict hcrb (clock 0) }
        exact Sends.run_bind (sends_send hupdated) fun _ => ih _ hrest
      · exact ih clock hrest

lemma reconcileListed_accepted
    (hall : ∀ crb ∈ relevantCrbs key.serviceAccountName all, AcceptedCrb tt crb)
    (clock : ℕ → Time) :
    (reconcileListed sha256 clock key all).run.Sends (CarriesAccepted tt) := by
  refine Sends.run_bind (writeStatuses_accepted ?_ _ _ hall) fun _ => ?_
  · exact fun issue hissue => message_ne_empty hissue
  · simp only [upsertResolved, name_outcome]
    split
    · trivial
    · rename_i hkey
      have haccepted : ∀ now, AcceptedRcrb tt (outcome sha256 key all now) :=
        outcome_accepted hkey hall
      exact Sends.run_bind (sends_send (haccepted _)) fun _ => sends_send (haccepted _)

/-! ## Every run -/

variable {s : Cluster}

lemma AcceptedCluster.lists (hs : AcceptedCluster tt s) :
    ListsInform sha256 (CarriesAccepted tt) s := by
  refine ⟨fun _ => trivial, fun key clock => reconcileListed_accepted (fun crb hcrb => ?_) clock⟩
  obtain ⟨name, c, hc, rfl, -⟩ := mem_relevantCrbs.mp hcrb
  exact hs.crbs _ c hc

/-- A status that is replaced is that of the document. -/
lemma AcceptedCluster.replaceCrbStatus (hs : AcceptedCluster tt s) {ns name : String}
    {crb : CloudRoleBinding} (hcrb : AcceptedCrb tt crb) :
    AcceptedCluster tt (s.replaceCrbStatus ns name crb).2 := by
  unfold Cluster.replaceCrbStatus
  split
  · exact hs
  rename_i old hold
  split
  · exact hs
  split
  · exact hs
  refine ⟨fun key c hc => ?_, hs.rcrbs⟩
  by_cases hkey : key = ⟨ns, name⟩
  · subst hkey
    obtain rfl := Option.some.inj ((Cluster.getElem?_updateCrb_self hold _).symm.trans hc)
    exact { hs.crbs _ old hold with status := hcrb.status }
  · exact hs.crbs key c ((Cluster.getElem?_updateCrb_of_ne s hkey _).symm.trans hc)

lemma AcceptedCluster.update (hs : AcceptedCluster tt s) {s' : Cluster} {key : ObjectKey}
    {r : StoredRcrb} (hcrbs : s'.crbs = s.crbs)
    (hrcrbs : s'.rcrbs = Function.update s.rcrbs key (some r))
    (hr : AcceptedRcrb tt (r.object key)) : AcceptedCluster tt s' := by
  refine ⟨fun k c hc => hs.crbs k c (hcrbs ▸ hc), fun k r' hr' => ?_⟩
  rw [hrcrbs] at hr'
  by_cases hk : k = key
  · subst hk
    rw [Function.update_self] at hr'
    obtain rfl := Option.some.inj hr'
    exact hr
  · rw [Function.update_of_ne hk] at hr'
    exact hs.rcrbs k r' hr'

/-- **An accepted document leaves the stored objects accepted.** -/
lemma AcceptedCluster.serve (hs : AcceptedCluster tt s) {q : ApiRequest}
    (hq : CarriesAccepted tt q) : AcceptedCluster tt (s.serve q).2 := by
  cases q with
  | replaceCrbStatus ns name crb => exact hs.replaceCrbStatus hq
  | patchRcrb ns name resolved =>
      refine hs.update rfl rfl ⟨hq.spec, fun st hst => ?_⟩
      obtain ⟨old, hold, hstatus⟩ := Option.bind_eq_some_iff.mp hst
      exact (hs.rcrbs _ old hold).status st hstatus
  | patchRcrbStatus ns name resolved =>
      simp only [Cluster.serve, Cluster.patchRcrbStatus]
      split
      · exact hs
      · rename_i old hold
        exact hs.update rfl rfl ⟨(hs.rcrbs _ old hold).spec, hq.status⟩
  | _ => exact ⟨hs.crbs, hs.rcrbs⟩

/-- What a user writes is accepted, and the generation of the binding stays in range. -/
def AcceptedChange (s : Cluster) : UserChange → Prop
  | .create _ spec => specSchema.Accepts spec.toJson
  | .edit key spec =>
      specSchema.Accepts spec.toJson ∧ ∀ c ∈ s.crbs[key]?, IsInt64 (c.generation + 1)
  | .delete _ => True

lemma AcceptedCluster.change (hs : AcceptedCluster tt s) {change : UserChange} {s' : Cluster}
    (hchange : AcceptedChange s change) (h : change.apply s = some s') :
    AcceptedCluster tt s' := by
  obtain ⟨effect⟩ := UserChange.apply_eq_some h
  refine ⟨fun k c hc => ?_, fun k r hr => hs.rcrbs k r (effect.rcrbs_eq ▸ hr)⟩
  by_cases hk : k = change.key
  case neg => exact hs.crbs k c ((effect.others k hk).symm.trans hc)
  subst hk
  rcases change.stored_of_apply h hc with
    ⟨hcreate, hname, hgeneration, hstatus⟩ | ⟨hedit, old, hold, hgeneration, hstatus⟩
  · rw [hcreate] at hchange
    refine ⟨hname, fun n hn => ?_, hchange, fun st hst => ?_⟩
    · obtain rfl := Option.some.inj hn
      simp [IsInt64, hgeneration]
    · cases hstatus.symm.trans hst
  · rw [hedit] at hchange
    refine ⟨(hs.crbs change.key old hold).name, fun n hn => ?_, hchange.1, fun st hst => ?_⟩
    · obtain rfl := Option.some.inj hn
      rw [hgeneration]
      exact_mod_cast hchange.2 old hold
    · exact (hs.crbs change.key old hold).status st (hstatus.symm.trans hst)

variable {ι : Type} [DecidableEq ι] {s₀ : Cluster}

/-- The changes of users are accepted. -/
def Validated (c : Replicas ι) : ReplicaLabel ι → Prop
  | .change change => AcceptedChange c.shared change
  | _ => True

lemma AcceptedRcrb.readsBack {resolved : ResolvedCloudRoleBinding}
    (h : AcceptedRcrb tt resolved) : ReadsBack tt resolved where
  spec := rcrbSpecFormat.roundTrip _ h.spec
  status st hst := (rcrbStatusFormat tt).roundTrip st (h.status st hst)

/-- **What reconciles write is accepted.**  Users write bindings that the schemas of the chart
accept.  Then in every run of any number of workers, with failing requests and with workers that
stop anywhere, every document that a worker is about to send is accepted, every object that is
stored stays accepted, and whoever reads a resolved binding decodes what was written. -/
theorem writes_accepted (hs : AcceptedCluster tt s₀) {c : Replicas ι}
    (hc : Transition.Reachable (Replicas.step sha256) Validated (Replicas.boot s₀) c) :
    AcceptedCluster tt c.shared ∧ (∀ i, ∀ q ∈ (c.member i).next, CarriesAccepted tt q) ∧
      ∀ key r, c.shared.rcrbs key = some r → ReadsBack tt (r.object key) := by
  obtain ⟨hshared, hworkers⟩ := hc.invariant
    (I := fun c : Replicas ι => AcceptedCluster tt c.shared ∧
      ∀ i, Informed sha256 (CarriesAccepted tt) (c.member i))
    ⟨hs, fun _ => .inr trivial⟩ fun c l c' hI hguard hstep => by
      obtain ⟨hstep, hworkers⟩ := informed_step hI.1.lists hI.2 hstep
      refine ⟨?_, hworkers⟩
      cases hstep with
      | change happly => exact hI.1.change hguard happly
      | serve hq heq => exact heq ▸ hI.1.serve hq
      | nothing heq => exact heq ▸ hI.1
  refine ⟨hshared, fun i q hq => ?_, fun key r hr => (hshared.rcrbs key r hr).readsBack⟩
  cases hmember : c.member i with
  | ret res =>
      rw [hmember] at hq
      cases hq
  | call q' k =>
      rw [hmember] at hq
      obtain rfl := Option.some.inj hq
      exact ((hmember ▸ hworkers i).call hshared.lists .none).1

/-- The text of the epoch. -/
def epoch : String := "1970-01-01T00:00:00Z"

lemma isInt_epoch : epoch.isInt = false := by
  rw [Bool.eq_false_iff]
  intro h
  rcases String.isInt_iff.mp h with hnat | ⟨t, ht, -⟩
  · have hdigit := (String.isNat_iff.mp hnat).2.1 'Z' (by decide)
    exact absurd hdigit (by decide)
  · have hlist := congrArg String.toList ht
    rw [String.toList_append] at hlist
    exact absurd (List.cons.inj hlist).1 (by decide)

/-- The epoch is written as it is in RFC 3339, and the other instants by their numbers. -/
def epochText : TimeText where
  toText t := if t.wholeSeconds = 0 then epoch else t.wholeSeconds.repr
  ofText? s := if s = epoch then some 0 else s.toInt?
  dateTime s := s = epoch || s.isInt
  ofText?_toText t := by
    by_cases hzero : t.wholeSeconds = 0
    · rw [if_pos hzero, if_pos rfl, hzero]
    · have hne : t.wholeSeconds.repr ≠ epoch := fun heq => by
        have hint := String.isInt_of_toInt?_eq_some (Int.toInt?_repr t.wholeSeconds)
        rw [heq, isInt_epoch] at hint
        cases hint
      rw [if_neg hzero, if_neg hne, Int.toInt?_repr]
  dateTime_toText t := by
    by_cases hzero : t.wholeSeconds = 0
    · rw [if_pos hzero]
      rfl
    · simp [hzero, String.isInt_of_toInt?_eq_some (Int.toInt?_repr t.wholeSeconds)]

/-- The role of a first configuration is accepted and read back. -/
theorem writes_accepted_first : ∃ c : Replicas Unit, Transition.run (Replicas.step webDigest)
      (Replicas.boot (Cluster.empty fun _ => none)) firstConfiguration = some c ∧
    AcceptedCluster epochText c.shared ∧
    ∃ r aws, c.shared.rcrbs ⟨"apps", "web"⟩ = some r ∧ r.spec.providers.aws = some aws ∧
      ReadsBack epochText (r.object ⟨"apps", "web"⟩) := by
  obtain ⟨c, hrun, r, aws, hr, haws⟩ := run_firstConfiguration
  have hempty : AcceptedCluster epochText (Cluster.empty fun _ => none) :=
    ⟨fun key c hc => by simp [Cluster.empty] at hc, fun key r hr => by simp [Cluster.empty] at hr⟩
  have hguard : Transition.Guarded (Replicas.step webDigest) Validated
      (Replicas.boot (Cluster.empty fun _ => none)) firstConfiguration := by
    refine Transition.guarded_of_forall (fun l hl s => ?_) _
    simp only [firstConfiguration, List.mem_cons, List.not_mem_nil, or_false] at hl
    rcases hl with rfl | rfl | rfl | rfl | rfl | rfl
    · exact (by decide : specSchema.Accepts
        (roleBinding "web" "arn:aws:iam::123456789012:role/web").toJson)
    all_goals trivial
  obtain ⟨haccepted, -, hreads⟩ :=
    writes_accepted hempty (Transition.reachable_of_run hguard hrun)
  exact ⟨c, hrun, haccepted, r, aws, hr, haws, hreads _ r hr⟩

end IdentityFederation
