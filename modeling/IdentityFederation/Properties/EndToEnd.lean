import IdentityFederation.Properties.DisjointMerge
import IdentityFederation.Properties.KeyAgreement
import IdentityFederation.Properties.Mirror
import IdentityFederation.Properties.Wire
import IdentityFederation.Webhook.Admission
import IdentityFederation.Webhook.Injection

/-!
# From the bindings to the token

One story through all the components: the bindings of a ServiceAccount are reconciled, a Pod of
the ServiceAccount is admitted, and its agent asks the federation service for tokens.  `Agrees`
says that the components mean the same by what they hand on, a resolved binding, a Pod, a request
and a response, whichever of the optional fields of the bindings are set.

`agrees` proves it under two conditions, `Fits`: the namespace file that the agent reads is that
of the Pod's own namespace, and the token expires before the clock overflows.  They are necessary
(`fits_of_agrees`).  The first one holds for every Pod that does not bring its own volume
`kif-sa-token` (`tokenVolume_injected`).
-/

namespace IdentityFederation

open Interaction Program

/-! ## Names -/

/-- A character of a DNS name. -/
def isDnsChar (c : Char) : Bool := c.isLower || c.isDigit || c = '-' || c = '.'

lemma isWhitespace_of_isDnsChar {c : Char} (h : isDnsChar c = true) :
    Text.isWhitespace c = false := by
  have hrange : 0x2d ≤ c.toNat ∧ c.toNat ≤ 0x7a := by
    simp only [isDnsChar, Bool.or_eq_true, decide_eq_true_eq] at h
    rcases h with ((hlower | hdigit) | rfl) | rfl
    · obtain ⟨hlow, hhigh⟩ := Bool.and_eq_true_iff.mp hlower
      exact ⟨le_trans (by decide) (of_decide_eq_true hlow), of_decide_eq_true hhigh⟩
    · obtain ⟨hlow, hhigh⟩ := Bool.and_eq_true_iff.mp hdigit
      exact ⟨le_trans (by decide) (of_decide_eq_true hlow),
        le_trans (of_decide_eq_true hhigh) (by decide)⟩
    · decide
    · decide
  simp only [Text.isWhitespace, Bool.or_eq_false_iff, Bool.and_eq_false_iff,
    decide_eq_false_iff_not]
  omega

/-- What the API server accepts as the name of a namespace or of a ServiceAccount; longer names
than the server's are allowed here. -/
def IsDnsName (s : String) : Prop := s ≠ "" ∧ s.toList.all isDnsChar = true

lemma IsDnsName.notMem {s : String} (h : IsDnsName s) {c : Char} (hc : isDnsChar c = false) :
    c ∉ s.toList := fun hmem =>
  Bool.false_ne_true (hc.symm.trans (List.all_eq_true.mp h.2 c hmem))

/-- The pattern of a role ARN in the schema of a `CloudRoleBinding`. -/
def IsRoleArn (arn : String) : Prop :=
  ∃ account role, account.length = 12 ∧ account.toList.all Char.isDigit = true ∧ role ≠ "" ∧
    '\n' ∉ role.toList ∧ arn = "arn:aws:iam::" ++ (account ++ ":role/" ++ role)

lemma IsRoleArn.trim_ne {arn : String} (h : IsRoleArn arn) : Text.trim arn ≠ "" := by
  obtain ⟨account, role, -, -, -, -, rfl⟩ := h
  have hmem : 'a' ∈ ("arn:aws:iam::" ++ (account ++ ":role/" ++ role)).toList := by
    rw [String.toList_append]
    exact List.mem_append_left _ (by decide)
  intro htrim
  have htrimmed := Text.mem_trim hmem (by decide)
  rw [htrim] at htrimmed
  cases htrimmed

/-! ## The story -/

/-- A reconcile, the admission of a Pod after it, and the agent of the Pod. -/
structure Story (Patch : Type) where
  sha256 : String → String
  reconcileClock : ℕ → Time
  key : Key
  /-- The cluster before the reconcile, and after it. -/
  before : Cluster
  after : Cluster
  diff : Pod → Pod → Patch
  /-- What the API server makes of a patch. -/
  applyPatch : Patch → Pod → Pod
  webhook : WebhookConfig
  request : AdmissionRequest
  pod : Pod
  /-- The environment that the kubelet gives the agent, and its namespace file. -/
  env : String → Option String
  namespaceFile : Except String String
  service : Federation.AppState
  mintClock : ℕ → Time
  /-- The claims document that a token carries. -/
  payload : String → Option Json

namespace Story

variable {Patch : Type}

/-- What `merge_inputs` returns. -/
def verdict (st : Story Patch) : Verdict := verdictOn st.key (st.before.list st.key.ns)

/-- What the admission handler answers. -/
def admission (st : Story Patch) : Except Error (AdmissionResponse Patch) × Cluster :=
  (handle st.diff st.webhook ⟨some st.request⟩).run.exec Cluster.serve st.after

/-- The ServiceAccount, as TokenReview reports it. -/
def username (st : Story Patch) : String :=
  serviceAccountUsername st.key.ns st.key.serviceAccountName

/-- The request that the agent of the Pod is meant to make. -/
def mintRequest (st : Story Patch) (merged : ResolvedCloudRoleBindingSpec) :
    Agent.MintRequest where
  ns := st.key.ns
  serviceAccountName := st.key.serviceAccountName
  configHash := configHashOf st.sha256 merged
  podName := st.env "POD_NAME"

/-- The claims the service makes for it. -/
def claims (st : Story Patch) (merged : ResolvedCloudRoleBindingSpec) (aws : AwsProviderSpec) :
    AwsClaims :=
  Federation.claimsFor st.service st.mintClock st.username (st.mintRequest merged).received merged
    aws

/-- The answer of the service to a `POST` on a cluster. -/
def answer (st : Story Patch) (s : Cluster) (authorization : String) (document : Json) :
    HttpResponse :=
  ((Federation.mintRoute st.service st.mintClock
    { authorization := some authorization, body := .json document }).exec Cluster.serve s).1

/-- The container of a Pod that the agent runs in. -/
def agentOf (pod : Pod) : Option Container :=
  ((pod.spec.bind PodSpec.initContainers).getD []).find? fun c => c.name = "kif-agent"

/-- The volume of a Pod that the agent reads its token and its namespace from. -/
def tokenVolume (pod : Pod) : Option Volume :=
  ((pod.spec.bind PodSpec.volumes).getD []).find? fun v => v.name = "kif-sa-token"

/-- The literal value a container gives a variable; of several entries the last one counts. -/
def literal (c : Container) (name : String) : Option String :=
  ((c.env.getD []).reverse.find? fun e => e.name = name).bind EnvVar.value

/-- What the story takes for granted. -/
structure Assumptions (st : Story Patch) : Prop where
  /-- A digest is rendered in hexadecimal digits. -/
  digest : ∀ text, '$' ∉ (st.sha256 text).toList
  nsName : IsDnsName st.key.ns
  saName : IsDnsName st.key.serviceAccountName
  /-- The schema of the bindings was enforced. -/
  roleArns : ∀ crb ∈ relevantCrbs st.key.serviceAccountName (st.before.list st.key.ns),
    ∀ aws, crb.spec.providers.aws = some aws → IsRoleArn aws.roleArn
  /-- The reconcile was complete and successful. -/
  reconciled : (reconcile st.sha256 st.reconcileClock st.key).run.exec Cluster.serve st.before =
    (.ok (), st.after)
  /-- The request creates a Pod of the ServiceAccount, which has no agent yet. -/
  create : st.request.operation = .create
  object : st.request.object = some st.pod
  ns : st.request.nsOrDefault = st.key.ns
  sa : st.pod.saName = st.key.serviceAccountName
  spec : st.pod.spec ≠ none
  noAgent : podHasContainer st.pod "kif-agent" = false
  patch : ∀ pod pod', st.applyPatch (st.diff pod pod') pod = pod'
  /-- The kubelet passes on literal values in which there is nothing to expand. -/
  kubelet : ∀ resp patch agent, st.admission.1 = .ok resp → resp.patch = some patch →
    agentOf (st.applyPatch patch st.pod) = some agent →
    ∀ name value, literal agent name = some value → '$' ∉ value.toList →
      st.env name = some value
  /-- Signing succeeds, and the claims can be read off the token. -/
  signing : ∀ merged aws, st.verdict = .ok merged → merged.providers.aws = some aws →
    ∃ token, signRs256 st.service.crypto st.service.signing (st.claims merged aws) = .ok token ∧
      st.payload token = some (st.claims merged aws).toJson

/-! ## What the components agree on -/

/-- What the claims document of a token says. -/
structure Says (username : String) (merged : ResolvedCloudRoleBindingSpec)
    (aws : AwsProviderSpec) (document : Json) : Prop where
  sub : document.path? ["sub"] = some (.str username)
  aud : document.path? ["aud"] = some (.str (aws.audience.getD "sts.amazonaws.com"))
  lifetime : ∃ iat : ℕ, document.path? ["iat"] = some (.num iat) ∧
    document.path? ["exp"] =
      some (.num (iat + (aws.maxSessionDurationSeconds.getD 3600).toNat))
  k8s : (document.path? ["kif", "k8s"]).isSome ↔
    merged.attributes.bind AttributesSpec.includeProvenance = some true
  attributes : document.path? ["kif", "attributes"] =
    (merged.attributes.bind AttributesSpec.extra).map stringMapToJson

/-- A response that grants a token, as the agent decodes it. -/
structure Grants (st : Story Patch) (merged : ResolvedCloudRoleBindingSpec)
    (aws : AwsProviderSpec) (resp : HttpResponse) : Prop where
  status : resp.status = 200
  token : ∃ token document,
    Agent.mintResult (.ok resp) = .ok
      { aws := some
          { token := token
            expiresInSeconds := aws.maxSessionDurationSeconds.getD 3600 } } ∧
    st.payload token = some document ∧ Says st.username merged aws document

/-- A cluster in which the resolved binding is still what the reconcile has stored, and in which
TokenReview reports the ServiceAccount for the token. -/
structure Recognizes (st : Story Patch) (s : Cluster) (token : String) : Prop where
  unchanged : s.rcrbs st.key.resolved = st.after.rcrbs st.key.resolved
  visible : token.toList.all isVisibleAscii = true
  reported : s.authenticator token =
    some { authenticated := some true, user := some (some st.username) }

/-- Webhook, agent and federation service agree. -/
structure Agrees (st : Story Patch) : Prop where
  /-- The Pod gets the agent with the ServiceAccount, the role and the hash of the merge. -/
  admits : ∀ merged, st.verdict = .ok merged → ∃ aws patch, merged.providers.aws = some aws ∧
    buildPodPatch st.diff st.pod st.webhook.agentImage st.webhook.agentImagePullPolicy
      st.webhook.agentPort st.webhook.federationUrl st.key.serviceAccountName
      (configHashOf st.sha256 merged) aws = .ok patch ∧
    st.admission = (.ok { uid := st.request.uid, allowed := true, patch := some patch }, st.after)
  /-- Every mint request of the agent is granted. -/
  grants : ∀ merged aws, st.verdict = .ok merged → merged.providers.aws = some aws →
    ∀ cfg firstSuccess, Agent.AgentConfig.fromEnv st.env st.namespaceFile = .ok cfg →
      (Agent.refreshIteration cfg firstSuccess).Sends fun q =>
        ∀ url token document, q = .post url (Agent.bearerAuth token) document →
          ∀ s, st.Recognizes s token →
            st.Grants merged aws (st.answer s (Agent.bearerAuth token) document)
  /-- A request with another hash is answered 409, -/
  conflicts : ∀ merged, st.verdict = .ok merged → ∀ s token, st.Recognizes s token →
    ∀ req : Agent.MintRequest, req.ns = st.key.ns →
      req.serviceAccountName = st.key.serviceAccountName →
      req.configHash ≠ configHashOf st.sha256 merged →
      (st.answer s (Agent.bearerAuth token) req.toJson).status = 409
  /-- the only response on which the agent terminates. -/
  terminates : ∀ cfg firstSuccess world, Agent.FilesSucceed world →
    ((∃ e, Agent.iterate cfg firstSuccess world = .error e) ↔
      ∃ resp, Agent.MintAnswered cfg world (.ok resp) ∧ resp.status = 409)
  /-- After a failed merge the Pod goes through the failure mode, -/
  fails : ∀ issue, st.verdict = .error issue → ∃ message event, st.admission =
    match st.webhook.admissionFailureMode with
    | .fail => (.ok { uid := st.request.uid, allowed := false, message := some message }, st.after)
    | .ignore => (.ok { uid := st.request.uid, allowed := true },
        { st.after with podEvents := st.after.podEvents ++ [event] })
  /-- and every mint request of the ServiceAccount is answered 400. -/
  refuses : ∀ issue, st.verdict = .error issue → ∀ s token, st.Recognizes s token →
    ∀ req : Agent.MintRequest, req.ns = st.key.ns →
      req.serviceAccountName = st.key.serviceAccountName →
      (st.answer s (Agent.bearerAuth token) req.toJson).status = 400

/-- When they do. -/
structure Fits (st : Story Patch) : Prop where
  /-- The agent reads the namespace of its Pod. -/
  namespaceFile : ∀ merged, st.verdict = .ok merged →
    ∀ ns, podNamespace st.namespaceFile = .ok ns → ns = st.key.ns
  /-- The token expires before the clock overflows. -/
  lifetime : ∀ merged aws, st.verdict = .ok merged → merged.providers.aws = some aws →
    ∀ ns, podNamespace st.namespaceFile = .ok ns →
      (nowUnixSeconds (st.mintClock 0)).toNat +
        (aws.maxSessionDurationSeconds.getD 3600).toNat < UInt64.size

/-! ## The webhook's part -/

section Webhook

variable {st : Story Patch} {merged : ResolvedCloudRoleBindingSpec} {aws : AwsProviderSpec}

/-- What a merge hands on: the role of a binding, and an explicit `includeProvenance`. -/
lemma merged_ok (h : st.Assumptions) (hv : st.verdict = .ok merged) :
    ∃ aws, merged.providers.aws = some aws ∧ IsRoleArn aws.roleArn ∧
      ∃ v extra, merged.attributes = some { includeProvenance := some v, extra := extra } := by
  obtain ⟨-, hmerge⟩ := mergeInputs_ok hv
  obtain ⟨crb, hcrb, hsome, haws⟩ := hmerge.aws
  obtain ⟨v, u, hattributes, -⟩ := hmerge.attributes
  obtain ⟨aws, hcrbaws⟩ := Option.isSome_iff_exists.mp hsome
  exact ⟨aws, haws.trans hcrbaws, h.roleArns crb hcrb aws hcrbaws, v, _, hattributes⟩

/-- What the reconcile has stored after a successful merge. -/
lemma stored_ok (h : st.Assumptions) (hv : st.verdict = .ok merged) :
    ∃ r, st.after.rcrbs st.key.resolved = some r ∧ r.spec = merged ∧
      r.status.bind (·.configHash) = some (configHashOf st.sha256 merged) ∧
      ∀ k, isReady (r.object k) = true := by
  obtain ⟨-, now, hrcrbs⟩ := reconcile_stores h.reconciled
  have houtcome : outcome st.sha256 st.key (st.before.list st.key.ns) now =
      buildResolvedFromSpec st.sha256 st.key.ns st.key.serviceAccountName
        (sourcesOf (relevantCrbs st.key.serviceAccountName (st.before.list st.key.ns))) merged
        now := by
    rw [outcome, show verdictOn st.key (st.before.list st.key.ns) = .ok merged from hv]
    rfl
  rw [houtcome] at hrcrbs
  exact ⟨_, by rw [hrcrbs, Function.update_self], rfl, rfl, fun k => rfl⟩

/-- What it has stored after a failed one. -/
lemma stored_error {issue : MergeIssue} (h : st.Assumptions) (hv : st.verdict = .error issue) :
    ∃ r, st.after.rcrbs st.key.resolved = some r ∧ r.spec.providers.aws = none ∧
      ∀ k, isReady (r.object k) = false := by
  obtain ⟨-, now, hrcrbs⟩ := reconcile_stores h.reconciled
  have houtcome : outcome st.sha256 st.key (st.before.list st.key.ns) now =
      buildFailedResolved st.key.ns st.key.serviceAccountName
        (sourcesOf (relevantCrbs st.key.serviceAccountName (st.before.list st.key.ns))) issue
        now := by
    rw [outcome, show verdictOn st.key (st.before.list st.key.ns) = .error issue from hv]
    rfl
  rw [houtcome] at hrcrbs
  exact ⟨_, by rw [hrcrbs, Function.update_self], rfl, fun k => rfl⟩

/-- A Pod without a volume of the name gets the projected one. -/
lemma find?_tokenVolume {volumes : List Volume} (h : ∀ v ∈ volumes, v.name ≠ "kif-sa-token") :
    (withVolumes volumes).find? (fun v => v.name = "kif-sa-token") = some saTokenVolume := by
  have hentries := entries_withVolumes_saToken volumes
  rw [if_neg fun hmem => by
    obtain ⟨v, hv, hname⟩ := List.mem_map.mp hmem
    exact h v hv hname] at hentries
  rw [← List.head?_filter]
  exact congrArg List.head? hentries

/-- The patch is that of a Pod with the agent, and with the injected volume unless the Pod has
one of its own. -/
lemma exists_patch (h : st.Assumptions) (hrole : IsRoleArn aws.roleArn) (hash : String) :
    ∃ pod', buildPodPatch st.diff st.pod st.webhook.agentImage st.webhook.agentImagePullPolicy
        st.webhook.agentPort st.webhook.federationUrl st.key.serviceAccountName hash aws =
          .ok (st.diff st.pod pod') ∧
      agentOf pod' = some
        (buildAgentContainer st.webhook.agentImage st.webhook.agentImagePullPolicy
          st.webhook.agentPort st.webhook.federationUrl st.key.serviceAccountName hash) ∧
      ((∀ v ∈ (st.pod.spec.bind PodSpec.volumes).getD [], v.name ≠ "kif-sa-token") →
        tokenVolume pod' = some saTokenVolume) := by
  obtain ⟨spec, hspec⟩ := Option.ne_none_iff_exists'.mp h.spec
  rw [hspec]
  refine ⟨_, congrArg (·.map (st.diff st.pod)) (mutatePod_eq_ok hspec h.noAgent hrole.trim_ne), rfl,
    fun hvolumes => ?_⟩
  exact find?_tokenVolume hvolumes

/-- A Pod of a ServiceAccount with a successful merge is admitted with the agent. -/
lemma admission_ok (h : st.Assumptions) (hv : st.verdict = .ok merged)
    (haws : merged.providers.aws = some aws) {patch : Patch}
    (hpatch : buildPodPatch st.diff st.pod st.webhook.agentImage st.webhook.agentImagePullPolicy
      st.webhook.agentPort st.webhook.federationUrl st.key.serviceAccountName
      (configHashOf st.sha256 merged) aws = .ok patch) :
    st.admission =
      (.ok { uid := st.request.uid, allowed := true, patch := some patch }, st.after) := by
  obtain ⟨r, hr, rfl, hhash, hready⟩ := stored_ok h hv
  rw [admission, exec_handle h.create h.object h.noAgent, h.ns, h.sa]
  simp only [show st.after.rcrbs ⟨st.key.ns, st.key.serviceAccountName⟩ = some r from hr,
    handleResolved, hready, not_true_eq_false, if_false]
  simp only [StoredRcrb.object, hhash, haws, h.sa, hpatch]
  rfl

lemma admission_error {issue : MergeIssue} (h : st.Assumptions) (hv : st.verdict = .error issue) :
    ∃ message event, st.admission =
      match st.webhook.admissionFailureMode with
      | .fail => (.ok { uid := st.request.uid, allowed := false, message := some message }, st.after)
      | .ignore => (.ok { uid := st.request.uid, allowed := true },
          { st.after with podEvents := st.after.podEvents ++ [event] }) := by
  obtain ⟨r, hr, -, hready⟩ := stored_error h hv
  refine exec_handle_not_ready h.create h.object h.noAgent (r := r) ?_ (hready _)
  rw [h.ns, h.sa]
  exact hr

/-! ## The agent's part -/

/-- The agent's environment has the ServiceAccount and the hash. -/
lemma env_of_admission (h : st.Assumptions) (hv : st.verdict = .ok merged) :
    st.env "SERVICE_ACCOUNT_NAME" = some st.key.serviceAccountName ∧
      st.env "CONFIG_HASH" = some (configHashOf st.sha256 merged) := by
  obtain ⟨aws, haws, hrole, -⟩ := merged_ok h hv
  obtain ⟨pod', hpatch, hagent, -⟩ := exists_patch h hrole (configHashOf st.sha256 merged)
  rw [← h.patch st.pod pod'] at hagent
  have hkubelet := h.kubelet _ _ _ (congrArg Prod.fst (admission_ok h hv haws hpatch)) rfl hagent
  exact ⟨hkubelet _ _ rfl (h.saName.notMem (by decide)), hkubelet _ _ rfl (h.digest _)⟩

/-- The request that the agent makes, up to the namespace, which it reads from its file. -/
lemma mintRequest_of_fromEnv (h : st.Assumptions) (hv : st.verdict = .ok merged)
    {cfg : Agent.AgentConfig} (hcfg : Agent.AgentConfig.fromEnv st.env st.namespaceFile = .ok cfg) :
    podNamespace st.namespaceFile = .ok cfg.ns ∧
      cfg.mintRequest = { st.mintRequest merged with ns := cfg.ns } := by
  obtain ⟨hsa, hhash, hns, hpod, -⟩ := Agent.fromEnv_ok hcfg
  obtain ⟨hsa', hhash'⟩ := env_of_admission h hv
  have hsaeq := Option.some.inj (hsa.symm.trans hsa')
  have hhasheq := Option.some.inj (hhash.symm.trans hhash')
  exact ⟨hns, by rw [Agent.AgentConfig.mintRequest, hsaeq, hhasheq, hpod, mintRequest]⟩

/-! ## The service's part -/

/-- The service reads the agent's request as a request of the ServiceAccount. -/
lemma answer_eq {s : Cluster} {token : String} (hs : st.Recognizes s token)
    (req : Agent.MintRequest) :
    st.answer s (Agent.bearerAuth token) req.toJson =
      ((Federation.mintFor st.service st.mintClock st.username req.received).exec Cluster.serve
        s).1 := by
  rw [answer, Federation.mintRoute]
  simp only [mintRequest_ofJson?_toJson]
  rw [Federation.exec_mint_reviewed (bearerToken_bearerAuth hs.visible) hs.reported]

lemma parse_username (h : st.Assumptions) :
    parseServiceAccountUsername st.username = some (st.key.ns, st.key.serviceAccountName) :=
  parseServiceAccountUsername_serviceAccountUsername h.nsName.1 h.saName.1
    (h.nsName.notMem (by decide)) (h.saName.notMem (by decide))

/-- It answers a request about another namespace with a refusal. -/
lemma answer_other {s : Cluster} {token : String} (h : st.Assumptions)
    (hs : st.Recognizes s token) {req : Agent.MintRequest} (hns : req.ns ≠ st.key.ns) :
    (st.answer s (Agent.bearerAuth token) req.toJson).status = 403 := by
  rw [answer_eq hs]
  exact Federation.exec_mintFor_other (parse_username h) (.inl fun heq => hns heq.symm)

/-- It answers a request about the ServiceAccount from what the reconcile has stored. -/
lemma answer_own {s : Cluster} {token : String} (h : st.Assumptions)
    (hs : st.Recognizes s token) {r : StoredRcrb} (hr : st.after.rcrbs st.key.resolved = some r)
    {req : Agent.MintRequest} (hns : req.ns = st.key.ns)
    (hsa : req.serviceAccountName = st.key.serviceAccountName) :
    st.answer s (Agent.bearerAuth token) req.toJson =
      Federation.mintResolved st.service st.mintClock st.username req.received
        (r.object st.key.resolved) := by
  have hparse : parseServiceAccountUsername st.username =
      some (req.received.ns, req.received.serviceAccountName) := by
    rw [parse_username h, ← hns, ← hsa]
    rfl
  have hkey : ObjectKey.mk req.received.ns req.received.serviceAccountName = st.key.resolved := by
    rw [Key.resolved, ← hns, ← hsa]
    rfl
  rw [answer_eq hs, Federation.exec_mintFor_own hparse (r := r), hkey]
  rw [hkey, hs.unchanged, hr]

/-- The answer to the agent's own request. -/
lemma answer_granted {s : Cluster} {token : String} (h : st.Assumptions)
    (hv : st.verdict = .ok merged) (haws : merged.providers.aws = some aws)
    (hs : st.Recognizes s token) :
    ∃ signed, st.payload signed = some (st.claims merged aws).toJson ∧
      st.answer s (Agent.bearerAuth token) (st.mintRequest merged).toJson =
        { status := 200
          body := .json (Federation.MintResponse.toJson
            { aws := some
                { token := signed
                  expiresInSeconds := aws.maxSessionDurationSeconds.getD 3600 } }) } := by
  obtain ⟨signed, hsigned, hpayload⟩ := h.signing merged aws hv haws
  obtain ⟨r, hr, rfl, hhash, -⟩ := stored_ok h hv
  refine ⟨signed, hpayload, ?_⟩
  have hclaims : Federation.claimsFor st.service st.mintClock st.username
      (st.mintRequest r.spec).received r.spec aws = st.claims r.spec aws := rfl
  rw [answer_own h hs hr rfl rfl]
  simp only [Federation.mintResolved, StoredRcrb.object, haws, hhash, hclaims, hsigned]
  exact if_neg (not_not.mpr rfl)

/-- The claims of the request, for a merge with these attributes. -/
lemma claims_eq {v : Bool} {extra : Option (BTreeMap String String)}
    (hattributes : merged.attributes = some { includeProvenance := some v, extra := extra }) :
    st.claims merged aws =
      AwsClaims.new st.mintClock st.service.issuerUrl st.username
        (aws.audience.getD "sts.amazonaws.com") (aws.maxSessionDurationSeconds.getD 3600) v
        st.key.ns st.key.serviceAccountName (st.env "POD_NAME") extra := by
  rw [claims, Federation.claimsFor, hattributes]
  rfl

/-- What the claims document says, as far as arithmetic does not matter. -/
lemma claims_lifetime (st : Story Patch) (aws : AwsProviderSpec) {v : Bool}
    {extra : Option (BTreeMap String String)}
    (hattributes : merged.attributes = some { includeProvenance := some v, extra := extra }) :
    (st.claims merged aws).toJson.path? ["iat"] =
        some (.num (nowUnixSeconds (st.mintClock 0)).toNat) ∧
      (st.claims merged aws).toJson.path? ["exp"] =
        some (.num (nowUnixSeconds (st.mintClock 0) +
          aws.maxSessionDurationSeconds.getD 3600).toNat) := by
  rw [claims_eq hattributes]
  exact ⟨rfl, rfl⟩

lemma claims_say (hattributes : ∃ v extra, merged.attributes =
      some { includeProvenance := some v, extra := extra })
    (hlifetime : (nowUnixSeconds (st.mintClock 0)).toNat +
      (aws.maxSessionDurationSeconds.getD 3600).toNat < UInt64.size) :
    Says st.username merged aws (st.claims merged aws).toJson := by
  obtain ⟨v, extra, hattributes⟩ := hattributes
  obtain ⟨hiat, hexp⟩ := claims_lifetime st aws hattributes
  refine ⟨by rw [claims_eq hattributes]; rfl, by rw [claims_eq hattributes]; rfl,
    ⟨_, hiat, ?_⟩, ?_, ?_⟩
  · rw [hexp, UInt64.toNat_add, Nat.mod_eq_of_lt hlifetime]
    push_cast
    rfl
  · rw [AwsClaims.toJson_k8s, claims_eq hattributes, Option.isSome_map, AwsClaims.new_k8s,
      hattributes]
    simp
  · rw [AwsClaims.toJson_attributes, claims_eq hattributes, AwsClaims.new_attributes, hattributes]
    rfl

/-- The lifetime in a document is that of the merge only if the clock does not overflow. -/
lemma lifetime_of_says (hattributes : ∃ v extra, merged.attributes =
      some { includeProvenance := some v, extra := extra })
    (h : Says st.username merged aws (st.claims merged aws).toJson) :
    (nowUnixSeconds (st.mintClock 0)).toNat +
      (aws.maxSessionDurationSeconds.getD 3600).toNat < UInt64.size := by
  obtain ⟨v, extra, hattributes⟩ := hattributes
  obtain ⟨hiat, hexp⟩ := claims_lifetime st aws hattributes
  obtain ⟨iat, hiat', hexp'⟩ := h.lifetime
  have hiateq := Json.num.inj (Option.some.inj (hiat.symm.trans hiat'))
  have hexpeq := Json.num.inj (Option.some.inj (hexp.symm.trans hexp'))
  have hbound := (nowUnixSeconds (st.mintClock 0) +
    aws.maxSessionDurationSeconds.getD 3600).toNat_lt
  have hsize : UInt64.size = 2 ^ 64 := rfl
  omega

end Webhook

/-! ## Agreement -/

variable {st : Story Patch}

/-- **Webhook, agent and federation service agree**, for every Pod whose agent reads the Pod's own
namespace and every lifetime that does not overflow the clock. -/
theorem agrees (h : st.Assumptions) (hfits : st.Fits) : st.Agrees where
  admits merged hv := by
    obtain ⟨aws, haws, hrole, -⟩ := merged_ok h hv
    obtain ⟨pod', hpatch, -⟩ := exists_patch h hrole (configHashOf st.sha256 merged)
    exact ⟨aws, _, haws, hpatch, admission_ok h hv haws hpatch⟩
  grants merged aws hv haws cfg firstSuccess hcfg := by
    refine Agent.refreshIteration_sends.mono fun q hq url token document hpost s hs => ?_
    obtain ⟨token', hq⟩ := hq url _ document hpost
    obtain ⟨hns, hreq⟩ := mintRequest_of_fromEnv h hv hcfg
    obtain ⟨_, -, -, hattributes⟩ := merged_ok h hv
    have hdocument : document = (st.mintRequest merged).toJson := by
      have hbody : document = cfg.mintRequest.toJson := by
        rw [hpost] at hq
        injection hq
      rw [hbody, hreq, hfits.namespaceFile merged hv cfg.ns hns]
      rfl
    obtain ⟨signed, hpayload, hanswer⟩ := answer_granted h hv haws hs
    rw [hdocument, hanswer]
    exact ⟨rfl, signed, _, mintResult_ok (mintResponse_ofJson?_toJson _ _), hpayload,
      claims_say hattributes (hfits.lifetime merged aws hv haws cfg.ns hns)⟩
  conflicts merged hv s token hs req hns hsa hhash := by
    obtain ⟨r, hr, rfl, hstored, -⟩ := stored_ok h hv
    obtain ⟨aws, haws, -⟩ := merged_ok h hv
    rw [answer_own h hs hr hns hsa]
    simp only [Federation.mintResolved, StoredRcrb.object, haws, hstored]
    rw [if_pos fun heq => hhash heq.symm]
    rfl
  terminates cfg firstSuccess world hfiles := Agent.iterate_error_iff hfiles
  fails issue hv := admission_error h hv
  refuses issue hv s token hs req hns hsa := by
    obtain ⟨r, hr, haws, -⟩ := stored_error h hv
    rw [answer_own h hs hr hns hsa]
    simp only [Federation.mintResolved, StoredRcrb.object, haws]
    rfl

/-- The namespace file is that of the Pod's namespace when the token volume is the injected one,
whose file the kubelet writes. -/
theorem tokenVolume_injected (h : st.Assumptions)
    (hkubelet : ∀ resp patch, st.admission.1 = .ok resp → resp.patch = some patch →
      tokenVolume (st.applyPatch patch st.pod) = some saTokenVolume →
      st.namespaceFile = .ok st.key.ns)
    (hown : ∀ v ∈ (st.pod.spec.bind PodSpec.volumes).getD [], v.name ≠ "kif-sa-token")
    {merged : ResolvedCloudRoleBindingSpec} (hv : st.verdict = .ok merged) {ns : String}
    (hns : podNamespace st.namespaceFile = .ok ns) : ns = st.key.ns := by
  obtain ⟨aws, haws, hrole, -⟩ := merged_ok h hv
  obtain ⟨pod', hpatch, -, hvolume⟩ := exists_patch h hrole (configHashOf st.sha256 merged)
  have hfile := hkubelet _ _ (congrArg Prod.fst (admission_ok h hv haws hpatch)) rfl (by
    rw [h.patch]
    exact hvolume hown)
  have htrim : Text.trim st.key.ns = st.key.ns :=
    Text.trim_eq_self fun c hc => isWhitespace_of_isDnsChar (List.all_eq_true.mp h.nsName.2 c hc)
  rw [hfile] at hns
  simp only [podNamespace, htrim, h.nsName.1, if_false] at hns
  exact (Except.ok.inj hns).symm

/-- A cluster that recognizes every token. -/
def trusting (st : Story Patch) : Cluster :=
  { st.after with
    authenticator := fun _ =>
      some { authenticated := some true, user := some (some st.username) } }

/-- The grant that agreement promises to the agent, for one token. -/
lemma Agrees.grant (hagrees : st.Agrees) {merged : ResolvedCloudRoleBindingSpec}
    {aws : AwsProviderSpec} (hv : st.verdict = .ok merged) (haws : merged.providers.aws = some aws)
    {cfg : Agent.AgentConfig} (hcfg : Agent.AgentConfig.fromEnv st.env st.namespaceFile = .ok cfg) :
    st.Grants merged aws
      (st.answer st.trusting (Agent.bearerAuth "t") cfg.mintRequest.toJson) := by
  have htrim : Text.trim "t" = "t" := by decide
  have hsendable : Agent.Sendable (Text.trim "t") := by
    rw [htrim]
    exact sendable_of_visible (by decide) (by decide)
  have hpost := Agent.post_of_sends (hagrees.grants merged aws hv haws cfg false hcfg) hsendable
  rw [htrim] at hpost
  exact hpost _ _ _ rfl _ ⟨rfl, by decide, rfl⟩

/-- **Neither condition can be left out.** -/
theorem fits_of_agrees (h : st.Assumptions) (hagrees : st.Agrees) : st.Fits := by
  have hcfg : ∀ merged, st.verdict = .ok merged → ∀ ns, podNamespace st.namespaceFile = .ok ns →
      ∃ cfg, Agent.AgentConfig.fromEnv st.env st.namespaceFile = .ok cfg := by
    intro merged hv ns hns
    obtain ⟨hsa, hhash⟩ := env_of_admission h hv
    exact Agent.exists_fromEnv hsa hhash hns
  have hrecognizes : st.Recognizes st.trusting "t" := ⟨rfl, by decide, rfl⟩
  have hns : ∀ merged, st.verdict = .ok merged → ∀ ns, podNamespace st.namespaceFile = .ok ns →
      ns = st.key.ns := by
    intro merged hv ns hns
    obtain ⟨aws, haws, -⟩ := merged_ok h hv
    obtain ⟨cfg, hcfg⟩ := hcfg merged hv ns hns
    have hgrant := (hagrees.grant hv haws hcfg).status
    obtain ⟨hfile, hreq⟩ := mintRequest_of_fromEnv h hv hcfg
    obtain rfl := Except.ok.inj (hns.symm.trans hfile)
    -- A request about another namespace would have been refused.
    by_contra hne
    have hother : cfg.mintRequest.ns ≠ st.key.ns := hne
    have hrefused := answer_other h hrecognizes hother
    rw [hgrant] at hrefused
    cases hrefused
  refine ⟨hns, fun merged aws hv haws ns hfile => ?_⟩
  obtain ⟨cfg, hcfg⟩ := hcfg merged hv ns hfile
  obtain ⟨token, document, hresult, hpayload, hsays⟩ := (hagrees.grant hv haws hcfg).token
  obtain ⟨hfile', hreq⟩ := mintRequest_of_fromEnv h hv hcfg
  have hown : cfg.mintRequest = st.mintRequest merged := by
    rw [hreq, hns merged hv cfg.ns hfile']
    rfl
  obtain ⟨signed, hsigned, hanswer⟩ := answer_granted h hv haws hrecognizes
  rw [hown, hanswer, mintResult_ok (mintResponse_ofJson?_toJson _ _)] at hresult
  obtain ⟨rfl, -⟩ : signed = token ∧ True := by simpa using hresult
  obtain rfl := Option.some.inj (hsigned.symm.trans hpayload)
  obtain ⟨_, -, -, hattributes⟩ := merged_ok h hv
  exact lifetime_of_says hattributes hsays

/-! ### Pods of the ServiceAccount `web` -/

/-- A binding that gives `web` a role with these settings. -/
def roleSpec (aws : AwsProviderSpec) : CloudRoleBindingSpec where
  subject := { serviceAccountName := "web" }
  providers := { aws := some aws }

/-- A cluster with that binding. -/
def roleCluster (aws : AwsProviderSpec) : Cluster :=
  ((UserChange.create ⟨"apps", "role"⟩ (roleSpec aws)).apply (Cluster.empty fun _ => none)).getD (Cluster.empty fun _ => none)

/-- What the binding is merged to. -/
def roleMerged (aws : AwsProviderSpec) : ResolvedCloudRoleBindingSpec where
  subject := { serviceAccountName := "web" }
  attributes := some { includeProvenance := some true, extra := none }
  providers := { aws := some aws }

/-- What the kubelet makes of the agent in the admitted Pod. -/
def kubeletEnv (st : Story Pod) (name : String) : Option String := do
  let resp ← st.admission.1.toOption
  let patch ← resp.patch
  let agent ← agentOf (st.applyPatch patch st.pod)
  (literal agent name).or (if name = "POD_NAME" then some "web-0" else none)

/-- The story up to the admission: a patch is the Pod that it makes. -/
def admitted (aws : AwsProviderSpec) (volumes : List Volume)
    (namespaceFile : Except String String) : Story Pod where
  sha256 := webDigest
  reconcileClock := fun _ => 0
  key := ⟨"apps", "web"⟩
  before := roleCluster aws
  after := ((reconcile webDigest (fun _ => 0) ⟨"apps", "web"⟩).run.exec Cluster.serve
    (roleCluster aws)).2
  diff := fun _ pod => pod
  applyPatch := fun pod _ => pod
  webhook :=
    { admissionFailureMode := .fail
      agentImage := "kif-agent"
      agentImagePullPolicy := "IfNotPresent"
      agentPort := 5004
      federationUrl := "http://kif-federation:5001" }
  request :=
    { uid := "1"
      operation := .create
      ns := some "apps"
      object := some
        { spec := some
            { containers := [{ name := "app" }]
              volumes := some volumes
              serviceAccountName := some "web" } } }
  pod :=
    { spec := some
        { containers := [{ name := "app" }]
          volumes := some volumes
          serviceAccountName := some "web" } }
  env := fun _ => none
  namespaceFile := namespaceFile
  service :=
    { issuerUrl := "https://issuer"
      signing := { kid := "kid-1", privateKeyPem := "key 1" }
      crypto := Deployment.toyCrypto
      apiErrorText := fun _ => "api error"
      rejection := fun _ => Federation.refuse 422 "unprocessable" }
  mintClock := fun _ => 1700000000000000000
  payload := fun _ => none

/-- The whole story, with the agent's environment and the one token that is signed. -/
def webStory (aws : AwsProviderSpec) (volumes : List Volume)
    (namespaceFile : Except String String) : Story Pod :=
  let st := { admitted aws volumes namespaceFile with
    env := kubeletEnv (admitted aws volumes namespaceFile) }
  { st with payload := fun _ => some (st.claims (roleMerged aws) aws).toJson }

variable {aws : AwsProviderSpec} {volumes : List Volume} {namespaceFile : Except String String}

lemma verdict_webStory : (webStory aws volumes namespaceFile).verdict = .ok (roleMerged aws) := rfl

lemma relevantCrbs_roleCluster {crb : CloudRoleBinding}
    (hcrb : crb ∈ relevantCrbs "web" ((roleCluster aws).list "apps")) :
    crb.spec.providers.aws = some aws := by
  have hlist : relevantCrbs "web" ((roleCluster aws).list "apps") =
      [StoredCrb.object ⟨"apps", "role"⟩ ⟨1, 1, roleSpec aws, none, Nat.one_pos⟩] := rfl
  rw [hlist, List.mem_singleton] at hcrb
  rw [hcrb]
  rfl

lemma assumptions_webStory (aws : AwsProviderSpec) (volumes : List Volume)
    (namespaceFile : Except String String) (haws : IsRoleArn aws.roleArn) :
    (webStory aws volumes namespaceFile).Assumptions where
  digest _ := (by decide : '$' ∉ (webDigest "").toList)
  nsName := (⟨by decide, by decide⟩ : IsDnsName "apps")
  saName := (⟨by decide, by decide⟩ : IsDnsName "web")
  roleArns crb hcrb aws' haws' := by
    obtain rfl := Option.some.inj ((relevantCrbs_roleCluster hcrb).symm.trans haws')
    exact haws
  reconciled := by
    obtain ⟨s', hs'⟩ := @reconcile_succeeds ⟨"apps", "web"⟩ webDigest (fun _ => 0)
      (roleCluster aws) (by decide)
    have hok := congrArg Prod.fst hs'
    exact Prod.ext hok rfl
  create := rfl
  object := rfl
  ns := rfl
  sa := rfl
  spec := nofun
  noAgent := rfl
  patch _ _ := rfl
  kubelet resp patch agent hresp hpatch hagent name value hliteral _ := by
    have henv : kubeletEnv (admitted aws volumes namespaceFile) name =
        (literal agent name).or (if name = "POD_NAME" then some "web-0" else none) := by
      have hresp' : (admitted aws volumes namespaceFile).admission.1 = .ok resp := hresp
      simp only [kubeletEnv, hresp', Except.toOption, Option.bind_eq_bind, Option.bind_some, hpatch]
      rw [show agentOf ((admitted aws volumes namespaceFile).applyPatch patch
        (admitted aws volumes namespaceFile).pod) = some agent from hagent]
      rfl
    exact henv.trans (by rw [hliteral]; rfl)
  signing merged aws' hv haws' := by
    obtain rfl := Except.ok.inj (verdict_webStory.symm.trans hv)
    obtain rfl := Option.some.inj haws'
    exact ⟨_, rfl, rfl⟩

/-- A role with everything else left to the defaults. -/
def webRole : AwsProviderSpec where
  roleArn := "arn:aws:iam::123456789012:role/web"

lemma isRoleArn_webRole : IsRoleArn webRole.roleArn :=
  ⟨"123456789012", "web", by decide, by decide, by decide, by decide, by decide⟩

/-- An ordinary Pod: its agent gets its tokens. -/
theorem agrees_web : (webStory webRole [] (.ok "apps")).Agrees := by
  refine agrees (assumptions_webStory _ _ _ isRoleArn_webRole) ⟨fun merged hv ns hns => ?_,
    fun merged aws hv haws ns hns => ?_⟩
  · have hfile : podNamespace (.ok "apps") = .ok "apps" := by decide
    exact (Except.ok.inj (hfile.symm.trans hns)).symm
  · obtain rfl := Except.ok.inj (verdict_webStory.symm.trans hv)
    obtain rfl := Option.some.inj haws
    exact (by decide : (nowUnixSeconds 1700000000000000000).toNat + (3600 : UInt64).toNat <
      UInt64.size)

/-- A volume of the Pod's own that has the name of the injected one and another `namespace`
file. -/
def ownTokenVolume : Volume where
  name := "kif-sa-token"
  projected := some
    { sources := some
        [{ serviceAccountToken := some { path := "token" } },
         { configMap := some { name := "settings" } }] }

/-- **Two stories that go wrong.**  The agent of a Pod with its own token volume asks for another
namespace and is refused; and with the largest session duration of the type, the token that is
granted has expired long ago. -/
theorem refused_or_expired :
    ((webStory webRole [ownTokenVolume] (.ok "other")).Assumptions ∧
      ¬ (webStory webRole [ownTokenVolume] (.ok "other")).Agrees) ∧
    ((webStory { webRole with maxSessionDurationSeconds := some 18446744073709551615 } []
        (.ok "apps")).Assumptions ∧
      ¬ (webStory { webRole with maxSessionDurationSeconds := some 18446744073709551615 } []
        (.ok "apps")).Agrees) := by
  have hother := assumptions_webStory webRole [ownTokenVolume] (.ok "other") isRoleArn_webRole
  have hlong := assumptions_webStory
    { webRole with maxSessionDurationSeconds := some 18446744073709551615 } [] (.ok "apps")
    isRoleArn_webRole
  refine ⟨⟨hother, fun hagrees => ?_⟩, hlong, fun hagrees => ?_⟩
  · have hns := (fits_of_agrees hother hagrees).namespaceFile _ verdict_webStory "other" (by decide)
    exact absurd hns (by decide)
  · have hlifetime := (fits_of_agrees hlong hagrees).lifetime _ _ verdict_webStory rfl "apps"
      (by decide)
    exact absurd hlifetime (by decide)

end Story

end IdentityFederation
