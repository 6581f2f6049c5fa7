import IdentityFederation.Federation.Http
import IdentityFederation.Framework.JsonText
import IdentityFederation.Properties.KeyAgreement

/-!
# Who decides the identity claims of a token

A token says who its holder is in four claims: `sub`, and under `kif.k8s` the namespace, the
ServiceAccount and the Pod.  `mint` compares the namespace and the ServiceAccount of the request
with the username that TokenReview reports, so these and `sub` are functions of what was
authenticated.  The Pod is not compared with anything: the request may name one or not, and what
it names is what the token says.

`mintedIdentity` is that function.  `identity_of_tokens` gives the four claims of any two tokens
that are granted to the same bearer token: they differ in the Pod that the requests name, if the
binding includes provenance at all, and in nothing else.
-/

namespace IdentityFederation

namespace Federation

/-! ## Reading a token -/

/-- A JSON web token carries its claims document, and `payload` reads it. -/
def CarriesClaims (crypto : Crypto) (payload : String → Option Json) : Prop :=
  ∀ kid document key token, crypto.encode kid document key = .ok token →
    payload token = some document

lemma CarriesClaims.signed {crypto : Crypto} {payload : String → Option Json}
    (h : CarriesClaims crypto payload) {signing : SigningMaterial} {claims : AwsClaims}
    {token : String} (htoken : signRs256 crypto signing claims = .ok token) :
    payload token = some claims.toJson := by
  unfold signRs256 at htoken
  split at htoken
  · cases htoken
  · exact h _ _ _ _ htoken

/-- The identity claims of a token. -/
structure Identity where
  sub : Option Json
  ns : Option Json
  serviceAccount : Option Json
  pod : Option Json

/-- The identity claims of a claims document. -/
def identityOf (document : Json) : Identity where
  sub := document.path? ["sub"]
  ns := document.path? ["kif", "k8s", "namespace"]
  serviceAccount := document.path? ["kif", "k8s", "service_account"]
  pod := document.path? ["kif", "k8s", "pod"]

/-- The identity of a ServiceAccount, for a binding that includes provenance or does not, and
the Pod that a request names. -/
def mintedIdentity (username ns sa : String) (provenance : Bool) (podName : Option String) :
    Identity where
  sub := some (.str username)
  ns := if provenance then some (.str ns) else none
  serviceAccount := if provenance then some (.str sa) else none
  pod := if provenance then podName.map .str else none

/-- The Pod is all that two identities of one ServiceAccount can differ in. -/
lemma mintedIdentity_inj {username ns sa : String} {provenance : Bool}
    {podName podName' : Option String} :
    mintedIdentity username ns sa provenance podName =
        mintedIdentity username ns sa provenance podName' ↔
      provenance = false ∨ podName = podName' := by
  have hstr : Function.Injective Json.str := fun _ _ => Json.str.inj
  cases provenance with
  | false => simp [mintedIdentity]
  | true =>
      simp only [mintedIdentity, if_true, Identity.mk.injEq, true_and, Bool.true_eq_false,
        false_or]
      exact (Option.map_injective hstr).eq_iff

/-- Whether a binding includes provenance; unset is treated as true. -/
def includesProvenance (spec : ResolvedCloudRoleBindingSpec) : Bool :=
  match spec.attributes with
  | some a => a.includeProvenance.getD true
  | none => true

lemma identityOf_new (clock : ℕ → Time) (issuer subject audience : String) (ttlSeconds : UInt64)
    (includeProvenance : Bool) (ns serviceAccount : String) (podName : Option String)
    (extraAttributes : Option (BTreeMap String String)) :
    identityOf (AwsClaims.new clock issuer subject audience ttlSeconds includeProvenance ns
        serviceAccount podName extraAttributes).toJson =
      mintedIdentity subject ns serviceAccount includeProvenance podName := by
  cases includeProvenance <;> cases extraAttributes <;> cases podName <;> rfl

lemma identityOf_claimsFor (state : AppState) (clock : ℕ → Time) (username : String)
    (req : MintRequest) (spec : ResolvedCloudRoleBindingSpec) (aws : AwsProviderSpec) :
    identityOf (claimsFor state clock username req spec aws).toJson =
      mintedIdentity username req.ns req.serviceAccountName (includesProvenance spec)
        req.podName := by
  unfold claimsFor includesProvenance
  cases spec.attributes <;> exact identityOf_new ..

/-! ## The answers to a request -/

/-- The answer to a request on a cluster. -/
def mintAnswer (state : AppState) (clock : ℕ → Time) (s : Cluster) (authorization : Option String)
    (req : MintRequest) : HttpResponse :=
  ((mint state clock authorization req).exec Cluster.serve s).1

/-- The response grants a token with this claims document. -/
def Grants (payload : String → Option Json) (res : HttpResponse) (document : Json) : Prop :=
  ∃ token expiresInSeconds, payload token = some document ∧
    res = { status := 200
            body := .json (MintResponse.toJson
              { aws := some { token := token, expiresInSeconds := expiresInSeconds } }) }

/-- TokenReview reports this username of the bearer token. -/
def Authenticates (s : Cluster) (authorization : Option String) (username : String) : Prop :=
  ∃ bearer, bearerToken authorization = some bearer ∧
    s.authenticator bearer = some { authenticated := some true, user := some (some username) }

lemma Authenticates.unique {s : Cluster} {authorization authorization' : Option String}
    {username username' : String} (h : Authenticates s authorization username)
    (h' : Authenticates s authorization' username')
    (hbearer : bearerToken authorization = bearerToken authorization') : username = username' := by
  obtain ⟨bearer, hb, hreview⟩ := h
  obtain ⟨bearer', hb', hreview'⟩ := h'
  rw [hbearer, hb'] at hb
  obtain rfl := Option.some.inj hb
  rw [hreview] at hreview'
  simpa using hreview'

section Answers

variable {state : AppState} {payload : String → Option Json} {s : Cluster}

/-- What stands behind an answer that grants a token. -/
lemma mintAnswer_ok {clock : ℕ → Time} {authorization : Option String} {req : MintRequest}
    (h : (mintAnswer state clock s authorization req).status = 200) :
    ∃ username r aws token, Authenticates s authorization username ∧
      parseServiceAccountUsername username = some (req.ns, req.serviceAccountName) ∧
      s.rcrbs ⟨req.ns, req.serviceAccountName⟩ = some r ∧ r.spec.providers.aws = some aws ∧
      signRs256 state.crypto state.signing (claimsFor state clock username req r.spec aws) =
        .ok token ∧
      mintAnswer state clock s authorization req =
        { status := 200
          body := .json (MintResponse.toJson
            { aws := some
                { token := token
                  expiresInSeconds := aws.maxSessionDurationSeconds.getD 3600 } }) } := by
  obtain ⟨bearer, username, r, hbearer, hauth, hparse, hr, hexec⟩ := exec_mint_ok h
  have hanswer : mintAnswer state clock s authorization req =
      mintResolved state clock username req (r.object ⟨req.ns, req.serviceAccountName⟩) := by
    rw [mintAnswer, hexec]
  rw [hanswer] at h ⊢
  obtain ⟨aws, token, haws, -, htoken, hres⟩ := mintResolved_ok h
  exact ⟨username, r, aws, token, ⟨bearer, hbearer, hauth⟩, hparse, hr, haws, htoken, hres⟩

/-- The identity in one token: what TokenReview and the binding say, and the Pod of the
request. -/
lemma identity_of_token (hpayload : CarriesClaims state.crypto payload) {clock : ℕ → Time}
    {authorization : Option String} {req : MintRequest}
    (h : (mintAnswer state clock s authorization req).status = 200) :
    ∃ username r document, Authenticates s authorization username ∧
      parseServiceAccountUsername username = some (req.ns, req.serviceAccountName) ∧
      s.rcrbs ⟨req.ns, req.serviceAccountName⟩ = some r ∧
      Grants payload (mintAnswer state clock s authorization req) document ∧
      identityOf document = mintedIdentity username req.ns req.serviceAccountName
        (includesProvenance r.spec) req.podName := by
  obtain ⟨username, r, aws, token, hauth, hparse, hr, -, htoken, hres⟩ := mintAnswer_ok h
  have hdocument := hpayload.signed htoken
  exact ⟨username, r, _, hauth, hparse, hr, ⟨token, _, hdocument, hres⟩, identityOf_claimsFor ..⟩

end Answers

/-! ## A caller that names two Pods -/

/-- Tokens whose three parts are written in one JSON array, for the runs below. -/
def jsonTokens : Crypto :=
  { Deployment.toyCrypto with
    encode := fun kid claims pem => .ok (Json.arr [.str kid, claims, .str pem]).text }

/-- The second part of such a token. -/
noncomputable def jsonPayload (token : String) : Option Json :=
  match Function.partialInv Json.text token with
  | some (.arr [_, claims, _]) => some claims
  | _ => none

lemma carriesClaims_jsonTokens : CarriesClaims jsonTokens jsonPayload := by
  intro kid document key token h
  obtain rfl := Except.ok.inj h
  simp only [jsonPayload]
  rw [Function.partialInv_left Json.text_injective]

/-- A replica. -/
def jsonState : AppState where
  issuerUrl := "https://issuer.example"
  signing := { kid := "kid-1", privateKeyPem := "key 1" }
  crypto := jsonTokens
  apiErrorText := fun _ => ""
  rejection := fun _ => refuse 422 ""

/-- A cluster with a resolved binding for the ServiceAccount `shop/app`. -/
def shopCluster (aws : AwsProviderSpec) : Cluster :=
  { Cluster.empty fun _ =>
      some
        { authenticated := some true
          user := some (some "system:serviceaccount:shop:app") } with
    rcrbs := fun key =>
      if key = ⟨"shop", "app"⟩ then
        some
          { spec :=
              { subject := { serviceAccountName := "app" }
                attributes := some { includeProvenance := some true }
                providers := { aws := some aws } }
            status := some { configHash := some "hash" } }
      else none }

/-- A request of `shop/app` that names a Pod. -/
def requestOf (pod : String) : MintRequest where
  ns := "shop"
  serviceAccountName := "app"
  configHash := "hash"
  podName := some pod

/-- Its answer to a request that names a Pod. -/
def shopAnswer (aws : AwsProviderSpec) (pod : String) : HttpResponse :=
  mintAnswer jsonState (fun _ => 0) (shopCluster aws) (some "Bearer token") (requestOf pod)

lemma shopAnswer_status (aws : AwsProviderSpec) (pod : String) :
    (shopAnswer aws pod).status = 200 := by
  rfl

def shopRole : AwsProviderSpec where
  roleArn := "arn:aws:iam::123456789012:role/app"

/-- The binding includes provenance, so the Pod of the request is in the token. -/
lemma shopAnswer_pod (pod : String) :
    ∃ document, Grants jsonPayload (shopAnswer shopRole pod) document ∧
      (identityOf document).pod = some (.str pod) := by
  obtain ⟨username, r, document, -, -, hr, hgrants, hidentity⟩ :=
    identity_of_token carriesClaims_jsonTokens (shopAnswer_status shopRole pod)
  have hprovenance : includesProvenance r.spec = true := by
    obtain rfl := Option.some.inj hr
    rfl
  refine ⟨document, hgrants, ?_⟩
  rw [hidentity, hprovenance]
  rfl

/-! ## Any two tokens -/

section Tokens

variable {state : AppState} {payload : String → Option Json} {s : Cluster}

/-- **The identity claims are authenticated, except for the Pod.**  Two requests with the same
bearer token that are both granted a token get the same `sub`, namespace and ServiceAccount, which
are those of the username that TokenReview reports; each names its own Pod in the token, where the
binding includes provenance.  So the identity claims are equal exactly when the binding does not
include provenance or the requests name the same Pod. -/
theorem identity_of_tokens (hpayload : CarriesClaims state.crypto payload)
    {clock clock' : ℕ → Time} {authorization authorization' : Option String}
    {req req' : MintRequest} (hbearer : bearerToken authorization = bearerToken authorization')
    (h : (mintAnswer state clock s authorization req).status = 200)
    (h' : (mintAnswer state clock' s authorization' req').status = 200) :
    ∃ username ns sa r document document', Authenticates s authorization username ∧
      parseServiceAccountUsername username = some (ns, sa) ∧
      s.rcrbs ⟨ns, sa⟩ = some r ∧
      Grants payload (mintAnswer state clock s authorization req) document ∧
      Grants payload (mintAnswer state clock' s authorization' req') document' ∧
      identityOf document =
        mintedIdentity username ns sa (includesProvenance r.spec) req.podName ∧
      identityOf document' =
        mintedIdentity username ns sa (includesProvenance r.spec) req'.podName ∧
      (identityOf document = identityOf document' ↔
        includesProvenance r.spec = false ∨ req.podName = req'.podName) := by
  obtain ⟨username, r, document, hauth, hparse, hr, hgrants, hidentity⟩ :=
    identity_of_token hpayload h
  obtain ⟨username', r', document', hauth', hparse', hr', hgrants', hidentity'⟩ :=
    identity_of_token hpayload h'
  obtain rfl := hauth.unique hauth' hbearer
  -- Both requests are about the ServiceAccount of the username, so both read one binding.
  obtain ⟨hns, hsa⟩ : req.ns = req'.ns ∧ req.serviceAccountName = req'.serviceAccountName := by
    simpa using hparse.symm.trans hparse'
  rw [← hns, ← hsa] at hr' hidentity'
  obtain rfl := Option.some.inj (hr.symm.trans hr')
  exact ⟨username, req.ns, req.serviceAccountName, r, document, document', hauth, hparse, hr,
    hgrants, hgrants', hidentity, hidentity', by rw [hidentity, hidentity', mintedIdentity_inj]⟩

end Tokens

/-- A caller that names two Pods gets two tokens with one `sub`. -/
theorem identity_of_tokens_two_pods :
    ∃ document document',
      Grants jsonPayload (shopAnswer shopRole "web-1") document ∧
      Grants jsonPayload (shopAnswer shopRole "web-2") document' ∧
      (identityOf document).sub = (identityOf document').sub := by
  obtain ⟨_, _, _, _, document, document', -, -, -, hgrants, hgrants', hidentity, hidentity', -⟩ :=
    identity_of_tokens carriesClaims_jsonTokens rfl (shopAnswer_status shopRole "web-1")
      (shopAnswer_status shopRole "web-2")
  exact ⟨document, document', hgrants, hgrants', by rw [hidentity, hidentity']; rfl⟩

/-- One bearer token, two tokens that name different Pods. -/
theorem pod_chosen_by_caller :
    CarriesClaims jsonState.crypto jsonPayload ∧
    ∃ document document',
      Grants jsonPayload (shopAnswer shopRole "web-1") document ∧
      Grants jsonPayload (shopAnswer shopRole "web-2") document' ∧
      identityOf document ≠ identityOf document' := by
  refine ⟨carriesClaims_jsonTokens, ?_⟩
  obtain ⟨document, hgrants, hpod⟩ := shopAnswer_pod "web-1"
  obtain ⟨document', hgrants', hpod'⟩ := shopAnswer_pod "web-2"
  refine ⟨document, document', hgrants, hgrants', fun h => ?_⟩
  have hnames := congrArg Identity.pod h
  rw [hpod, hpod', Option.some.injEq, Json.str.injEq] at hnames
  exact absurd hnames (by decide)

end Federation

end IdentityFederation
