import IdentityFederation.Api.Http
import IdentityFederation.Federation.K8s

/-!
# Minting tokens (`kif-federation/src/http.rs`)

`mint` authenticates the caller, checks that it asks for its own ServiceAccount and reads the
resolved binding; `mintResolved` is the rest, which is a function of what was read.  Every
refusal has its status code and text.
-/

namespace IdentityFederation

namespace Federation

/-- The state of a replica after startup. -/
structure AppState where
  issuerUrl : String
  signing : SigningMaterial
  crypto : Crypto
  /-- The text of an error of the API client. -/
  apiErrorText : ApiError → String
  /-- The answer to a body that does not deserialize, which the HTTP framework gives. -/
  rejection : Body → HttpResponse

/-- The text of an error. -/
def AppState.errorText (state : AppState) : Error → String
  | .api e => state.apiErrorText e
  | .msg text => text

/-! ## Messages -/

structure MintRequest where
  ns : String
  serviceAccountName : String
  configHash : String
  podName : Option String
  deriving DecidableEq

/-- Deserialization. -/
def MintRequest.ofJson? (j : Json) : Option MintRequest := do
  let members ← j.record? ["namespace", "serviceAccountName", "configHash", "podName"] 3
  let ns ← (Json.member? "namespace" members).bind Json.str?
  let serviceAccountName ← (Json.member? "serviceAccountName" members).bind Json.str?
  let configHash ← (Json.member? "configHash" members).bind Json.str?
  let podName ← Json.optionalMember? "podName" Json.str? members
  return {
    ns := ns
    serviceAccountName := serviceAccountName
    configHash := configHash
    podName := podName }

structure MintedToken where
  token : String
  expiresInSeconds : UInt64
  deriving DecidableEq

structure MintResponse where
  aws : Option MintedToken
  deriving DecidableEq

def MintedToken.toJson (t : MintedToken) : Json :=
  .obj [("token", .str t.token), ("expiresInSeconds", .num t.expiresInSeconds.toNat)]

def MintResponse.toJson (r : MintResponse) : Json :=
  .obj [("aws", match r.aws with
    | none => .null
    | some t => t.toJson)]

/-! ## `mint` -/

/-- A status code with a line of text. -/
def refuse (status : ℕ) (text : String) : HttpResponse where
  status := status
  body := .text text

/-- The token of an `Authorization` header. -/
def bearerToken (authorization : Option String) : Option String :=
  (authorization.bind headerText).bind (Text.afterStart? "Bearer ")

/-- The claims for an authenticated request. -/
def claimsFor (state : AppState) (clock : ℕ → Time) (username : String) (req : MintRequest)
    (spec : ResolvedCloudRoleBindingSpec) (aws : AwsProviderSpec) : AwsClaims :=
  let (includeProvenance, extraAttrs) :=
    match spec.attributes with
    | some a => (a.includeProvenance.getD true, a.extra)
    | none => (true, none)
  AwsClaims.new clock state.issuerUrl username (aws.audience.getD "sts.amazonaws.com")
    (aws.maxSessionDurationSeconds.getD 3600) includeProvenance req.ns req.serviceAccountName
    req.podName extraAttrs

/-- `mint` once the resolved binding was read. -/
def mintResolved (state : AppState) (clock : ℕ → Time) (username : String) (req : MintRequest)
    (resolved : ResolvedCloudRoleBinding) : HttpResponse :=
  match resolved.spec.providers.aws with
  | none => refuse 400 "no AWS provider configured\n"
  | some aws =>
      match resolved.status.bind (·.configHash) with
      | none => refuse 500 "ResolvedCloudRoleBinding missing config hash in status\n"
      | some resolvedHash =>
          if resolvedHash ≠ req.configHash then
            refuse 409
              ("config hash mismatch: client sent " ++ req.configHash ++
                ", but resolved binding has " ++ resolvedHash ++ "\n")
          else
            match signRs256 state.crypto state.signing
                (claimsFor state clock username req resolved.spec aws) with
            | .error e => refuse 500 ("failed to sign token: " ++ e ++ "\n")
            | .ok token =>
                { status := 200
                  body := .json (MintResponse.toJson
                    { aws := some
                        { token := token
                          expiresInSeconds := aws.maxSessionDurationSeconds.getD 3600 } }) }

/-- `mint` once the caller is authenticated. -/
def mintFor (state : AppState) (clock : ℕ → Time) (username : String) (req : MintRequest) :
    ApiProgram HttpResponse :=
  match parseServiceAccountUsername username with
  | none => pure (refuse 401 "not a valid ServiceAccount token\n")
  | some (ns, sa) =>
      if ns ≠ req.ns ∨ sa ≠ req.serviceAccountName then
        pure (refuse 403
          ("subject mismatch: token is " ++ ns ++ "/" ++ sa ++ " requested " ++ req.ns ++ "/" ++
            req.serviceAccountName ++ "\n"))
      else do
        match ← (getResolvedBinding req.ns req.serviceAccountName).run with
        | .error e =>
            pure (refuse 404
              ("no ResolvedCloudRoleBinding found for " ++ req.ns ++ "/" ++
                req.serviceAccountName ++ ": " ++ state.errorText e ++ "\n"))
        | .ok resolved => pure (mintResolved state clock username req resolved)

/-- `POST /v1/mint`. -/
def mint (state : AppState) (clock : ℕ → Time) (authorization : Option String)
    (req : MintRequest) : ApiProgram HttpResponse :=
  match bearerToken authorization with
  | none => pure (refuse 401 "missing bearer token\n")
  | some bearer => do
      match ← (tokenReview bearer).run with
      | .error e => pure (refuse 401 ("token review failed: " ++ state.errorText e ++ "\n"))
      | .ok username => mintFor state clock username req

/-- The route: the body is deserialized before `mint` is called. -/
def mintRoute (state : AppState) (clock : ℕ → Time) (request : HttpRequest) :
    ApiProgram HttpResponse :=
  match request.body with
  | .text _ => pure (state.rejection request.body)
  | .json document =>
      match MintRequest.ofJson? document with
      | none => pure (state.rejection request.body)
      | some req => mint state clock request.authorization req

/-! ### The answers, one check after the other -/

section Answers

variable {state : AppState} {clock : ℕ → Time} {s : Cluster} {req : MintRequest}
  {username ns sa : String}

/-- Behind the first two checks the caller is who TokenReview says. -/
lemma exec_mint_reviewed {authorization : Option String} {bearer : String}
    (hbearer : bearerToken authorization = some bearer)
    (hreview : s.authenticator bearer =
      some { authenticated := some true, user := some (some username) }) :
    (mint state clock authorization req).exec Cluster.serve s =
      (mintFor state clock username req).exec Cluster.serve s := by
  have htoken : (tokenReview bearer).run.exec Cluster.serve s = (.ok username, s) := by
    simp only [tokenReview, Interaction.Program.exec_run_bind]
    simp [ApiM.send, Cluster.serve, hreview, Except.mapError]
  simp only [mint, hbearer, Interaction.Program.exec_bind, htoken]

/-- A request about another ServiceAccount is refused. -/
lemma exec_mintFor_other (hparse : parseServiceAccountUsername username = some (ns, sa))
    (hother : ns ≠ req.ns ∨ sa ≠ req.serviceAccountName) :
    ((mintFor state clock username req).exec Cluster.serve s).1.status = 403 := by
  simp only [mintFor, hparse, if_pos hother]
  rfl

/-- A request about the caller's own ServiceAccount is answered from the stored resolved
binding. -/
lemma exec_mintFor_own
    (hparse : parseServiceAccountUsername username = some (req.ns, req.serviceAccountName))
    {r : StoredRcrb} (hr : s.rcrbs ⟨req.ns, req.serviceAccountName⟩ = some r) :
    (mintFor state clock username req).exec Cluster.serve s =
      (mintResolved state clock username req (r.object ⟨req.ns, req.serviceAccountName⟩), s) := by
  simp only [mintFor, hparse, ne_eq, not_true_eq_false, or_self, if_false]
  simp [getResolvedBinding, ApiM.send, Cluster.serve, hr, Except.mapError]

/-! ### What an answer with a token comes from -/

/-- `mintResolved` grants a token only behind all of its checks. -/
lemma mintResolved_ok {resolved : ResolvedCloudRoleBinding}
    (h : (mintResolved state clock username req resolved).status = 200) :
    ∃ aws token, resolved.spec.providers.aws = some aws ∧
      resolved.status.bind (·.configHash) = some req.configHash ∧
      signRs256 state.crypto state.signing
        (claimsFor state clock username req resolved.spec aws) = .ok token ∧
      mintResolved state clock username req resolved =
        { status := 200
          body := .json (MintResponse.toJson
            { aws := some
                { token := token
                  expiresInSeconds := aws.maxSessionDurationSeconds.getD 3600 } }) } := by
  cases haws : resolved.spec.providers.aws with
  | none =>
      simp only [mintResolved, haws] at h
      cases h
  | some aws =>
      cases hhash : resolved.status.bind (·.configHash) with
      | none =>
          simp only [mintResolved, haws, hhash] at h
          cases h
      | some hash =>
          by_cases hmatch : hash = req.configHash
          · subst hmatch
            cases htoken : signRs256 state.crypto state.signing
                (claimsFor state clock username req resolved.spec aws) with
            | error e =>
                simp only [mintResolved, haws, hhash, ne_eq, not_true_eq_false, if_false,
                  htoken] at h
                cases h
            | ok token =>
                refine ⟨aws, token, rfl, rfl, htoken, ?_⟩
                simp only [mintResolved, haws, hhash, ne_eq, not_true_eq_false, if_false, htoken]
          · simp only [mintResolved, haws, hhash, ne_eq, hmatch, not_false_eq_true, if_true] at h
            cases h

/-- The username is the one that TokenReview reports of an authenticated token. -/
lemma exec_tokenReview_ok {bearer : String} {s' : Cluster}
    (h : (tokenReview bearer).run.exec Cluster.serve s = (.ok username, s')) :
    s.authenticator bearer =
      some { authenticated := some true, user := some (some username) } ∧ s' = s := by
  have hsend : (ApiM.send (.createTokenReview bearer)).run.exec Cluster.serve s =
      (.ok (s.authenticator bearer), s) := rfl
  simp only [tokenReview, Interaction.Program.exec_run_bind, hsend] at h
  generalize s.authenticator bearer = status at h
  split at h
  · cases h
  split at h
  · cases h
  rename_i status hauthenticated
  have hauthenticated : status.authenticated = some true := not_not.mp hauthenticated
  split at h
  · cases h
  · cases h
  · rename_i username' huser
    obtain ⟨hname, rfl⟩ := Prod.mk.inj h
    obtain rfl := Except.ok.inj hname
    obtain ⟨authenticated, user⟩ := status
    subst hauthenticated
    subst huser
    exact ⟨rfl, rfl⟩

/-- Behind authentication, the caller asks for its own ServiceAccount and there is a resolved
binding. -/
lemma exec_mintFor_ok
    (h : ((mintFor state clock username req).exec Cluster.serve s).1.status = 200) :
    parseServiceAccountUsername username = some (req.ns, req.serviceAccountName) ∧
      ∃ r, s.rcrbs ⟨req.ns, req.serviceAccountName⟩ = some r := by
  cases hparse : parseServiceAccountUsername username with
  | none =>
      simp only [mintFor, hparse] at h
      cases h
  | some own =>
      obtain ⟨ns, sa⟩ := own
      by_cases hother : ns ≠ req.ns ∨ sa ≠ req.serviceAccountName
      · have hforbidden : ((mintFor state clock username req).exec Cluster.serve s).1.status = 403 :=
          exec_mintFor_other hparse hother
        rw [hforbidden] at h
        cases h
      · obtain ⟨rfl, rfl⟩ : ns = req.ns ∧ sa = req.serviceAccountName := by
          simpa [not_or] using hother
        refine ⟨rfl, ?_⟩
        cases hr : s.rcrbs ⟨req.ns, req.serviceAccountName⟩ with
        | some r => exact ⟨r, rfl⟩
        | none =>
            simp only [mintFor, hparse, hother, if_false] at h
            simp [getResolvedBinding, ApiM.send, Cluster.serve, hr, Except.mapError, refuse] at h

/-- **Only an authenticated caller gets a token, and only for its own ServiceAccount.** -/
lemma exec_mint_ok {authorization : Option String}
    (h : ((mint state clock authorization req).exec Cluster.serve s).1.status = 200) :
    ∃ bearer username r, bearerToken authorization = some bearer ∧
      s.authenticator bearer =
        some { authenticated := some true, user := some (some username) } ∧
      parseServiceAccountUsername username = some (req.ns, req.serviceAccountName) ∧
      s.rcrbs ⟨req.ns, req.serviceAccountName⟩ = some r ∧
      (mint state clock authorization req).exec Cluster.serve s =
        (mintResolved state clock username req (r.object ⟨req.ns, req.serviceAccountName⟩), s) := by
  cases hbearer : bearerToken authorization with
  | none =>
      simp only [mint, hbearer] at h
      cases h
  | some bearer =>
      cases hreview : (tokenReview bearer).run.exec Cluster.serve s with
      | mk res s' =>
          cases res with
          | error e =>
              simp only [mint, hbearer, Interaction.Program.exec_bind, hreview] at h
              cases h
          | ok username =>
              obtain ⟨hauth, rfl⟩ := exec_tokenReview_ok hreview
              rw [exec_mint_reviewed hbearer hauth] at h ⊢
              obtain ⟨hparse, r, hr⟩ := exec_mintFor_ok h
              exact ⟨bearer, username, r, rfl, hauth, hparse, hr, exec_mintFor_own hparse hr⟩

end Answers

end Federation

end IdentityFederation
