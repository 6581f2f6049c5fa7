import IdentityFederation.Api.Cluster
import IdentityFederation.Framework.Text

/-!
# The agent's configuration (`kif-agent/src/config.rs`, `kif-api/src/shared.rs`)

The agent is configured by its environment and by the namespace file of its Pod.
-/

namespace IdentityFederation

/-- The namespace of the Pod, from what reading its namespace file yields. -/
def podNamespace (file : Except String String) : Except Error String :=
  match file with
  | .error _ =>
      .error (.msg ("failed to read pod namespace file " ++
        "/var/run/secrets/kubernetes.io/serviceaccount/namespace"))
  | .ok contents =>
      let ns := Text.trim contents
      if ns = "" then
        .error (.msg ("pod namespace file " ++
          "/var/run/secrets/kubernetes.io/serviceaccount/namespace" ++ " was empty"))
      else .ok ns

namespace Agent

structure AgentConfig where
  port : UInt16
  federationUrl : String
  serviceAccountName : String
  configHash : String
  ns : String
  podName : Option String
  saTokenPath : String
  awsTokenPath : String
  refreshSkewSeconds : UInt64
  minRefreshSeconds : UInt64
  maxJitterSeconds : UInt64
  deriving DecidableEq

/-- A variable that is required. -/
def requireVar (env : String → Option String) (name : String) : Except Error String :=
  match env name with
  | some value => .ok value
  | none => .error (.msg (name ++ " is required"))

/-- A number of seconds, with its default for an unset or unreadable variable. -/
def secondsVar (env : String → Option String) (name : String) (default : UInt64) : UInt64 :=
  match (env name).bind (Text.parseUnsigned UInt64.size) with
  | some n => UInt64.ofNat n
  | none => default

/-- `AgentConfig::from_env`. -/
def AgentConfig.fromEnv (env : String → Option String) (namespaceFile : Except String String) :
    Except Error AgentConfig := do
  let port :=
    match (env "PORT").bind (Text.parseUnsigned UInt16.size) with
    | some n => UInt16.ofNat n
    | none => 5004
  let serviceAccountName ← requireVar env "SERVICE_ACCOUNT_NAME"
  let configHash ← requireVar env "CONFIG_HASH"
  let ns ← podNamespace namespaceFile
  return {
    port := port
    federationUrl := (env "FEDERATION_URL").getD "http://kif-federation:5001"
    serviceAccountName := serviceAccountName
    configHash := configHash
    ns := ns
    podName := env "POD_NAME"
    saTokenPath :=
      (env "SA_TOKEN_PATH").getD "/var/run/secrets/kubernetes.io/serviceaccount/token"
    awsTokenPath := (env "AWS_TOKEN_PATH").getD "/var/run/kif/aws/token"
    refreshSkewSeconds := secondsVar env "REFRESH_SKEW_SECONDS" 300
    minRefreshSeconds := secondsVar env "MIN_REFRESH_SECONDS" 30
    maxJitterSeconds := secondsVar env "MAX_JITTER_SECONDS" 60 }

/-! ### What the configuration comes from -/

variable {env : String → Option String} {namespaceFile : Except String String}

lemma requireVar_ok {name value : String} (h : requireVar env name = .ok value) :
    env name = some value := by
  unfold requireVar at h
  split at h
  · rename_i value' hvalue
    rw [hvalue, Except.ok.inj h]
  · cases h

/-- The parts of a configuration that the mint request is made of, and the token file. -/
lemma fromEnv_ok {cfg : AgentConfig} (h : AgentConfig.fromEnv env namespaceFile = .ok cfg) :
    env "SERVICE_ACCOUNT_NAME" = some cfg.serviceAccountName ∧
      env "CONFIG_HASH" = some cfg.configHash ∧ podNamespace namespaceFile = .ok cfg.ns ∧
      cfg.podName = env "POD_NAME" ∧
      cfg.awsTokenPath = (env "AWS_TOKEN_PATH").getD "/var/run/kif/aws/token" := by
  unfold AgentConfig.fromEnv at h
  cases hsa : requireVar env "SERVICE_ACCOUNT_NAME" with
  | error e => simp [hsa, Bind.bind, Except.bind] at h
  | ok sa =>
      cases hhash : requireVar env "CONFIG_HASH" with
      | error e => simp [hsa, hhash, Bind.bind, Except.bind] at h
      | ok hash =>
          cases hns : podNamespace namespaceFile with
          | error e => simp [hsa, hhash, hns, Bind.bind, Except.bind] at h
          | ok ns =>
              simp only [hsa, hhash, hns, Bind.bind, Except.bind] at h
              obtain rfl := Except.ok.inj h
              exact ⟨requireVar_ok hsa, requireVar_ok hhash, rfl, rfl, rfl⟩

lemma exists_fromEnv {sa hash ns : String} (hsa : env "SERVICE_ACCOUNT_NAME" = some sa)
    (hhash : env "CONFIG_HASH" = some hash) (hns : podNamespace namespaceFile = .ok ns) :
    ∃ cfg, AgentConfig.fromEnv env namespaceFile = .ok cfg := by
  simp [AgentConfig.fromEnv, requireVar, hsa, hhash, hns, Bind.bind, Except.bind, pure,
    Except.pure]

end Agent

end IdentityFederation
