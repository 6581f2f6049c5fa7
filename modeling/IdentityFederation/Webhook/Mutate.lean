import IdentityFederation.Api.Cluster
import IdentityFederation.Framework.Text
import IdentityFederation.Webhook.Pod

/-!
# Injecting the agent (`kif-webhook/src/mutate.rs`)

`mutatePod` is the Pod that `build_pod_patch` arrives at; the patch itself is what
`json_patch::diff` makes of the original and this Pod, and `diff` stands for that function on
the serialized Pods.
-/

namespace IdentityFederation

def podHasContainer (pod : Pod) (name : String) : Bool :=
  match pod.spec with
  | none => false
  | some spec =>
      spec.containers.any (fun c => c.name = name) ||
        (spec.initContainers.getD []).any fun c => c.name = name

/-! ## Volumes -/

def saTokenVolume : Volume where
  name := "kif-sa-token"
  projected := some
    { sources := some
        [{ serviceAccountToken := some
            { path := "token"
              audience := none
              expirationSeconds := none } },
         { downwardAPI := some
            { items := some
                [{ path := "namespace"
                   fieldRef := some
                    { apiVersion := some "v1"
                      fieldPath := "metadata.namespace" } }] } },
         { configMap := some
            { name := "kube-root-ca.crt"
              items := some [{ key := "ca.crt", path := "ca.crt" }]
              optional := some false } }] }

def awsVolume : Volume where
  name := "kif-aws"
  emptyDir := some {}

/-- A volume is added unless the Pod has one of that name. -/
def ensureVolume (volume : Volume) (volumes : List Volume) : List Volume :=
  if volumes.any fun v => v.name = volume.name then volumes else volumes ++ [volume]

def ensureSaProjectedTokenVolume : List Volume → List Volume := ensureVolume saTokenVolume

def ensureAwsEmptydirVolume : List Volume → List Volume := ensureVolume awsVolume

/-! ## Containers -/

def buildAgentContainer (agentImage agentImagePullPolicy : String) (agentPort : UInt16)
    (federationUrl serviceAccountName configHash : String) : Container where
  name := "kif-agent"
  image := some agentImage
  imagePullPolicy := some agentImagePullPolicy
  restartPolicy := some "Always"
  startupProbe := some
    { httpGet := some { path := some "/startupz", port := agentPort.toNat }
      failureThreshold := some 30
      periodSeconds := some 10 }
  env := some
    [{ name := "SERVICE_ACCOUNT_NAME", value := some serviceAccountName },
     { name := "CONFIG_HASH", value := some configHash },
     { name := "FEDERATION_URL", value := some federationUrl },
     { name := "PORT", value := some (toString agentPort.toNat) },
     { name := "POD_NAME"
       valueFrom := some
        { fieldRef := some { fieldPath := "metadata.name", apiVersion := some "v1" } } }]
  volumeMounts := some
    [{ name := "kif-sa-token"
       mountPath := "/var/run/secrets/kubernetes.io/serviceaccount"
       readOnly := some true },
     { name := "kif-aws"
       mountPath := "/var/run/kif/aws"
       readOnly := some false }]

/-- The first entry of the name gets the literal value; without one, an entry is appended. -/
def upsertEnv (env : List EnvVar) (name value : String) : List EnvVar :=
  match env with
  | [] => [{ name := name, value := some value }]
  | e :: rest =>
      if e.name = name then { e with value := some value, valueFrom := none } :: rest
      else e :: upsertEnv rest name value

def awsVolumeMount : VolumeMount where
  name := "kif-aws"
  mountPath := "/var/run/kif/aws"
  readOnly := some true

/-- The variables of an AWS block, in the order in which they are set. -/
def awsVariables (aws : AwsProviderSpec) : List (String × String) :=
  [("AWS_ROLE_ARN", aws.roleArn), ("AWS_WEB_IDENTITY_TOKEN_FILE", "/var/run/kif/aws/token")] ++
    (match aws.region with
      | some region => [("AWS_REGION", region), ("AWS_DEFAULT_REGION", region)]
      | none => []) ++
    if aws.stsRegionalEndpoints then [("AWS_STS_REGIONAL_ENDPOINTS", "regional")] else []

def injectAwsIntoAppContainer (c : Container) (aws : AwsProviderSpec) : Except Error Container :=
  if Text.trim aws.roleArn = "" then
    .error (.msg "aws.role_arn is empty in resolved binding")
  else
    let mounts := c.volumeMounts.getD []
    .ok { c with
      volumeMounts := some
        (if mounts.any fun m => m.name = "kif-aws" then mounts else mounts ++ [awsVolumeMount])
      env := some ((awsVariables aws).foldl (fun env p => upsertEnv env p.1 p.2) (c.env.getD [])) }

/-- The loop over the init containers leaves the agent out. -/
def injectAwsIntoInitContainer (c : Container) (aws : AwsProviderSpec) :
    Except Error Container :=
  if c.name = "kif-agent" then .ok c else injectAwsIntoAppContainer c aws

/-! ## `build_pod_patch` -/

/-- The Pod with the agent injected. -/
def mutatePod (pod : Pod) (agentImage agentImagePullPolicy : String) (agentPort : UInt16)
    (federationUrl serviceAccountName configHash : String) (aws : AwsProviderSpec) :
    Except Error Pod :=
  match pod.spec with
  | none => .error (.msg "pod.spec missing")
  | some spec => do
      let volumes := ensureAwsEmptydirVolume (ensureSaProjectedTokenVolume (spec.volumes.getD []))
      -- The agent is the first init container, so that it has written the token before the
      -- other containers start.
      let agent := buildAgentContainer agentImage agentImagePullPolicy agentPort federationUrl
        serviceAccountName configHash
      let initContainers ← (agent :: spec.initContainers.getD []).mapM
        (injectAwsIntoInitContainer · aws)
      let containers ← spec.containers.mapM (injectAwsIntoAppContainer · aws)
      return { pod with
        spec := some { spec with
          automountServiceAccountToken := some false
          volumes := some volumes
          initContainers := some initContainers
          containers := containers } }

def buildPodPatch {Patch : Type} (diff : Pod → Pod → Patch) (pod : Pod)
    (agentImage agentImagePullPolicy : String) (agentPort : UInt16)
    (federationUrl serviceAccountName configHash : String) (aws : AwsProviderSpec) :
    Except Error Patch := do
  let modified ← mutatePod pod agentImage agentImagePullPolicy agentPort federationUrl
    serviceAccountName configHash aws
  return diff pod modified

end IdentityFederation
