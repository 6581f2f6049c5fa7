import IdentityFederation.Agent.Config
import IdentityFederation.Agent.Federation
import IdentityFederation.Agent.Main
import IdentityFederation.Agent.Rules
import IdentityFederation.Agent.World
import IdentityFederation.Api.Cluster
import IdentityFederation.Api.Crds
import IdentityFederation.Api.Frame
import IdentityFederation.Api.Http
import IdentityFederation.Federation.Http
import IdentityFederation.Federation.Jwt
import IdentityFederation.Federation.K8s
import IdentityFederation.Framework.Interaction
import IdentityFederation.Framework.Json
import IdentityFederation.Framework.JsonText
import IdentityFederation.Framework.Keyed
import IdentityFederation.Framework.Lock
import IdentityFederation.Framework.Loop
import IdentityFederation.Framework.Process
import IdentityFederation.Framework.Related
import IdentityFederation.Framework.Text
import IdentityFederation.Framework.Transition
import IdentityFederation.Issuer.Jwks
import IdentityFederation.Issuer.Main
import IdentityFederation.Properties.AdmissionPolicy
import IdentityFederation.Properties.Advertised
import IdentityFederation.Properties.Authority
import IdentityFederation.Properties.Bootstrap
import IdentityFederation.Properties.Coherence
import IdentityFederation.Properties.ConfigHash
import IdentityFederation.Properties.Delivery
import IdentityFederation.Properties.DisjointMerge
import IdentityFederation.Properties.EndToEnd
import IdentityFederation.Properties.FailedReconcile
import IdentityFederation.Properties.History
import IdentityFederation.Properties.Idempotence
import IdentityFederation.Properties.KeyAgreement
import IdentityFederation.Properties.LastGood
import IdentityFederation.Properties.Lifetime
import IdentityFederation.Properties.Locks
import IdentityFederation.Properties.MergeIssues
import IdentityFederation.Properties.Mirror
import IdentityFederation.Properties.Outage
import IdentityFederation.Properties.PatchedPod
import IdentityFederation.Properties.PodValidity
import IdentityFederation.Properties.Provenance
import IdentityFederation.Properties.ReconcileAlone
import IdentityFederation.Properties.Repair
import IdentityFederation.Properties.Requests
import IdentityFederation.Properties.Restart
import IdentityFederation.Properties.SameNamespace
import IdentityFederation.Properties.Settling
import IdentityFederation.Properties.StatusTruth
import IdentityFederation.Properties.TokenFile
import IdentityFederation.Properties.Unmanaged
import IdentityFederation.Properties.Usernames
import IdentityFederation.Properties.Variables
import IdentityFederation.Properties.Wire
import IdentityFederation.Properties.Wiring
import IdentityFederation.Properties.WorkQueue
import IdentityFederation.Webhook.Admission
import IdentityFederation.Webhook.Controller
import IdentityFederation.Webhook.Injection
import IdentityFederation.Webhook.Merge
import IdentityFederation.Webhook.Mutate
import IdentityFederation.Webhook.Pod
import IdentityFederation.Webhook.Queue
import IdentityFederation.Webhook.Reconcile
import IdentityFederation.Webhook.Replicas
import IdentityFederation.Webhook.Tasks
import IdentityFederation.Properties.Isolation
import IdentityFederation.Deploy.Rbac
import IdentityFederation.Properties.LeastPrivilege
import IdentityFederation.Properties.Intruders
import IdentityFederation.Properties.KeyDistribution
import IdentityFederation.Properties.Pinned
import IdentityFederation.Framework.Pace
import IdentityFederation.Properties.RequestPace
import IdentityFederation.Api.Serde
import IdentityFederation.Deploy.Crd
import IdentityFederation.Properties.Formats
import IdentityFederation.Properties.Accepted
import IdentityFederation.Properties.Readiness
