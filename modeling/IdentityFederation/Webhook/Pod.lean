import Mathlib.Data.Nat.Notation
import Mathlib.Data.Int.Notation

/-!
# Pods

The part of the Kubernetes Pod type that the webhook reads or writes, field by field.  The
members of an object that it only carries along are kept under `other`, as names and JSON text.
-/

namespace IdentityFederation

/-- The members of an object that nothing here reads. -/
abbrev OtherMembers := List (String × String)

/-! ## Containers -/

structure ObjectFieldSelector where
  apiVersion : Option String := none
  fieldPath : String
  deriving DecidableEq

structure EnvVarSource where
  fieldRef : Option ObjectFieldSelector := none
  other : OtherMembers := []
  deriving DecidableEq

structure EnvVar where
  name : String
  value : Option String := none
  valueFrom : Option EnvVarSource := none
  deriving DecidableEq

structure VolumeMount where
  name : String
  mountPath : String
  readOnly : Option Bool := none
  other : OtherMembers := []
  deriving DecidableEq

structure HTTPGetAction where
  path : Option String := none
  port : ℤ
  other : OtherMembers := []
  deriving DecidableEq

structure Probe where
  httpGet : Option HTTPGetAction := none
  failureThreshold : Option ℤ := none
  periodSeconds : Option ℤ := none
  other : OtherMembers := []
  deriving DecidableEq

structure Container where
  name : String
  image : Option String := none
  imagePullPolicy : Option String := none
  restartPolicy : Option String := none
  startupProbe : Option Probe := none
  env : Option (List EnvVar) := none
  volumeMounts : Option (List VolumeMount) := none
  other : OtherMembers := []
  deriving DecidableEq

/-! ## Volumes -/

structure ServiceAccountTokenProjection where
  path : String
  audience : Option String := none
  expirationSeconds : Option ℤ := none
  deriving DecidableEq

structure DownwardAPIVolumeFile where
  path : String
  fieldRef : Option ObjectFieldSelector := none
  other : OtherMembers := []
  deriving DecidableEq

structure DownwardAPIProjection where
  items : Option (List DownwardAPIVolumeFile) := none
  deriving DecidableEq

structure KeyToPath where
  key : String
  path : String
  other : OtherMembers := []
  deriving DecidableEq

structure ConfigMapProjection where
  name : String
  items : Option (List KeyToPath) := none
  optional : Option Bool := none
  deriving DecidableEq

structure VolumeProjection where
  serviceAccountToken : Option ServiceAccountTokenProjection := none
  downwardAPI : Option DownwardAPIProjection := none
  configMap : Option ConfigMapProjection := none
  other : OtherMembers := []
  deriving DecidableEq

structure ProjectedVolumeSource where
  sources : Option (List VolumeProjection) := none
  other : OtherMembers := []
  deriving DecidableEq

structure EmptyDirVolumeSource where
  other : OtherMembers := []
  deriving DecidableEq

structure Volume where
  name : String
  projected : Option ProjectedVolumeSource := none
  emptyDir : Option EmptyDirVolumeSource := none
  other : OtherMembers := []
  deriving DecidableEq

/-! ## Pods -/

structure PodSpec where
  containers : List Container
  initContainers : Option (List Container) := none
  volumes : Option (List Volume) := none
  serviceAccountName : Option String := none
  automountServiceAccountToken : Option Bool := none
  other : OtherMembers := []
  deriving DecidableEq

structure Pod where
  /-- `metadata.name`. -/
  name : Option String := none
  spec : Option PodSpec := none
  other : OtherMembers := []
  deriving DecidableEq

end IdentityFederation
