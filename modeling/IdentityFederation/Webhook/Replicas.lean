import IdentityFederation.Framework.Transition
import IdentityFederation.Webhook.Reconcile

/-!
# Reconciles side by side

Any number of workers, of one webhook replica or of several, on one cluster: each runs one
reconcile after the other, of any key, and their requests interleave freely with each other and
with the changes of users.  A worker can stop at any point, as when its process ends.

This has more runs than a controller with its queue, which lets no two workers of one replica
reconcile the same key.
-/

namespace IdentityFederation

open Interaction

/-- The workers, by their index, on the cluster. -/
abbrev Replicas (ι : Type) := Crew ApiRequest ApiResponse ι Cluster (Except Error Unit)

inductive ReplicaLabel (ι : Type) where
  | change (change : UserChange)
  /-- A worker that has returned starts a reconcile. -/
  | start (i : ι) (key : Key) (clock : ℕ → Time)
  | call (i : ι) (fault : Fault)
  | stop (i : ι)

namespace Replicas

variable {ι : Type} [DecidableEq ι]

/-- No worker has started. -/
def boot (cluster : Cluster) : Replicas ι where
  shared := cluster
  member := fun _ => .ret (.ok ())

def setWorker (s : Replicas ι) (i : ι) (program : ApiProgram (Except Error Unit)) : Replicas ι :=
  { s with member := Function.update s.member i program }

@[simp] lemma shared_setWorker (s : Replicas ι) (i : ι) (program : ApiProgram (Except Error Unit)) :
    (s.setWorker i program).shared = s.shared := rfl

@[simp] lemma member_setWorker_self (s : Replicas ι) (i : ι)
    (program : ApiProgram (Except Error Unit)) : (s.setWorker i program).member i = program :=
  Function.update_self ..

lemma member_setWorker_of_ne (s : Replicas ι) {i j : ι} (hne : j ≠ i)
    (program : ApiProgram (Except Error Unit)) :
    (s.setWorker i program).member j = s.member j :=
  Function.update_of_ne hne ..

def step (sha256 : String → String) (s : Replicas ι) : ReplicaLabel ι → Option (Replicas ι)
  | .change change => (change.apply s.shared).map fun cluster => { s with shared := cluster }
  | .start i key clock =>
      match s.member i with
      | .ret _ => some (s.setWorker i (reconcile sha256 clock key).run)
      | .call .. => none
  | .call i fault => s.act Cluster.serveWith i fault
  | .stop i => some (s.setWorker i (.ret (.ok ())))

end Replicas

end IdentityFederation
