import Mathlib.Data.Finset.Insert
import Mathlib.Data.Finset.Erase
import IdentityFederation.Api.Crds

/-!
# The work queue (`kif-webhook/src/queue.rs`)

A bounded channel of keys together with `inFlight`, the set of keys that were accepted and are
not done.  `enqueue` takes the set's lock, drops a key that is there already and inserts one
that is not; the key then waits in `tx.send` for room in the channel, outside the lock.  Each
operation below is one step between two points where the Rust code can be suspended.
-/

namespace IdentityFederation

/-- The namespace and name of a ServiceAccount. -/
structure Key where
  ns : String
  serviceAccountName : String
  deriving DecidableEq

structure Queue where
  capacity : ℕ
  /-- Keys whose `tx.send(key).await` has not returned. -/
  sending : List Key
  channel : List Key
  inFlight : Finset Key
  /-- The receiver is gone. -/
  closed : Bool
  deriving DecidableEq

namespace Queue

/-- `Queue::new`. -/
def new (buffer : ℕ) : Queue where
  capacity := buffer
  sending := []
  channel := []
  inFlight := ∅
  closed := false

/-- `enqueue` up to the call of `tx.send`. -/
def enqueue (q : Queue) (key : Key) : Queue :=
  if key ∈ q.inFlight then q
  else { q with inFlight := insert key q.inFlight, sending := q.sending ++ [key] }

/-- A waiting `tx.send` returns: with the key in the channel when there is room, or with an
error when the channel is closed, and then the key is taken out of the set again. -/
def send (q : Queue) (key : Key) : Option Queue :=
  if key ∉ q.sending then none
  else if q.closed then
    some { q with sending := q.sending.erase key, inFlight := q.inFlight.erase key }
  else if q.channel.length < q.capacity then
    some { q with sending := q.sending.erase key, channel := q.channel ++ [key] }
  else none

/-- `rx.recv` returns the next key. -/
def recv (q : Queue) : Option (Key × Queue) :=
  match q.channel with
  | [] => none
  | key :: rest => some (key, { q with channel := rest })

/-- `done`. -/
def done (q : Queue) (key : Key) : Queue :=
  { q with inFlight := q.inFlight.erase key }

/-- The key waits, in a pending `tx.send` or in the channel. -/
def Waiting (q : Queue) (key : Key) : Prop := key ∈ q.sending ∨ key ∈ q.channel

instance (q : Queue) (key : Key) : Decidable (q.Waiting key) := inferInstanceAs (Decidable (_ ∨ _))

end Queue

end IdentityFederation
