import IdentityFederation.Api.Cluster

/-!
# Key sets (`kif-issuer/src/jwks.rs`, `kube_watch.rs`, `http.rs`)

The issuer serves the key set of its store, which is filled from a file and then from a watched
Secret.  `KeySets` stands for the crates that read and write key sets; the code relies on nothing
of them that is not a hypothesis where it is used.
-/

namespace IdentityFederation

namespace Issuer

/-- What the issuer uses of other crates.  An operation that fails returns the text of its
error. -/
structure KeySets where
  /-- `CoreJsonWebKeySet`. -/
  Jwks : Type
  Jwk : Type
  keys : Jwks → List Jwk
  /-- `serde_json::from_str`. -/
  fromStr : String → Except String Jwks
  /-- `serde_json::to_string`. -/
  toText : Jwks → Except String String
  /-- The text of a `Utf8Error`. -/
  utf8Error : ByteArray → String

variable (K : KeySets)

/-! ## The store -/

structure JwksStore where
  inner : Option K.Jwks := none

namespace JwksStore

variable {K}

def isLoaded (store : JwksStore K) : Bool := store.inner.isSome

def get (store : JwksStore K) : Option K.Jwks := store.inner

def set (_ : JwksStore K) (jwks : K.Jwks) : JwksStore K := { inner := some jwks }

lemma isLoaded_iff {store : JwksStore K} :
    store.isLoaded = true ↔ ∃ jwks, store.get = some jwks := Option.isSome_iff_exists

end JwksStore

def parseJwks (bytes : ByteArray) : Except String K.Jwks :=
  match String.fromUTF8? bytes with
  | none => .error (K.utf8Error bytes)
  | some jwksJson =>
      match K.fromStr jwksJson with
      | .error e => .error e
      | .ok jwks =>
          if (K.keys jwks).isEmpty then .error "attempted to set empty JWKS; ignoring"
          else .ok jwks

variable {K} in
lemma keys_ne_nil_of_parseJwks {bytes : ByteArray} {jwks : K.Jwks}
    (h : parseJwks K bytes = .ok jwks) : K.keys jwks ≠ [] := by
  unfold parseJwks at h
  split at h
  · cases h
  · split at h
    · cases h
    · split at h
      · cases h
      · rename_i hkeys
        obtain rfl := Except.ok.inj h
        simpa using hkeys

/-! ## Watching the Secret -/

def jwksSecretKey : String := "jwks.json"

/-- `kube_runtime`'s watcher events for Secrets. -/
inductive SecretEvent where
  | init
  | initApply (secret : Secret)
  | initDone
  | apply (secret : Secret)
  | delete (secret : Secret)

/-- `applied_objects`: the errors, and the Secrets that exist. -/
def appliedObject : Except String SecretEvent → Option (Except String Secret)
  | .error e => some (.error e)
  | .ok (.apply secret) | .ok (.initApply secret) => some (.ok secret)
  | .ok _ => none

/-- The key set of an item of the watch, or what is logged about it. -/
def watchedJwks (secretName : String) : Except String Secret → Except String K.Jwks
  | .error _ => .error "error watching secret"
  | .ok secret =>
      match secret.data with
      | none => .error ("secret " ++ secretName ++ " has no data")
      | some data =>
          match data[jwksSecretKey]? with
          | none => .error ("secret missing key " ++ jwksSecretKey)
          | some bytes =>
              match parseJwks K bytes with
              | .ok jwks => .ok jwks
              | .error _ => .error "invalid jwks.json in secret; keeping last good JWKS"

/-! ## The endpoints -/

structure Response where
  status : ℕ
  headers : List (String × String) := []
  body : String := ""
  deriving DecidableEq

variable {K}

def startupz (store : JwksStore K) : ℕ := if store.isLoaded then 200 else 503

def getJwks (store : JwksStore K) : Response :=
  match store.get with
  | some jwks =>
      match K.toText jwks with
      | .ok body =>
          { status := 200
            headers :=
              [("content-type", "application/json"), ("cache-control", "public, max-age=300")]
            body := body }
      | .error _ => { status := 500 }
  | none => { status := 503 }

end Issuer

end IdentityFederation
