import IdentityFederation.Agent.Config
import IdentityFederation.Framework.Process
import IdentityFederation.Issuer.Jwks

/-!
# Loading and watching (`kif-issuer/src/main.rs`)

`loadJwksAndWatch` is the task that fills the store, while the server answers from it.  Its loops
have no last iteration in the source; here they are run for a number of attempts to read the file
and of items of the watch.

`issuer` is the process: any number of starts, each with an empty store, stopped anywhere.  The
environment chooses what is read from the files and what the watch delivers.  `offers` is
bookkeeping for statements about runs; no request reads it.
-/

namespace IdentityFederation

namespace Issuer

open Interaction

/-- The part of the configuration that the task is given. -/
structure IssuerConfig where
  runningInCluster : Bool
  jwksSecretName : String
  jwksFilePath : String
  deriving DecidableEq

/-! ## Requests -/

/-- What the task asks of the world around it. -/
inductive IssuerRequest (K : KeySets) where
  /-- `Instant::now`. -/
  | now
  | read (path : String)
  | sleep (seconds : ℕ)
  /-- `JwksStore::set`. -/
  | set (jwks : K.Jwks)
  /-- Read the namespace file of the Pod. -/
  | namespaceFile
  /-- `Client::try_default`. -/
  | tryDefault
  /-- The next event of the watch on the Secrets of a namespace that a field selector admits. -/
  | next (ns fields : String)

/-- What a request is answered with; a watch may end. -/
@[reducible] def IssuerRequest.Answer {K : KeySets} : IssuerRequest K → Type
  | .now => Time
  | .read _ => Except String ByteArray
  | .sleep _ | .set _ => Unit
  | .namespaceFile => Except String String
  | .tryDefault => Except String Unit
  | .next .. => Option (Except String SecretEvent)

variable (K : KeySets)

abbrev IssuerM := ExceptT Error (Program (IssuerRequest K) IssuerRequest.Answer)

variable {K} in
def send (q : IssuerRequest K) : IssuerM K q.Answer := ExceptT.mk (.call q fun r => .ret (.ok r))

/-! ## `run_secret_watcher` -/

/-- What becomes of an event of the watch. -/
def onEvent (secretName : String) (ev : Except String SecretEvent) : IssuerM K Unit :=
  match appliedObject ev with
  | none => return ()
  | some item =>
      match watchedJwks K secretName item with
      | .ok jwks => send (.set jwks)
      | .error _ => return ()

def watchLoop (ns secretName : String) : ℕ → IssuerM K Unit
  | 0 => return ()
  | n + 1 => do
      match ← send (.next ns ("metadata.name=" ++ secretName)) with
      | none => return ()
      | some ev =>
          onEvent K secretName ev
          watchLoop ns secretName n

def runSecretWatcher (ns secretName : String) (items : ℕ) : IssuerM K Unit := do
  match ← send .tryDefault with
  | .error e => throw (.msg e)
  | .ok () => watchLoop K ns secretName items

/-! ## `load_jwks_and_watch` -/

/-- The loop that reads the file; it returns whether it has broken off with a key set. -/
def loadLoop (path : String) (deadline : Time) : ℕ → IssuerM K Bool
  | 0 => return false
  | n + 1 => do
      match ← send (.read path) with
      | .ok bytes =>
          match parseJwks K bytes with
          | .ok jwks => do
              send (.set jwks)
              return true
          | .error e => throw (.msg ("failed to parse JWKS from " ++ path ++ ": " ++ e))
      | .error e => do
          let now ← send .now
          if now < deadline then do
            send (.sleep 5)
            loadLoop path deadline n
          else throw (.msg ("failed to read JWKS_FILE_PATH=" ++ path ++ ": " ++ e))

/-- What follows the load. -/
def watch (cfg : IssuerConfig) (items : ℕ) : IssuerM K Unit :=
  if cfg.runningInCluster then do
    match podNamespace (← send .namespaceFile) with
    | .error e => throw e
    | .ok ns => runSecretWatcher K ns cfg.jwksSecretName items
  else return ()

def loadJwksAndWatch (cfg : IssuerConfig) (attempts items : ℕ) : IssuerM K Unit := do
  let start ← send .now
  let loaded ← loadLoop K cfg.jwksFilePath (start + 120 * 1000000000) attempts
  if loaded then watch K cfg items else return ()

/-! ## The world around the task -/

/-- What the task is given to make a key set of. -/
inductive Offer where
  | file (contents : Except String ByteArray)
  | event (ev : Except String SecretEvent)

/-- What the environment chooses at a request; each kind of request has its own part. -/
structure Outcome where
  now : Time := 0
  file : Except String ByteArray := .error "No such file or directory (os error 2)"
  namespaceFile : Except String String := .ok "kif"
  client : Except String Unit := .ok ()
  event : Option (Except String SecretEvent) := none

structure World where
  store : JwksStore K
  offers : List Offer

/-- The world when the process is started. -/
def World.fresh : World K where
  store := {}
  offers := []

variable {K}

/-- What a request is answered with. -/
def World.serve (o : Outcome) (w : World K) : (q : IssuerRequest K) → q.Answer × World K
  | .now => (o.now, w)
  | .read _ => (o.file, { w with offers := w.offers ++ [.file o.file] })
  | .sleep _ => ((), w)
  | .set jwks => ((), { w with store := w.store.set jwks })
  | .namespaceFile => (o.namespaceFile, w)
  | .tryDefault => (o.client, w)
  | .next .. => (o.event, { w with offers := w.offers ++ (o.event.map Offer.event).toList })

variable (K) in
/-- The process: started for some attempts and some items. -/
def issuer (cfg : IssuerConfig) :
    Service (IssuerRequest K) IssuerRequest.Answer (ℕ × ℕ) (World K) Outcome
      (Except Error Unit) where
  serve := World.serve
  allowed := fun _ _ _ => True
  boot := fun n => (loadJwksAndWatch K cfg n.1 n.2).run
  reset := fun _ => World.fresh K

end Issuer

end IdentityFederation
