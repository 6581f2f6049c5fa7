import IdentityFederation.Agent.Main
import IdentityFederation.Framework.Process

/-!
# The world around the agent

What answers the requests of the refresh loop: a volume with the token file and the temporary
file, the flag behind `/startupz` (`kif-agent/src/http.rs`), a clock that counts seconds, and the
federation service on the other end of a connection.

`Outcome` is what the environment chooses at one request.  Any operation on a file may fail, and
leaves whatever it leaves of that file.  `rename` is the exception: it moves a whole file, or
fails and moves nothing.  Time passes while the agent sleeps and while it waits for an answer.

`agent` is the process: any number of starts on one volume, each of them for any number of
iterations.  A start clears the flag and nothing else.

`received`, `contents` and `failures` are bookkeeping for statements about runs; no request reads
them.
-/

namespace IdentityFederation

namespace Agent

open Interaction Program

/-! ## Outcomes -/

/-- What becomes of an operation on a file. -/
inductive FileOutcome where
  | done
  /-- It fails, and this is left of the file. -/
  | failed (error : String) (leftover : Option ByteArray)

/-- What the environment chooses at a request; each kind of request has its own part. -/
structure Outcome where
  /-- What the ServiceAccount token file reads as. -/
  contents : Except String String := .error "No such file or directory"
  reply : Except PostError HttpResponse := .error .send
  /-- How long the reply takes, in seconds. -/
  seconds : ℕ := 0
  file : FileOutcome := .done
  drawn : UInt64 := 0

/-- The token in a reply to a mint request. -/
def mintedToken (reply : Except PostError HttpResponse) : Option MintedToken :=
  match mintResult reply with
  | .ok resp => resp.aws
  | .error _ => none

/-- The ServiceAccount token file has a token that can be sent. -/
def readsToken : Except String String → Bool
  | .ok contents => decide (Sendable (Text.trim contents))
  | .error _ => false

/-! ## The world -/

structure World where
  /-- The files of the volume. -/
  files : String → Option ByteArray
  /-- Set by the first success of the process that is running. -/
  ready : Bool
  now : ℕ
  /-- The tokens of all replies that had one. -/
  received : List String
  /-- What the token file has held, one after the other. -/
  contents : List ByteArray
  /-- The iterations that have failed since the token file was written last. -/
  failures : ℕ

/-- A volume, before the agent is started for the first time. -/
def World.fresh (files : String → Option ByteArray) : World where
  files := files
  ready := false
  now := 0
  received := []
  contents := []
  failures := 0

namespace World

/-- The world with another file under a path, or none. -/
def put (w : World) (path : String) (file : Option ByteArray) : World :=
  { w with files := Function.update w.files path file }

/-- An operation that makes `file` of what is under `path`. -/
def operate (w : World) (o : Outcome) (path : String) (file : Option ByteArray) :
    Except String Unit × World :=
  match o.file with
  | .done => (.ok (), w.put path file)
  | .failed error leftover => (.error error, w.put path leftover)

/-- One more iteration has failed, if it has. -/
def countFailure (w : World) (failed : Bool) : World :=
  { w with failures := if failed then w.failures + 1 else w.failures }

/-- The token file is replaced. -/
def replace (w : World) (cfg : AgentConfig) (bytes : ByteArray) : World :=
  { w.put cfg.awsTokenPath (some bytes) with
    contents := w.contents ++ [bytes]
    failures := 0 }

/-- `rename` moves a file as a whole. -/
def rename (w : World) (cfg : AgentConfig) (o : Outcome) (source target : String) :
    Except String Unit × World :=
  match o.file, w.files source with
  | .done, some bytes =>
      if target = cfg.awsTokenPath then (.ok (), (w.put source none).replace cfg bytes)
      else (.ok (), (w.put source none).put target (some bytes))
  | .done, none => (.error "No such file or directory", w)
  | .failed error _, _ => (.error error, w)

/-- A reply arrives. -/
def receive (w : World) (o : Outcome) : World :=
  { w.countFailure (mintedToken o.reply).isNone with
    now := w.now + o.seconds
    received := w.received ++ ((mintedToken o.reply).map MintedToken.token).toList }

/-- What a request is answered with. -/
def serve (cfg : AgentConfig) (o : Outcome) (w : World) : (q : AgentRequest) → q.Answer × World
  | .readToString _ => (o.contents, w.countFailure (!readsToken o.contents))
  | .post .. => (o.reply, w.receive o)
  | .createParentDirs _ =>
      (match o.file with
        | .done => .ok ()
        | .failed error _ => .error error, w)
  | .createFile path => w.operate o path (some .empty)
  | .writeAll path contents =>
      w.operate o path (some ((w.files path).getD .empty ++ contents.toUTF8))
  | .syncAll path => w.operate o path (w.files path)
  | .rename source target => w.rename cfg o source target
  | .setReady => ((), { w with ready := true })
  | .draw max => (if o.drawn ≤ max then o.drawn else max, w)
  | .sleep seconds => ((), { w with now := w.now + seconds.toNat })

end World

/-! ## `startupz` (`http.rs`) -/

def startupz (ready : Bool) : ℕ := if ready then 200 else 503

/-! ## The process -/

/-- The agent on its volume: started for `n` iterations, stopped anywhere, and started again. -/
def agent (cfg : AgentConfig) :
    Service AgentRequest AgentRequest.Answer ℕ World Outcome (Except Error Bool) where
  serve := World.serve cfg
  allowed := fun _ _ _ => True
  boot := fun n => refreshLoop cfg n false
  reset := fun w => { w with ready := false }

/-! ### What the operations change -/

namespace World

variable {w : World}

@[simp] lemma put_put (w : World) (path : String) (file file' : Option ByteArray) :
    (w.put path file).put path file' = w.put path file' := by
  simp [put]

@[simp] lemma put_files_self (w : World) (path : String) : w.put path (w.files path) = w := by
  simp [put]

@[simp] lemma files_put_same (w : World) (path : String) (file : Option ByteArray) :
    (w.put path file).files path = file := by
  simp [put]

lemma files_put_ne (w : World) {path path' : String} (h : path' ≠ path) (file : Option ByteArray) :
    (w.put path file).files path' = w.files path' := by
  simp [put, h]

lemma operate_eq (w : World) (o : Outcome) (path : String) (file : Option ByteArray) :
    w.operate o path file = (.ok (), w.put path file) ∨
      ∃ error leftover, w.operate o path file = (.error error, w.put path leftover) := by
  unfold operate
  cases o.file with
  | done => exact .inl rfl
  | failed error leftover => exact .inr ⟨error, leftover, rfl⟩

/-- A file is renamed to the token file, or it stays where it is. -/
lemma rename_eq (cfg : AgentConfig) {source : String} {bytes : ByteArray}
    (h : w.files source = some bytes) (o : Outcome) :
    w.rename cfg o source cfg.awsTokenPath = (.ok (), (w.put source none).replace cfg bytes) ∨
      ∃ error, w.rename cfg o source cfg.awsTokenPath = (.error error, w) := by
  unfold rename
  rw [h]
  cases o.file with
  | done => exact .inl (if_pos rfl)
  | failed error leftover => exact .inr ⟨error, rfl⟩

end World

end Agent

end IdentityFederation
