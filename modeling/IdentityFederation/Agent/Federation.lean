import IdentityFederation.Agent.Config
import IdentityFederation.Api.Http
import IdentityFederation.Framework.Interaction

/-!
# Calling the federation service (`kif-agent/src/federation.rs`)

The agent has wire types of its own.  What it asks of the world around it, requests to the
federation service, files, random numbers and sleep, are the requests of its programs.
-/

namespace IdentityFederation

namespace Agent

open Interaction

/-! ## Requests -/

/-- Why a `POST` has no answer. -/
inductive PostError where
  | send | readBody
  deriving DecidableEq

/-- What the agent asks of the world around it. -/
inductive AgentRequest where
  | readToString (path : String)
  | post (url authorization : String) (body : Json)
  /-- `create_dir_all` on the directory of the path. -/
  | createParentDirs (path : String)
  | createFile (path : String)
  | writeAll (path contents : String)
  | syncAll (path : String)
  | rename (source target : String)
  /-- The first token has been minted. -/
  | setReady
  /-- `random_range(0..=max)`. -/
  | draw (max : UInt64)
  | sleep (seconds : UInt64)

/-- What a request is answered with; an operation on files may fail. -/
@[reducible] def AgentRequest.Answer : AgentRequest → Type
  | .readToString _ => Except String String
  | .post .. => Except PostError HttpResponse
  | .createParentDirs _ | .createFile _ | .writeAll .. | .syncAll _ | .rename .. =>
      Except String Unit
  | .setReady | .sleep _ => Unit
  | .draw _ => UInt64

abbrev AgentProgram := Program AgentRequest AgentRequest.Answer

/-! ## Messages -/

structure MintRequest where
  ns : String
  serviceAccountName : String
  configHash : String
  podName : Option String
  deriving DecidableEq

def MintRequest.toJson (r : MintRequest) : Json :=
  .obj ([("namespace", .str r.ns), ("serviceAccountName", .str r.serviceAccountName),
      ("configHash", .str r.configHash)] ++
    Json.optional "podName" .str r.podName)

structure MintedToken where
  token : String
  expiresInSeconds : UInt64
  deriving DecidableEq

structure MintResponse where
  aws : Option MintedToken
  deriving DecidableEq

def MintedToken.ofJson? (j : Json) : Option MintedToken := do
  let members ← j.record? ["token", "expiresInSeconds"] 2
  let token ← (Json.member? "token" members).bind Json.str?
  let expiresInSeconds ← (Json.member? "expiresInSeconds" members).bind Json.uint64?
  return { token := token, expiresInSeconds := expiresInSeconds }

def MintResponse.ofJson? (j : Json) : Option MintResponse := do
  let members ← j.record? ["aws"] 1
  let aws ← Json.optionalMember? "aws" MintedToken.ofJson? members
  return { aws := aws }

/-! ## `mint` -/

/-- The failures that the agent retries. -/
inductive MintFailure where
  | post (e : PostError)
  | parse
  | status (code : ℕ) (body : Body)

inductive MintError where
  | configHashMismatch
  | other (failure : MintFailure)

/-- What `mint` makes of the answer. -/
def mintResult : Except PostError HttpResponse → Except MintError MintResponse
  | .error e => .error (.other (.post e))
  | .ok resp =>
      if resp.status = 200 then
        match resp.body with
        | .text _ => .error (.other .parse)
        | .json document =>
            match MintResponse.ofJson? document with
            | some r => .ok r
            | none => .error (.other .parse)
      else if resp.status = 409 then .error .configHashMismatch
      else .error (.other (.status resp.status resp.body))

/-- The value of the `Authorization` header. -/
def bearerAuth (token : String) : String := "Bearer " ++ token

def mintUrl (federationUrl : String) : String :=
  Text.trimEndMatches '/' federationUrl ++ "/v1/mint"

def mint (federationUrl bearerSaToken : String) (req : MintRequest) :
    AgentProgram (Except MintError MintResponse) :=
  -- A token that cannot stand in a header fails the request before it is sent.
  if (bearerAuth bearerSaToken).toList.all isHeaderChar then
    .call (.post (mintUrl federationUrl) (bearerAuth bearerSaToken) req.toJson) fun r =>
      .ret (mintResult r)
  else .ret (.error (.other (.post .send)))

/-! ## `atomic_write` -/

/-- An operation on files followed by `?`. -/
def fileOp (q : AgentRequest) (h : q.Answer = Except String Unit) (context : String) :
    ExceptT Error AgentProgram Unit :=
  ExceptT.mk (.call q fun r => .ret ((cast h r).mapError fun _ => Error.msg context))

/-- Write a temporary file and rename it. -/
def atomicWrite (path contents : String) : ExceptT Error AgentProgram Unit := do
  let tmp := path ++ ".tmp"
  fileOp (.createParentDirs path) rfl ("failed to create parent dirs for " ++ path)
  fileOp (.createFile tmp) rfl ("failed to create tmp file " ++ tmp)
  fileOp (.writeAll tmp contents) rfl ("failed to write contents to tmp file " ++ tmp)
  fileOp (.syncAll tmp) rfl ("failed to sync tmp file " ++ tmp)
  fileOp (.rename tmp path) rfl ("failed to rename tmp file " ++ tmp ++ " to " ++ path)

end Agent

end IdentityFederation
