import IdentityFederation.Agent.Federation

/-!
# The refresh loop (`kif-agent/src/main.rs`)

`refreshIteration` is the body of the loop of `refresh_loop`.  It returns the new value of
`first_success` when the loop goes on, and an error when the agent terminates.
-/

namespace IdentityFederation

namespace Agent

open Interaction

/-- `u64::saturating_sub`. -/
def saturatingSub (a b : UInt64) : UInt64 := if a < b then 0 else a - b

/-- `compute_sleep_seconds`, for the jitter that was drawn. -/
def computeSleepSeconds (expiresIn skew minSleep jitter : UInt64) : UInt64 :=
  max (saturatingSub (saturatingSub expiresIn skew) jitter) minSleep

lemma saturatingSub_toNat (a b : UInt64) : (saturatingSub a b).toNat = a.toNat - b.toNat := by
  unfold saturatingSub
  split
  · rename_i hlt
    have hle : a.toNat < b.toNat := UInt64.lt_iff_toNat_lt.mp hlt
    rw [UInt64.toNat_zero]
    omega
  · rename_i hnot
    have hle : b ≤ a := UInt64.not_lt.mp hnot
    exact UInt64.toNat_sub_of_le _ _ hle

/-- The pause over the natural numbers, with truncated subtraction. -/
lemma computeSleepSeconds_toNat (expiresIn skew minSleep jitter : UInt64) :
    (computeSleepSeconds expiresIn skew minSleep jitter).toNat =
      max (expiresIn.toNat - skew.toNat - jitter.toNat) minSleep.toNat := by
  unfold computeSleepSeconds
  have hmax : ∀ a b : UInt64, (max a b).toNat = max a.toNat b.toNat := by
    intro a b
    change (if a ≤ b then b else a).toNat = _
    by_cases h : a ≤ b
    · have hle := UInt64.le_iff_toNat_le.mp h
      rw [if_pos h]
      omega
    · have hlt := UInt64.lt_iff_toNat_lt.mp (UInt64.not_le.mp h)
      rw [if_neg h]
      omega
  rw [hmax, saturatingSub_toNat, saturatingSub_toNat]

/-- `compute_jitter`. -/
def computeJitter (maxJitter : UInt64) : AgentProgram UInt64 :=
  if maxJitter = 0 then pure 0 else .call (.draw maxJitter) .ret

def sleep (seconds : UInt64) : AgentProgram Unit := .call (.sleep seconds) .ret

/-- The request the loop makes again and again. -/
def AgentConfig.mintRequest (cfg : AgentConfig) : MintRequest where
  ns := cfg.ns
  serviceAccountName := cfg.serviceAccountName
  configHash := cfg.configHash
  podName := cfg.podName

/-- What the loop does with a token. -/
def storeToken (cfg : AgentConfig) (firstSuccess : Bool) (aws : MintedToken) :
    AgentProgram (Except Error Bool) := do
  match ← (atomicWrite cfg.awsTokenPath aws.token).run with
  | .error _ => pure (.error (.msg ("failed writing AWS token to " ++ cfg.awsTokenPath)))
  | .ok () => do
      if firstSuccess then pure () else .call .setReady .ret
      let jitter ← computeJitter cfg.maxJitterSeconds
      sleep (computeSleepSeconds aws.expiresInSeconds cfg.refreshSkewSeconds cfg.minRefreshSeconds
        jitter)
      pure (.ok true)

/-- The iteration is given up; the next one follows after the minimal pause. -/
def retryLater (cfg : AgentConfig) (firstSuccess : Bool) : AgentProgram (Except Error Bool) := do
  sleep cfg.minRefreshSeconds
  pure (.ok firstSuccess)

/-- What the loop does with the result of `mint`. -/
def afterMint (cfg : AgentConfig) (firstSuccess : Bool) :
    Except MintError MintResponse → AgentProgram (Except Error Bool)
  | .ok resp =>
      match resp.aws with
      | some aws => storeToken cfg firstSuccess aws
      | none => retryLater cfg firstSuccess
  -- The configuration has changed since the Pod was admitted.
  | .error .configHashMismatch => pure (.error (.msg "config hash mismatch"))
  | .error (.other _) => retryLater cfg firstSuccess

/-- An iteration that has read the token file. -/
def refreshWith (cfg : AgentConfig) (firstSuccess : Bool) (contents : String) :
    AgentProgram (Except Error Bool) :=
  let saToken := Text.trim contents
  if saToken = "" then retryLater cfg firstSuccess
  else do
    let result ← mint cfg.federationUrl saToken cfg.mintRequest
    afterMint cfg firstSuccess result

def refreshIteration (cfg : AgentConfig) (firstSuccess : Bool) :
    AgentProgram (Except Error Bool) :=
  .call (.readToString cfg.saTokenPath) fun
    | .error _ => retryLater cfg firstSuccess
    | .ok contents => refreshWith cfg firstSuccess contents

/-- `refresh_loop`, for its first iterations; the loop of the source has no last one. -/
def refreshLoop (cfg : AgentConfig) : ℕ → Bool → AgentProgram (Except Error Bool)
  | 0, firstSuccess => pure (.ok firstSuccess)
  | n + 1, firstSuccess => do
      match ← refreshIteration cfg firstSuccess with
      | .error e => pure (.error e)
      | .ok firstSuccess => refreshLoop cfg n firstSuccess

/-! ### What an iteration sends, and what ends the loop -/

section Iteration

variable {cfg : AgentConfig} {firstSuccess : Bool} {contents : String}

/-- A token that can be sent. -/
def Sendable (token : String) : Prop :=
  token ≠ "" ∧ (bearerAuth token).toList.all isHeaderChar = true

instance (token : String) : Decidable (Sendable token) := inferInstanceAs (Decidable (_ ∧ _))

/-- The request that the loop posts with a token. -/
def AgentConfig.post (cfg : AgentConfig) (token : String) : AgentRequest :=
  .post (mintUrl cfg.federationUrl) (bearerAuth token) cfg.mintRequest.toJson

lemma refreshWith_sendable (h : Sendable (Text.trim contents)) :
    refreshWith cfg firstSuccess contents =
      .call (cfg.post (Text.trim contents)) fun r => afterMint cfg firstSuccess (mintResult r) := by
  simp only [refreshWith, mint, h.1, h.2, if_true, if_false]
  rfl

lemma refreshWith_not_sendable (h : ¬ Sendable (Text.trim contents)) :
    refreshWith cfg firstSuccess contents = retryLater cfg firstSuccess := by
  by_cases hempty : Text.trim contents = ""
  · simp [refreshWith, hempty]
  · have hheader : ¬ (bearerAuth (Text.trim contents)).toList.all isHeaderChar = true :=
      fun hheader => h ⟨hempty, hheader⟩
    simp only [refreshWith, mint, hempty, hheader, if_false]
    rfl

lemma fileOp_sends {P : AgentRequest → Prop} {q : AgentRequest}
    {h : q.Answer = Except String Unit} {context : String} (hq : P q) :
    (fileOp q h context).run.Sends P := ⟨hq, fun _ => trivial⟩

/-- Of its requests, an iteration posts this one only. -/
def PostsOnly (cfg : AgentConfig) (q : AgentRequest) : Prop :=
  ∀ url authorization body, q = .post url authorization body → ∃ token, q = cfg.post token

lemma retryLater_sends : (retryLater cfg firstSuccess).Sends (PostsOnly cfg) :=
  ⟨nofun, fun _ => trivial⟩

lemma computeJitter_sends {maxJitter : UInt64} : (computeJitter maxJitter).Sends (PostsOnly cfg) := by
  unfold computeJitter
  split
  · trivial
  · exact ⟨nofun, fun _ => trivial⟩

lemma storeToken_sends (aws : MintedToken) :
    (storeToken cfg firstSuccess aws).Sends (PostsOnly cfg) := by
  have hwrite : (atomicWrite cfg.awsTokenPath aws.token).run.Sends (PostsOnly cfg) :=
    (fileOp_sends nofun).run_bind fun _ => (fileOp_sends nofun).run_bind fun _ =>
      (fileOp_sends nofun).run_bind fun _ => (fileOp_sends nofun).run_bind fun _ =>
        fileOp_sends nofun
  have hsleep : ∀ jitter, (sleep (computeSleepSeconds aws.expiresInSeconds cfg.refreshSkewSeconds
      cfg.minRefreshSeconds jitter) >>= fun _ => pure (.ok true) :
        AgentProgram (Except Error Bool)).Sends (PostsOnly cfg) :=
    fun jitter => ⟨nofun, fun _ => trivial⟩
  refine hwrite.bind fun res => ?_
  cases res with
  | error e => trivial
  | ok _ =>
      cases firstSuccess with
      | true => exact computeJitter_sends.bind hsleep
      | false => exact ⟨nofun, fun _ => computeJitter_sends.bind hsleep⟩

lemma afterMint_sends (result : Except MintError MintResponse) :
    (afterMint cfg firstSuccess result).Sends (PostsOnly cfg) := by
  match result with
  | .ok ⟨some aws⟩ => exact storeToken_sends aws
  | .ok ⟨none⟩ => exact retryLater_sends
  | .error .configHashMismatch => trivial
  | .error (.other _) => exact retryLater_sends

/-- **Every mint request of the loop is the one its configuration makes.** -/
lemma refreshIteration_sends :
    (refreshIteration cfg firstSuccess).Sends (PostsOnly cfg) := by
  refine ⟨nofun, fun r => ?_⟩
  match r with
  | .error _ => exact retryLater_sends
  | .ok contents =>
      rcases Decidable.em (Sendable (Text.trim contents)) with h | h
      · simp only [refreshWith_sendable h]
        exact ⟨fun _ _ _ _ => ⟨_, rfl⟩, fun r => afterMint_sends _⟩
      · simp only [refreshWith_not_sendable h]
        exact retryLater_sends

/-- The loop does send it with every token that can be sent. -/
lemma post_of_sends {P : AgentRequest → Prop} (h : (refreshIteration cfg firstSuccess).Sends P)
    (hsendable : Sendable (Text.trim contents)) : P (cfg.post (Text.trim contents)) := by
  unfold refreshIteration at h
  obtain ⟨-, hwith⟩ := h
  have hsends := hwith (.ok contents)
  simp only [refreshWith_sendable hsendable] at hsends
  exact hsends.1

/-! ### The agent in a world that answers its requests -/

/-- A world in which every operation on files succeeds. -/
structure FilesSucceed (world : (q : AgentRequest) → q.Answer) : Prop where
  createParentDirs : ∀ path, world (.createParentDirs path) = .ok ()
  createFile : ∀ path, world (.createFile path) = .ok ()
  writeAll : ∀ path contents, world (.writeAll path contents) = .ok ()
  syncAll : ∀ path, world (.syncAll path) = .ok ()
  rename : ∀ source target, world (.rename source target) = .ok ()

/-- The result of an iteration whose requests are answered by `world`. -/
def iterate (cfg : AgentConfig) (firstSuccess : Bool) (world : (q : AgentRequest) → q.Answer) :
    Except Error Bool :=
  ((refreshIteration cfg firstSuccess).exec (fun _ q => (world q, ())) ()).1

/-- The mint request of an iteration is answered by `r`. -/
def MintAnswered (cfg : AgentConfig) (world : (q : AgentRequest) → q.Answer)
    (r : Except PostError HttpResponse) : Prop :=
  ∃ contents, world (.readToString cfg.saTokenPath) = .ok contents ∧
    Sendable (Text.trim contents) ∧
    world (.post (mintUrl cfg.federationUrl) (bearerAuth (Text.trim contents))
      cfg.mintRequest.toJson) = r

lemma mintResult_mismatch_iff {r : Except PostError HttpResponse} :
    mintResult r = .error .configHashMismatch ↔ ∃ resp, r = .ok resp ∧ resp.status = 409 := by
  cases r with
  | error e => simp [mintResult]
  | ok resp =>
      have hstatus : mintResult (.ok resp) = .error .configHashMismatch ↔ resp.status = 409 := by
        unfold mintResult
        by_cases h200 : resp.status = 200
        · simp only [h200, if_true]
          refine ⟨fun h => ?_, nofun⟩
          split at h
          · cases h
          · split at h <;> cases h
        · by_cases h409 : resp.status = 409 <;> simp [h200, h409]
      simpa using hstatus

section World

variable {world : (q : AgentRequest) → q.Answer}

lemma exec_atomicWrite (hfiles : FilesSucceed world) (path contents : String) :
    (atomicWrite path contents).run.exec (fun _ q => (world q, ())) () = (.ok (), ()) := by
  simp only [atomicWrite, Program.exec_run_bind]
  simp [fileOp, hfiles.createParentDirs, hfiles.createFile, hfiles.writeAll, hfiles.syncAll,
    hfiles.rename, Except.mapError]

/-- What is done with a token ends the loop only when the token cannot be stored. -/
lemma exec_storeToken (hfiles : FilesSucceed world) (aws : MintedToken) :
    ((storeToken cfg firstSuccess aws).exec (fun _ q => (world q, ())) ()).1 = .ok true := by
  simp only [storeToken, Program.exec_bind, exec_atomicWrite hfiles]
  cases firstSuccess <;> simp [Program.exec_bind]

lemma exec_retryLater :
    ((retryLater cfg firstSuccess).exec (fun _ q => (world q, ())) ()).1 = .ok firstSuccess := rfl

lemma exec_afterMint (hfiles : FilesSucceed world) (result : Except MintError MintResponse) :
    (∃ e, ((afterMint cfg firstSuccess result).exec (fun _ q => (world q, ())) ()).1 = .error e) ↔
      result = .error .configHashMismatch := by
  match result with
  | .ok ⟨some aws⟩ => simp [afterMint, exec_storeToken hfiles]
  | .ok ⟨none⟩ => simp [afterMint, exec_retryLater]
  | .error .configHashMismatch => simp [afterMint]
  | .error (.other _) => simp [afterMint, exec_retryLater]

/-- **The agent terminates on a 409 and on no other answer**, as long as it can write its
files. -/
theorem iterate_error_iff (hfiles : FilesSucceed world) :
    (∃ e, iterate cfg firstSuccess world = .error e) ↔
      ∃ resp, MintAnswered cfg world (.ok resp) ∧ resp.status = 409 := by
  unfold iterate refreshIteration
  rw [Program.exec_call]
  cases hread : world (.readToString cfg.saTokenPath) with
  | error e => simp [MintAnswered, hread, exec_retryLater]
  | ok contents =>
      by_cases hsendable : Sendable (Text.trim contents)
      · have hanswered : ∀ r, MintAnswered cfg world r ↔
            world (cfg.post (Text.trim contents)) = r := by
          refine fun r => ⟨?_, fun h => ⟨contents, hread, hsendable, h⟩⟩
          rintro ⟨contents', hread', -, h⟩
          obtain rfl := Except.ok.inj (hread.symm.trans hread')
          exact h
        simp only [refreshWith_sendable hsendable, Program.exec_call, exec_afterMint hfiles,
          hanswered]
        exact mintResult_mismatch_iff
      · simp only [refreshWith_not_sendable hsendable, exec_retryLater]
        refine ⟨nofun, ?_⟩
        rintro ⟨resp, ⟨contents', hread', hsendable', -⟩, -⟩
        obtain rfl := Except.ok.inj (hread.symm.trans hread')
        exact absurd hsendable' hsendable

end World

end Iteration

end Agent

end IdentityFederation
