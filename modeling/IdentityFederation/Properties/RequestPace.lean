import IdentityFederation.Agent.World
import IdentityFederation.Framework.Pace
import IdentityFederation.Properties.TokenFile

/-!
# How often an agent asks for a token

Whatever the answers are, and however often the agent stops and starts again, it does not press the
federation service: an iteration that goes on ends with a pause of at least the minimal length, and
one that does not ends the process.  So with a full credit, worth one request, at each start, the
agent pays for its requests with the time that goes by (`Agent.requests_le`).
-/

namespace IdentityFederation

namespace Agent

open Interaction Program

/-! ## Requests that are free -/

/-- The request goes to the federation service. -/
def AgentRequest.isPost : AgentRequest → Bool
  | .post .. => true
  | _ => false

/-- A mint request costs the minimal pause; the clock of the world pays. -/
def meter (cfg : AgentConfig) : Meter AgentRequest World where
  price q := if q.isPost then cfg.minRefreshSeconds.toNat else 0
  clock := World.now
  capacity := cfg.minRefreshSeconds.toNat

/-- What a list of requests costs is the number of the mint requests in it. -/
lemma price_eq (cfg : AgentConfig) (qs : List AgentRequest) :
    (qs.map (meter cfg).price).sum = qs.countP AgentRequest.isPost * cfg.minRefreshSeconds.toNat := by
  induction qs with
  | nil => simp
  | cons q qs ih =>
      rw [List.map_cons, List.sum_cons, ih, List.countP_cons]
      cases hpost : q.isPost with
      | true => simp [meter, hpost, Nat.succ_mul, Nat.add_comm]
      | false => simp [meter, hpost]

section Free

variable {cfg : AgentConfig}

/-- No time is lost. -/
lemma now_le_serve (cfg : AgentConfig) (o : Outcome) (w : World) (q : AgentRequest) :
    w.now ≤ (World.serve cfg o w q).2.now := by
  have hoperate : ∀ path file, w.now ≤ (w.operate o path file).2.now := by
    intro path file
    rcases w.operate_eq o path file with heq | ⟨error, left, heq⟩ <;> rw [heq] <;>
      exact Nat.le_refl _
  cases q with
  | post _ _ _ => exact Nat.le_add_right _ _
  | sleep seconds => exact Nat.le_add_right _ _
  | createFile path => exact hoperate _ _
  | writeAll path contents => exact hoperate _ _
  | syncAll path => exact hoperate _ _
  | rename source target =>
      simp only [World.serve, World.rename]
      split
      · split <;> exact Nat.le_refl _
      · exact Nat.le_refl _
      · exact Nat.le_refl _
  | readToString _ => exact Nat.le_refl _
  | createParentDirs _ => exact Nat.le_refl _
  | setReady => exact Nat.le_refl _
  | draw _ => exact Nat.le_refl _

abbrev Free (cfg : AgentConfig) (q : AgentRequest) : Prop := (meter cfg).price q = 0

lemma atomicWrite_free (path contents : String) :
    (atomicWrite path contents).run.Sends (Free cfg) := by
  refine (fileOp_sends ?_).run_bind fun _ => (fileOp_sends ?_).run_bind fun _ =>
    (fileOp_sends ?_).run_bind fun _ => (fileOp_sends ?_).run_bind fun _ => fileOp_sends ?_
  all_goals rfl

lemma computeJitter_free (maxJitter : UInt64) : (computeJitter maxJitter).Sends (Free cfg) := by
  unfold computeJitter
  split
  · trivial
  · exact ⟨rfl, fun _ => trivial⟩

end Free

/-! ## The loop -/

section Loop

variable {cfg : AgentConfig} {allowed : World → AgentRequest → Outcome → Prop} {firstSuccess : Bool}
  {w : World} {credit : ℕ}

/-- An iteration that goes on leaves a full credit. -/
def Full (cfg : AgentConfig) (res : Except Error Bool) (credit : ℕ) : Prop :=
  ∀ firstSuccess, res = .ok firstSuccess → credit = (meter cfg).capacity

/-- A pause of at least the minimal length fills the credit. -/
lemma pause_keepsPace {seconds : UInt64} (hle : cfg.minRefreshSeconds.toNat ≤ seconds.toNat) :
    (sleep seconds >>= fun _ => pure (.ok firstSuccess) : AgentProgram (Except Error Bool)).KeepsPace
      (World.serve cfg) allowed (meter cfg) (Full cfg) credit w := by
  refine ⟨Nat.zero_le _, fun _ _ _ _ => ?_⟩
  show min cfg.minRefreshSeconds.toNat (credit - 0 + (w.now + seconds.toNat - w.now)) =
    cfg.minRefreshSeconds.toNat
  omega

lemma retryLater_keepsPace : (retryLater cfg firstSuccess).KeepsPace (World.serve cfg) allowed
    (meter cfg) (Full cfg) credit w :=
  pause_keepsPace le_rfl

lemma storeToken_keepsPace (aws : MintedToken) :
    (storeToken cfg firstSuccess aws).KeepsPace (World.serve cfg) allowed (meter cfg) (Full cfg)
      credit w := by
  have hsettle : ∀ credit w, (do
      let jitter ← computeJitter cfg.maxJitterSeconds
      sleep (computeSleepSeconds aws.expiresInSeconds cfg.refreshSkewSeconds cfg.minRefreshSeconds
        jitter)
      pure (.ok true) : AgentProgram (Except Error Bool)).KeepsPace (World.serve cfg) allowed
        (meter cfg) (Full cfg) credit w := by
    refine fun credit w => (keepsPace_of_free (computeJitter_free _) fun jitter credit w => ?_).bind
    refine pause_keepsPace ?_
    rw [computeSleepSeconds_toNat]
    exact le_max_right _ _
  refine (keepsPace_of_free (atomicWrite_free _ _) fun res credit w => ?_).bind
  cases res with
  | error e => exact nofun
  | ok _ =>
      cases firstSuccess with
      | true => exact hsettle credit w
      | false => exact ⟨Nat.zero_le _, fun _ _ => hsettle _ _⟩

lemma afterMint_keepsPace (result : Except MintError MintResponse) :
    (afterMint cfg firstSuccess result).KeepsPace (World.serve cfg) allowed (meter cfg) (Full cfg)
      credit w := by
  match result with
  | .ok ⟨some aws⟩ => exact storeToken_keepsPace aws
  | .ok ⟨none⟩ => exact retryLater_keepsPace
  | .error .configHashMismatch => exact nofun
  | .error (.other _) => exact retryLater_keepsPace

/-- An iteration sends one mint request at most, and pauses afterwards. -/
lemma refreshIteration_keepsPace (hcredit : credit = (meter cfg).capacity) :
    (refreshIteration cfg firstSuccess).KeepsPace (World.serve cfg) allowed (meter cfg) (Full cfg)
      credit w := by
  refine ⟨Nat.zero_le _, fun o _ => ?_⟩
  simp only [World.serve]
  cases o.contents with
  | error e => exact retryLater_keepsPace
  | ok contents =>
      rcases Decidable.em (Sendable (Text.trim contents)) with hsendable | hsendable
      · simp only [refreshWith_sendable hsendable]
        refine ⟨?_, fun o _ => afterMint_keepsPace _⟩
        have hprice : (meter cfg).price (cfg.post (Text.trim contents)) = (meter cfg).capacity := rfl
        have hfree : (meter cfg).price (.readToString cfg.saTokenPath) = 0 := rfl
        rw [hprice, hfree, hcredit]
        omega
      · simp only [refreshWith_not_sendable hsendable]
        exact retryLater_keepsPace

lemma refreshLoop_keepsPace (n : ℕ) :
    (refreshLoop cfg n firstSuccess).KeepsPace (World.serve cfg) allowed (meter cfg)
      (fun _ _ => True) (meter cfg).capacity w := by
  induction n generalizing firstSuccess w with
  | zero => trivial
  | succ n ih =>
      refine ((refreshIteration_keepsPace rfl).mono fun res credit hfull w => ?_).bind
      cases res with
      | error e => trivial
      | ok firstSuccess =>
          rw [hfull firstSuccess rfl]
          exact ih

end Loop

/-! ## Runs -/

/-- The mint requests of a run. -/
def mintRequests (cfg : AgentConfig)
    (p : Process AgentRequest AgentRequest.Answer World (Except Error Bool))
    (ls : List (Happening ℕ Outcome)) : ℕ :=
  ((agent cfg).sent p ls).countP AgentRequest.isPost

/-- **The agent does not press the federation service.**  Between any two moments of any run, with
any outcomes and any number of starts, the mint requests that are sent are at most as many as
minimal pauses fit in the time that has gone by, and one, and one for each start. -/
theorem requests_le (cfg : AgentConfig) {w : World}
    {p p' : Process AgentRequest AgentRequest.Answer World (Except Error Bool)}
    (hreach : Transition.Reachable (agent cfg).step (agent cfg).Guard (Service.off w) p)
    {ls : List (Happening ℕ Outcome)} (hrun : Transition.run (agent cfg).step p ls = some p') :
    mintRequests cfg p ls * cfg.minRefreshSeconds.toNat + p.shared.now ≤
      p'.shared.now + (Service.starts ls + 1) * cfg.minRefreshSeconds.toNat := by
  have hboot : ∀ n w, ((agent cfg).boot n).KeepsPace (agent cfg).serve (agent cfg).allowed
      (meter cfg) (fun _ _ => True) (meter cfg).capacity w := fun n w => refreshLoop_keepsPace n
  obtain ⟨credit, hcredit, hprog⟩ := Service.exists_credit hboot hreach
  have hguard : Transition.Guarded (agent cfg).step (agent cfg).Guard p ls := by
    refine Transition.guarded_of_forall (fun l _ p => ?_) p
    cases l with
    | start n => trivial
    | serve o => exact fun _ _ _ => trivial
  have hclock : ∀ o w q, (meter cfg).clock w ≤ (meter cfg).clock ((agent cfg).serve o w q).2 :=
    now_le_serve cfg
  have hreset : ∀ w, (meter cfg).clock w ≤ (meter cfg).clock ((agent cfg).reset w) :=
    fun w => le_refl w.now
  have hspent := Service.spent_le hclock hreset hboot hprog hguard hrun
  rw [price_eq] at hspent
  calc mintRequests cfg p ls * cfg.minRefreshSeconds.toNat + p.shared.now
      ≤ p'.shared.now + credit + Service.starts ls * cfg.minRefreshSeconds.toNat := hspent
    _ ≤ p'.shared.now + cfg.minRefreshSeconds.toNat +
        Service.starts ls * cfg.minRefreshSeconds.toNat :=
      Nat.add_le_add_right (Nat.add_le_add_left hcredit _) _
    _ = p'.shared.now + (Service.starts ls + 1) * cfg.minRefreshSeconds.toNat := by
      rw [Nat.succ_mul]
      omega

/-! ### An outage -/

/-- The federation service answers 503 after a second. -/
def unavailable : Outcome where
  contents := .ok "bearer"
  reply := .ok { status := 503, body := .text "no healthy upstream" }
  seconds := 1

/-- Two iterations fail, and another one after a second start, before its pause. -/
def threeAttempts : List (Happening ℕ Outcome) :=
  .start 2 :: List.replicate 6 (.serve unavailable) ++
    .start 1 :: List.replicate 2 (.serve unavailable)

theorem requests_le_outage :
    ∃ p, Transition.run (agent shopAgent).step (Service.off (World.fresh fun _ => none))
        threeAttempts = some p ∧ p.shared.now = 63 ∧
      mintRequests shopAgent (Service.off (World.fresh fun _ => none)) threeAttempts = 3 ∧
      3 * 30 + 0 ≤ p.shared.now + 3 * 30 := by
  obtain ⟨p, hrun, hnow⟩ : ∃ p,
      Transition.run (agent shopAgent).step (Service.off (World.fresh fun _ => none))
        threeAttempts = some p ∧ p.shared.now = 63 := Option.map_eq_some_iff.mp (by decide)
  have hcount : mintRequests shopAgent (Service.off (World.fresh fun _ => none)) threeAttempts = 3 :=
    by decide
  have hle := requests_le shopAgent .start hrun
  rw [hcount] at hle
  exact ⟨p, hrun, hnow, hcount, hle⟩

end Agent

end IdentityFederation
