import IdentityFederation.Properties.Provenance
import IdentityFederation.Properties.Wire

/-!
# The lifetime of a token, from the binding to the sleep

The lifetime of a token is a number of seconds that starts as an optional field of a binding.
The federation service adds it to the clock, for `exp`, and sends it along; the agent takes a skew
and a jitter off it and sleeps for what is left, but never for less than its minimum.

Over the natural numbers this is `exp = iat + expiresInSeconds`, as long as the sum fits on a
64-bit clock, and `max (expiresInSeconds - skew - jitter) minimum`.  So a token is born expired
only when its lifetime is zero, and the agent is back before it expires exactly when the lifetime
is longer than the minimum and the skew is not zero (`token_lifetime`).
-/

namespace IdentityFederation

open Agent (AgentConfig computeSleepSeconds)

namespace Federation

/-! ## What is minted -/

/-- The claims of the token in an answer, and the lifetime that the agent reads in it. -/
structure Minted (state : AppState) (clock : ℕ → Time) (s : Cluster)
    (authorization : Option String) (req : MintRequest) (claims : AwsClaims)
    (expiresInSeconds : UInt64) : Prop where
  origin : ∃ username r aws, Authenticates s authorization username ∧
    s.rcrbs ⟨req.ns, req.serviceAccountName⟩ = some r ∧ r.spec.providers.aws = some aws ∧
    claims = claimsFor state clock username req r.spec aws ∧
    expiresInSeconds = aws.maxSessionDurationSeconds.getD 3600
  granted : ∃ token, signRs256 state.crypto state.signing claims = .ok token ∧
    Agent.mintResult (.ok (mintAnswer state clock s authorization req)) =
      .ok { aws := some { token := token, expiresInSeconds := expiresInSeconds } }

section Answers

variable {state : AppState} {clock : ℕ → Time} {s : Cluster} {authorization : Option String}
  {req : MintRequest}

lemma exists_minted (h : (mintAnswer state clock s authorization req).status = 200) :
    ∃ claims expiresInSeconds,
      Minted state clock s authorization req claims expiresInSeconds := by
  obtain ⟨username, r, aws, token, hauth, -, hr, haws, htoken, hres⟩ := mintAnswer_ok h
  refine ⟨_, _, ⟨username, r, aws, hauth, hr, haws, rfl, rfl⟩, token, htoken, ?_⟩
  rw [hres]
  exact mintResult_ok (mintResponse_ofJson?_toJson token _)

lemma claimsFor_exp {username : String} {spec : ResolvedCloudRoleBindingSpec}
    {aws : AwsProviderSpec} {claims : AwsClaims}
    (hclaims : claims = claimsFor state clock username req spec aws)
    (hfits : claims.iat.toNat + (aws.maxSessionDurationSeconds.getD 3600).toNat < UInt64.size) :
    claims.exp.toNat = claims.iat.toNat + (aws.maxSessionDurationSeconds.getD 3600).toNat := by
  unfold claimsFor at hclaims
  exact AwsClaims.new_exp _ _ _ _ _ _ _ _ _ _ hclaims hfits

/-- A token is issued at the first reading of the clock. -/
lemma Minted.iat {claims : AwsClaims} {expiresInSeconds : UInt64}
    (h : Minted state clock s authorization req claims expiresInSeconds) :
    claims.iat = nowUnixSeconds (clock 0) := by
  obtain ⟨username, r, aws, -, -, -, hclaims, -⟩ := h.origin
  rw [hclaims]
  unfold claimsFor
  cases r.spec.attributes <;> rfl

/-- Seconds are added without wrapping around when they fit on the clock. -/
lemma Minted.exp {claims : AwsClaims} {expiresInSeconds : UInt64}
    (h : Minted state clock s authorization req claims expiresInSeconds)
    (hfits : claims.iat.toNat + expiresInSeconds.toNat < UInt64.size) :
    claims.exp.toNat = claims.iat.toNat + expiresInSeconds.toNat := by
  obtain ⟨username, r, aws, -, -, -, hclaims, hexpires⟩ := h.origin
  rw [hexpires] at hfits ⊢
  exact claimsFor_exp hclaims hfits

end Answers

/-! ## What the agent sleeps for -/

/-- **The agent is back in time**, whatever the jitter, exactly when the lifetime is longer than
the minimum and the skew is not zero. -/
lemma sleep_lt_iff (cfg : AgentConfig) (expiresInSeconds : UInt64) :
    (∀ jitter ≤ cfg.maxJitterSeconds, computeSleepSeconds expiresInSeconds cfg.refreshSkewSeconds
        cfg.minRefreshSeconds jitter < expiresInSeconds) ↔
      cfg.minRefreshSeconds < expiresInSeconds ∧ 0 < cfg.refreshSkewSeconds := by
  simp only [UInt64.lt_iff_toNat_lt, Agent.computeSleepSeconds_toNat, UInt64.toNat_zero]
  constructor
  · intro h
    -- Without jitter the pause is longest.
    have hzero := h 0 UInt64.zero_le
    rw [UInt64.toNat_zero, Nat.sub_zero] at hzero
    omega
  · rintro ⟨hmin, hskew⟩ jitter -
    omega

/-! ## The theorem -/

/-- **The lifetime of a token.**  An answer with a token carries a lifetime that the agent reads
as it was sent.  If the clock does not overflow, the token expires after exactly this time, and it
is not born expired unless the lifetime is zero.  For every configuration of the agent, the pause
is the lifetime without skew and jitter, but at least the minimum; it ends before the lifetime does,
whatever the jitter, exactly when the minimum is shorter than the lifetime and the skew is not
zero. -/
theorem token_lifetime {state : AppState} {clock : ℕ → Time} {s : Cluster}
    {authorization : Option String} {req : MintRequest}
    (h : (mintAnswer state clock s authorization req).status = 200) :
    ∃ claims expiresInSeconds, Minted state clock s authorization req claims expiresInSeconds ∧
      (claims.iat.toNat + expiresInSeconds.toNat < UInt64.size →
        claims.exp.toNat = claims.iat.toNat + expiresInSeconds.toNat ∧
          (claims.iat < claims.exp ↔ 0 < expiresInSeconds)) ∧
      ∀ cfg : AgentConfig,
        (∀ jitter, (computeSleepSeconds expiresInSeconds cfg.refreshSkewSeconds
            cfg.minRefreshSeconds jitter).toNat =
          max (expiresInSeconds.toNat - cfg.refreshSkewSeconds.toNat - jitter.toNat)
            cfg.minRefreshSeconds.toNat) ∧
        ((∀ jitter ≤ cfg.maxJitterSeconds, computeSleepSeconds expiresInSeconds
            cfg.refreshSkewSeconds cfg.minRefreshSeconds jitter < expiresInSeconds) ↔
          cfg.minRefreshSeconds < expiresInSeconds ∧ 0 < cfg.refreshSkewSeconds) := by
  obtain ⟨claims, expiresInSeconds, hminted⟩ := exists_minted h
  refine ⟨claims, expiresInSeconds, hminted, fun hfits => ?_, fun cfg =>
    ⟨fun jitter => Agent.computeSleepSeconds_toNat .., sleep_lt_iff cfg expiresInSeconds⟩⟩
  have hexp := hminted.exp hfits
  refine ⟨hexp, ?_⟩
  rw [UInt64.lt_iff_toNat_lt, UInt64.lt_iff_toNat_lt, hexp, UInt64.toNat_zero]
  omega

/-- The role with a lifetime of its own. -/
def shopRoleFor (seconds : UInt64) : AwsProviderSpec :=
  { shopRole with maxSessionDurationSeconds := some seconds }

/-- A token for a quarter of an hour. -/
theorem token_lifetime_quarter :
    ∃ claims, Minted jsonState (fun _ => 0) (shopCluster (shopRoleFor 900)) (some "Bearer token")
        (requestOf "web-1") claims 900 ∧
      claims.exp.toNat = claims.iat.toNat + 900 := by
  obtain ⟨claims, expiresInSeconds, hminted, hlifetime, -⟩ :=
    token_lifetime (shopAnswer_status (shopRoleFor 900) "web-1")
  obtain ⟨username, r, aws, -, hr, haws, hclaims, hexpires⟩ := hminted.origin
  obtain rfl := Option.some.inj hr
  obtain rfl := Option.some.inj haws
  obtain rfl : expiresInSeconds = 900 := hexpires
  have hiat : claims.iat = 0 := by rw [hclaims]; rfl
  exact ⟨claims, hminted, (hlifetime (by rw [hiat]; decide)).1⟩

/-- A token for half a minute: an agent with the default configuration sleeps until it has
expired. -/
theorem sleeps_past_expiry :
    (∃ claims, Minted jsonState (fun _ => 0) (shopCluster (shopRoleFor 30)) (some "Bearer token")
        (requestOf "web-1") claims 30) ∧
      ∀ cfg : AgentConfig, cfg.refreshSkewSeconds = 300 → cfg.minRefreshSeconds = 30 →
        cfg.maxJitterSeconds = 60 → ∀ jitter ≤ cfg.maxJitterSeconds,
          ¬ computeSleepSeconds 30 cfg.refreshSkewSeconds cfg.minRefreshSeconds jitter < 30 := by
  constructor
  · obtain ⟨claims, expiresInSeconds, hminted⟩ :=
      exists_minted (shopAnswer_status (shopRoleFor 30) "web-1")
    obtain ⟨username, r, aws, -, hr, haws, -, hexpires⟩ := hminted.origin
    obtain rfl := Option.some.inj hr
    obtain rfl := Option.some.inj haws
    obtain rfl : expiresInSeconds = 30 := hexpires
    exact ⟨claims, hminted⟩
  · intro cfg hskew hmin _ jitter _
    rw [hskew, hmin, UInt64.lt_iff_toNat_lt, Agent.computeSleepSeconds_toNat]
    simp

end Federation

end IdentityFederation
