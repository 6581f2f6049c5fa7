import IdentityFederation.Properties.Lifetime
import IdentityFederation.Properties.TokenFile

/-!
# How long an outage the agent tolerates

Time is counted in whole seconds.  It passes while the agent sleeps, and while it waits for a
reply, which takes at most `roundTrip`; a token is issued inside the round trip that brings it, and
expires `lifetime` seconds after its issue.

After a token was issued, at most a round trip goes by until it is on disk, then a pause, then for
each failed iteration another attempt and the minimal pause, and then the round trip that brings
the next token.  `InTime` is this account, kept for every moment of the loop: how late it can be,
given how many iterations have failed since the last write.  If the lifetime covers it for
`failures` failed iterations, the token on disk has not expired as long as no more iterations have
failed (`outage_tolerance`).
-/

namespace IdentityFederation

open Interaction Program

namespace Agent

/-! ## When a token expires -/

/-- The claims of the token say that it expires at this second. -/
def ExpiresAt (payload : String → Option Json) (token : String) (t : ℕ) : Prop :=
  ∃ document, payload token = some document ∧ document.path? ["exp"] = some (.num t)

/-- The token on disk has not expired at this second. -/
def Unexpired (payload : String → Option Json) (cfg : AgentConfig) (w : World) (x : ℕ) : Prop :=
  ∃ token t, w.files cfg.awsTokenPath = some token.toUTF8 ∧ ExpiresAt payload token t ∧ x < t

/-! ## The setting -/

/-- An agent, how its tokens are read, and the bounds of an outage. -/
structure Setting where
  cfg : AgentConfig
  payload : String → Option Json
  /-- What a mint request takes at most, in seconds. -/
  roundTrip : ℕ
  /-- How many iterations in a row may fail. -/
  failures : ℕ

namespace Setting

variable (st : Setting)

/-- The longest pause after a token with this lifetime. -/
def pause (lifetime : ℕ) : ℕ :=
  max (lifetime - st.cfg.refreshSkewSeconds.toNat) st.cfg.minRefreshSeconds.toNat

/-- What a failed iteration takes at most. -/
def attempt : ℕ := st.roundTrip + st.cfg.minRefreshSeconds.toNat

/-- The lifetime covers the outage. -/
def Covers (lifetime : ℕ) : Prop :=
  st.pause lifetime + st.failures * st.attempt + 2 * st.roundTrip < lifetime

/-- The reply is the answer of the federation service, given at a second inside the round trip.
The expiry fits on the clock of the service, and the lifetime covers the outage. -/
structure Issued (w : World) (o : Outcome) (aws : MintedToken) (state : Federation.AppState)
    (clock : ℕ → Time) (s : Cluster) (authorization : Option String)
    (req : Federation.MintRequest) : Prop where
  carries : Federation.CarriesClaims state.crypto st.payload
  reply : o.reply = .ok (Federation.mintAnswer state clock s authorization req)
  sent : w.now ≤ (nowUnixSeconds (clock 0)).toNat
  arrived : (nowUnixSeconds (clock 0)).toNat ≤ w.now + o.seconds
  fits : (nowUnixSeconds (clock 0)).toNat + aws.expiresInSeconds.toNat < UInt64.size
  covers : st.Covers aws.expiresInSeconds.toNat

/-- A mint request takes no longer than a round trip, and a token in the reply was issued in it.
When the token file is replaced, no more than the tolerated number of iterations has failed. -/
def Timely (w : World) (q : AgentRequest) (o : Outcome) : Prop :=
  match q with
  | .post .. => o.seconds ≤ st.roundTrip ∧ ∀ aws, mintedToken o.reply = some aws →
      ∃ state clock s authorization req, st.Issued w o aws state clock s authorization req
  | .rename .. => o.file = .done → w.contents ≠ [] → w.failures ≤ st.failures
  | _ => True

/-- One run of the loop; it is not started again. -/
def loop : Service AgentRequest AgentRequest.Answer Empty World Outcome (Except Error Bool) where
  serve := World.serve st.cfg
  allowed := st.Timely
  boot := Empty.elim
  reset := id

/-- The loop at its beginning, for `n` iterations. -/
def begin (w : World) (n : ℕ) : Process AgentRequest AgentRequest.Answer World (Except Error Bool)
    where
  shared := w
  program := some (refreshLoop st.cfg n false)

/-- What is reached from here. -/
abbrev Later (p p' : Process AgentRequest AgentRequest.Answer World (Except Error Bool)) : Prop :=
  Transition.Reachable st.loop.step st.loop.Guard p p'

end Setting

/-! ## What is issued -/

section Issued

/-- Only a 200 has a token in it. -/
lemma mintedToken_eq_some {reply : Except PostError HttpResponse} {aws : MintedToken}
    (h : mintedToken reply = some aws) :
    ∃ resp, reply = .ok resp ∧ resp.status = 200 ∧
      mintResult (.ok resp) = .ok { aws := some aws } := by
  unfold mintedToken at h
  split at h
  · rename_i resp hresult
    obtain ⟨aws'⟩ := resp
    obtain rfl : aws' = some aws := h
    cases reply with
    | error e => cases hresult
    | ok resp =>
        refine ⟨resp, rfl, ?_, hresult⟩
        by_contra hstatus
        unfold mintResult at hresult
        simp only [hstatus, if_false] at hresult
        split at hresult <;> cases hresult
  · cases h

variable {st : Setting} {w : World} {o : Outcome} {aws : MintedToken}
  {state : Federation.AppState} {clock : ℕ → Time} {s : Cluster} {authorization : Option String}
  {req : Federation.MintRequest}

/-- The token in an answer of the federation service, and its claims. -/
lemma mintedToken_mintAnswer
    (h : mintedToken (.ok (Federation.mintAnswer state clock s authorization req)) = some aws) :
    ∃ claims,
      Federation.Minted state clock s authorization req claims aws.expiresInSeconds ∧
      signRs256 state.crypto state.signing claims = .ok aws.token := by
  obtain ⟨resp, hresp, hstatus, hresult⟩ := mintedToken_eq_some h
  obtain rfl := Except.ok.inj hresp
  obtain ⟨claims, lifetime, hminted⟩ := Federation.exists_minted hstatus
  obtain ⟨token, hsigned, hgranted⟩ := hminted.granted
  obtain rfl : aws = { token := token, expiresInSeconds := lifetime } := by
    have heq := hresult.symm.trans hgranted
    simpa using heq
  exact ⟨claims, hminted, hsigned⟩

/-- A token that was issued expires its lifetime later. -/
lemma Setting.Issued.expiresAt (h : st.Issued w o aws state clock s authorization req)
    (haws : mintedToken o.reply = some aws) :
    ExpiresAt st.payload aws.token
      ((nowUnixSeconds (clock 0)).toNat + aws.expiresInSeconds.toNat) := by
  rw [h.reply] at haws
  obtain ⟨claims, hminted, hsigned⟩ := mintedToken_mintAnswer haws
  have hiat := hminted.iat
  have hexp := hminted.exp (by rw [hiat]; exact h.fits)
  refine ⟨claims.toJson, h.carries.signed hsigned, ?_⟩
  rw [claims.toJson_exp, hexp, hiat]

end Issued

/-! ## The account -/

/-- The token on disk was issued at `issuedAt`.  With `before` seconds to come, the next token is
late by `after` seconds at most. -/
structure Account (st : Setting) (before after : ℕ) (w : World) (token : String)
    (issuedAt lifetime : ℕ) : Prop where
  file : w.files st.cfg.awsTokenPath = some token.toUTF8
  expires : ExpiresAt st.payload token (issuedAt + lifetime)
  covers : st.Covers lifetime
  due : w.now + before ≤
    issuedAt + st.roundTrip + st.pause lifetime + w.failures * st.attempt + after

/-- Once a token was written, there is an account of it. -/
def InTime (st : Setting) (before after : ℕ) (w : World) : Prop :=
  w.contents ≠ [] → ∃ token issuedAt lifetime, Account st before after w token issuedAt lifetime

section Account

variable {st : Setting} {w w' : World} {before after before' after' : ℕ}

/-- The rule of a step that leaves the token file alone: what it takes is covered by what is to
come, by the failures that were counted, or by being late. -/
lemma InTime.step (h : InTime st before after w)
    (hfile : w'.files st.cfg.awsTokenPath = w.files st.cfg.awsTokenPath)
    (hcontents : w'.contents = w.contents)
    (htime : w'.now + before' + w.failures * st.attempt + after ≤
      w.now + before + w'.failures * st.attempt + after') : InTime st before' after' w' := by
  intro hwritten
  rw [hcontents] at hwritten
  obtain ⟨token, issuedAt, lifetime, haccount⟩ := h hwritten
  refine ⟨token, issuedAt, lifetime, hfile.trans haccount.file, haccount.expires, haccount.covers, ?_⟩
  have hdue := haccount.due
  omega

/-- The token on disk has not expired while no more iterations have failed than are tolerated. -/
lemma InTime.unexpired (h : InTime st before after w) (hafter : after ≤ st.roundTrip)
    (hwritten : w.contents ≠ []) (hfailures : w.failures ≤ st.failures) {x : ℕ}
    (hx : x ≤ w.now + before) : Unexpired st.payload st.cfg w x := by
  obtain ⟨token, issuedAt, lifetime, haccount⟩ := h hwritten
  refine ⟨token, issuedAt + lifetime, haccount.file, haccount.expires, ?_⟩
  have hdue := haccount.due
  have hcovers : st.pause lifetime + st.failures * st.attempt + 2 * st.roundTrip < lifetime :=
    haccount.covers
  have hcost : w.failures * st.attempt ≤ st.failures * st.attempt :=
    Nat.mul_le_mul_right _ hfailures
  omega

/-- A token that has just been written, at most a round trip after its issue. -/
structure JustWritten (st : Setting) (aws : MintedToken) (w : World) : Prop where
  file : w.files st.cfg.awsTokenPath = some aws.token.toUTF8
  covers : st.Covers aws.expiresInSeconds.toNat
  issued : ∃ issuedAt, ExpiresAt st.payload aws.token (issuedAt + aws.expiresInSeconds.toNat) ∧
    w.now ≤ issuedAt + st.roundTrip

/-- The pause after a token is no longer than what the account allows. -/
lemma JustWritten.inTime {aws : MintedToken} (h : JustWritten st aws w) {seconds : ℕ}
    (hseconds : seconds ≤ st.pause aws.expiresInSeconds.toNat) : InTime st seconds 0 w := by
  intro _
  obtain ⟨issuedAt, hexpires, hnow⟩ := h.issued
  refine ⟨aws.token, issuedAt, _, h.file, hexpires, h.covers, ?_⟩
  omega

lemma computeSleepSeconds_le_pause (st : Setting) (expiresInSeconds jitter : UInt64) :
    (computeSleepSeconds expiresInSeconds st.cfg.refreshSkewSeconds st.cfg.minRefreshSeconds
      jitter).toNat ≤ st.pause expiresInSeconds.toNat := by
  rw [computeSleepSeconds_toNat, Setting.pause]
  omega

end Account

/-! ## The loop -/

section Loop

variable {st : Setting} {w : World} {firstSuccess : Bool}

/-- What holds between iterations, when one has gone well. -/
def Resumes (st : Setting) (res : Except Error Bool) (w : World) : Prop :=
  ∀ firstSuccess, res = .ok firstSuccess → InTime st 0 0 w

lemma retryLater_inTime (h : InTime st st.cfg.minRefreshSeconds.toNat 0 w) :
    (retryLater st.cfg firstSuccess).Survives (World.serve st.cfg) st.Timely
      (InTime st 0 st.roundTrip) (Resumes st) w := by
  have hslept : InTime st 0 0 (w.slept st.cfg.minRefreshSeconds) := by
    refine h.step rfl rfl ?_
    simp only [World.slept]
    omega
  refine retryLater_survives (h.step rfl rfl (by omega)) ⟨hslept.step rfl rfl (by omega), ?_⟩
  exact fun _ _ => hslept

lemma storeToken_inTime {aws : MintedToken} (h : InTime st 0 st.roundTrip w)
    (hwritten : JustWritten st aws (w.written st.cfg aws.token)) :
    (storeToken st.cfg firstSuccess aws).Survives (World.serve st.cfg) st.Timely
      (InTime st 0 st.roundTrip) (Resumes st) w := by
  refine storeToken_survives (JustWritten st aws) ?_ ?_ ?_ ?_ nofun hwritten
  · exact fun w hw => (hw.inTime (Nat.zero_le _)).step rfl rfl (by omega)
  · exact fun w hw => ⟨hw.file, hw.covers, hw.issued⟩
  · intro w jitter hw
    have hslept : InTime st 0 0 (w.slept (computeSleepSeconds aws.expiresInSeconds
        st.cfg.refreshSkewSeconds st.cfg.minRefreshSeconds jitter)) := by
      refine (hw.inTime (computeSleepSeconds_le_pause st aws.expiresInSeconds jitter)).step
        rfl rfl ?_
      simp only [World.slept]
      omega
    exact ⟨hslept.step rfl rfl (by omega), fun _ _ => hslept⟩
  · exact fun file => h.step (w.files_put_tmp st.cfg file) rfl (by simp only [World.put]; omega)

/-- A failed iteration is paid for when it is counted. -/
lemma InTime.failed (h : InTime st 0 0 w) {w' : World}
    (hfile : w'.files st.cfg.awsTokenPath = w.files st.cfg.awsTokenPath)
    (hcontents : w'.contents = w.contents) (hfailures : w'.failures = w.failures + 1)
    (htime : w'.now ≤ w.now + st.roundTrip) :
    InTime st st.cfg.minRefreshSeconds.toNat 0 w' := by
  refine h.step hfile hcontents ?_
  have hattempt : st.attempt = st.roundTrip + st.cfg.minRefreshSeconds.toNat := rfl
  have hcost : (w.failures + 1) * st.attempt = w.failures * st.attempt + st.attempt :=
    Nat.succ_mul ..
  rw [hfailures, hcost]
  omega

lemma afterMint_inTime (h : InTime st 0 0 w) {o : Outcome} (hseconds : o.seconds ≤ st.roundTrip)
    (hissued : ∀ aws, mintedToken o.reply = some aws →
      ∃ state clock s authorization req, st.Issued w o aws state clock s authorization req) :
    (afterMint st.cfg firstSuccess (mintResult o.reply)).Survives (World.serve st.cfg) st.Timely
      (InTime st 0 st.roundTrip) (Resumes st) (w.receive o) := by
  have hnow : (w.receive o).now = w.now + o.seconds := rfl
  -- Without a token in the reply, the iteration has failed.
  have hfailed : mintedToken o.reply = none →
      InTime st st.cfg.minRefreshSeconds.toNat 0 (w.receive o) := by
    intro hnone
    refine h.failed rfl rfl ?_ (by omega)
    simp [World.receive, World.countFailure, hnone]
  cases hresult : mintResult o.reply with
  | ok response =>
    obtain ⟨_ | aws⟩ := response
    · exact retryLater_inTime (hfailed (by simp [mintedToken, hresult]))
    · have haws : mintedToken o.reply = some aws := by simp [mintedToken, hresult]
      obtain ⟨state, clock, s, authorization, req, hissued⟩ := hissued aws haws
      have hfailures : (w.receive o).failures = w.failures := by
        simp [World.receive, World.countFailure, haws]
      refine storeToken_inTime (h.step rfl rfl (by rw [hfailures]; omega)) ?_
      refine ⟨World.files_written .., hissued.covers, _, hissued.expiresAt haws, ?_⟩
      have hsent := hissued.sent
      have hwritten : ((w.receive o).written st.cfg aws.token).now = w.now + o.seconds := rfl
      omega
  | error e =>
    cases e with
    | other failure => exact retryLater_inTime (hfailed (by simp [mintedToken, hresult]))
    | configHashMismatch =>
        have hlast := hfailed (by simp [mintedToken, hresult])
        refine ⟨hlast.step rfl rfl (by omega), fun _ hres => ?_⟩
        cases hres

lemma refreshIteration_inTime (h : InTime st 0 0 w) :
    (refreshIteration st.cfg firstSuccess).Survives (World.serve st.cfg) st.Timely
      (InTime st 0 st.roundTrip) (Resumes st) w := by
  refine refreshIteration_survives (h.step rfl rfl (by omega)) ?_ ?_
  · exact retryLater_inTime (h.failed rfl rfl rfl (Nat.le_add_right _ _))
  · exact fun token o ho => afterMint_inTime h ho.1 ho.2

/-- **The account is kept at every moment of the loop.** -/
lemma refreshLoop_inTime (n : ℕ) (h : InTime st 0 0 w) :
    (refreshLoop st.cfg n firstSuccess).Survives (World.serve st.cfg) st.Timely
      (InTime st 0 st.roundTrip) (fun _ _ => True) w :=
  refreshLoop_survives (InTime st 0 0) (fun w hw => hw.step rfl rfl (by omega))
    (fun w firstSuccess hw => refreshIteration_inTime hw) n h

end Loop

/-! ## Failures and time -/

section Serve

variable {st : Setting} {w : World} {q : AgentRequest} {o : Outcome}

lemma operate_bookkeeping (w : World) (o : Outcome) (path : String) (file : Option ByteArray) :
    (w.operate o path file).2.contents = w.contents ∧
      (w.operate o path file).2.failures = w.failures ∧ (w.operate o path file).2.now = w.now := by
  rcases w.operate_eq o path file with heq | ⟨error, left, heq⟩
  · rw [heq]
    exact ⟨rfl, rfl, rfl⟩
  · rw [heq]
    exact ⟨rfl, rfl, rfl⟩

lemma failures_le_countFailure (w : World) (failed : Bool) :
    w.failures ≤ (w.countFailure failed).failures := by
  simp only [World.countFailure]
  split <;> omega

/-- Failures are counted until the token file is replaced, which the setting allows only while they
are tolerated. -/
lemma Setting.Timely.failures (h : st.Timely w q o) (hwritten : w.contents ≠ []) :
    w.failures ≤ st.failures ∨ (World.serve st.cfg o w q).2.contents = w.contents ∧
      w.failures ≤ (World.serve st.cfg o w q).2.failures := by
  cases q with
  | readToString path => exact .inr ⟨rfl, failures_le_countFailure w _⟩
  | post url authorization body => exact .inr ⟨rfl, failures_le_countFailure w _⟩
  | createFile path | writeAll path contents | syncAll path =>
      obtain ⟨hcontents, hfailures, -⟩ := operate_bookkeeping w o path _
      exact .inr ⟨hcontents, hfailures.ge⟩
  | rename source target =>
      cases hfile : o.file with
      | done => exact .inl (h hfile hwritten)
      | failed error left => simp [World.serve, World.rename, hfile]
  | createParentDirs path | setReady | draw max | sleep seconds => exact .inr ⟨rfl, le_rfl⟩

/-- Time passes only while the files stay as they are. -/
lemma serve_now (cfg : AgentConfig) (o : Outcome) (w : World) (q : AgentRequest) :
    (World.serve cfg o w q).2.now = w.now ∨
      (World.serve cfg o w q).2.files = w.files ∧
        (World.serve cfg o w q).2.contents = w.contents := by
  cases q with
  | createFile path | writeAll path contents | syncAll path =>
      exact .inl (operate_bookkeeping w o path _).2.2
  | rename source target =>
      refine .inl ?_
      simp only [World.serve, World.rename]
      split
      · split <;> rfl
      · rfl
      · rfl
  | readToString path | createParentDirs path | setReady | draw max => exact .inl rfl
  | post url authorization body | sleep seconds => exact .inr ⟨rfl, rfl⟩

end Serve

/-! ## The theorem -/

section Runs

variable {st : Setting}
  {p p' : Process AgentRequest AgentRequest.Answer World (Except Error Bool)}

/-- From a moment with a token on disk: the failures of that moment are tolerated, or the token is
still there and they have not become fewer. -/
lemma later_failures (h : st.Later p p') (hwritten : p.shared.contents ≠ []) :
    p.shared.failures ≤ st.failures ∨ p'.shared.contents = p.shared.contents ∧
      p.shared.failures ≤ p'.shared.failures := by
  refine h.invariant (I := fun p' => p.shared.failures ≤ st.failures ∨
    p'.shared.contents = p.shared.contents ∧ p.shared.failures ≤ p'.shared.failures)
    (.inr ⟨rfl, le_rfl⟩) ?_
  rintro p₁ (i | o) p₂ (htolerated | ⟨hcontents, hfailures⟩) hguard hstep
  · exact i.elim
  · exact i.elim
  · exact .inl htolerated
  · obtain ⟨q, k, hcall, hshared, -⟩ := Service.step_serve hstep
    rw [hshared]
    have hnow : p₁.shared.contents ≠ [] := by rwa [hcontents]
    rcases (hguard q k hcall).failures hnow with htolerated | ⟨hkept, hmore⟩
    · exact .inl (hfailures.trans htolerated)
    · exact .inr ⟨hkept.trans hcontents, hfailures.trans hmore⟩

/-- The failures are tolerated when they are later, or when another token comes. -/
lemma failures_le_of_later (h : st.Later p p') (hwritten : p.shared.contents ≠ [])
    (hlater : p'.shared.failures ≤ st.failures ∨
      p.shared.contents.length < p'.shared.contents.length) :
    p.shared.failures ≤ st.failures := by
  rcases later_failures h hwritten with htolerated | ⟨hcontents, hfailures⟩
  · exact htolerated
  · rcases hlater with hlater | hlater
    · exact hfailures.trans hlater
    · rw [hcontents] at hlater
      omega

lemma later_inTime {w : World} (hfresh : w.contents = []) {n : ℕ} (h : st.Later (st.begin w n) p) :
    InTime st 0 st.roundTrip p.shared := by
  have hinit : InTime st 0 0 w := fun hwritten => absurd hfresh hwritten
  have hcrash : InTime st 0 st.roundTrip w := fun hwritten => absurd hfresh hwritten
  have hloop : ∀ prog ∈ (st.begin w n).program, prog.Survives st.loop.serve st.loop.allowed
      (InTime st 0 st.roundTrip) (fun _ _ => True) w := by
    intro prog hprog
    obtain rfl := Option.some.inj hprog
    exact refreshLoop_inTime n hinit
  exact (Service.reachable_survives (fun i => i.elim) hcrash hloop h).1

end Runs

/-- **Outage tolerance.**  A run of the loop in which every mint request takes `roundTrip` seconds
at most, every token is issued inside its round trip with a lifetime that covers the outage, and at
most `failures` iterations fail between two tokens.  At every moment after the first token and
before another one, through the time that the next request takes, the token on disk has not
expired.  The same is true after the last token until more than `failures` iterations have
failed. -/
theorem outage_tolerance (st : Setting) {w : World} (hfresh : w.contents = []) {n : ℕ}
    {p p' : Process AgentRequest AgentRequest.Answer World (Except Error Bool)}
    (h : st.Later (st.begin w n) p) (hminted : p.shared.contents ≠ [])
    {l : Happening Empty Outcome} (hguard : st.loop.Guard p l) (hstep : st.loop.step p l = some p')
    (hmore : p'.shared.failures ≤ st.failures ∨
      ∃ p'', st.Later p' p'' ∧ p.shared.contents.length < p''.shared.contents.length)
    {x : ℕ} (hfrom : p.shared.now ≤ x) (huntil : x ≤ p'.shared.now) :
    Unexpired st.payload st.cfg p.shared x := by
  have hnext : st.Later p p' := .step .start hguard hstep
  have htolerated : p.shared.failures ≤ st.failures := by
    rcases hmore with hfew | ⟨p'', hlater, hlonger⟩
    · exact failures_le_of_later hnext hminted (.inl hfew)
    · exact failures_le_of_later (hnext.trans hlater) hminted (.inr hlonger)
  cases l with
  | start i => exact i.elim
  | serve o =>
      obtain ⟨q, k, -, hshared, -⟩ := Service.step_serve hstep
      have hshared : p'.shared = (World.serve st.cfg o p.shared q).2 := hshared
      rcases serve_now st.cfg o p.shared q with hnow | ⟨hfiles, hcontents⟩
      · rw [← hshared] at hnow
        exact (later_inTime hfresh h).unexpired le_rfl hminted htolerated (by omega)
      · -- The file is the one of the next moment, when the failures are tolerated as well.
        rw [← hshared] at hfiles hcontents
        have hminted' : p'.shared.contents ≠ [] := by rwa [hcontents]
        have htolerated' : p'.shared.failures ≤ st.failures := by
          rcases hmore with hfew | ⟨p'', hlater, hlonger⟩
          · exact hfew
          · exact failures_le_of_later hlater hminted' (.inr (by rwa [hcontents]))
        obtain ⟨token, t, hfile, hexpires, hlt⟩ :=
          (later_inTime hfresh (h.trans hnext)).unexpired (x := x) le_rfl hminted' htolerated'
            (by omega)
        rw [hfiles] at hfile
        exact ⟨token, t, hfile, hexpires, hlt⟩

/-! ### An outage between two tokens -/

/-- Two failures in a row, with ten seconds for each request, are tolerated. -/
noncomputable def shopSetting : Setting where
  cfg := shopAgent
  payload := Federation.jsonPayload
  roundTrip := 10
  failures := 2

/-- `600 + 2 * 40 + 2 * 10 < 900`. -/
lemma shopSetting_covers : shopSetting.Covers (900 : UInt64).toNat := by
  have hskew : shopSetting.cfg.refreshSkewSeconds.toNat = 300 := rfl
  have hmin : shopSetting.cfg.minRefreshSeconds.toNat = 30 := rfl
  have hlifetime : (900 : UInt64).toNat = 900 := rfl
  have htrip : shopSetting.roundTrip = 10 := rfl
  have hfailures : shopSetting.failures = 2 := rfl
  unfold Setting.Covers Setting.pause Setting.attempt
  rw [hskew, hmin, hlifetime, htrip, hfailures]
  decide

/-- A clock that stands at second `t`. -/
def clockAt (t : ℕ) : ℕ → Time := fun _ => t * 1000000000

/-- A ServiceAccount whose tokens are valid for a quarter of an hour. -/
def quarterCluster : Cluster := Federation.shopCluster (Federation.shopRoleFor 900)

/-- The answer of the federation service at second `t`. -/
def answerAt (t : ℕ) : HttpResponse :=
  Federation.mintAnswer Federation.jsonState (clockAt t) quarterCluster (some "Bearer token")
    (Federation.requestOf "web-1")

/-- What happens at a request. -/
inductive Turn where
  /-- It is answered at once. -/
  | served
  /-- It fails after some seconds. -/
  | fails (seconds : ℕ)
  /-- It brings a token that is issued at second `t`. -/
  | mints (seconds t : ℕ)

def Turn.outcome : Turn → Outcome
  | .served => { contents := .ok "bearer" }
  | .fails seconds => { seconds := seconds }
  | .mints seconds t => { reply := .ok (answerAt t), seconds := seconds }

/-- The turn keeps to the setting. -/
def Turn.Fits (p : Process AgentRequest AgentRequest.Answer World (Except Error Bool)) :
    Turn → Prop
  | .served => p.shared.failures ≤ 2
  | .fails seconds => seconds ≤ 10 ∧ p.shared.failures ≤ 2
  | .mints seconds t => seconds ≤ 10 ∧ p.shared.failures ≤ 2 ∧ p.shared.now ≤ t ∧
      t ≤ p.shared.now + seconds ∧ t < 1000

instance : ∀ p turn, Decidable (Turn.Fits p turn)
  | p, .served => inferInstanceAs (Decidable (p.shared.failures ≤ 2))
  | p, .fails seconds => inferInstanceAs (Decidable (seconds ≤ 10 ∧ p.shared.failures ≤ 2))
  | p, .mints seconds t => inferInstanceAs (Decidable (seconds ≤ 10 ∧ p.shared.failures ≤ 2 ∧
      p.shared.now ≤ t ∧ t ≤ p.shared.now + seconds ∧ t < 1000))

lemma answerAt_lifetime {t : ℕ} {aws : MintedToken} (h : mintedToken (.ok (answerAt t)) = some aws) :
    aws.expiresInSeconds = 900 := by
  obtain ⟨claims, hminted, -⟩ := mintedToken_mintAnswer h
  obtain ⟨username, r, provider, -, hr, hprovider, -, hlifetime⟩ := hminted.origin
  obtain rfl := Option.some.inj hr
  obtain rfl := Option.some.inj hprovider
  exact hlifetime

lemma nowUnixSeconds_clockAt {t : ℕ} (h : t < 1000) :
    (nowUnixSeconds (clockAt t 0)).toNat = t := by
  have hdiv : ((t * 1000000000 : Int) / 1000000000).toNat = t := by
    rw [Int.mul_ediv_cancel _ (by decide), Int.toNat_natCast]
  have hsize : t < UInt64.size := h.trans (by decide)
  unfold nowUnixSeconds clockAt
  rw [hdiv, UInt64.toNat_ofNat_of_lt' hsize]

lemma guard_of_fits {p : Process AgentRequest AgentRequest.Answer World (Except Error Bool)}
    {turn : Turn} (h : turn.Fits p) : shopSetting.loop.Guard p (.serve turn.outcome) := by
  intro q k _
  have hfailures : p.shared.failures ≤ 2 := by
    cases turn with
    | served => exact h
    | fails seconds => exact h.2
    | mints seconds t => exact h.2.1
  cases q with
  | rename source target => exact fun _ _ => hfailures
  | post url authorization body =>
      cases turn with
      | served => exact ⟨Nat.zero_le _, nofun⟩
      | fails seconds => exact ⟨h.1, nofun⟩
      | mints seconds t =>
          obtain ⟨hseconds, -, hsent, harrived, ht⟩ := h
          refine ⟨hseconds, fun aws haws => ⟨Federation.jsonState, clockAt t, quarterCluster,
            some "Bearer token", Federation.requestOf "web-1", ?_⟩⟩
          have hlifetime := answerAt_lifetime haws
          have hnow := nowUnixSeconds_clockAt ht
          refine ⟨Federation.carriesClaims_jsonTokens, rfl, ?_, ?_, ?_, ?_⟩
          · rwa [hnow]
          · rwa [hnow]
          · have hsize : t + 900 < UInt64.size := by
              have hsize : 1900 < UInt64.size := by decide
              omega
            rw [hnow, hlifetime]
            exact hsize
          · rw [hlifetime]
            exact shopSetting_covers
  | _ => trivial

/-- The process is served one turn after another. -/
noncomputable def take (p : Process AgentRequest AgentRequest.Answer World (Except Error Bool))
    (turn : Turn) : Option (Process AgentRequest AgentRequest.Answer World (Except Error Bool)) :=
  shopSetting.loop.step p (.serve turn.outcome)

lemma later_of_turns {p p' : Process AgentRequest AgentRequest.Answer World (Except Error Bool)}
    {turns : List Turn}
    (hfits : Transition.Guarded take (fun p turn => turn.Fits p) p turns)
    (h : Transition.run take p turns = some p') : shopSetting.Later p p' := by
  refine (Transition.reachable_of_run hfits h).invariant .start ?_
  exact fun p₁ turn p₂ hlater hturn hstep => .step hlater (guard_of_fits hturn) hstep

/-- The first token, the pause, and a request that fails. -/
def outage : List Turn :=
  [.served, .mints 1 0] ++ List.replicate 7 .served ++ [.served, .fails 10]

/-- The second token. -/
def recovery : List Turn := [.served, .mints 1 641] ++ List.replicate 5 .served

/-- While the agent waits for another try, the token is still good. -/
theorem outage_tolerance_shop :
    ∃ p p', shopSetting.Later (shopSetting.begin (World.fresh fun _ => none) 3) p ∧
      take p .served = some p' ∧ p.shared.now = 611 ∧ p'.shared.now = 641 ∧
      Unexpired Federation.jsonPayload shopAgent p.shared 640 := by
  have hfits : Transition.Guarded take (fun p turn => turn.Fits p)
      (shopSetting.begin (World.fresh fun _ => none) 3) (outage ++ .served :: recovery) := by
    decide
  obtain ⟨p'', hrun, hlength''⟩ : ∃ p'',
      Transition.run take (shopSetting.begin (World.fresh fun _ => none) 3)
        (outage ++ .served :: recovery) = some p'' ∧ p''.shared.contents.length = 2 :=
    Option.map_eq_some_iff.mp (by decide)
  -- The run is cut before and after the pause.
  rw [Transition.run_append] at hrun
  obtain ⟨p, hp, hrest⟩ := Option.bind_eq_some_iff.mp hrun
  obtain ⟨p', hp', hrest⟩ := Option.bind_eq_some_iff.mp hrest
  have hbefore : (Transition.run take (shopSetting.begin (World.fresh fun _ => none) 3) outage).map
      (fun p => (p.shared.now, p.shared.contents.length)) = some (611, 1) := by decide
  have hafter : ((Transition.run take (shopSetting.begin (World.fresh fun _ => none) 3) outage).bind
      fun p => (take p .served).map fun p' => p'.shared.now) = some 641 := by decide
  rw [hp] at hbefore hafter
  rw [Option.bind_some, hp'] at hafter
  obtain ⟨hnow, hlength⟩ := Prod.mk.inj (Option.some.inj hbefore)
  have hnow' : p'.shared.now = 641 := Option.some.inj hafter
  have hfits' := hfits.rest hp
  have hlater := later_of_turns (by decide) hp
  have hlater'' := later_of_turns (hfits'.2 p' hp') hrest
  refine ⟨p, p', hlater, hp', hnow, hnow', ?_⟩
  refine outage_tolerance shopSetting rfl hlater ?_ (guard_of_fits hfits'.1) hp'
    (.inr ⟨p'', hlater'', ?_⟩) ?_ ?_
  · intro hnil
    rw [hnil] at hlength
    cases hlength
  all_goals omega

end Agent

end IdentityFederation
