import IdentityFederation.Agent.World

/-!
# Crash rules of the refresh loop

One rule for each part of the loop, for any crash condition: what has to be shown of the worlds
that the part goes through.

* `atomicWrite_survives`: until the temporary file is renamed, it is all that changes.
* `settle_survives`: with the token written, the agent becomes ready, draws a jitter and sleeps.
* `refreshIteration_survives`: the token file is read, a mint request is answered, and either a
  token is stored or the iteration is given up.
* `refreshLoop_survives`: an invariant of the worlds between iterations.
-/

namespace IdentityFederation

namespace Agent

open Interaction Program

/-- The temporary file. -/
def AgentConfig.tmpPath (cfg : AgentConfig) : String := cfg.awsTokenPath ++ ".tmp"

lemma tmpPath_ne (cfg : AgentConfig) : cfg.awsTokenPath ≠ cfg.tmpPath := by
  intro heq
  have hlength := congrArg String.length heq
  rw [AgentConfig.tmpPath, String.length_append] at hlength
  have htmp : ".tmp".length = 4 := rfl
  omega

namespace World

/-- The world when a token was written. -/
def written (w : World) (cfg : AgentConfig) (token : String) : World :=
  (w.put cfg.tmpPath none).replace cfg token.toUTF8

/-- The world after a pause. -/
def slept (w : World) (seconds : UInt64) : World := { w with now := w.now + seconds.toNat }

/-- The world once the agent is ready. -/
def madeReady (w : World) : World := { w with ready := true }

lemma files_put_tmp (w : World) (cfg : AgentConfig) (file : Option ByteArray) :
    (w.put cfg.tmpPath file).files cfg.awsTokenPath = w.files cfg.awsTokenPath :=
  files_put_ne w (tmpPath_ne cfg) file

lemma files_written (w : World) (cfg : AgentConfig) (token : String) :
    (w.written cfg token).files cfg.awsTokenPath = some token.toUTF8 := files_put_same ..

end World

section Rules

variable {cfg : AgentConfig} {w : World} {allowed : World → AgentRequest → Outcome → Prop}
  {crash : World → Prop} {firstSuccess : Bool}

/-! ## Writing a token -/

/-- The rule of a file operation: it may fail, and leaves what it leaves. -/
lemma operate_survives {q : AgentRequest} {h : q.Answer = Except String Unit}
    {context path : String} {file : Option ByteArray} {post : Except Error Unit → World → Prop}
    (hserve : ∀ o, World.serve cfg o w q =
      (cast h.symm (w.operate o path file).1, (w.operate o path file).2))
    (hw : crash w) (hleft : ∀ left, crash (w.put path left))
    (hfailed : ∀ e left, post (.error e) (w.put path left))
    (hdone : post (.ok ()) (w.put path file)) :
    (fileOp q h context).run.Survives (World.serve cfg) allowed crash post w := by
  refine ⟨hw, fun o _ => ?_⟩
  rw [hserve o]
  rcases w.operate_eq o path file with heq | ⟨error, left, heq⟩
  · rw [heq]
    refine ⟨hleft _, ?_⟩
    simpa [Except.mapError] using hdone
  · rw [heq]
    refine ⟨hleft _, ?_⟩
    simpa [Except.mapError] using hfailed (.msg context) left

/-- **The rule of `atomicWrite`**: until the temporary file is renamed, it is all that changes. -/
lemma atomicWrite_survives {token : String} {post : Except Error Unit → World → Prop}
    (hcrash : ∀ file, crash (w.put cfg.tmpPath file))
    (hfailed : ∀ e file, post (.error e) (w.put cfg.tmpPath file))
    (hdone : crash (w.written cfg token) ∧ post (.ok ()) (w.written cfg token)) :
    (atomicWrite cfg.awsTokenPath token).run.Survives (World.serve cfg) allowed crash post w := by
  have hw : crash w := by simpa using hcrash (w.files cfg.tmpPath)
  have hunchanged : ∀ e, post (.error e) w := fun e => by simpa using hfailed e (w.files cfg.tmpPath)
  unfold atomicWrite
  simp only [show cfg.awsTokenPath ++ ".tmp" = cfg.tmpPath from rfl]
  -- The directory is created, or the world is as it was.
  refine Survives.run_bind ⟨hw, fun o _ => ⟨hw, ?_⟩⟩
  cases hfile : o.file with
  | failed error left =>
      simp only [World.serve, hfile, cast_eq, Except.mapError]
      exact hunchanged _
  | done =>
  simp only [World.serve, hfile, cast_eq, Except.mapError]
  -- From here on the temporary file changes.
  refine Survives.run_bind (operate_survives (fun o => rfl) hw hcrash hfailed ?_)
  refine Survives.run_bind (operate_survives (fun o => rfl) (hcrash _) ?_ ?_ ?_)
  · simpa only [World.put_put] using hcrash
  · simpa only [World.put_put] using hfailed
  have hbytes : ((w.put cfg.tmpPath (some .empty)).files cfg.tmpPath).getD .empty ++ token.toUTF8 =
      token.toUTF8 := by
    rw [World.files_put_same, Option.getD_some, ByteArray.empty_append]
  rw [World.put_put, hbytes]
  refine Survives.run_bind (operate_survives (fun o => rfl) (hcrash _) ?_ ?_ ?_)
  · simpa only [World.put_put] using hcrash
  · simpa only [World.put_put] using hfailed
  rw [World.put_files_self]
  -- The temporary file is whole; renaming it is one step.
  refine ⟨hcrash _, fun o _ => ?_⟩
  simp only [World.serve]
  rcases World.rename_eq cfg (World.files_put_same w cfg.tmpPath (some token.toUTF8)) o with
    heq | ⟨error, heq⟩
  · rw [heq, World.put_put]
    exact hdone
  · rw [heq]
    exact ⟨hcrash _, hfailed _ _⟩

/-! ## After the write -/

variable {post : Except Error Bool → World → Prop}

/-- **The rule for a token that was written**: `I` holds until the pause. -/
lemma settle_survives {seconds : UInt64 → UInt64} (I : World → Prop) (hcrash : ∀ w, I w → crash w)
    (hready : ∀ w, I w → I w.madeReady)
    (hslept : ∀ w jitter, I w → crash (w.slept (seconds jitter)) ∧
      post (.ok true) (w.slept (seconds jitter))) (hw : I w) :
    (do
      if firstSuccess then pure () else .call .setReady .ret
      let jitter ← computeJitter cfg.maxJitterSeconds
      sleep (seconds jitter)
      pure (.ok true) : AgentProgram (Except Error Bool)).Survives (World.serve cfg) allowed crash
        post w := by
  have hjitter : ∀ w, I w →
      (do let jitter ← computeJitter cfg.maxJitterSeconds
          sleep (seconds jitter)
          pure (.ok true) : AgentProgram (Except Error Bool)).Survives (World.serve cfg) allowed
        crash post w := by
    intro w hw
    refine Survives.bind ?_
    unfold computeJitter
    split
    · exact ⟨hcrash w hw, hcrash w hw, fun _ _ => hslept w 0 hw⟩
    · exact ⟨hcrash w hw, fun o _ => ⟨hcrash w hw, hcrash w hw, fun _ _ => hslept w _ hw⟩⟩
  cases firstSuccess with
  | true => exact hjitter w hw
  | false => exact ⟨hcrash w hw, fun o _ => hjitter _ (hready w hw)⟩

/-- The rule for a token that was received. -/
lemma storeToken_survives {aws : MintedToken} (I : World → Prop) (hcrash : ∀ w, I w → crash w)
    (hready : ∀ w, I w → I w.madeReady)
    (hslept : ∀ w jitter, I w →
      crash (w.slept (computeSleepSeconds aws.expiresInSeconds cfg.refreshSkewSeconds
        cfg.minRefreshSeconds jitter)) ∧
      post (.ok true) (w.slept (computeSleepSeconds aws.expiresInSeconds cfg.refreshSkewSeconds
        cfg.minRefreshSeconds jitter)))
    (hput : ∀ file, crash (w.put cfg.tmpPath file))
    (hfailed : ∀ e file, post (.error e) (w.put cfg.tmpPath file))
    (hwritten : I (w.written cfg aws.token)) :
    (storeToken cfg firstSuccess aws).Survives (World.serve cfg) allowed crash post w := by
  refine Survives.bind (atomicWrite_survives hput ?_ ⟨hcrash _ hwritten, ?_⟩)
  · exact fun e file => ⟨hput file, hfailed _ file⟩
  · exact settle_survives I hcrash hready hslept hwritten

/-! ## An iteration -/

/-- The rule for an iteration that is given up. -/
lemma retryLater_survives (hw : crash w)
    (hslept : crash (w.slept cfg.minRefreshSeconds) ∧
      post (.ok firstSuccess) (w.slept cfg.minRefreshSeconds)) :
    (retryLater cfg firstSuccess).Survives (World.serve cfg) allowed crash post w :=
  ⟨hw, fun _ _ => hslept⟩

/-- **The rule of an iteration**: the token cannot be read, or there is a reply. -/
lemma refreshIteration_survives (hw : crash w)
    (hunreadable : (retryLater cfg firstSuccess).Survives (World.serve cfg) allowed crash post
      (w.countFailure true))
    (hreply : ∀ token o, allowed w (cfg.post token) o →
      (afterMint cfg firstSuccess (mintResult o.reply)).Survives (World.serve cfg) allowed crash
        post (w.receive o)) :
    (refreshIteration cfg firstSuccess).Survives (World.serve cfg) allowed crash post w := by
  refine ⟨hw, fun o _ => ?_⟩
  simp only [World.serve]
  cases hcontents : o.contents with
  | error e => exact hunreadable
  | ok contents =>
      rcases Decidable.em (Sendable (Text.trim contents)) with hsendable | hsendable
      · have hread : w.countFailure (!readsToken (.ok contents)) = w := by
          simp [World.countFailure, readsToken, hsendable]
        simp only [refreshWith_sendable hsendable, hread]
        exact ⟨hw, fun o ho => hreply _ o ho⟩
      · have hread : w.countFailure (!readsToken (.ok contents)) = w.countFailure true := by
          simp [readsToken, hsendable]
        simp only [refreshWith_not_sendable hsendable, hread]
        exact hunreadable

/-- **The rule of the loop**, with an invariant of the worlds between iterations. -/
lemma refreshLoop_survives (I : World → Prop) (hcrash : ∀ w, I w → crash w)
    (hiteration : ∀ w firstSuccess, I w →
      (refreshIteration cfg firstSuccess).Survives (World.serve cfg) allowed crash
        (fun res w => ∀ firstSuccess, res = .ok firstSuccess → I w) w)
    (n : ℕ) (hw : I w) :
    (refreshLoop cfg n firstSuccess).Survives (World.serve cfg) allowed crash (fun _ _ => True)
      w := by
  induction n generalizing w firstSuccess with
  | zero => exact ⟨hcrash w hw, trivial⟩
  | succ n ih =>
      refine ((hiteration w firstSuccess hw).mono (fun w hw => hw) fun res w hw hres => ?_).bind
      cases res with
      | error e => exact ⟨hw, trivial⟩
      | ok firstSuccess => exact ih (hres firstSuccess rfl)

end Rules

end Agent

end IdentityFederation
