import IdentityFederation.Agent.Rules

/-!
# The token file is always whole

Other containers read the token file at any moment, so it must never hold part of a token.
`atomicWrite` prepares a temporary file and renames it; nothing else touches the token file.

The crash condition `Whole` says that the file is what it was last replaced with, that the files
it has been replaced with are tokens that were received, in their order, and that it is there when
the flag behind `/startupz` is set.  The loop survives with it, and so does the process
through all its stops and starts (`token_file_whole`).
-/

namespace IdentityFederation

namespace Agent

open Interaction Program

/-! ## The crash condition -/

/-- The token file is what it was last replaced with, the tokens it was replaced with were received
in this order, and it is there when the agent is ready. -/
structure Whole (cfg : AgentConfig) (w : World) : Prop where
  current : w.files cfg.awsTokenPath = w.contents.getLast?
  order : w.contents.Sublist (w.received.map String.toUTF8)
  present : w.ready = true → w.contents ≠ []

/-- A token has been received, and is not in the token file yet. -/
structure Pending (cfg : AgentConfig) (w : World) (token : String) : Prop where
  whole : Whole cfg w
  last : ∃ earlier, w.received = earlier ++ [token] ∧
    w.contents.Sublist (earlier.map String.toUTF8)

section Loop

variable {cfg : AgentConfig} {w : World} {firstSuccess : Bool} {token : String}

lemma Whole.put_tmp (h : Whole cfg w) (file : Option ByteArray) :
    Whole cfg (w.put cfg.tmpPath file) where
  current := by
    rw [World.files_put_tmp]
    exact h.current
  order := h.order
  present := h.present

lemma Pending.written (h : Pending cfg w token) : Whole cfg (w.written cfg token) := by
  obtain ⟨earlier, hreceived, hsublist⟩ := h.last
  have hcontents : (w.written cfg token).contents = w.contents ++ [token.toUTF8] := rfl
  refine ⟨?_, ?_, fun _ => ?_⟩
  · rw [hcontents, List.getLast?_concat]
    exact World.files_written ..
  · have hall : (w.written cfg token).received = earlier ++ [token] := hreceived
    rw [hcontents, hall, List.map_append]
    exact hsublist.append (List.Sublist.refl _)
  · rw [hcontents]
    exact List.append_ne_nil_of_right_ne_nil _ (List.cons_ne_nil _ _)

/-- A reply is remembered, and its token waits to be written. -/
lemma Whole.receive (h : Whole cfg w) (o : Outcome) :
    Whole cfg (w.receive o) ∧
      ∀ aws, mintedToken o.reply = some aws → Pending cfg (w.receive o) aws.token := by
  have hwhole : Whole cfg (w.receive o) := by
    refine ⟨h.current, ?_, h.present⟩
    have hreceived : (w.receive o).received =
        w.received ++ ((mintedToken o.reply).map MintedToken.token).toList := rfl
    rw [hreceived, List.map_append]
    exact h.order.trans (List.sublist_append_left _ _)
  refine ⟨hwhole, fun aws haws => ⟨hwhole, w.received, ?_, h.order⟩⟩
  simp [World.receive, haws]

/-! ## The loop -/

variable {allowed : World → AgentRequest → Outcome → Prop}

lemma Whole.slept (h : Whole cfg w) (seconds : UInt64) : Whole cfg (w.slept seconds) :=
  ⟨h.current, h.order, h.present⟩

lemma retryLater_whole (h : Whole cfg w) :
    (retryLater cfg firstSuccess).Survives (World.serve cfg) allowed (Whole cfg)
      (fun res w => ∀ firstSuccess, res = .ok firstSuccess → Whole cfg w) w :=
  retryLater_survives h ⟨h.slept _, fun _ _ => h.slept _⟩

lemma storeToken_whole {aws : MintedToken} (h : Pending cfg w aws.token) :
    (storeToken cfg firstSuccess aws).Survives (World.serve cfg) allowed (Whole cfg)
      (fun res w => ∀ firstSuccess, res = .ok firstSuccess → Whole cfg w) w := by
  refine storeToken_survives (fun w => Whole cfg w ∧ w.contents ≠ []) (fun w hw => hw.1) ?_ ?_
    h.whole.put_tmp nofun ⟨h.written, ?_⟩
  · exact fun w hw => ⟨⟨hw.1.current, hw.1.order, fun _ => hw.2⟩, hw.2⟩
  · exact fun w jitter hw => ⟨hw.1.slept _, fun _ _ => hw.1.slept _⟩
  · exact List.append_ne_nil_of_right_ne_nil _ (List.cons_ne_nil _ _)

lemma afterMint_whole {reply : Except PostError HttpResponse} (h : Whole cfg w)
    (hpending : ∀ aws, mintedToken reply = some aws → Pending cfg w aws.token) :
    (afterMint cfg firstSuccess (mintResult reply)).Survives (World.serve cfg) allowed (Whole cfg)
      (fun res w => ∀ firstSuccess, res = .ok firstSuccess → Whole cfg w) w := by
  unfold mintedToken at hpending
  match hresult : mintResult reply with
  | .ok ⟨some aws⟩ =>
      rw [hresult] at hpending
      exact storeToken_whole (hpending aws rfl)
  | .ok ⟨none⟩ => exact retryLater_whole h
  | .error .configHashMismatch => exact ⟨h, nofun⟩
  | .error (.other _) => exact retryLater_whole h

/-- **The loop survives**, however many iterations it makes. -/
lemma refreshLoop_whole (n : ℕ) (h : Whole cfg w) :
    (refreshLoop cfg n firstSuccess).Survives (World.serve cfg) allowed (Whole cfg)
      (fun _ _ => True) w := by
  refine refreshLoop_survives (Whole cfg) (fun w hw => hw) (fun w firstSuccess hw => ?_) n h
  refine refreshIteration_survives hw (retryLater_whole ⟨hw.current, hw.order, hw.present⟩) ?_
  intro token o _
  obtain ⟨hwhole, hpending⟩ := hw.receive o
  exact afterMint_whole hwhole hpending

end Loop

/-! ## The theorem -/

/-- An `atomicWrite` that fails leaves the token file as it was, and one that does not replaces it
by the whole token. -/
def WritesAtomically (cfg : AgentConfig) : Prop :=
  ∀ (w : World) (token : String),
    (atomicWrite cfg.awsTokenPath token).run.Survives (World.serve cfg) (fun _ _ _ => True)
      (fun w' => w'.files cfg.awsTokenPath = w.files cfg.awsTokenPath ∨
        w'.files cfg.awsTokenPath = some token.toUTF8)
      (fun res w' => w'.files cfg.awsTokenPath =
        match res with
        | .ok () => some token.toUTF8
        | .error _ => w.files cfg.awsTokenPath) w

lemma writesAtomically (cfg : AgentConfig) : WritesAtomically cfg := by
  intro w token
  have hwritten := w.files_written cfg token
  exact atomicWrite_survives (fun file => .inl (w.files_put_tmp cfg file))
    (fun _ file => w.files_put_tmp cfg file) ⟨.inr hwritten, hwritten⟩

/-- What has been received and written is not forgotten. -/
def World.Before (w w' : World) : Prop :=
  w.received <+: w'.received ∧ w.contents <+: w'.contents

lemma World.Before.refl (w : World) : w.Before w := ⟨List.prefix_rfl, List.prefix_rfl⟩

lemma World.Before.trans {w₁ w₂ w₃ : World} (h : w₁.Before w₂) (h' : w₂.Before w₃) :
    w₁.Before w₃ := ⟨h.1.trans h'.1, h.2.trans h'.2⟩

lemma World.operate_before (w : World) (o : Outcome) (path : String) (file : Option ByteArray) :
    w.Before (w.operate o path file).2 := by
  rcases w.operate_eq o path file with heq | ⟨error, left, heq⟩
  · rw [heq]
    exact .refl w
  · rw [heq]
    exact .refl w

lemma World.rename_before (w : World) (cfg : AgentConfig) (o : Outcome) (source target : String) :
    w.Before (w.rename cfg o source target).2 := by
  unfold World.rename
  split
  · split
    · exact ⟨List.prefix_rfl, List.prefix_append _ _⟩
    · exact .refl w
  · exact .refl w
  · exact .refl w

lemma World.serve_before (cfg : AgentConfig) (w : World) (q : AgentRequest) (o : Outcome) :
    w.Before (World.serve cfg o w q).2 := by
  cases q with
  | post url authorization body => exact ⟨List.prefix_append _ _, List.prefix_rfl⟩
  | createFile path | writeAll path contents | syncAll path => exact w.operate_before ..
  | rename source target => exact w.rename_before ..
  | readToString path | createParentDirs path | setReady | draw max | sleep seconds => exact .refl w

/-- **The token file is always whole.**  The agent is started any number of times on a volume
without a token file, stopped anywhere, and answered in any way.  At every moment the token file
is absent or holds one token that was received, as a whole; what it has held, one after the other,
are tokens in the order in which they were received; a failed `atomicWrite` leaves it as it was;
and it is there whenever `/startupz` answers 200. -/
theorem token_file_whole (cfg : AgentConfig) {files : String → Option ByteArray}
    (habsent : files cfg.awsTokenPath = none)
    {p : Process AgentRequest AgentRequest.Answer World (Except Error Bool)}
    (h : Transition.Reachable (agent cfg).step (agent cfg).Guard
      (Service.off (World.fresh files)) p) :
    (p.shared.files cfg.awsTokenPath = none ∨
      ∃ token ∈ p.shared.received, p.shared.files cfg.awsTokenPath = some token.toUTF8) ∧
    (p.shared.files cfg.awsTokenPath = p.shared.contents.getLast? ∧
      p.shared.contents.Sublist (p.shared.received.map String.toUTF8) ∧
      ∀ p', Transition.Reachable (agent cfg).step (agent cfg).Guard p p' →
        p.shared.Before p'.shared) ∧
    WritesAtomically cfg ∧
    (startupz p.shared.ready = 200 → (p.shared.files cfg.awsTokenPath).isSome) := by
  have hwhole : Whole cfg p.shared := by
    have hinit : Whole cfg (World.fresh files) := ⟨habsent, List.Sublist.refl _, nofun⟩
    have hboot : ∀ n w, Whole cfg w → ((agent cfg).boot n).Survives (agent cfg).serve
        (agent cfg).allowed (Whole cfg) (fun _ _ => True) ((agent cfg).reset w) :=
      fun n w hw => refreshLoop_whole n ⟨hw.current, hw.order, nofun⟩
    exact Service.reachable_crash hboot hinit h
  refine ⟨?_, ⟨hwhole.current, hwhole.order, fun p' hp' => ?_⟩, writesAtomically cfg, fun hstartup => ?_⟩
  · -- What was written last was received.
    rw [hwhole.current]
    cases hlast : p.shared.contents.getLast? with
    | none => exact .inl rfl
    | some bytes =>
        have hmem : bytes ∈ p.shared.contents := List.mem_of_getLast? hlast
        obtain ⟨token, htoken, rfl⟩ := List.mem_map.mp (hwhole.order.subset hmem)
        exact .inr ⟨token, htoken, rfl⟩
  · exact Service.reachable_preorder World.Before .refl (fun _ _ _ h₁ h₂ => h₁.trans h₂)
      (World.serve_before cfg) .refl hp'
  · have hready : p.shared.ready = true := by
      by_contra hnot
      simp [startupz, hnot] at hstartup
    rw [hwhole.current, List.getLast?_eq_some_getLast (hwhole.present hready)]
    rfl

/-! ### A write that fails, and a second start -/

/-- An agent without jitter. -/
def shopAgent : AgentConfig where
  port := 5004
  federationUrl := "http://kif-federation:5001"
  serviceAccountName := "app"
  configHash := "hash"
  ns := "shop"
  podName := some "web-1"
  saTokenPath := "/var/run/secrets/kubernetes.io/serviceaccount/token"
  awsTokenPath := "/var/run/kif/aws/token"
  refreshSkewSeconds := 300
  minRefreshSeconds := 30
  maxJitterSeconds := 0

/-- Every request succeeds, and a mint request takes a second. -/
def succeeds (token : String) : Outcome where
  contents := .ok "bearer"
  reply := .ok
    { status := 200
      body := .json (.obj
        [("aws", .obj [("token", .str token), ("expiresInSeconds", .num 900)])]) }
  seconds := 1

/-- The first token is received, but the disk is full when half of it is written.  Then the agent
is started again. -/
def secondStart : List (Happening ℕ Outcome) :=
  [.start 1] ++ List.replicate 4 (.serve (succeeds "first")) ++
    [.serve { file := .failed "No space left on device" (some "fir".toUTF8) }, .start 1] ++
    List.replicate 8 (.serve (succeeds "second"))

/-- After the second start `/startupz` answers 200, and the token is there. -/
theorem token_file_whole_second_start :
    ∃ p, Transition.Reachable (agent shopAgent).step (agent shopAgent).Guard
        (Service.off (World.fresh fun _ => none)) p ∧
      p.shared.received = ["first", "second"] ∧ startupz p.shared.ready = 200 ∧
      (p.shared.files shopAgent.awsTokenPath).isSome := by
  obtain ⟨p, hrun, hshared⟩ : ∃ p,
      Transition.run (agent shopAgent).step (Service.off (World.fresh fun _ => none)) secondStart =
        some p ∧
      (p.shared.received, startupz p.shared.ready) = (["first", "second"], 200) :=
    Option.map_eq_some_iff.mp (by decide)
  obtain ⟨hreceived, hstartup⟩ := Prod.mk.inj hshared
  have hreach : Transition.Reachable (agent shopAgent).step (agent shopAgent).Guard
      (Service.off (World.fresh fun _ => none)) p := by
    refine Transition.reachable_of_run (Transition.guarded_of_forall (fun l _ p => ?_) _) hrun
    cases l with
    | start n => trivial
    | serve o => exact fun _ _ _ => trivial
  obtain ⟨-, -, -, hpresent⟩ := token_file_whole shopAgent rfl hreach
  exact ⟨p, hreach, hreceived, hstartup, hpresent hstartup⟩

end Agent

end IdentityFederation
