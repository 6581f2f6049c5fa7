import IdentityFederation.Issuer.Main

/-!
# The issuer keeps the last good key set

Whatever the file and the watch offer, and in whatever order, the store holds the most recent key
set that `parse_jwks` accepted (`Settled`).  The only moments at which it does not are those at
which the task is about to store that key set.  This is what holds at each request of the task
(`Between`), and it is kept by every iteration of its two loops.

So a store that was loaded stays loaded with a key set that has keys, and the endpoints say so
(`last_good_kept`).
-/

namespace IdentityFederation

namespace Issuer

open Interaction Program

variable {K : KeySets}

/-! ## What was accepted -/

/-- The bytes that are parsed, if there are any. -/
def Offer.bytes : Offer → Option ByteArray
  | .file (.ok bytes) => some bytes
  | .event (.ok (.initApply secret)) | .event (.ok (.apply secret)) =>
      secret.data.bind fun data => data[jwksSecretKey]?
  | _ => none

variable (K) in
/-- The key set that an offer comes to. -/
def accepted (offer : Offer) : Option K.Jwks :=
  offer.bytes.bind fun bytes => (parseJwks K bytes).toOption

variable (K) in
/-- The key set of the last offer that was accepted. -/
def mostRecent (offers : List Offer) : Option K.Jwks := (offers.filterMap (accepted K)).getLast?

lemma mostRecent_concat (offers : List Offer) (offer : Offer) :
    mostRecent K (offers ++ [offer]) = (accepted K offer).or (mostRecent K offers) := by
  unfold mostRecent
  cases haccepted : accepted K offer with
  | none => simp [haccepted]
  | some jwks => simp [haccepted]

/-- An accepted key set was offered, and it has keys. -/
lemma mostRecent_eq_some {offers : List Offer} {jwks : K.Jwks}
    (h : mostRecent K offers = some jwks) :
    (∃ offer ∈ offers, accepted K offer = some jwks) ∧ K.keys jwks ≠ [] := by
  obtain ⟨offer, hoffer, haccepted⟩ := List.mem_filterMap.mp (List.mem_of_getLast? h)
  refine ⟨⟨offer, hoffer, haccepted⟩, ?_⟩
  obtain ⟨bytes, -, hparse⟩ := Option.bind_eq_some_iff.mp haccepted
  cases hbytes : parseJwks K bytes with
  | error e =>
      rw [hbytes] at hparse
      cases hparse
  | ok jwks' =>
      rw [hbytes] at hparse
      obtain rfl := Option.some.inj hparse
      exact keys_ne_nil_of_parseJwks hbytes

/-- What the closure of the watch makes of a Secret. -/
lemma watchedJwks_secret (secretName : String) (secret : Secret) :
    (watchedJwks K secretName (.ok secret)).toOption = accepted K (.event (.ok (.apply secret))) := by
  obtain ⟨data⟩ := secret
  cases data with
  | none => rfl
  | some data =>
      simp only [watchedJwks, accepted, Offer.bytes, Option.bind_some]
      cases data[jwksSecretKey]? with
      | none => rfl
      | some bytes => cases hparse : parseJwks K bytes <;> simp [hparse, Except.toOption]

/-- It is what is accepted of the event. -/
lemma watchedJwks_toOption (secretName : String) {ev : Except String SecretEvent}
    {item : Except String Secret} (hitem : appliedObject ev = some item) :
    (watchedJwks K secretName item).toOption = accepted K (.event ev) := by
  match ev with
  | .error e =>
      obtain rfl := Option.some.inj hitem
      rfl
  | .ok .init | .ok .initDone | .ok (.delete _) => cases hitem
  | .ok (.initApply secret) | .ok (.apply secret) =>
      obtain rfl := Option.some.inj hitem
      exact watchedJwks_secret secretName secret

lemma accepted_of_appliedObject_eq_none {ev : Except String SecretEvent}
    (h : appliedObject ev = none) : accepted K (.event ev) = none := by
  match ev with
  | .error e => cases h
  | .ok .init | .ok .initDone | .ok (.delete _) => rfl
  | .ok (.initApply secret) | .ok (.apply secret) => cases h

/-! ## What holds at each request -/

/-- The store holds the most recent key set that was accepted. -/
def Settled (w : World K) : Prop := w.store.get = mostRecent K w.offers

/-- The task is about to store this key set: that of the last offer. -/
structure Storing (w : World K) (jwks : K.Jwks) : Prop where
  before : w.store.get = mostRecent K w.offers.dropLast
  recent : mostRecent K w.offers = some jwks

/-- What holds when the task is about to send a request. -/
def Between : IssuerRequest K → World K → Prop
  | .set jwks, w => Storing w jwks
  | .next .., w => Settled w ∧ w.store.isLoaded = true
  | _, w => Settled w

/-- An offer has been made, and not been dealt with. -/
structure Offered (w : World K) (offer : Offer) : Prop where
  last : ∃ earlier, w.offers = earlier ++ [offer] ∧ w.store.get = mostRecent K earlier

lemma Settled.offered {w : World K} (h : Settled w) (offer : Offer) :
    Offered { w with offers := w.offers ++ [offer] } offer := ⟨w.offers, rfl, h⟩

lemma Offered.storing {w : World K} {offer : Offer} {jwks : K.Jwks} (h : Offered w offer)
    (haccepted : accepted K offer = some jwks) : Storing w jwks := by
  obtain ⟨earlier, hoffers, hstore⟩ := h.last
  refine ⟨?_, ?_⟩
  · rw [hoffers, List.dropLast_concat, hstore]
  · rw [hoffers, mostRecent_concat, haccepted]
    rfl

/-- An offer that is not accepted changes nothing. -/
lemma Offered.settled {w : World K} {offer : Offer} (h : Offered w offer)
    (haccepted : accepted K offer = none) : Settled w := by
  obtain ⟨earlier, hoffers, hstore⟩ := h.last
  rw [Settled, hoffers, mostRecent_concat, haccepted, hstore]
  rfl

lemma Storing.settled {w : World K} {jwks : K.Jwks} (h : Storing w jwks) :
    Settled { w with store := w.store.set jwks } := h.recent.symm

/-! ## The watch -/

/-- The requests are served in any way. -/
def anyhow : World K → IssuerRequest K → Outcome → Prop := fun _ _ _ => True

/-- The rule for a request and what follows it. -/
lemma send_respects {α : Type} {post : Except Error α → World K → Prop} {q : IssuerRequest K}
    {f : q.Answer → IssuerM K α} {w : World K} (hbetween : Between q w)
    (h : ∀ o, (f (World.serve o w q).1).run.Respects World.serve anyhow Between post
      (World.serve o w q).2) :
    (send q >>= f).run.Respects World.serve anyhow Between post w :=
  ⟨hbetween, fun o _ => h o⟩

lemma onEvent_respects {w : World K} (secretName : String) {ev : Except String SecretEvent}
    (h : Offered w (.event ev)) (hloaded : w.store.isLoaded = true) :
    (onEvent K secretName ev).run.Respects World.serve anyhow Between
      (fun _ w => Settled w ∧ w.store.isLoaded = true) w := by
  unfold onEvent
  cases hitem : appliedObject ev with
  | none => exact ⟨h.settled (accepted_of_appliedObject_eq_none hitem), hloaded⟩
  | some item =>
      have haccepted := watchedJwks_toOption (K := K) secretName hitem
      cases hjwks : watchedJwks K secretName item with
      | error e =>
          rw [hjwks] at haccepted
          simp only [hjwks]
          exact ⟨h.settled haccepted.symm, hloaded⟩
      | ok jwks =>
          rw [hjwks] at haccepted
          have hstoring := h.storing haccepted.symm
          simp only [hjwks]
          exact ⟨hstoring, fun _ _ => ⟨hstoring.settled, rfl⟩⟩

/-- **Every item of the watch keeps it**, however many there are. -/
lemma watchLoop_respects (ns secretName : String) (n : ℕ) {w : World K} (h : Settled w)
    (hloaded : w.store.isLoaded = true) :
    (watchLoop K ns secretName n).run.Respects World.serve anyhow Between (fun _ w => Settled w) w := by
  induction n generalizing w with
  | zero => exact h
  | succ n ih =>
      refine send_respects ⟨h, hloaded⟩ fun ⟨now, file, namespaceFile, client, event⟩ => ?_
      cases event with
      | none =>
          have hserved : Settled { w with offers := w.offers ++ [] } := by
            rw [List.append_nil]
            exact h
          exact hserved
      | some ev =>
          refine Respects.run_bind ?_
          refine (onEvent_respects secretName (h.offered (.event ev)) hloaded).mono fun res w hw => ?_
          cases res with
          | error e => exact hw.1
          | ok _ => exact ih hw.1 hw.2

lemma watch_respects (cfg : IssuerConfig) (items : ℕ) {w : World K} (h : Settled w)
    (hloaded : w.store.isLoaded = true) :
    (watch K cfg items).run.Respects World.serve anyhow Between (fun _ w => Settled w) w := by
  unfold watch
  split
  · refine send_respects h fun o => ?_
    simp only [World.serve]
    cases podNamespace o.namespaceFile with
    | error e => exact h
    | ok ns =>
        refine send_respects h fun ⟨now, file, namespaceFile, client, event⟩ => ?_
        cases client with
        | error e => exact h
        | ok _ => exact watchLoop_respects ns cfg.jwksSecretName items h hloaded
  · exact h

/-! ## The load -/

/-- **Every attempt to read the file keeps it**: the loop ends with a key set in the store. -/
lemma loadLoop_respects (path : String) (deadline : Time) (n : ℕ) {w : World K} (h : Settled w) :
    (loadLoop K path deadline n).run.Respects World.serve anyhow Between
      (fun res w => Settled w ∧ (res = .ok true → w.store.isLoaded = true)) w := by
  induction n generalizing w with
  | zero => exact ⟨h, nofun⟩
  | succ n ih =>
      refine send_respects h fun ⟨now, file, namespaceFile, client, event⟩ => ?_
      have hoffered := h.offered (.file file)
      cases file with
      | error e =>
          have hsettled := hoffered.settled rfl
          refine send_respects hsettled fun o => ?_
          split
          · exact send_respects hsettled fun _ => ih hsettled
          · exact ⟨hsettled, nofun⟩
      | ok bytes =>
          have haccepted : accepted K (.file (.ok bytes)) = (parseJwks K bytes).toOption := rfl
          simp only [World.serve]
          cases hparse : parseJwks K bytes with
          | error e =>
              rw [hparse] at haccepted
              exact ⟨hoffered.settled haccepted, nofun⟩
          | ok jwks =>
              rw [hparse] at haccepted
              have hstoring := hoffered.storing haccepted
              exact send_respects hstoring fun _ => ⟨hstoring.settled, fun _ => rfl⟩

lemma loadJwksAndWatch_respects (cfg : IssuerConfig) (attempts items : ℕ) :
    (loadJwksAndWatch K cfg attempts items).run.Respects World.serve anyhow Between
      (fun _ w => Settled w) (World.fresh K) := by
  have hfresh : Settled (World.fresh K) := rfl
  refine send_respects hfresh fun o => Respects.run_bind ?_
  refine (loadLoop_respects cfg.jwksFilePath _ attempts hfresh).mono fun res w hw => ?_
  match res with
  | .error e => exact hw.1
  | .ok false => exact hw.1
  | .ok true => exact watch_respects cfg items hw.1 (hw.2 rfl)

/-! ## The process -/

/-- The process goes on without a start. -/
def Running : Process (IssuerRequest K) IssuerRequest.Answer (World K) (Except Error Unit) →
    Happening (ℕ × ℕ) Outcome → Prop
  | _, .start _ => False
  | _, .serve _ => True

/-- Both endpoints answer 200, and the body is the text of a key set with keys. -/
def ServesKeys (store : JwksStore K) : Prop :=
  startupz store = 200 ∧
  ∃ jwks text, store.get = some jwks ∧ K.keys jwks ≠ [] ∧ K.toText jwks = .ok text ∧
    getJwks store =
      { status := 200
        headers := [("content-type", "application/json"), ("cache-control", "public, max-age=300")]
        body := text }

lemma servesKeys {store : JwksStore K} {jwks : K.Jwks} {text : String}
    (hstore : store.get = some jwks) (hkeys : K.keys jwks ≠ []) (htext : K.toText jwks = .ok text) :
    ServesKeys store := by
  refine ⟨if_pos (JwksStore.isLoaded_iff.mpr ⟨jwks, hstore⟩), jwks, text, hstore, hkeys, htext, ?_⟩
  unfold getJwks
  simp only [hstore, htext]

/-- No request unloads the store. -/
lemma isLoaded_serve {w : World K} (h : w.store.isLoaded = true) (o : Outcome)
    (q : IssuerRequest K) : (World.serve o w q).2.store.isLoaded = true := by
  cases q with
  | set jwks => rfl
  | _ => exact h

section Process

variable {cfg : IssuerConfig}
  {p p' : Process (IssuerRequest K) IssuerRequest.Answer (World K) (Except Error Unit)}

/-- Where the process is. -/
lemma settled_or_storing (h : Transition.Reachable (issuer K cfg).step (issuer K cfg).Guard
    (Service.off (World.fresh K)) p) :
    Settled p.shared ∨
      ∃ jwks k, p.program = some (.call (.set jwks) k) ∧ Storing p.shared jwks := by
  have hprogram := Service.reachable_respects (fun n _ => loadJwksAndWatch_respects cfg n.1 n.2) h
  match hprog : p.program with
  | none =>
      rw [Service.shared_of_not_started h hprog]
      exact .inl rfl
  | some (.ret res) => exact .inl (hprogram _ hprog)
  | some (.call q k) =>
      have hbetween := (hprogram _ hprog).1
      cases q with
      | set jwks => exact .inr ⟨jwks, k, rfl, hbetween⟩
      | next ns fields => exact .inl hbetween.1
      | _ => exact .inl hbetween

/-- What the store holds was offered and accepted. -/
lemma stored_accepted (h : Transition.Reachable (issuer K cfg).step (issuer K cfg).Guard
    (Service.off (World.fresh K)) p) {jwks : K.Jwks} (hstore : p.shared.store.get = some jwks) :
    (∃ offer ∈ p.shared.offers, accepted K offer = some jwks) ∧ K.keys jwks ≠ [] := by
  rcases settled_or_storing h with hsettled | ⟨_, _, -, hstoring⟩
  · exact mostRecent_eq_some (hsettled.symm.trans hstore)
  · obtain ⟨⟨offer, hoffer, haccepted⟩, hkeys⟩ :=
      mostRecent_eq_some (hstoring.before.symm.trans hstore)
    exact ⟨⟨offer, List.dropLast_subset _ hoffer, haccepted⟩, hkeys⟩

lemma isLoaded_of_running (h : Transition.Reachable (issuer K cfg).step Running p p')
    (hloaded : p.shared.store.isLoaded = true) : p'.shared.store.isLoaded = true := by
  refine h.invariant (I := fun p => p.shared.store.isLoaded = true) hloaded ?_
  rintro p (n | o) p' hp hrunning hstep
  · exact hrunning.elim
  · obtain ⟨q, k, -, hshared, -⟩ := Service.step_serve hstep
    rw [hshared]
    exact isLoaded_serve hp o q

/-- **The issuer keeps the last good key set.**  The task is started any number of times, stopped
anywhere, and given anything.  At every moment the store holds the most recent key set that was
accepted, or the task is about to store it; whatever the store holds was accepted, and has keys;
and while the watch waits for an event, the store is loaded.  From its load on, as long as the
process runs, the store stays loaded, `/startupz` answers 200, and so does `/jwks.json`, with a key
set that has keys. -/
theorem last_good_kept (hserializes : ∀ jwks, ∃ text, K.toText jwks = .ok text)
    (h : Transition.Reachable (issuer K cfg).step (issuer K cfg).Guard
      (Service.off (World.fresh K)) p) :
    (p.shared.store.get = mostRecent K p.shared.offers ∨
      ∃ jwks k, p.program = some (.call (.set jwks) k) ∧
        p.shared.store.get = mostRecent K p.shared.offers.dropLast ∧
        mostRecent K p.shared.offers = some jwks) ∧
    (∀ jwks, p.shared.store.get = some jwks →
      (∃ offer ∈ p.shared.offers, accepted K offer = some jwks) ∧ K.keys jwks ≠ []) ∧
    (∀ ns fields k, p.program = some (.call (.next ns fields) k) →
      p.shared.store.isLoaded = true) ∧
    (p.shared.store.isLoaded = true →
      ∀ p', Transition.Reachable (issuer K cfg).step Running p p' →
        p'.shared.store.isLoaded = true ∧ ServesKeys p'.shared.store) := by
  refine ⟨?_, fun jwks => stored_accepted h, fun ns fields k hcall => ?_, fun hloaded p' hp' => ?_⟩
  · rcases settled_or_storing h with hsettled | ⟨jwks, k, hcall, hstoring⟩
    · exact .inl hsettled
    · exact .inr ⟨jwks, k, hcall, hstoring.before, hstoring.recent⟩
  · have hprogram := Service.reachable_respects (fun n _ => loadJwksAndWatch_respects cfg n.1 n.2) h
    exact (hprogram _ hcall).1.2
  · have hloaded' := isLoaded_of_running hp' hloaded
    have hreach : Transition.Reachable (issuer K cfg).step (issuer K cfg).Guard
        (Service.off (World.fresh K)) p' := by
      refine h.trans (hp'.mono fun p l _ => ?_)
      cases l with
      | start n => trivial
      | serve o => exact fun _ _ _ => trivial
    obtain ⟨jwks, hstore⟩ := JwksStore.isLoaded_iff.mp hloaded'
    obtain ⟨text, htext⟩ := hserializes jwks
    exact ⟨hloaded', servesKeys hstore (stored_accepted hreach hstore).2 htext⟩

end Process

/-! ### A watch that delivers nothing good -/

/-- A key set is the list of its key ids, and there are two texts. -/
def toyKeySets : KeySets where
  Jwks := List String
  Jwk := String
  keys := id
  fromStr text :=
    if text = "\x7b\"keys\":[]\x7d" then .ok []
    else if text = "\x7b\"keys\":[\x7b\"kid\":\"kid-1\"\x7d]\x7d" then .ok ["kid-1"]
    else .error "expected value at line 1 column 1"
  toText kids := .ok (Json.obj
    [("keys", .arr (kids.map fun kid => .obj [("kid", .str kid)]))]).text
  utf8Error _ := "invalid utf-8 sequence"

/-- The configuration of the chart. -/
def chartConfig : IssuerConfig where
  runningInCluster := true
  jwksSecretName := "kif-jwks"
  jwksFilePath := "/var/run/kif/jwks/jwks.json"

/-- A Secret with this text under `jwks.json`. -/
def jwksSecret (text : String) : Secret where
  data := some ((∅ : BTreeMap String ByteArray).insert jwksSecretKey text.toUTF8)

/-- The file is read at the second attempt.  Then the watch fails, and delivers a Secret without
data, and one with a key set without keys. -/
def badWatch : List (Happening (ℕ × ℕ) Outcome) :=
  [.start (2, 3), .serve {}, .serve {}, .serve {}, .serve {},
    .serve { file := .ok "\x7b\"keys\":[\x7b\"kid\":\"kid-1\"\x7d]\x7d".toUTF8 },
    .serve {}, .serve {}, .serve {},
    .serve { event := some (.error "Unauthorized") },
    .serve { event := some (.ok (.apply ⟨none⟩)) },
    .serve { event := some (.ok (.apply (jwksSecret "\x7b\"keys\":[]\x7d"))) }]

/-- What the store holds, and how many offers there were. -/
def summary (p : Process (IssuerRequest toyKeySets) IssuerRequest.Answer (World toyKeySets)
    (Except Error Unit)) : Option (List String) × ℕ :=
  (p.shared.store.get, p.shared.offers.length)

theorem last_good_kept_bad_watch :
    ∃ p, Transition.run (issuer toyKeySets chartConfig).step
        (Service.off (World.fresh toyKeySets)) badWatch = some p ∧
      p.shared.offers.length = 5 ∧ ServesKeys p.shared.store := by
  obtain ⟨p, hrun, hsummary⟩ : ∃ p, Transition.run (issuer toyKeySets chartConfig).step
      (Service.off (World.fresh toyKeySets)) badWatch = some p ∧
        summary p = (some ["kid-1"], 5) :=
    Option.map_eq_some_iff.mp (by decide)
  obtain ⟨hstore, hoffers⟩ := Prod.mk.inj hsummary
  have hreach : Transition.Reachable (issuer toyKeySets chartConfig).step
      (issuer toyKeySets chartConfig).Guard (Service.off (World.fresh toyKeySets)) p := by
    refine Transition.reachable_of_run (Transition.guarded_of_forall (fun l _ p => ?_) _) hrun
    cases l with
    | start n => trivial
    | serve o => exact fun _ _ _ => trivial
  obtain ⟨-, -, -, hserves⟩ := last_good_kept (fun kids => ⟨_, rfl⟩) hreach
  exact ⟨p, hrun, hoffers, (hserves (JwksStore.isLoaded_iff.mpr ⟨_, hstore⟩) p .start).2⟩

end Issuer

end IdentityFederation
