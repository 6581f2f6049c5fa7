import IdentityFederation.Framework.Process
import IdentityFederation.Properties.KeyAgreement

/-!
# Bootstrapping the signing key, with crashes

`ensureSigningAndJwks` writes two Secrets, one after the other.  It can stop after either write,
or with an error that leaves open whether the write took effect, and is run again when the
replica is started again.  What makes this safe is that the signing Secret is written first, and
only when it is absent: whatever happens later starts from the material in it.

The crash condition is `Undecided ∨ ∃ material, Stores material`: there is no signing Secret yet,
or it holds the material of the first write that took effect (`firstWrite`, which is bookkeeping).
Every run survives with it, and a run that returns `Ok` returns that material and has published it
(`ensure_survives`).  So a token that was signed after one run verifies against what a later run
publishes (`bootstrap_crash_safe`).

A request for a Secret that exists can fail, but not by reporting that the Secret does not exist.
-/

namespace IdentityFederation

open Interaction Program

namespace Deployment

/-! ## Runs one after another -/

/-- The cluster, and the data of the first write to the signing Secret that took effect. -/
structure Bootstrap where
  cluster : Cluster
  firstWrite : Option (BTreeMap String ByteArray)

variable (d : Deployment)

/-- The data of a write to the signing Secret. -/
def signingWrite : ApiRequest → Option (BTreeMap String ByteArray)
  | .applySecret ns name data =>
      if ns = d.ns ∧ name = d.signingSecretName then some data else none
  | _ => none

def serveBootstrap (f : Fault) (s : Bootstrap) (q : ApiRequest) : ApiResponse q × Bootstrap :=
  let served := Cluster.serveWith f s.cluster q
  (served.1,
    { cluster := served.2
      firstWrite := s.firstWrite.or (if f.executes then d.signingWrite q else none) })

/-- A Secret is not reported as absent by a failure. -/
def NotMisled (_ : Bootstrap) (q : ApiRequest) (f : Fault) : Prop :=
  match q with
  | .getSecret .. => f ≠ .refused .notFound ∧ f ≠ .unanswered .notFound
  | _ => True

/-- A replica that is started again and again; every start has readings of the clock and of the
random generator of its own. -/
def replica : Service ApiRequest ApiResponse (Time × ℕ) Bootstrap Fault
    (Except Error SigningMaterial) where
  serve := d.serveBootstrap
  allowed := NotMisled
  boot := fun i => d.ensure i.1 i.2
  reset := id

/-- What is reached from here, for any stops, starts and failures. -/
abbrev Later (p p' : Process ApiRequest ApiResponse Bootstrap (Except Error SigningMaterial)) :
    Prop :=
  Transition.Reachable d.replica.step d.replica.Guard p p'

/-! ## The crash condition -/

/-- No write to the signing Secret has taken effect. -/
structure Undecided (s : Bootstrap) : Prop where
  noWrite : s.firstWrite = none
  absent : s.cluster.secrets ⟨d.ns, d.signingSecretName⟩ = none

/-- The first write that took effect stored this material, and the signing Secret holds it. -/
structure Stores (s : Bootstrap) (material : SigningMaterial) : Prop where
  written : ∃ data, s.firstWrite = some data ∧ d.Reads ⟨some data⟩ material
  holds : d.Holds s.cluster material

def Consistent (s : Bootstrap) : Prop := d.Undecided s ∨ ∃ material, d.Stores s material

/-- What holds when a run has returned `Ok`. -/
def Bootstrapped (res : Except Error SigningMaterial) (s : Bootstrap) : Prop :=
  ∀ material, res = .ok material → d.Stores s material ∧ d.Published s.cluster material

variable {d} {s : Bootstrap} {material material' : SigningMaterial}

lemma bootstrapped_error (e : Error) (s : Bootstrap) : d.Bootstrapped (.error e) s := by
  intro material h
  cases h

lemma Stores.consistent (h : d.Stores s material) : d.Consistent s := .inr ⟨material, h⟩

/-- Once there was a write, it stays the first one. -/
lemma firstWrite_serve {f : Fault} {q : ApiRequest} {data : BTreeMap String ByteArray}
    (h : s.firstWrite = some data) : (d.serveBootstrap f s q).2.firstWrite = some data := by
  simp only [serveBootstrap, h, Option.or]

lemma Stores.publish (h : d.Stores s material) (f : Fault) (data : BTreeMap String ByteArray) :
    d.Stores (d.serveBootstrap f s (.applySecret d.ns d.jwksSecretName data)).2 material := by
  obtain ⟨⟨written, hwritten, hreads⟩, hholds⟩ := h
  refine ⟨⟨written, firstWrite_serve hwritten, hreads⟩, ?_⟩
  cases f with
  | none | unanswered e => exact hholds.applyJwks data
  | refused e => exact hholds

/-- A write to the signing Secret that takes effect decides the material. -/
lemma Undecided.write (h : d.Undecided s) {f : Fault} (hf : ∀ e, f ≠ .refused e) :
    d.Stores (d.serveBootstrap f s
      (.applySecret d.ns d.signingSecretName (signingSecretData material))).2 material := by
  have hreads : d.Reads ⟨some (signingSecretData material)⟩ material :=
    reads_of_entries d (signingSecretData_pem material) (signingSecretData_kid material)
  have hholds : d.Holds (s.cluster.applySecret d.ns d.signingSecretName
      (signingSecretData material)) material :=
    ⟨_, Function.update_self .., reads_signingSecretData d _ material⟩
  cases f with
  | refused e => exact absurd rfl (hf e)
  | none | unanswered e =>
      refine ⟨⟨signingSecretData material, ?_, hreads⟩, hholds⟩
      simp [serveBootstrap, h.noWrite, signingWrite, Fault.executes]

lemma Undecided.refused (h : d.Undecided s) (e : ApiError) (q : ApiRequest) :
    d.Undecided (d.serveBootstrap (.refused e) s q).2 :=
  ⟨by simp [serveBootstrap, h.noWrite, Fault.executes], h.absent⟩

/-! ## One run -/

/-- A run that knows the stored material publishes it. -/
lemma publishJwks_survives (h : d.Stores s material) :
    (publishJwks d.crypto d.ns d.jwksSecretName material).run.Survives d.serveBootstrap NotMisled
      d.Consistent d.Bootstrapped s := by
  rw [publishJwks_run]
  cases htext : jwksJsonFromPrivatePem d.crypto material with
  | error e => exact ⟨h.consistent, bootstrapped_error _ _⟩
  | ok text =>
      refine ⟨h.consistent, fun f _ => ?_⟩
      have hstores := h.publish f (jwksSecretData text)
      refine ⟨hstores.consistent, fun material' hret => ?_⟩
      cases f with
      | none =>
          obtain rfl := Except.ok.inj hret
          exact ⟨hstores, published_jwksSecretData d s.cluster htext⟩
      | refused e | unanswered e => cases hret

/-- A run that has found no signing Secret stores its own material. -/
lemma createSigningSecret_survives (h : d.Undecided s) :
    (createSigningSecret d.crypto d.ns d.signingSecretName d.jwksSecretName
      material).run.Survives d.serveBootstrap NotMisled d.Consistent d.Bootstrapped s := by
  unfold createSigningSecret
  refine Survives.run_bind ⟨.inl h, fun f _ => ?_⟩
  cases f with
  | none =>
      have hstores : d.Stores (d.serveBootstrap .none s _).2 material := h.write nofun
      exact ⟨hstores.consistent, publishJwks_survives hstores⟩
  | unanswered e =>
      have hstores : d.Stores (d.serveBootstrap (.unanswered e) s _).2 material := h.write nofun
      exact ⟨hstores.consistent, bootstrapped_error _ _⟩
  | refused e => exact ⟨.inl (h.refused e _), bootstrapped_error _ _⟩

/-- Looking for a Secret changes nothing. -/
lemma serveBootstrap_getSecret (f : Fault) (ns name : String) :
    (d.serveBootstrap f s (.getSecret ns name)).2 = s := by
  cases f <;> simp [serveBootstrap, signingWrite, Cluster.serveWith, Cluster.serve]

/-- **Every run survives**: whatever stops it, the Secrets stay consistent, and if it returns `Ok`
it returns the stored material and has published it. -/
lemma ensure_survives (now : Time) (entropy : ℕ) (h : d.Consistent s) :
    (d.ensure now entropy).Survives d.serveBootstrap NotMisled d.Consistent d.Bootstrapped s := by
  rw [ensure_run]
  refine ⟨h, fun f hf => ?_⟩
  rw [serveBootstrap_getSecret]
  -- A failure is not taken for an absent Secret.
  have hfailed : ∀ e, e ≠ ApiError.notFound →
      (ApiM.opt (.error e) : Except Error (Option Secret)) = .error (.api e) := by
    intro e he
    cases e <;> first | rfl | exact absurd rfl he
  cases f with
  | refused e =>
      have hopt := hfailed e fun heq => hf.1 (heq ▸ rfl)
      simp only [serveBootstrap, Cluster.serveWith, hopt]
      exact ⟨h, bootstrapped_error _ _⟩
  | unanswered e =>
      have hopt := hfailed e fun heq => hf.2 (heq ▸ rfl)
      simp only [serveBootstrap, Cluster.serveWith, hopt]
      exact ⟨h, bootstrapped_error _ _⟩
  | none =>
      rcases h with hundecided | ⟨material, hstores⟩
      · simp only [serveBootstrap, Cluster.serveWith, Cluster.serve, hundecided.absent, ApiM.opt]
        obtain ⟨res, hres⟩ := newSigningMaterial_run d.crypto now entropy d.rsaBits
        rw [ExceptT.run_bind, hres]
        cases res with
        | error e => exact ⟨.inl hundecided, bootstrapped_error _ _⟩
        | ok material => exact createSigningSecret_survives hundecided
      · obtain ⟨secret, hsecret, hreads⟩ := hstores.holds
        simp only [serveBootstrap, Cluster.serveWith, Cluster.serve, hsecret, ApiM.opt]
        rw [ExceptT.run_bind, hreads]
        exact publishJwks_survives hstores

lemma boot_survives (i : Time × ℕ) (s : Bootstrap) (h : d.Consistent s) :
    (d.replica.boot i).Survives d.replica.serve d.replica.allowed d.Consistent d.Bootstrapped
      (d.replica.reset s) :=
  ensure_survives i.1 i.2 h

/-! ## The theorem -/

section Runs

variable {p p' : Process ApiRequest ApiResponse Bootstrap (Except Error SigningMaterial)}

lemma later_firstWrite (h : d.Later p p') {data : BTreeMap String ByteArray}
    (hdata : p.shared.firstWrite = some data) : p'.shared.firstWrite = some data := by
  have hkept := Service.reachable_preorder
    (fun s s' : Bootstrap => s.firstWrite = some data → s'.firstWrite = some data)
    (fun _ hs => hs) (fun _ _ _ h₁ h₂ hs => h₂ (h₁ hs))
    (fun _ _ _ hs => firstWrite_serve hs) (fun _ hs => hs) h
  exact hkept hdata

variable {cluster : Cluster}

/-- The Secrets are consistent at every moment. -/
lemma later_consistent (hstart : cluster.secrets ⟨d.ns, d.signingSecretName⟩ = none)
    (h : d.Later (Service.off ⟨cluster, none⟩) p) : d.Consistent p.shared := by
  have hinit : d.Consistent ⟨cluster, none⟩ := .inl ⟨rfl, hstart⟩
  exact Service.reachable_crash boot_survives hinit h

/-- What a run that returned `Ok` has done. -/
lemma later_bootstrapped (hstart : cluster.secrets ⟨d.ns, d.signingSecretName⟩ = none)
    (h : d.Later (Service.off ⟨cluster, none⟩) p) (hret : p.program = some (.ret (.ok material))) :
    d.Stores p.shared material ∧ d.Published p.shared.cluster material := by
  have hinit : d.Consistent ⟨cluster, none⟩ := .inl ⟨rfl, hstart⟩
  exact Service.reachable_returned boot_survives hinit h hret material rfl

/-- The first write decides the material. -/
lemma Stores.unique {s s' : Bootstrap} (h : d.Stores s material) (h' : d.Stores s' material')
    (hdata : ∀ data, s.firstWrite = some data → s'.firstWrite = some data) :
    material' = material := by
  obtain ⟨data, hwritten, hreads⟩ := h.written
  obtain ⟨data', hwritten', hreads'⟩ := h'.written
  obtain rfl := Option.some.inj ((hdata data hwritten).symm.trans hwritten')
  exact Except.ok.inj (Program.ret.inj (hreads'.symm.trans hreads))

end Runs

/-- **Key bootstrap is crash-safe.**  Replicas are started one after another on a cluster without
a signing Secret; each stops where it stops, and any request may fail, executed or not.  The
material that the first write to the signing Secret stored is in it from then on.  Every run that
returns `Ok` returns this material, with its `kid` and public key in the JWKS Secret; so what is
signed with it verifies against what every later run that returns `Ok` leaves there. -/
theorem bootstrap_crash_safe (d : Deployment) {verify : String → String → Prop}
    (hverify : d.crypto.Verifies verify) {cluster : Cluster}
    (hstart : cluster.secrets ⟨d.ns, d.signingSecretName⟩ = none)
    {p : Process ApiRequest ApiResponse Bootstrap (Except Error SigningMaterial)}
    (h : d.Later (Service.off ⟨cluster, none⟩) p) :
    (∀ data, p.shared.firstWrite = some data → ∃ material, d.Reads ⟨some data⟩ material ∧
      ∀ p', d.Later p p' → p'.shared.firstWrite = some data ∧
        d.Holds p'.shared.cluster material) ∧
    ∀ material, p.program = some (.ret (.ok material)) →
      d.Stores p.shared material ∧ d.Published p.shared.cluster material ∧
      ∀ p' material', d.Later p p' → p'.program = some (.ret (.ok material')) →
        material' = material ∧
        ∀ claims token, signRs256 d.crypto material claims = .ok token →
          ∃ keySet, d.Serves p'.shared.cluster keySet ∧ verify keySet token := by
  constructor
  · intro data hdata
    -- The material is that of this moment; later moments agree on it.
    obtain ⟨material, hstores⟩ : ∃ material, d.Stores p.shared material := by
      rcases later_consistent hstart h with hundecided | hstores
      · rw [hundecided.noWrite] at hdata
        cases hdata
      · exact hstores
    obtain ⟨data', hwritten, hreads⟩ := hstores.written
    obtain rfl := Option.some.inj (hdata.symm.trans hwritten)
    refine ⟨material, hreads, fun p' hp' => ⟨later_firstWrite hp' hdata, ?_⟩⟩
    rcases later_consistent hstart (h.trans hp') with hundecided | ⟨material', hstores'⟩
    · have hlater := later_firstWrite hp' hdata
      rw [hundecided.noWrite] at hlater
      cases hlater
    · obtain rfl := hstores.unique hstores' fun _ hfirst => later_firstWrite hp' hfirst
      exact hstores'.holds
  · intro material hret
    obtain ⟨hstores, hpublished⟩ := later_bootstrapped hstart h hret
    refine ⟨hstores, hpublished, fun p' material' hp' hret' => ?_⟩
    obtain ⟨hstores', hpublished'⟩ := later_bootstrapped hstart (h.trans hp') hret'
    obtain rfl := hstores.unique hstores' fun _ hfirst => later_firstWrite hp' hfirst
    refine ⟨rfl, fun claims token htoken => ?_⟩
    exact hpublished'.verifies hverify htoken

/-! ### Three starts -/

/-- What the last run has returned. -/
def lastResult (p : Process ApiRequest ApiResponse Bootstrap (Except Error SigningMaterial)) :
    Option (Except Error SigningMaterial) :=
  match p.program with
  | some (.ret res) => some res
  | _ => none

lemma program_of_lastResult
    {p : Process ApiRequest ApiResponse Bootstrap (Except Error SigningMaterial)}
    {res : Except Error SigningMaterial} (h : lastResult p = some res) :
    p.program = some (.ret res) := by
  unfold lastResult at h
  split at h
  · rename_i res' hprogram
    rw [hprogram, Option.some.inj h]
  · cases h

/-- A label that no guard refuses: its failure does not speak of an absent Secret. -/
def truthful : Happening (Time × ℕ) Fault → Bool
  | .serve (.refused .notFound) | .serve (.unanswered .notFound) => false
  | _ => true

lemma guard_of_truthful {l : Happening (Time × ℕ) Fault} (h : truthful l = true)
    (p : Process ApiRequest ApiResponse Bootstrap (Except Error SigningMaterial)) :
    d.replica.Guard p l := by
  cases l with
  | start i => trivial
  | serve f =>
      intro q k _
      have hf : f ≠ .refused .notFound ∧ f ≠ .unanswered .notFound := by
        constructor <;> rintro rfl <;> cases h
      cases q with
      | getSecret ns name => exact hf
      | _ => trivial

/-- The runs of the example: the first one writes the signing Secret and does not learn of it, the
second one cannot publish, the third one meets no failure. -/
def threeStarts : List (Happening (Time × ℕ) Fault) :=
  [.start (1700000000000000000, 1), .serve .none, .serve (.unanswered .unavailable),
    .start (1700000001000000000, 2), .serve .none, .serve (.refused .unavailable),
    .start (1700000002000000000, 3), .serve .none, .serve .none]

/-- The third run returns the material that the first one stored. -/
theorem bootstrap_crash_safe_third_start :
    ∃ p, twoReplicas.Later (Service.off ⟨Cluster.empty fun _ => none, none⟩) p ∧
      p.program = some (.ret (.ok ⟨"kid-1700000000", "key 1"⟩)) ∧
      twoReplicas.Stores p.shared ⟨"kid-1700000000", "key 1"⟩ ∧
      twoReplicas.Published p.shared.cluster ⟨"kid-1700000000", "key 1"⟩ := by
  obtain ⟨p, hrun, hresult⟩ : ∃ p,
      Transition.run twoReplicas.replica.step (Service.off ⟨Cluster.empty fun _ => none, none⟩)
        threeStarts = some p ∧
      lastResult p = some (.ok ⟨"kid-1700000000", "key 1"⟩) :=
    Option.map_eq_some_iff.mp (by decide)
  have hret := program_of_lastResult hresult
  have htruthful : ∀ l ∈ threeStarts, truthful l = true := by decide
  have hlater : twoReplicas.Later (Service.off ⟨Cluster.empty fun _ => none, none⟩) p :=
    Transition.reachable_of_run
      (Transition.guarded_of_forall (fun l hl p => guard_of_truthful (htruthful l hl) p) _) hrun
  obtain ⟨-, hreturns⟩ := bootstrap_crash_safe twoReplicas toyCrypto_verifies rfl hlater
  obtain ⟨hstores, hpublished, -⟩ := hreturns _ hret
  exact ⟨p, hlater, hret, hstores, hpublished⟩

end Deployment

end IdentityFederation
