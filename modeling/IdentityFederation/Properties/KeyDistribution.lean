import IdentityFederation.Issuer.Main
import IdentityFederation.Properties.Bootstrap
import IdentityFederation.Properties.KeyAgreement

/-!
# From the replicas to the issuer

The federation replicas publish their key in the JWKS Secret; the issuer watches the Secret and
serves what it last read of it.  `Distribution` is both together: the replicas start, stop and start
again while their requests interleave, and the watch delivers the versions of the Secret in order,
as late as it likes, or lists the Secret anew.

Once the issuer has seen all versions, and a replica has started, what the issuer serves verifies
what any replica signs; and as long as the issuer runs this remains so, however many versions are
under way (`issuer_serves_key`).  As in `replicas_agree`, the runs are those in which no replica
finds the signing Secret absent while another is about to create it.
-/

namespace IdentityFederation

open Interaction Program

namespace Issuer

variable {K : KeySets}

/-- The store after the watch has delivered a Secret. -/
def JwksStore.watched (store : JwksStore K) (secretName : String) (secret : Secret) : JwksStore K :=
  match watchedJwks K secretName (.ok secret) with
  | .ok jwks => store.set jwks
  | .error _ => store

/-- This is what the closure of the watch does with the Secret. -/
lemma exec_onEvent_apply (secretName : String) (secret : Secret) (o : Outcome) (w : World K) :
    (onEvent K secretName (.ok (.apply secret))).run.exec (World.serve o) w =
      (.ok (), { w with store := w.store.watched secretName secret }) := by
  have hitem : appliedObject (.ok (.apply secret)) = some (.ok secret) := rfl
  simp only [onEvent, hitem, JwksStore.watched]
  cases watchedJwks K secretName (.ok secret) with
  | ok jwks => rfl
  | error e => rfl

end Issuer

namespace Deployment

variable (d : Deployment) (K : Issuer.KeySets) {ι : Type}

/-! ## The replicas and the issuer -/

/-- The replicas, the store of the issuer, and the versions of the JWKS Secret that its watch has
still to deliver, in the order in which they were written. -/
structure Distribution (ι : Type) where
  replicas : Startup ι
  store : Issuer.JwksStore K
  undelivered : List Secret

inductive DistributionLabel (ι : Type) where
  | request (i : ι)
  /-- A replica ends, wherever it is, and starts again. -/
  | restart (i : ι) (now : Time) (entropy : ℕ)
  | deliver
  | relist
  /-- The issuer starts again, with what it has read from its file. -/
  | reboot (file : K.Jwks)

variable {K}

/-- The JWKS Secret as it is stored. -/
def jwksSecret (s : Cluster) : Option Secret := s.secrets ⟨d.ns, d.jwksSecretName⟩

/-- The version of the JWKS Secret that a request has written. -/
def written (s : Cluster) : Option ApiRequest → List Secret
  | some (.applySecret ns name _) =>
      if ns = d.ns ∧ name = d.jwksSecretName then (d.jwksSecret s).toList else []
  | _ => []

/-- A watch begins with the Secret as it is. -/
def Distribution.boot (now : ι → Time) (entropy : ι → ℕ) (cluster : Cluster) (file : K.Jwks) :
    Distribution K ι where
  replicas := d.boot now entropy cluster
  store := { inner := some file }
  undelivered := (d.jwksSecret cluster).toList

def Distribution.step [DecidableEq ι] (s : Distribution K ι) :
    DistributionLabel K ι → Option (Distribution K ι)
  | .request i => (advance s.replicas i).map fun replicas =>
      { s with
        replicas := replicas
        undelivered := s.undelivered ++ d.written replicas.shared (s.replicas.member i).next }
  | .restart i now entropy => some
      { s with
        replicas := { s.replicas with
          member := Function.update s.replicas.member i (d.ensure now entropy) } }
  | .deliver =>
      match s.undelivered with
      | [] => none
      | secret :: later => some
          { s with store := s.store.watched d.jwksSecretName secret, undelivered := later }
  | .relist => some
      { s with
        store :=
          match d.jwksSecret s.replicas.shared with
          | some secret => s.store.watched d.jwksSecretName secret
          | none => s.store
        undelivered := [] }
  | .reboot file => some
      { s with
        store := { inner := some file }
        undelivered := (d.jwksSecret s.replicas.shared).toList }

/-- The runs of `replicas_agree`. -/
def Distribution.NoRace (s : Distribution K ι) : DistributionLabel K ι → Prop
  | .request i => d.NoRace s.replicas i
  | _ => True

/-- Those of them in which the issuer is not started again. -/
def Distribution.Steady (s : Distribution K ι) : DistributionLabel K ι → Prop
  | .reboot _ => False
  | l => s.NoRace d l

variable {d}

/-! ## What has been delivered -/

/-- The newest undelivered version is the stored one; if there is none, the store has what the stored
one says. -/
structure Distribution.InStep (d : Deployment) (s : Distribution K ι) : Prop where
  newest : ∀ secret, s.undelivered.getLast? = some secret →
    d.jwksSecret s.replicas.shared = some secret
  settled : s.undelivered = [] → ∀ secret jwks, d.jwksSecret s.replicas.shared = some secret →
    Issuer.watchedJwks K d.jwksSecretName (.ok secret) = .ok jwks → s.store.get = some jwks

/-- A watch that begins is in step. -/
lemma Distribution.InStep.listed (d : Deployment) (replicas : Startup ι) (store : Issuer.JwksStore K) :
    Distribution.InStep d
      { replicas := replicas
        store := store
        undelivered := (d.jwksSecret replicas.shared).toList } := by
  cases hsecret : d.jwksSecret replicas.shared with
  | none =>
      refine ⟨fun _ hnewest => ?_, fun _ secret _ hstored => ?_⟩
      · cases hnewest
      · have hstored : d.jwksSecret replicas.shared = some secret := hstored
        rw [hsecret] at hstored
        cases hstored
  | some secret =>
      refine ⟨fun _ hnewest => hsecret.trans hnewest, fun hnone => ?_⟩
      cases hnone

/-- A Secret that holds a key set leaves the store with it. -/
lemma get_watched {store : Issuer.JwksStore K} {secretName : String} {secret : Secret}
    {jwks : K.Jwks} (h : Issuer.watchedJwks K secretName (.ok secret) = .ok jwks) :
    (store.watched secretName secret).get = some jwks := by
  simp only [Issuer.JwksStore.watched, h]
  rfl

/-- A request writes one version, which is then the stored one, or leaves the Secret as it is. -/
lemma jwksSecret_serve (d : Deployment) (s : Cluster) (q : ApiRequest) :
    (∃ secret, d.written (s.serve q).2 (some q) = [secret] ∧
      d.jwksSecret (s.serve q).2 = some secret) ∨
    d.written (s.serve q).2 (some q) = [] ∧ d.jwksSecret (s.serve q).2 = d.jwksSecret s := by
  cases q with
  | applySecret ns name data =>
      by_cases hkey : ns = d.ns ∧ name = d.jwksSecretName
      · obtain ⟨rfl, rfl⟩ := hkey
        have hsecret : d.jwksSecret (s.serve (.applySecret d.ns d.jwksSecretName data)).2 =
            some { data := some (((d.jwksSecret s).bind Secret.data).getD ∅ ∪ data) } :=
          Function.update_self ..
        exact .inl ⟨_, by simp only [written, and_self, if_true, hsecret, Option.toList_some], hsecret⟩
      · refine .inr ⟨if_neg hkey, Function.update_of_ne (fun heq => hkey ?_) ..⟩
        exact ⟨(congrArg ObjectKey.ns heq).symm, (congrArg ObjectKey.name heq).symm⟩
  | replaceCrbStatus ns name crb =>
      refine .inr ⟨rfl, ?_⟩
      simp only [Cluster.serve, Cluster.replaceCrbStatus]
      repeat' split
      all_goals rfl
  | patchRcrbStatus ns name resolved =>
      refine .inr ⟨rfl, ?_⟩
      simp only [Cluster.serve, Cluster.patchRcrbStatus]
      split <;> rfl
  | _ => exact .inr ⟨rfl, rfl⟩

variable [DecidableEq ι] {s s' : Distribution K ι} {l : DistributionLabel K ι}

/-- Everything that a request does. -/
lemma Distribution.step_request {i : ι} (h : s.step d (.request i) = some s') :
    advance s.replicas i = some s'.replicas ∧ s'.store = s.store ∧ ∃ q k,
      s.replicas.member i = .call q k ∧
      s'.replicas.shared = (s.replicas.shared.serve q).2 ∧
      s'.undelivered = s.undelivered ++ d.written s'.replicas.shared (some q) := by
  obtain ⟨replicas, hadvance, rfl⟩ := Option.map_eq_some_iff.mp h
  obtain ⟨q, k, hi, hshared, -⟩ := advance_eq_some hadvance
  exact ⟨hadvance, rfl, q, k, hi, hshared, by simp [hi, Program.next]⟩

/-- **Every step keeps the issuer in step.** -/
lemma Distribution.InStep.step (hs : s.InStep d) (h : s.step d l = some s') : s'.InStep d := by
  cases l with
  | request i =>
      obtain ⟨-, hstore, q, k, -, hshared, hversions⟩ := Distribution.step_request h
      rw [hshared] at hversions
      rcases jwksSecret_serve d s.replicas.shared q with ⟨secret, hwritten, hsecret⟩ | ⟨hwritten, hkept⟩
      · rw [hwritten] at hversions
        rw [← hshared] at hsecret
        refine ⟨fun newest hnewest => ?_, fun hnone => ?_⟩
        · rw [hversions, List.getLast?_concat] at hnewest
          rw [hsecret, hnewest]
        · simp [hversions] at hnone
      · rw [hwritten, List.append_nil] at hversions
        rw [← hshared] at hkept
        refine ⟨fun newest hnewest => ?_, fun hnone secret jwks hsecret hjwks => ?_⟩
        · rw [hkept]
          exact hs.newest newest (hversions ▸ hnewest)
        · rw [hstore]
          exact hs.settled (hversions ▸ hnone) secret jwks (hkept ▸ hsecret) hjwks
  | restart i now entropy =>
      obtain rfl := Option.some.inj h
      exact ⟨hs.newest, hs.settled⟩
  | deliver =>
      simp only [Distribution.step] at h
      split at h
      · cases h
      rename_i first later hversions
      obtain rfl := Option.some.inj h
      refine ⟨fun newest hnewest => ?_, fun hnone secret jwks hsecret hjwks => ?_⟩
      · refine hs.newest newest ?_
        rw [hversions, List.getLast?_cons, hnewest]
        rfl
      · -- The version that was delivered is the stored one.
        obtain rfl : later = [] := hnone
        have hfirst := hs.newest first (by rw [hversions]; rfl)
        obtain rfl := Option.some.inj (hfirst.symm.trans hsecret)
        exact get_watched hjwks
  | relist =>
      obtain rfl := Option.some.inj h
      refine ⟨fun newest hnewest => ?_, fun _ secret jwks hsecret hjwks => ?_⟩
      · cases hnewest
      · have hsecret : d.jwksSecret s.replicas.shared = some secret := hsecret
        simp only [hsecret]
        exact get_watched hjwks
  | reboot file =>
      obtain rfl := Option.some.inj h
      exact .listed d s.replicas _

/-! ## The material of the replicas -/

/-- A replica that starts again is about to look for the signing Secret. -/
lemma unborn_or_born_restart {c : Startup ι} (h : d.Unborn c ∨ ∃ m, d.Born c m) (i : ι) (now : Time)
    (entropy : ℕ) :
    d.Unborn { c with member := Function.update c.member i (d.ensure now entropy) } ∨
      ∃ m, d.Born { c with member := Function.update c.member i (d.ensure now entropy) } m := by
  have hfresh : d.Fresh (d.ensure now entropy) := ⟨now, entropy, rfl⟩
  rcases h with h | ⟨m, h⟩
  · refine .inl ⟨h.absent, fun j => ?_, fun j j' m m' hj hj' => ?_⟩
    · by_cases hji : j = i
      · subst hji
        simpa using .inl hfresh
      · simpa [Function.update_of_ne hji] using h.members j
    · have hother : ∀ j m, d.Creating (Function.update c.member i (d.ensure now entropy) j) m →
          d.Creating (c.member j) m := by
        intro j m hj
        by_cases hji : j = i
        · subst hji
          rw [Function.update_self] at hj
          exact absurd hj (hfresh.not_creating m)
        · rwa [Function.update_of_ne hji] at hj
      exact h.creator j j' m m' (hother j m hj) (hother j' m' hj')
  · refine .inr ⟨m, h.holds, fun j => ?_⟩
    by_cases hji : j = i
    · subst hji
      simpa using .inl hfresh
    · simpa [Function.update_of_ne hji] using h.members j

/-- **In every run**, there is no signing Secret yet, or it holds the material of all replicas. -/
lemma unborn_or_born_step (hs : d.Unborn s.replicas ∨ ∃ m, d.Born s.replicas m)
    (hrace : s.NoRace d l) (h : s.step d l = some s') :
    d.Unborn s'.replicas ∨ ∃ m, d.Born s'.replicas m := by
  cases l with
  | request i =>
      obtain ⟨hadvance, -⟩ := Distribution.step_request h
      rcases hs with hs | ⟨m, hs⟩
      · exact hs.step hrace hadvance
      · exact .inr ⟨m, hs.step hadvance⟩
  | restart i now entropy =>
      obtain rfl := Option.some.inj h
      exact unborn_or_born_restart hs i now entropy
  | deliver =>
      simp only [Distribution.step] at h
      split at h
      · cases h
      · obtain rfl := Option.some.inj h
        exact hs
  | relist | reboot =>
      obtain rfl := Option.some.inj h
      exact hs

omit [DecidableEq ι] in
/-- A replica that has returned has the material of the signing Secret, and it is published. -/
lemma born_of_returned {c : Startup ι} (h : d.Unborn c ∨ ∃ m, d.Born c m) {i : ι}
    {material : SigningMaterial} (hi : c.member i = .ret (.ok material)) :
    d.Born c material ∧ d.Published c.shared material := by
  rcases h with hc | ⟨m, hc⟩
  · have hcase := hc.members i
    rw [hi] at hcase
    rcases hcase with ⟨now, entropy, hfresh⟩ | ⟨e, hfailed⟩ | ⟨m, hcreating⟩
    · rw [ensure_run] at hfresh
      cases hfresh
    · cases hfailed
    · cases hcreating
  · have hcase := hc.members i
    rw [hi] at hcase
    rcases hcase with ⟨now, entropy, hfresh⟩ | ⟨e, hfailed⟩ | hpublishing | ⟨hret, hpublished⟩
    · rw [ensure_run] at hfresh
      cases hfresh
    · cases hfailed
    · rw [Publishing, publishJwks_run] at hpublishing
      split at hpublishing <;> cases hpublishing
    · obtain rfl := Except.ok.inj (Program.ret.inj hret)
      exact ⟨hc, hpublished⟩

/-! ## What the issuer serves from then on -/

/-- Once published, the JWKS of the material stays published. -/
lemma Published.advance {c c' : Startup ι} {i : ι} {material : SigningMaterial}
    (hpublished : d.Published c.shared material) (hc : d.Born c material)
    (h : advance c i = some c') : d.Published c'.shared material := by
  obtain ⟨q, k, hi, hshared, -⟩ := advance_eq_some h
  have hcase := hc.members i
  rw [hi] at hcase
  rw [hshared]
  rcases hcase with hfresh | ⟨e, hfailed⟩ | hpublishing | ⟨hret, -⟩
  · rwa [(hfresh.find hc.holds).1]
  · cases hfailed
  · exact (hpublishing.publish hc.holds).2.1
  · cases hret

/-- What is published is what the watch makes of the Secret. -/
lemma Published.watched {cluster : Cluster} {material : SigningMaterial} {text : String}
    {jwks : K.Jwks} (h : d.Published cluster material)
    (htext : d.crypto.Publishes material text)
    (hparse : Issuer.parseJwks K text.toUTF8 = .ok jwks) :
    ∃ secret, d.jwksSecret cluster = some secret ∧
      Issuer.watchedJwks K d.jwksSecretName (.ok secret) = .ok jwks := by
  obtain ⟨text', ⟨secret, data, hsecret, hdata, hentry⟩, htext'⟩ := h
  obtain rfl := htext.unique htext'
  have hentry : data[Issuer.jwksSecretKey]? = some text.toUTF8 := hentry
  exact ⟨secret, hsecret, by simp only [Issuer.watchedJwks, hdata, hentry, hparse]⟩

/-- The issuer has the key set of the material, and nothing else is under way. -/
structure Distribution.Stable (d : Deployment) (s : Distribution K ι) (material : SigningMaterial)
    (jwks : K.Jwks) : Prop where
  born : d.Born s.replicas material
  published : d.Published s.replicas.shared material
  store : s.store.get = some jwks
  undelivered : ∀ secret ∈ s.undelivered,
    Issuer.watchedJwks K d.jwksSecretName (.ok secret) = .ok jwks

/-- **While the issuer runs, it keeps the key set.** -/
lemma Distribution.Stable.step {material : SigningMaterial} {jwks : K.Jwks} {text : String}
    (htext : d.crypto.Publishes material text)
    (hparse : Issuer.parseJwks K text.toUTF8 = .ok jwks) (hs : s.Stable d material jwks)
    (hsteady : s.Steady d l) (h : s.step d l = some s') : s'.Stable d material jwks := by
  cases l with
  | request i =>
      obtain ⟨hadvance, hstore, q, k, -, hshared, hversions⟩ := Distribution.step_request h
      have hpublished := hs.published.advance hs.born hadvance
      refine ⟨hs.born.step hadvance, hpublished, by rw [hstore, hs.store], fun secret hsecret => ?_⟩
      rw [hversions, List.mem_append] at hsecret
      rcases hsecret with hsecret | hsecret
      · exact hs.undelivered secret hsecret
      · obtain ⟨stored, hstored, hwatched⟩ := hpublished.watched htext hparse
        rw [hshared] at hstored hsecret
        rcases jwksSecret_serve d s.replicas.shared q with ⟨new, hwritten, hnew⟩ | ⟨hwritten, -⟩
        · rw [hwritten, List.mem_singleton] at hsecret
          rw [hsecret, Option.some.inj (hnew.symm.trans hstored)]
          exact hwatched
        · rw [hwritten] at hsecret
          cases hsecret
  | restart i now entropy =>
      obtain rfl := Option.some.inj h
      refine ⟨⟨hs.born.holds, fun j => ?_⟩, hs.published, hs.store, hs.undelivered⟩
      by_cases hji : j = i
      · subst hji
        simpa using .inl ⟨now, entropy, rfl⟩
      · simpa [Function.update_of_ne hji] using hs.born.members j
  | deliver =>
      simp only [Distribution.step] at h
      split at h
      · cases h
      rename_i first later hversions
      obtain rfl := Option.some.inj h
      refine ⟨hs.born, hs.published, get_watched (hs.undelivered first ?_), fun secret hsecret => ?_⟩
      · simp [hversions]
      · exact hs.undelivered secret (by simp [hversions, hsecret])
  | relist =>
      obtain rfl := Option.some.inj h
      obtain ⟨stored, hstored, hwatched⟩ := hs.published.watched htext hparse
      refine ⟨hs.born, hs.published, ?_, fun secret hsecret => ?_⟩
      · simp only [hstored]
        exact get_watched hwatched
      · cases hsecret
  | reboot file => exact hsteady.elim

/-- **The issuer serves what the replicas sign with.**  Take any run in which replicas start, stop
and start again, the issuer too, and the watch delivers what it will.  In every state in which some
replica has started and all versions of the Secret have been delivered, and in every later state as
long as the issuer is not started again, the issuer is up and serves a key set that verifies whatever
a started replica signs. -/
theorem issuer_serves_key (d : Deployment) {verify : String → String → Prop}
    (hverify : d.crypto.Verifies verify)
    (hcrate : ∀ document text, d.crypto.keySetText document = .ok text →
      ∃ jwks, Issuer.parseJwks K text.toUTF8 = .ok jwks ∧ K.toText jwks = .ok text)
    (now : ι → Time) (entropy : ι → ℕ) (file : K.Jwks) {cluster : Cluster}
    (hstart : ∀ secret, cluster.secrets ⟨d.ns, d.signingSecretName⟩ = some secret →
      ∃ m, d.Reads secret m)
    {s s' : Distribution K ι}
    (hreach : Transition.Reachable (Distribution.step d) (Distribution.NoRace d)
      (Distribution.boot d now entropy cluster file) s)
    {i : ι} {material : SigningMaterial} (hi : s.replicas.member i = .ret (.ok material))
    (hdelivered : s.undelivered = [])
    (hlater : Transition.Reachable (Distribution.step d) (Distribution.Steady d) s s') :
    Issuer.startupz s'.store = 200 ∧ (Issuer.getJwks s'.store).status = 200 ∧
      ∀ j material' claims token, s'.replicas.member j = .ret (.ok material') →
        signRs256 d.crypto material' claims = .ok token →
        verify (Issuer.getJwks s'.store).body token := by
  have hinv : (d.Unborn s.replicas ∨ ∃ m, d.Born s.replicas m) ∧ s.InStep d :=
    hreach.invariant
      (I := fun s : Distribution K ι => (d.Unborn s.replicas ∨ ∃ m, d.Born s.replicas m) ∧ s.InStep d)
      ⟨unborn_or_born_boot now entropy hstart, .listed d _ _⟩
      fun s l s' hs hrace hstep => ⟨unborn_or_born_step hs.1 hrace hstep, hs.2.step hstep⟩
  obtain ⟨hborn, hpublished⟩ := born_of_returned hinv.1 hi
  obtain ⟨text, -, htext⟩ : ∃ text, d.Serves s.replicas.shared text ∧
      d.crypto.Publishes material text := by exact hpublished
  obtain ⟨jwks, hparse, hserialized⟩ : ∃ jwks, Issuer.parseJwks K text.toUTF8 = .ok jwks ∧
      K.toText jwks = .ok text := by
    obtain ⟨key, -, hdocument⟩ := htext
    exact hcrate _ text hdocument
  have hstable : s.Stable d material jwks := by
    obtain ⟨secret, hsecret, hwatched⟩ := hpublished.watched htext hparse
    refine ⟨hborn, hpublished, hinv.2.settled hdelivered secret jwks hsecret hwatched, ?_⟩
    simp [hdelivered]
  have hend : s'.Stable d material jwks :=
    hlater.invariant (I := fun s : Distribution K ι => s.Stable d material jwks) hstable
      fun s l s' hs hsteady hstep => hs.step htext hparse hsteady hstep
  have hserved : Issuer.getJwks s'.store =
      { status := 200
        headers :=
          [("content-type", "application/json"), ("cache-control", "public, max-age=300")]
        body := text } := by
    simp only [Issuer.getJwks, hend.store, hserialized]
  refine ⟨?_, by rw [hserved], fun j material' claims token hj htoken => ?_⟩
  · exact if_pos (Issuer.JwksStore.isLoaded_iff.mpr ⟨jwks, hend.store⟩)
  · rw [hserved]
    have heq : material' = material :=
      (born_of_returned (.inr ⟨material, hend.born⟩) hj).1.holds.unique hend.born.holds
    exact hverify.material (heq ▸ htoken) htext

/-! ### Two replicas and an issuer -/

/-- A key set is its text. -/
def textKeySets : Issuer.KeySets where
  Jwks := String
  Jwk := String
  keys text := [text]
  fromStr text := .ok text
  toText text := .ok text
  utf8Error _ := "invalid utf-8 sequence"

lemma parseJwks_textKeySets (text : String) :
    Issuer.parseJwks textKeySets text.toUTF8 = .ok text := by
  have htext : String.fromUTF8? text.toUTF8 = some text := dif_pos text.isValidUTF8
  simp only [Issuer.parseJwks, htext, textKeySets, List.isEmpty_cons, Bool.false_eq_true, if_false]

instance (s : Distribution textKeySets (Fin 2)) (l : DistributionLabel textKeySets (Fin 2)) :
    Decidable (s.NoRace twoReplicas l) :=
  match l with
  | .request i => inferInstanceAs (Decidable (twoReplicas.NoRace s.replicas i))
  | .restart .. | .deliver | .relist | .reboot _ => .isTrue trivial

instance (s : Distribution textKeySets (Fin 2)) (l : DistributionLabel textKeySets (Fin 2)) :
    Decidable (s.Steady twoReplicas l) :=
  match l with
  | .request i => inferInstanceAs (Decidable (twoReplicas.NoRace s.replicas i))
  | .restart .. | .deliver | .relist => .isTrue trivial
  | .reboot _ => .isFalse id

/-- The issuer has an old file.  One replica starts, then the other; then both versions of the
Secret are delivered. -/
def issuerCatchesUp {ι : Type} (i j : ι) : List (DistributionLabel textKeySets ι) :=
  [.request i, .request i, .request i, .request j, .request j, .deliver, .deliver]

/-- A replica starts again and publishes its key, and the version that it writes is delivered. -/
def issuerRunsOn {ι : Type} (i : ι) : List (DistributionLabel textKeySets ι) :=
  [.restart i 1700000009000000000 7, .request i, .request i, .deliver]

/-- Two replicas and an issuer with an old file. -/
def twoAndIssuer : Distribution textKeySets (Fin 2) :=
  Distribution.boot twoReplicas (fun _ => 1700000000000000000) (fun i => i.val + 1)
    (Cluster.empty fun _ => none) "old"

/-- The replica that was started again signs with the first key, and the issuer serves it. -/
theorem issuer_serves_key_two :
    ∃ s s', Transition.run (Distribution.step twoReplicas) twoAndIssuer
        (issuerCatchesUp (0 : Fin 2) 1) = some s ∧
      Transition.run (Distribution.step twoReplicas) s (issuerRunsOn 0) = some s' ∧
      s'.replicas.member 0 = .ret (.ok ⟨"kid-1700000000", "key 1"⟩) ∧
      Issuer.startupz s'.store = 200 ∧
      ∀ claims token, signRs256 toyCrypto ⟨"kid-1700000000", "key 1"⟩ claims = .ok token →
        toyVerify (Issuer.getJwks s'.store).body token := by
  obtain ⟨s, hrun, hs⟩ : ∃ s, Transition.run (Distribution.step twoReplicas) twoAndIssuer
        (issuerCatchesUp (0 : Fin 2) 1) = some s ∧
      (s.undelivered.length, returned s.replicas 1,
        decide (Transition.Guarded (Distribution.step twoReplicas)
          (Distribution.Steady twoReplicas) s (issuerRunsOn 0)),
        (Transition.run (Distribution.step twoReplicas) s (issuerRunsOn 0)).bind
          fun s' => returned s'.replicas 0) =
      (0, some (.ok ⟨"kid-1700000000", "key 1"⟩), true,
        some (.ok ⟨"kid-1700000000", "key 1"⟩)) :=
    Option.map_eq_some_iff.mp (by decide)
  simp only [Prod.mk.injEq, decide_eq_true_eq] at hs
  obtain ⟨hlength, hreturned, hsteady, hlater⟩ := hs
  obtain ⟨s', hrun', hreturned'⟩ := Option.bind_eq_some_iff.mp hlater
  have hmember := member_of_returned hreturned'
  have hstart : ∀ secret, (Cluster.empty fun _ => none).secrets
      ⟨twoReplicas.ns, twoReplicas.signingSecretName⟩ = some secret →
        ∃ m, twoReplicas.Reads secret m := by
    intro secret hsecret
    cases hsecret
  have hcrate : ∀ document text, twoReplicas.crypto.keySetText document = .ok text →
      ∃ jwks, Issuer.parseJwks textKeySets text.toUTF8 = .ok jwks ∧
        textKeySets.toText jwks = .ok text :=
    fun _ text _ => ⟨text, parseJwks_textKeySets text, rfl⟩
  obtain ⟨hup, -, htokens⟩ := issuer_serves_key twoReplicas toyCrypto_verifies hcrate _ _ _ hstart
    (Transition.reachable_of_run (by decide) hrun) (member_of_returned hreturned)
    (List.eq_nil_of_length_eq_zero hlength) (Transition.reachable_of_run hsteady hrun')
  exact ⟨s, s', hrun, hrun', hmember, hup, fun claims token htoken =>
    htokens 0 _ claims token hmember htoken⟩

end Deployment

end IdentityFederation
