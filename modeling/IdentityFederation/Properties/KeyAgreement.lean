import IdentityFederation.Api.Frame
import IdentityFederation.Federation.K8s
import IdentityFederation.Framework.Transition

/-!
# When replicas agree on the signing key

Any number of federation replicas start at once, and each makes its requests of
`ensureSigningAndJwks` when it likes.  A replica that finds no signing Secret draws material of
its own and stores it by force, so two that find none both keep their own material, while the
Secret keeps that of the last one.

As long as no replica finds the Secret absent while another is about to create it
(`NoRace`), there is at most one creator.  Then every replica that has returned holds the stored
material, its `kid` and public key are published, and what it signs verifies against them
(`replicas_agree`).
-/

namespace IdentityFederation

open Interaction Program

/-! ## Keys and tokens -/

/-- The JWK with the public half of a key, under this `kid`. -/
def Crypto.publicJwk (crypto : Crypto) (kid : String) (key : crypto.PrivateKey) : Json :=
  .obj [("kty", .str "RSA"), ("kid", .str kid), ("use", .str "sig"), ("alg", .str "RS256"),
    ("n", .str (crypto.publicNumbers key).1), ("e", .str (crypto.publicNumbers key).2)]

/-- The text is the key set whose one key is the public key of this material, under its `kid`. -/
def Crypto.Publishes (crypto : Crypto) (material : SigningMaterial) (keySet : String) : Prop :=
  ∃ key, crypto.fromPkcs8Pem material.privateKeyPem = .ok key ∧
    crypto.keySetText (crypto.publicJwk material.kid key) = .ok keySet

/-- What a relying party does with a key set and a token: it accepts what was signed with the key
that the set describes, under its `kid`. -/
def Crypto.Verifies (crypto : Crypto) (verify : String → String → Prop) : Prop :=
  ∀ pem kid claims encodingKey token key keySet, crypto.fromRsaPem pem = .ok encodingKey →
    crypto.encode kid claims encodingKey = .ok token → crypto.fromPkcs8Pem pem = .ok key →
    crypto.keySetText (crypto.publicJwk kid key) = .ok keySet → verify keySet token

/-- The document that the service makes of a material is its key set. -/
lemma jwksJson_eq_ok {crypto : Crypto} {material : SigningMaterial} {keySet : String} :
    jwksJsonFromPrivatePem crypto material = .ok keySet ↔ crypto.Publishes material keySet := by
  unfold jwksJsonFromPrivatePem Crypto.Publishes
  cases hkey : crypto.fromPkcs8Pem material.privateKeyPem with
  | error e => simp
  | ok key =>
      constructor
      · exact fun hkeys => ⟨key, rfl, hkeys⟩
      · rintro ⟨key', heq, hkeys⟩
        obtain rfl := Except.ok.inj heq
        exact hkeys

/-- A material has one key set. -/
lemma Crypto.Publishes.unique {crypto : Crypto} {material : SigningMaterial}
    {keySet keySet' : String} (h : crypto.Publishes material keySet)
    (h' : crypto.Publishes material keySet') : keySet = keySet' :=
  Except.ok.inj ((jwksJson_eq_ok.mpr h).symm.trans (jwksJson_eq_ok.mpr h'))

/-- What is signed with a material verifies against its key set. -/
lemma Crypto.Verifies.material {crypto : Crypto} {verify : String → String → Prop}
    (h : crypto.Verifies verify) {material : SigningMaterial} {claims : AwsClaims}
    {token keySet : String} (htoken : signRs256 crypto material claims = .ok token)
    (hkeys : crypto.Publishes material keySet) : verify keySet token := by
  obtain ⟨key, hkey, hkeys⟩ := hkeys
  unfold signRs256 at htoken
  cases hencoding : crypto.fromRsaPem material.privateKeyPem with
  | error e =>
      rw [hencoding] at htoken
      cases htoken
  | ok encodingKey =>
      rw [hencoding] at htoken
      exact h _ _ _ _ _ _ _ hencoding htoken hkey hkeys

/-- Where the replicas of one deployment keep their Secrets. -/
structure Deployment where
  crypto : Crypto
  ns : String
  signingSecretName : String
  jwksSecretName : String
  rsaBits : ℕ
  distinct : signingSecretName ≠ jwksSecretName

/-- The replicas at startup, by their index, on the cluster. -/
abbrev Startup (ι : Type) := Crew ApiRequest ApiResponse ι Cluster (Except Error SigningMaterial)

namespace Deployment

variable {ι : Type} (d : Deployment)

/-- One replica, with what its clock and its random generator yield. -/
def ensure (now : Time) (entropy : ℕ) : ApiProgram (Except Error SigningMaterial) :=
  (ensureSigningAndJwks d.crypto now entropy d.ns d.signingSecretName d.jwksSecretName
    d.rsaBits).run

def boot (now : ι → Time) (entropy : ι → ℕ) (cluster : Cluster) : Startup ι where
  shared := cluster
  member := fun i => d.ensure (now i) (entropy i)

/-- The next request of a replica is served. -/
def advance [DecidableEq ι] (c : Startup ι) (i : ι) : Option (Startup ι) := c.act Cluster.serveWith i .none

/-! ## The Secrets -/

/-- The Secret holds this material. -/
def Reads (secret : Secret) (material : SigningMaterial) : Prop :=
  (readSigningSecret d.crypto secret).run = .ret (.ok material)

/-- The signing Secret holds this material. -/
def Holds (s : Cluster) (material : SigningMaterial) : Prop :=
  ∃ secret, s.secrets ⟨d.ns, d.signingSecretName⟩ = some secret ∧ d.Reads secret material

/-- The JWKS Secret has this text. -/
def Serves (s : Cluster) (keySet : String) : Prop :=
  ∃ secret data, s.secrets ⟨d.ns, d.jwksSecretName⟩ = some secret ∧ secret.data = some data ∧
    data[jwksSecretKey]? = some keySet.toUTF8

/-- The JWKS Secret holds the `kid` of this material with its public key, and no other key. -/
def Published (s : Cluster) (material : SigningMaterial) : Prop :=
  ∃ keySet, d.Serves s keySet ∧ d.crypto.Publishes material keySet

variable {d} {s : Cluster} {material material' : SigningMaterial}

/-- A Secret holds one material at most. -/
lemma Holds.unique (h : d.Holds s material) (h' : d.Holds s material') : material = material' := by
  obtain ⟨secret, hsecret, hreads⟩ := h
  obtain ⟨secret', hsecret', hreads'⟩ := h'
  obtain rfl := Option.some.inj (hsecret.symm.trans hsecret')
  exact Except.ok.inj (Program.ret.inj (hreads.symm.trans hreads'))

/-- Of the entries of a signing Secret, two are read. -/
lemma reads_of_entries (d : Deployment) {data : BTreeMap String ByteArray}
    (hpem : data[signingSecretKeyPem]? = some material.privateKeyPem.toUTF8)
    (hkid : data[signingSecretKeyKid]? = some material.kid.toUTF8) :
    d.Reads ⟨some data⟩ material := by
  simp only [Reads, readSigningSecret, context, pure_bind, hpem, hkid, fromUtf8_toUTF8, liftText]
  rfl

lemma signingSecretData_pem (material : SigningMaterial) :
    (signingSecretData material)[signingSecretKeyPem]? = some material.privateKeyPem.toUTF8 := by
  rw [signingSecretData, Std.ExtTreeMap.getElem?_insert, Std.ExtTreeMap.getElem?_insert_self]
  simp [signingSecretKeyKid, signingSecretKeyPem]

lemma signingSecretData_kid (material : SigningMaterial) :
    (signingSecretData material)[signingSecretKeyKid]? = some material.kid.toUTF8 := by
  rw [signingSecretData, Std.ExtTreeMap.getElem?_insert_self]

/-- What is stored is read back. -/
lemma reads_signingSecretData (d : Deployment) (base : BTreeMap String ByteArray)
    (material : SigningMaterial) :
    d.Reads ⟨some (base ∪ signingSecretData material)⟩ material := by
  refine reads_of_entries d ?_ ?_
  · rw [Std.ExtTreeMap.getElem?_union, signingSecretData_pem]
    rfl
  · rw [Std.ExtTreeMap.getElem?_union, signingSecretData_kid]
    rfl

lemma published_jwksSecretData (d : Deployment) (s : Cluster) {text : String}
    (htext : jwksJsonFromPrivatePem d.crypto material = .ok text) :
    d.Published (s.applySecret d.ns d.jwksSecretName (jwksSecretData text)) material := by
  refine ⟨text, ⟨_, _, Function.update_self .., rfl, ?_⟩, jwksJson_eq_ok.mp htext⟩
  rw [Std.ExtTreeMap.getElem?_union, jwksSecretData, Std.ExtTreeMap.getElem?_insert_self]
  rfl

/-- What is signed with the published material verifies against the key set that is served. -/
lemma Published.verifies {verify : String → String → Prop} (h : d.Published s material)
    (hverify : d.crypto.Verifies verify) {claims : AwsClaims} {token : String}
    (htoken : signRs256 d.crypto material claims = .ok token) :
    ∃ keySet, d.Serves s keySet ∧ verify keySet token := by
  obtain ⟨keySet, hserves, hkeys⟩ := h
  exact ⟨keySet, hserves, hverify.material htoken hkeys⟩

lemma Holds.applyJwks (h : d.Holds s material) (data : BTreeMap String ByteArray) :
    d.Holds (s.applySecret d.ns d.jwksSecretName data) material := by
  obtain ⟨secret, hsecret, hreads⟩ := h
  refine ⟨secret, ?_, hreads⟩
  rw [← hsecret]
  refine Function.update_of_ne (fun heq => ?_) ..
  exact d.distinct (congrArg ObjectKey.name heq)

/-! ## Where a replica is -/

variable (d)

/-- The replica has not made its first request. -/
def Fresh (p : ApiProgram (Except Error SigningMaterial)) : Prop :=
  ∃ now entropy, p = d.ensure now entropy

/-- The replica is about to store this material. -/
def Creating (p : ApiProgram (Except Error SigningMaterial)) (material : SigningMaterial) : Prop :=
  p = (createSigningSecret d.crypto d.ns d.signingSecretName d.jwksSecretName material).run

/-- The replica is about to publish this material. -/
def Publishing (p : ApiProgram (Except Error SigningMaterial)) (material : SigningMaterial) :
    Prop :=
  p = (publishJwks d.crypto d.ns d.jwksSecretName material).run

/-- The replica has returned an error. -/
def Failed (p : ApiProgram (Except Error SigningMaterial)) : Prop := ∃ e, p = .ret (.error e)

/-- There is no signing Secret yet, and at most one replica is about to create it. -/
structure Unborn (c : Startup ι) : Prop where
  absent : c.shared.secrets ⟨d.ns, d.signingSecretName⟩ = none
  members : ∀ i, d.Fresh (c.member i) ∨ Failed (c.member i) ∨ ∃ m, d.Creating (c.member i) m
  creator : ∀ i j m m', d.Creating (c.member i) m → d.Creating (c.member j) m' → i = j

/-- The signing Secret holds the material of all replicas. -/
structure Born (c : Startup ι) (material : SigningMaterial) : Prop where
  holds : d.Holds c.shared material
  members : ∀ i, d.Fresh (c.member i) ∨ Failed (c.member i) ∨
    d.Publishing (c.member i) material ∨
    c.member i = .ret (.ok material) ∧ d.Published c.shared material

/-- The request looks for the signing Secret. -/
def looksFor : ApiRequest → Bool
  | .getSecret ns name => ns = d.ns && name = d.signingSecretName
  | _ => false

/-- The request creates the signing Secret. -/
def creates : ApiRequest → Bool
  | .applySecret ns name _ => ns = d.ns && name = d.signingSecretName
  | _ => false

/-- A replica does not find the signing Secret absent while another is about to create it. -/
def NoRace (c : Startup ι) (i : ι) : Prop :=
  (c.member i).next.any d.looksFor = true →
  (c.shared.secrets ⟨d.ns, d.signingSecretName⟩).isNone = true →
  ∀ j, j ≠ i → (c.member j).next.any d.creates = false

variable {d} {c c' : Startup ι} {i : ι}

/-! ## One request -/

/-- The first request of a replica, and how it goes on. -/
lemma ensure_run (d : Deployment) (now : Time) (entropy : ℕ) :
    d.ensure now entropy = .call (.getSecret d.ns d.signingSecretName) fun r =>
      match ApiM.opt r with
      | .error e => .ret (.error e)
      | .ok (some existing) =>
          (readSigningSecret d.crypto existing >>= publishJwks d.crypto d.ns d.jwksSecretName).run
      | .ok none =>
          (newSigningMaterial d.crypto now entropy d.rsaBits >>=
            createSigningSecret d.crypto d.ns d.signingSecretName d.jwksSecretName).run := by
  refine congrArg (Program.call _) (funext fun r => ?_)
  rcases r with (_ | _ | _) | existing <;> rfl

/-- A replica that finds material goes on to publish it. -/
lemma Fresh.find {q : ApiRequest} {k : ApiResponse q → ApiProgram (Except Error SigningMaterial)}
    (h : d.Fresh (.call q k)) (hs : d.Holds s material) :
    (s.serve q).2 = s ∧ d.Publishing (k (s.serve q).1) material := by
  obtain ⟨now, entropy, heq⟩ := h
  rw [ensure_run] at heq
  obtain ⟨rfl, hk⟩ := Program.call.inj heq
  obtain rfl := eq_of_heq hk
  obtain ⟨secret, hsecret, hreads⟩ := hs
  refine ⟨rfl, ?_⟩
  simp only [Cluster.serve, hsecret, ApiM.opt, Publishing]
  rw [ExceptT.run_bind, hreads]
  rfl

/-- A replica that finds nothing fails, or goes on to store new material. -/
lemma Fresh.create {q : ApiRequest} {k : ApiResponse q → ApiProgram (Except Error SigningMaterial)}
    (h : d.Fresh (.call q k)) (hs : s.secrets ⟨d.ns, d.signingSecretName⟩ = none) :
    (s.serve q).2 = s ∧ q = .getSecret d.ns d.signingSecretName ∧
      (Failed (k (s.serve q).1) ∨ ∃ m, d.Creating (k (s.serve q).1) m) := by
  obtain ⟨now, entropy, heq⟩ := h
  rw [ensure_run] at heq
  obtain ⟨rfl, hk⟩ := Program.call.inj heq
  obtain rfl := eq_of_heq hk
  refine ⟨rfl, rfl, ?_⟩
  simp only [Cluster.serve, hs, ApiM.opt, Creating]
  obtain ⟨res, hres⟩ := newSigningMaterial_run d.crypto now entropy d.rsaBits
  rw [ExceptT.run_bind, hres]
  cases res with
  | error e => exact .inl ⟨e, rfl⟩
  | ok m => exact .inr ⟨m, rfl⟩

lemma Fresh.not_creating {p : ApiProgram (Except Error SigningMaterial)} (h : d.Fresh p)
    (m : SigningMaterial) : ¬ d.Creating p m := by
  obtain ⟨now, entropy, rfl⟩ := h
  intro hcreating
  have hnext := congrArg Program.next hcreating
  rw [ensure_run] at hnext
  cases hnext

lemma Creating.creates {p : ApiProgram (Except Error SigningMaterial)} (h : d.Creating p material) :
    p.next.any d.creates = true := by
  have hnext : p.next = some (.applySecret d.ns d.signingSecretName (signingSecretData material)) := by
    rw [h]
    rfl
  simp [hnext, Deployment.creates]

/-- A replica that stores its material goes on to publish it. -/
lemma Creating.store {q : ApiRequest}
    {k : ApiResponse q → ApiProgram (Except Error SigningMaterial)}
    (h : d.Creating (.call q k) material) :
    d.Holds (s.serve q).2 material ∧ d.Publishing (k (s.serve q).1) material := by
  obtain ⟨rfl, hk⟩ := Program.call.inj h
  obtain rfl := eq_of_heq hk
  exact ⟨⟨_, Function.update_self .., reads_signingSecretData d _ material⟩, rfl⟩

/-- A replica that publishes its material returns it. -/
lemma Publishing.publish {q : ApiRequest}
    {k : ApiResponse q → ApiProgram (Except Error SigningMaterial)}
    (h : d.Publishing (.call q k) material) (hs : d.Holds s material) :
    d.Holds (s.serve q).2 material ∧ d.Published (s.serve q).2 material ∧
      k (s.serve q).1 = .ret (.ok material) := by
  rw [Publishing, publishJwks_run] at h
  cases htext : jwksJsonFromPrivatePem d.crypto material with
  | error e =>
      rw [htext] at h
      cases h
  | ok text =>
      rw [htext] at h
      obtain ⟨rfl, hk⟩ := Program.call.inj h
      obtain rfl := eq_of_heq hk
      exact ⟨hs.applyJwks _, published_jwksSecretData d s htext, rfl⟩

/-! ## The invariant -/

lemma unborn_or_born_boot (now : ι → Time) (entropy : ι → ℕ) {cluster : Cluster}
    (hstart : ∀ secret, cluster.secrets ⟨d.ns, d.signingSecretName⟩ = some secret →
      ∃ m, d.Reads secret m) :
    d.Unborn (d.boot now entropy cluster) ∨ ∃ m, d.Born (d.boot now entropy cluster) m := by
  have hfresh : ∀ i, d.Fresh ((d.boot now entropy cluster).member i) := fun i => ⟨_, _, rfl⟩
  cases hsecret : cluster.secrets ⟨d.ns, d.signingSecretName⟩ with
  | none =>
      exact .inl ⟨hsecret, fun i => .inl (hfresh i), fun i _ m _ hi _ =>
        absurd hi ((hfresh i).not_creating m)⟩
  | some secret =>
      obtain ⟨m, hreads⟩ := hstart secret hsecret
      exact .inr ⟨m, ⟨secret, hsecret, hreads⟩, fun i => .inl (hfresh i)⟩

variable [DecidableEq ι]

/-- Everything that a step of a replica can do: its next request is served. -/
lemma advance_eq_some (h : advance c i = some c') :
    ∃ q k, c.member i = .call q k ∧ c'.shared = (c.shared.serve q).2 ∧
      c'.member i = k (c.shared.serve q).1 ∧ ∀ j, j ≠ i → c'.member j = c.member j :=
  Crew.act_eq_some Cluster.serveWith h

/-- Before the Secret exists, a step finds it absent or creates it. -/
lemma Unborn.step (hc : d.Unborn c) (hrace : d.NoRace c i) (h : advance c i = some c') :
    d.Unborn c' ∨ ∃ m, d.Born c' m := by
  obtain ⟨q, k, hi, hshared, hmember, hothers⟩ := advance_eq_some h
  have hcase := hc.members i
  rw [hi] at hcase
  rcases hcase with hfresh | ⟨e, hfailed⟩ | ⟨m, hcreating⟩
  · obtain ⟨hserve, rfl, hgoes⟩ := hfresh.create hc.absent
    -- Nobody else is about to create the Secret.
    have hnone : ∀ j, j ≠ i → ∀ m, ¬ d.Creating (c.member j) m := by
      intro j hji m hj
      have hquiet := hrace (by simp [hi, Program.next, looksFor]) (by simp [hc.absent]) j hji
      rw [hj.creates] at hquiet
      cases hquiet
    refine .inl ⟨by rw [hshared, hserve, hc.absent], fun j => ?_, fun j j' m m' hj hj' => ?_⟩
    · by_cases hji : j = i
      · subst hji
        rw [hmember]
        exact .inr hgoes
      · rw [hothers j hji]
        exact hc.members j
    · have heq : ∀ j m, d.Creating (c'.member j) m → j = i := by
        intro j m hj
        by_contra hji
        rw [hothers j hji] at hj
        exact hnone j hji m hj
      rw [heq j m hj, heq j' m' hj']
  · cases hfailed
  · obtain ⟨hholds, hpublishing⟩ := hcreating.store (s := c.shared)
    refine .inr ⟨m, by rwa [hshared], fun j => ?_⟩
    by_cases hji : j = i
    · subst hji
      rw [hmember]
      exact .inr (.inr (.inl hpublishing))
    · rw [hothers j hji]
      rcases hc.members j with hfresh | hfailed | ⟨m', hj⟩
      · exact .inl hfresh
      · exact .inr (.inl hfailed)
      · exact absurd (hc.creator j i m' m hj (by rw [hi]; exact hcreating)) hji

/-- Once the Secret exists, every replica comes to the material it holds. -/
lemma Born.step (hc : d.Born c material) (h : advance c i = some c') : d.Born c' material := by
  obtain ⟨q, k, hi, hshared, hmember, hothers⟩ := advance_eq_some h
  have hcase := hc.members i
  rw [hi] at hcase
  rcases hcase with hfresh | ⟨e, hfailed⟩ | hpublishing | ⟨hret, -⟩
  · obtain ⟨hserve, hpublishing⟩ := hfresh.find hc.holds
    rw [hserve] at hshared
    refine ⟨by rw [hshared]; exact hc.holds, fun j => ?_⟩
    by_cases hji : j = i
    · subst hji
      rw [hmember]
      exact .inr (.inr (.inl hpublishing))
    · rw [hothers j hji, hshared]
      exact hc.members j
  · cases hfailed
  · obtain ⟨hholds, hpublished, hreturns⟩ := hpublishing.publish hc.holds
    refine ⟨by rwa [hshared], fun j => ?_⟩
    rw [hshared]
    by_cases hji : j = i
    · subst hji
      rw [hmember]
      exact .inr (.inr (.inr ⟨hreturns, hpublished⟩))
    · rw [hothers j hji]
      rcases hc.members j with hfresh | hfailed | hpublishing | ⟨hret, -⟩
      · exact .inl hfresh
      · exact .inr (.inl hfailed)
      · exact .inr (.inr (.inl hpublishing))
      · exact .inr (.inr (.inr ⟨hret, hpublished⟩))
  · cases hret

/-- **Replicas agree on the signing key**, in every run in which no replica finds the signing
Secret absent while another is about to create it: the material that a replica has returned with
is the one the signing Secret holds, the JWKS Secret holds its `kid` and public key, and it is that
of every other replica that has returned.  So every token that any of them signs verifies against
the key set that is served. -/
theorem replicas_agree (d : Deployment) {verify : String → String → Prop}
    (hverify : d.crypto.Verifies verify) (now : ι → Time) (entropy : ι → ℕ) {cluster : Cluster}
    (hstart : ∀ secret, cluster.secrets ⟨d.ns, d.signingSecretName⟩ = some secret →
      ∃ m, d.Reads secret m)
    {c : Startup ι}
    (hreach : Transition.Reachable advance d.NoRace (d.boot now entropy cluster) c) :
    ∀ i material, c.member i = .ret (.ok material) →
      d.Holds c.shared material ∧ d.Published c.shared material ∧
      ∀ j material', c.member j = .ret (.ok material') → material' = material ∧
        ∀ claims token, signRs256 d.crypto material' claims = .ok token →
          ∃ keySet, d.Serves c.shared keySet ∧ verify keySet token := by
  have hinv : d.Unborn c ∨ ∃ m, d.Born c m := by
    refine hreach.invariant (I := fun c => d.Unborn c ∨ ∃ m, d.Born c m)
      (unborn_or_born_boot now entropy hstart) ?_
    rintro c i c' (hc | ⟨m, hc⟩) hrace hstep
    · exact hc.step hrace hstep
    · exact .inr ⟨m, hc.step hstep⟩
  -- A replica that has returned holds the material of the Secret.
  have hreturned : ∀ i material, c.member i = .ret (.ok material) →
      d.Holds c.shared material ∧ d.Published c.shared material := by
    intro i material hi
    rcases hinv with hc | ⟨m, hc⟩
    · have hcase := hc.members i
      rw [hi] at hcase
      rcases hcase with ⟨now, entropy, hfresh⟩ | ⟨e, hfailed⟩ | ⟨m, hcreating⟩
      · rw [ensure_run] at hfresh
        cases hfresh
      · cases hfailed
      · cases hcreating
    · have hcase := hc.members i
      rw [hi] at hcase
      rcases hcase with ⟨now, entropy, hfresh⟩ | ⟨e, hfailed⟩ | hpublishing | ⟨hret, hpublished⟩
      · rw [ensure_run] at hfresh
        cases hfresh
      · cases hfailed
      · rw [Publishing, publishJwks_run] at hpublishing
        split at hpublishing <;> cases hpublishing
      · obtain rfl := Except.ok.inj (Program.ret.inj hret)
        exact ⟨hc.holds, hpublished⟩
  intro i material hi
  obtain ⟨hholds, hpublished⟩ := hreturned i material hi
  refine ⟨hholds, hpublished, fun j material' hj => ?_⟩
  obtain rfl : material' = material := (hreturned j material' hj).1.unique hholds
  exact ⟨rfl, fun claims token htoken => hpublished.verifies hverify htoken⟩

/-! ### Two replicas -/

/-- A key is its own PEM text and its own modulus, and a signature names its key. -/
def toyCrypto : Crypto where
  PrivateKey := String
  newKey entropy _ := .ok ("key " ++ toString entropy)
  toPkcs8Pem key := .ok key
  fromPkcs8Pem pem := .ok pem
  publicNumbers key := (key, "AQAB")
  keySetText jwk := .ok (Json.obj [("keys", .arr [jwk])]).text
  EncodingKey := String
  fromRsaPem pem := .ok pem
  encode kid claims pem := .ok (kid ++ "." ++ claims.text ++ "." ++ pem)
  utf8Error _ := "invalid utf-8 sequence"

/-- A token names its `kid` and the key it is signed with. -/
def toyVerify (keySet token : String) : Prop :=
  ∃ pem kid claims, toyCrypto.encode kid claims pem = .ok token ∧
    toyCrypto.keySetText (toyCrypto.publicJwk kid pem) = .ok keySet

lemma toyCrypto_verifies : toyCrypto.Verifies toyVerify := by
  intro pem kid claims encodingKey token key keySet hencoding htoken hkey hkeys
  obtain rfl : pem = encodingKey := Except.ok.inj hencoding
  obtain rfl : pem = key := Except.ok.inj hkey
  exact ⟨pem, kid, claims, htoken, hkeys⟩

/-- The names of the chart. -/
def twoReplicas : Deployment where
  crypto := toyCrypto
  ns := "kif"
  signingSecretName := "kif-signing"
  jwksSecretName := "kif-jwks"
  rsaBits := 3072
  distinct := by decide

/-- Both replicas start in the same second, on a cluster without Secrets. -/
def bothStart : Startup (Fin 2) :=
  twoReplicas.boot (fun _ => 1700000000000000000) (fun i => i.val + 1) (Cluster.empty fun _ => none)

/-- What a replica has returned. -/
def returned (c : Startup (Fin 2)) (i : Fin 2) : Option (Except Error SigningMaterial) :=
  match c.member i with
  | .ret res => some res
  | .call .. => none

lemma member_of_returned {c : Startup (Fin 2)} {i : Fin 2} {res : Except Error SigningMaterial}
    (h : returned c i = some res) : c.member i = .ret res := by
  unfold returned at h
  split at h
  · rename_i res' hi
    rw [hi, Option.some.inj h]
  · cases h

instance (d : Deployment) (c : Startup (Fin 2)) (i : Fin 2) : Decidable (d.NoRace c i) :=
  inferInstanceAs (Decidable (_ → _ → ∀ _ : Fin 2, _ → _))

/-- One replica after the other: both hold the material of the first, and what either of them
signs verifies against the key set with it. -/
theorem replicas_agree_in_turn :
    ∃ c, Transition.run advance bothStart [0, 0, 0, 1, 1] = some c ∧
      (∀ i, c.member i = .ret (.ok ⟨"kid-1700000000", "key 1"⟩)) ∧
      twoReplicas.Holds c.shared ⟨"kid-1700000000", "key 1"⟩ ∧
      twoReplicas.Published c.shared ⟨"kid-1700000000", "key 1"⟩ ∧
      ∀ claims token, signRs256 toyCrypto ⟨"kid-1700000000", "key 1"⟩ claims = .ok token →
        ∃ keySet, twoReplicas.Serves c.shared keySet ∧ toyVerify keySet token := by
  obtain ⟨c, hrun, hreturned⟩ : ∃ c, Transition.run advance bothStart [0, 0, 0, 1, 1] = some c ∧
      (returned c 0, returned c 1) =
        (some (.ok ⟨"kid-1700000000", "key 1"⟩), some (.ok ⟨"kid-1700000000", "key 1"⟩)) :=
    Option.map_eq_some_iff.mp (by decide)
  obtain ⟨h₀, h₁⟩ := Prod.mk.inj hreturned
  have hmember : ∀ i, c.member i = .ret (.ok ⟨"kid-1700000000", "key 1"⟩) := by
    intro i
    match i with
    | 0 => exact member_of_returned h₀
    | 1 => exact member_of_returned h₁
  have hstart : ∀ secret, (Cluster.empty fun _ => none).secrets
      ⟨twoReplicas.ns, twoReplicas.signingSecretName⟩ = some secret →
        ∃ m, twoReplicas.Reads secret m := fun _ hsecret => nomatch hsecret
  obtain ⟨hholds, hpublished, hagree⟩ := replicas_agree twoReplicas toyCrypto_verifies _ _ hstart
    (Transition.reachable_of_run (by decide) hrun) 0 _ (hmember 0)
  exact ⟨c, hrun, hmember, hholds, hpublished, (hagree 1 _ (hmember 1)).2⟩

/-- **Two replicas that start together**: both find no Secret, both return `Ok`, and one of them
signs with material that the signing Secret does not hold. -/
theorem replicas_disagree :
    ∃ c : Startup (Fin 2), Transition.Reachable advance Transition.Always bothStart c ∧
      (∀ i, ∃ material, c.member i = .ret (.ok material)) ∧
      ∃ i material, c.member i = .ret (.ok material) ∧ ¬ twoReplicas.Holds c.shared material := by
  obtain ⟨c, hrun, hreturned⟩ : ∃ c,
      Transition.run advance bothStart [0, 1, 0, 1, 0, 1] = some c ∧
      (returned c 0, returned c 1) =
        (some (.ok ⟨"kid-1700000000", "key 1"⟩), some (.ok ⟨"kid-1700000000", "key 2"⟩)) :=
    Option.map_eq_some_iff.mp (by decide)
  obtain ⟨h₀, h₁⟩ := Prod.mk.inj hreturned
  have hmember₀ := member_of_returned h₀
  have hmember₁ := member_of_returned h₁
  refine ⟨c, Transition.reachable_of_run (Transition.guarded_always _ _) hrun, ?_, ?_⟩
  · intro i
    match i with
    | 0 => exact ⟨_, hmember₀⟩
    | 1 => exact ⟨_, hmember₁⟩
  · -- The Secret holds one material; the two replicas have returned different ones.
    by_cases hholds : twoReplicas.Holds c.shared ⟨"kid-1700000000", "key 1"⟩
    · refine ⟨1, _, hmember₁, fun hholds' => ?_⟩
      have heq := hholds.unique hholds'
      simp at heq
    · exact ⟨0, _, hmember₀, hholds⟩

end Deployment

end IdentityFederation
