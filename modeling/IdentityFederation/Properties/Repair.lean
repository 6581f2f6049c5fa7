import IdentityFederation.Properties.KeyAgreement

/-!
# Starting on Secrets that exist already

A replica that starts alone, with every request served, returns signing material that the signing
Secret holds and whose JWKS is published, if it finds no signing Secret or one that is well formed
(`WellFormed`): both entries are there, they are text, and the key can be read.  A well-formed
Secret is left alone, and the JWKS Secret is repaired whatever it holds.

A signing Secret that is there and is not well formed is not repaired: the replica returns an
error, now and at every later start (`starts_iff`).

What is asked of the crates is `Crypto.Works`: keys of the size can be generated and written, what
was written can be read, and there is a key set for every key.
-/

namespace IdentityFederation

open Interaction Program

/-- The operations on keys succeed. -/
structure Crypto.Works (crypto : Crypto) (rsaBits : ℕ) : Prop where
  newKey : ∀ entropy, ∃ key, crypto.newKey entropy rsaBits = .ok key
  toPem : ∀ key, ∃ pem, crypto.toPkcs8Pem key = .ok pem
  /-- A key that was written is read back. -/
  fromPem : ∀ key pem, crypto.toPkcs8Pem key = .ok pem → crypto.fromPkcs8Pem pem = .ok key
  keySet : ∀ key kid, ∃ text, crypto.keySetText (crypto.publicJwk kid key) = .ok text

namespace Deployment

variable (d : Deployment)

/-- The Secret has the two entries of this material, and the key can be read. -/
structure WellFormed (secret : Secret) (material : SigningMaterial) : Prop where
  entries : ∃ data, secret.data = some data ∧
    data[signingSecretKeyPem]? = some material.privateKeyPem.toUTF8 ∧
    data[signingSecretKeyKid]? = some material.kid.toUTF8
  key : ∃ key, d.crypto.fromPkcs8Pem material.privateKeyPem = .ok key

/-- What a start comes to: the material it returns is stored, its `kid` and public key are
published, and it is the stored material if that was well formed before. -/
def Starts (now : Time) (entropy : ℕ) (s : Cluster) : Prop :=
  ∃ material s', (d.ensure now entropy).exec Cluster.serve s = (.ok material, s') ∧
    d.Holds s' material ∧ d.Published s' material ∧
    ∀ secret stored, s.secrets ⟨d.ns, d.signingSecretName⟩ = some secret →
      d.WellFormed secret stored → material = stored

variable {d} {s : Cluster} {now : Time} {entropy : ℕ} {material : SigningMaterial}

/-! ## Reading a Secret -/

lemma fromUtf8_eq_ok {crypto : Crypto} {bytes : ByteArray} {text : String} :
    fromUtf8 crypto bytes = .ok text ↔ bytes = text.toUTF8 := by
  constructor
  · intro h
    unfold fromUtf8 at h
    split at h
    · rename_i text' htext
      obtain rfl := Except.ok.inj h
      unfold String.fromUTF8? at htext
      split at htext
      · obtain rfl := Option.some.inj htext
        rfl
      · cases htext
    · cases h
  · rintro rfl
    exact fromUtf8_toUTF8 crypto text

/-- Reading sends no request, and gives the material whose entries the Secret has. -/
lemma readSigningSecret_run (crypto : Crypto) (secret : Secret) :
    (∃ e, (readSigningSecret crypto secret).run = .ret (.error e)) ∨
    ∃ material data, (readSigningSecret crypto secret).run = .ret (.ok material) ∧
      secret.data = some data ∧
      data[signingSecretKeyPem]? = some material.privateKeyPem.toUTF8 ∧
      data[signingSecretKeyKid]? = some material.kid.toUTF8 := by
  unfold readSigningSecret
  cases hdata : secret.data with
  | none => exact .inl ⟨_, rfl⟩
  | some data =>
      cases hpem : data[signingSecretKeyPem]? with
      | none => exact .inl ⟨_, by simp only [context, pure_bind, hpem]; rfl⟩
      | some pem =>
          cases hkid : data[signingSecretKeyKid]? with
          | none => exact .inl ⟨_, by simp only [context, pure_bind, hpem, hkid]; rfl⟩
          | some kid =>
              cases hpem' : fromUtf8 crypto pem with
              | error e =>
                  exact .inl ⟨_, by simp only [context, pure_bind, hpem, hkid, hpem', liftText]; rfl⟩
              | ok pem' =>
                  cases hkid' : fromUtf8 crypto kid with
                  | error e =>
                      exact .inl ⟨_, by
                        simp only [context, pure_bind, hpem, hkid, hpem', hkid', liftText]; rfl⟩
                  | ok kid' =>
                      refine .inr ⟨⟨kid', pem'⟩, data, ?_, rfl, ?_, ?_⟩
                      · simp only [context, pure_bind, hpem, hkid, hpem', hkid', liftText]
                        rfl
                      · rw [hpem, fromUtf8_eq_ok.mp hpem']
                      · rw [hkid, fromUtf8_eq_ok.mp hkid']

/-- A document is there for material whose key can be read. -/
lemma jwksJson_ok (hworks : d.crypto.Works d.rsaBits) {key : d.crypto.PrivateKey}
    (hkey : d.crypto.fromPkcs8Pem material.privateKeyPem = .ok key) :
    ∃ text, jwksJsonFromPrivatePem d.crypto material = .ok text := by
  obtain ⟨text, htext⟩ := hworks.keySet key material.kid
  exact ⟨text, jwksJson_eq_ok.mpr ⟨key, hkey, htext⟩⟩

/-- A document is there only if the key can be read. -/
lemma key_of_jwksJson {text : String} (h : jwksJsonFromPrivatePem d.crypto material = .ok text) :
    ∃ key, d.crypto.fromPkcs8Pem material.privateKeyPem = .ok key := by
  obtain ⟨key, hkey, -⟩ := jwksJson_eq_ok.mp h
  exact ⟨key, hkey⟩

/-! ## Publishing -/

/-- With a key that can be read, the stored material is published and returned. -/
lemma publishJwks_exec (hworks : d.crypto.Works d.rsaBits) (hholds : d.Holds s material)
    {key : d.crypto.PrivateKey} (hkey : d.crypto.fromPkcs8Pem material.privateKeyPem = .ok key) :
    ∃ s', (publishJwks d.crypto d.ns d.jwksSecretName material).run.exec Cluster.serve s =
      (.ok material, s') ∧ d.Holds s' material ∧ d.Published s' material := by
  obtain ⟨text, htext⟩ := jwksJson_ok hworks hkey
  refine ⟨s.applySecret d.ns d.jwksSecretName (jwksSecretData text), ?_, hholds.applyJwks _,
    published_jwksSecretData d s htext⟩
  rw [publishJwks_run, htext]
  rfl

/-- What publishing returns is the material, and its key can be read. -/
lemma publishJwks_exec_ok {material' : SigningMaterial} {s' : Cluster}
    (h : (publishJwks d.crypto d.ns d.jwksSecretName material).run.exec Cluster.serve s =
      (.ok material', s')) :
    material' = material ∧ ∃ key, d.crypto.fromPkcs8Pem material.privateKeyPem = .ok key := by
  rw [publishJwks_run] at h
  cases htext : jwksJsonFromPrivatePem d.crypto material with
  | error e =>
      rw [htext] at h
      cases h
  | ok text =>
      rw [htext] at h
      cases h
      exact ⟨rfl, key_of_jwksJson htext⟩

/-! ## Starting -/

lemma WellFormed.reads {secret : Secret} (h : d.WellFormed secret material) :
    d.Reads secret material := by
  obtain ⟨data, hdata, hpem, hkid⟩ := h.entries
  obtain ⟨_⟩ := secret
  obtain rfl : _ = some data := hdata
  exact reads_of_entries d hpem hkid

/-- A Secret that is read has the two entries; it is well formed if the key can be read. -/
lemma wellFormed_of_reads {secret : Secret} (hreads : d.Reads secret material)
    (hkey : ∃ key, d.crypto.fromPkcs8Pem material.privateKeyPem = .ok key) :
    d.WellFormed secret material := by
  rcases readSigningSecret_run d.crypto secret with ⟨e, he⟩ | ⟨material', data, hread, hentries⟩
  · cases he.symm.trans hreads
  · cases hread.symm.trans hreads
    exact ⟨⟨data, hentries⟩, hkey⟩

/-- A start on a Secret: it is read, and published. -/
lemma exec_ensure_existing {secret : Secret}
    (hsecret : s.secrets ⟨d.ns, d.signingSecretName⟩ = some secret) :
    (d.ensure now entropy).exec Cluster.serve s =
      (readSigningSecret d.crypto secret >>= publishJwks d.crypto d.ns d.jwksSecretName).run.exec
        Cluster.serve s := by
  rw [ensure_run, exec_call]
  simp only [Cluster.serve, hsecret, ApiM.opt]

/-- A start without one: material is drawn, and stored. -/
lemma exec_ensure_absent (hsecret : s.secrets ⟨d.ns, d.signingSecretName⟩ = none) :
    (d.ensure now entropy).exec Cluster.serve s =
      (newSigningMaterial d.crypto now entropy d.rsaBits >>=
        createSigningSecret d.crypto d.ns d.signingSecretName d.jwksSecretName).run.exec
          Cluster.serve s := by
  rw [ensure_run, exec_call]
  simp only [Cluster.serve, hsecret, ApiM.opt]

/-- New material is drawn unless the clock is before the epoch. -/
lemma newSigningMaterial_exec (hworks : d.crypto.Works d.rsaBits) (entropy : ℕ) (hnow : 0 ≤ now) :
    ∃ material key, (newSigningMaterial d.crypto now entropy d.rsaBits).run = .ret (.ok material) ∧
      d.crypto.fromPkcs8Pem material.privateKeyPem = .ok key := by
  obtain ⟨key, hkey⟩ := hworks.newKey entropy
  obtain ⟨pem, hpem⟩ := hworks.toPem key
  refine ⟨⟨"kid-" ++ toString (now / 1000000000).toNat, pem⟩, key, ?_, hworks.fromPem key pem hpem⟩
  unfold newSigningMaterial
  rw [if_neg (Int.not_lt.mpr hnow)]
  simp only [liftText, pure_bind, hkey, hpem]
  rfl

/-- Without a signing Secret, a start succeeds if the clock can be read. -/
lemma starts_absent_iff (hworks : d.crypto.Works d.rsaBits)
    (hsecret : s.secrets ⟨d.ns, d.signingSecretName⟩ = none) :
    d.Starts now entropy s ↔ 0 ≤ now := by
  constructor
  · rintro ⟨material, s', hexec, -⟩
    by_contra hnow
    rw [exec_ensure_absent hsecret] at hexec
    obtain ⟨m, s₁, hnew, -⟩ := exec_run_bind_ok Cluster.serve hexec
    rw [newSigningMaterial, if_pos (Int.not_le.mp hnow)] at hnew
    cases hnew
  · intro hnow
    obtain ⟨material, key, hnew, hkey⟩ := newSigningMaterial_exec hworks entropy hnow
    -- The material is stored, and then published.
    let stored := s.applySecret d.ns d.signingSecretName (signingSecretData material)
    have hholds : d.Holds stored material :=
      ⟨_, Function.update_self .., reads_signingSecretData d _ material⟩
    obtain ⟨s', hexec, hholds', hpublished⟩ := publishJwks_exec hworks hholds hkey
    refine ⟨material, s', ?_, hholds', hpublished, fun secret _ hsome => ?_⟩
    · rw [exec_ensure_absent hsecret, ExceptT.run_bind, hnew]
      exact hexec
    · cases hsecret.symm.trans hsome

/-- With a signing Secret, it succeeds if the Secret is well formed. -/
lemma starts_existing_iff (hworks : d.crypto.Works d.rsaBits) {secret : Secret}
    (hsecret : s.secrets ⟨d.ns, d.signingSecretName⟩ = some secret) :
    d.Starts now entropy s ↔ ∃ material, d.WellFormed secret material := by
  constructor
  · rintro ⟨material, s', hexec, -⟩
    refine ⟨material, ?_⟩
    rw [exec_ensure_existing hsecret, ExceptT.run_bind] at hexec
    rcases readSigningSecret_run d.crypto secret with ⟨e, he⟩ | ⟨m, data, hread, -⟩
    · rw [he] at hexec
      cases hexec
    · rw [hread] at hexec
      obtain ⟨rfl, hkey⟩ := publishJwks_exec_ok hexec
      exact wellFormed_of_reads hread hkey
  · rintro ⟨material, hwell⟩
    obtain ⟨key, hkey⟩ := hwell.key
    obtain ⟨s', hexec, hholds, hpublished⟩ :=
      publishJwks_exec hworks ⟨secret, hsecret, hwell.reads⟩ hkey
    refine ⟨material, s', ?_, hholds, hpublished, fun secret' stored hsome hstored => ?_⟩
    · rw [exec_ensure_existing hsecret, ExceptT.run_bind, hwell.reads]
      exact hexec
    · obtain rfl := Option.some.inj (hsecret.symm.trans hsome)
      exact Holds.unique ⟨secret, hsecret, hwell.reads⟩ ⟨secret, hsecret, hstored.reads⟩

/-- **When a start succeeds.**  With every request served, a start returns material that is
stored and published, leaving alone what was well formed, exactly if the signing Secret does not
exist yet (and the clock is not before 1970), or is well formed. -/
theorem starts_iff (d : Deployment) (hworks : d.crypto.Works d.rsaBits) (now : Time) (entropy : ℕ)
    (s : Cluster) :
    d.Starts now entropy s ↔
      (s.secrets ⟨d.ns, d.signingSecretName⟩ = none ∧ 0 ≤ now) ∨
      ∃ secret material, s.secrets ⟨d.ns, d.signingSecretName⟩ = some secret ∧
        d.WellFormed secret material := by
  cases hsecret : s.secrets ⟨d.ns, d.signingSecretName⟩ with
  | none =>
      rw [starts_absent_iff hworks hsecret]
      constructor
      · exact fun hnow => .inl ⟨rfl, hnow⟩
      · rintro (⟨-, hnow⟩ | ⟨secret, _, hsome, -⟩)
        · exact hnow
        · cases hsome
  | some secret =>
      rw [starts_existing_iff hworks hsecret]
      constructor
      · rintro ⟨material, hwell⟩
        exact .inr ⟨secret, material, rfl, hwell⟩
      · rintro (⟨hnone, -⟩ | ⟨secret', material, hsome, hwell⟩)
        · cases hnone
        · obtain rfl := Option.some.inj hsome
          exact ⟨material, hwell⟩

lemma toyCrypto_works (rsaBits : ℕ) : toyCrypto.Works rsaBits where
  newKey _ := ⟨_, rfl⟩
  toPem _ := ⟨_, rfl⟩
  fromPem _ _ h := by rw [← Except.ok.inj h]; rfl
  keySet _ _ := ⟨_, rfl⟩

/-- The cluster where the signing Secret is well formed, and the JWKS Secret holds a byte that is
no text. -/
def jwksBroken : Cluster :=
  ((Cluster.empty fun _ => none).applySecret twoReplicas.ns twoReplicas.signingSecretName
    (signingSecretData ⟨"kid-1", "key 1"⟩)).applySecret twoReplicas.ns twoReplicas.jwksSecretName
      ((∅ : BTreeMap String ByteArray).insert jwksSecretKey ⟨#[0xff]⟩)

lemma jwksBroken_not_serves (keySet : String) : ¬ twoReplicas.Serves jwksBroken keySet := by
  rintro ⟨jwks, data, hjwks, hdata, hentry⟩
  have hstored : jwksBroken.secrets ⟨twoReplicas.ns, twoReplicas.jwksSecretName⟩ =
      some ⟨some (∅ ∪ (∅ : BTreeMap String ByteArray).insert jwksSecretKey ⟨#[0xff]⟩)⟩ := rfl
  obtain rfl := Option.some.inj (hstored.symm.trans hjwks)
  obtain rfl := Option.some.inj hdata
  have hbyte : some ⟨#[0xff]⟩ = some keySet.toUTF8 := hentry
  have htext : String.fromUTF8? keySet.toUTF8 = some keySet := dif_pos keySet.isValidUTF8
  have hnone : String.fromUTF8? ⟨#[0xff]⟩ = none := by decide
  rw [← Option.some.inj hbyte, hnone] at htext
  cases htext

lemma jwksBroken_wellFormed : ∃ secret,
    jwksBroken.secrets ⟨twoReplicas.ns, twoReplicas.signingSecretName⟩ = some secret ∧
    twoReplicas.WellFormed secret ⟨"kid-1", "key 1"⟩ :=
  ⟨_, rfl, ⟨_, rfl, by decide, by decide⟩, _, rfl⟩

/-- The JWKS Secret is repaired, with the key that the signing Secret holds. -/
theorem starts_iff_repaired :
    (∀ keySet, ¬ twoReplicas.Serves jwksBroken keySet) ∧
    ∃ s', (twoReplicas.ensure 1700000000000000000 1).exec Cluster.serve jwksBroken =
        (.ok ⟨"kid-1", "key 1"⟩, s') ∧
      twoReplicas.Holds s' ⟨"kid-1", "key 1"⟩ ∧ twoReplicas.Published s' ⟨"kid-1", "key 1"⟩ := by
  obtain ⟨secret, hsecret, hwell⟩ := jwksBroken_wellFormed
  constructor
  · exact jwksBroken_not_serves
  · obtain ⟨material, s', hexec, hholds, hpublished, hkept⟩ :=
      (starts_iff twoReplicas (toyCrypto_works _) 1700000000000000000 1 jwksBroken).mpr
        (.inr ⟨secret, _, hsecret, hwell⟩)
    obtain rfl := hkept secret _ hsecret hwell
    exact ⟨s', hexec, hholds, hpublished⟩

/-- The cluster where the signing Secret has a `kid`, and no key. -/
def keyMissing : Cluster :=
  (Cluster.empty fun _ => none).applySecret twoReplicas.ns twoReplicas.signingSecretName
    ((∅ : BTreeMap String ByteArray).insert signingSecretKeyKid "kid-1".toUTF8)

/-- **A Secret without a key is not repaired**: the start ends with an error. -/
theorem missing_key_not_repaired :
    (∃ e, ((twoReplicas.ensure 1700000000000000000 1).exec Cluster.serve keyMissing).1 =
      .error (.msg e)) ∧
    ¬ twoReplicas.Starts 1700000000000000000 1 keyMissing := by
  have hexec : ((twoReplicas.ensure 1700000000000000000 1).exec Cluster.serve keyMissing).1 =
      .error (.msg ("signing secret missing " ++ signingSecretKeyPem)) := by
    rfl
  refine ⟨⟨_, hexec⟩, ?_⟩
  rintro ⟨material, s', hstart, -⟩
  rw [hstart] at hexec
  cases hexec

end Deployment

end IdentityFederation
