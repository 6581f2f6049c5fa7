import IdentityFederation.Federation.Jwt
import IdentityFederation.Framework.Text

/-!
# The federation service and the API (`kif-federation/src/k8s.rs`)

Who a caller is (`tokenReview`, `parseServiceAccountUsername`), what it may have
(`getResolvedBinding`), and how a replica comes by its signing material at startup
(`ensureSigningAndJwks`).
-/

namespace IdentityFederation

/-! ## Callers -/

/-- The username TokenReview reports of a token. -/
def tokenReview (token : String) : ApiM String := do
  match ← ApiM.send (.createTokenReview token) with
  | none => throw (.msg "TokenReview missing status")
  | some status =>
      if status.authenticated ≠ some true then throw (.msg "token not authenticated")
      else
        match status.user with
        | none => throw (.msg "TokenReview missing user")
        | some none => throw (.msg "TokenReview user missing username")
        | some (some username) => return username

/-- `system:serviceaccount:<ns>:<sa>`, and whatever follows another colon. -/
def parseServiceAccountUsername (u : String) : Option (String × String) :=
  match Text.afterStart? "system:serviceaccount:" u with
  | none => none
  | some rest =>
      match Text.split ':' rest with
      | ns :: sa :: _ => if ns = "" ∨ sa = "" then none else some (ns, sa)
      | _ => none

/-- The username of a ServiceAccount. -/
def serviceAccountUsername (ns sa : String) : String :=
  "system:serviceaccount:" ++ (ns ++ String.singleton ':' ++ sa)

lemma parseServiceAccountUsername_serviceAccountUsername {ns sa : String} (hns : ns ≠ "")
    (hsa : sa ≠ "") (hns' : ':' ∉ ns.toList) (hsa' : ':' ∉ sa.toList) :
    parseServiceAccountUsername (serviceAccountUsername ns sa) = some (ns, sa) := by
  have hrest : Text.afterStart? "system:serviceaccount:" (serviceAccountUsername ns sa) =
      some (ns ++ String.singleton ':' ++ sa) := Text.afterStart?_append _ _
  have hsplit : Text.split ':' (ns ++ String.singleton ':' ++ sa) = [ns, sa] := by
    rw [Text.split_append hns', Text.split_of_notMem hsa']
  unfold parseServiceAccountUsername
  rw [hrest]
  simp only [hsplit]
  exact if_neg (by simp [hns, hsa])

def getResolvedBinding (ns saName : String) : ApiM ResolvedCloudRoleBinding :=
  ApiM.send (.getRcrb ns saName)

/-! ## Signing material -/

def signingSecretKeyPem : String := "private_key_pkcs8.pem"

def signingSecretKeyKid : String := "kid"

def jwksSecretKey : String := "jwks.json"

/-- `?` on an error of another crate. -/
def liftText {α : Type} : Except String α → ApiM α
  | .ok a => pure a
  | .error text => throw (.msg text)

/-- `Option::context`. -/
def context {α : Type} (text : String) : Option α → ApiM α
  | some a => pure a
  | none => throw (.msg text)

/-- `String::from_utf8`. -/
def fromUtf8 (crypto : Crypto) (bytes : ByteArray) : Except String String :=
  match String.fromUTF8? bytes with
  | some s => .ok s
  | none => .error (crypto.utf8Error bytes)

/-- The entries of a signing Secret. -/
def signingSecretData (material : SigningMaterial) : BTreeMap String ByteArray :=
  ((∅ : BTreeMap String ByteArray).insert signingSecretKeyPem material.privateKeyPem.toUTF8).insert
    signingSecretKeyKid material.kid.toUTF8

/-- The entries of a JWKS Secret. -/
def jwksSecretData (jwksJson : String) : BTreeMap String ByteArray :=
  (∅ : BTreeMap String ByteArray).insert jwksSecretKey jwksJson.toUTF8

def upsertJwksSecret (ns name jwksJson : String) : ApiM Unit :=
  ApiM.send (.applySecret ns name (jwksSecretData jwksJson))

/-- The material an existing signing Secret holds. -/
def readSigningSecret (crypto : Crypto) (existing : Secret) : ApiM SigningMaterial := do
  let data ← context "existing signing secret missing data" existing.data
  let pem ← context ("signing secret missing " ++ signingSecretKeyPem) data[signingSecretKeyPem]?
  let kid ← context ("signing secret missing " ++ signingSecretKeyKid) data[signingSecretKeyKid]?
  let pem ← liftText (fromUtf8 crypto pem)
  let kid ← liftText (fromUtf8 crypto kid)
  return { kid := kid, privateKeyPem := pem }

/-- New material: a `kid` from the clock, in seconds, and a new key. -/
def newSigningMaterial (crypto : Crypto) (now : Time) (entropy rsaBits : ℕ) :
    ApiM SigningMaterial := do
  if now < 0 then throw (.msg "second time provided was later than self")
  else
    let kid := "kid-" ++ toString (now / 1000000000).toNat
    let key ← liftText (crypto.newKey entropy rsaBits)
    let pem ← liftText (crypto.toPkcs8Pem key)
    return { kid := kid, privateKeyPem := pem }

/-- The last part of both ways below: publish the JWKS of the material, and return it. -/
def publishJwks (crypto : Crypto) (ns jwksSecretName : String) (material : SigningMaterial) :
    ApiM SigningMaterial := do
  let jwksJson ← liftText (jwksJsonFromPrivatePem crypto material)
  upsertJwksSecret ns jwksSecretName jwksJson
  return material

/-- Store new material, then publish it. -/
def createSigningSecret (crypto : Crypto) (ns signingSecretName jwksSecretName : String)
    (material : SigningMaterial) : ApiM SigningMaterial := do
  ApiM.send (.applySecret ns signingSecretName (signingSecretData material))
  publishJwks crypto ns jwksSecretName material

/-- Ensure that the signing Secret and the JWKS Secret exist. -/
def ensureSigningAndJwks (crypto : Crypto) (now : Time) (entropy : ℕ)
    (ns signingSecretName jwksSecretName : String) (rsaBits : ℕ) : ApiM SigningMaterial := do
  match ← ApiM.sendOpt (.getSecret ns signingSecretName) with
  | some existing =>
      -- The JWKS Secret is published again in case it is missing or outdated.
      let material ← readSigningSecret crypto existing
      publishJwks crypto ns jwksSecretName material
  | none =>
      let material ← newSigningMaterial crypto now entropy rsaBits
      createSigningSecret crypto ns signingSecretName jwksSecretName material

/-! ### Steps without requests -/

lemma fromUtf8_toUTF8 (crypto : Crypto) (s : String) : fromUtf8 crypto s.toUTF8 = .ok s := by
  have h : String.fromUTF8? s.toUTF8 = some s := dif_pos s.isValidUTF8
  rw [fromUtf8, h]

/-- Drawing new material sends no request. -/
lemma newSigningMaterial_run (crypto : Crypto) (now : Time) (entropy rsaBits : ℕ) :
    ∃ res, (newSigningMaterial crypto now entropy rsaBits).run = .ret res := by
  unfold newSigningMaterial
  split
  · exact ⟨_, rfl⟩
  cases crypto.newKey entropy rsaBits with
  | error e => exact ⟨_, rfl⟩
  | ok key =>
      cases hpem : crypto.toPkcs8Pem key with
      | error e => exact ⟨_, by simp only [liftText, pure_bind, hpem]; rfl⟩
      | ok pem => exact ⟨_, by simp only [liftText, pure_bind, hpem]; rfl⟩

/-- Publishing either fails at once, or sends the document that it then has published. -/
lemma publishJwks_run (crypto : Crypto) (ns jwksSecretName : String)
    (material : SigningMaterial) :
    (publishJwks crypto ns jwksSecretName material).run =
      match jwksJsonFromPrivatePem crypto material with
      | .error e => .ret (.error (.msg e))
      | .ok jwksJson =>
          .call (.applySecret ns jwksSecretName (jwksSecretData jwksJson)) fun r =>
            .ret ((r.mapError Error.api).map fun _ => material) := by
  unfold publishJwks
  cases jwksJsonFromPrivatePem crypto material with
  | error e => rfl
  | ok jwksJson =>
      refine congrArg (Interaction.Program.call _) (funext fun r => ?_)
      cases r <;> rfl

end IdentityFederation
