import IdentityFederation.Api.Cluster

/-!
# Claims and signing material (`kif-federation/src/jwt.rs`)

`Crypto` stands for the crates that handle RSA keys, JSON web tokens and key sets; the code
relies on nothing of them that is not a hypothesis where it is used.  Arithmetic on seconds is
that of `u64` in a release build.
-/

namespace IdentityFederation

/-- Signing material loaded from the signing Secret. -/
structure SigningMaterial where
  kid : String
  privateKeyPem : String
  deriving DecidableEq

/-- What the service uses of other crates.  An operation that fails returns the text of its
error. -/
structure Crypto where
  PrivateKey : Type
  /-- `RsaPrivateKey::new`, for what the random generator yields and a size in bits. -/
  newKey : ℕ → ℕ → Except String PrivateKey
  toPkcs8Pem : PrivateKey → Except String String
  fromPkcs8Pem : String → Except String PrivateKey
  /-- Modulus and exponent of the public key, in base64url. -/
  publicNumbers : PrivateKey → String × String
  /-- The JSON text of a `CoreJsonWebKeySet` with the key that the document describes. -/
  keySetText : Json → Except String String
  EncodingKey : Type
  fromRsaPem : String → Except String EncodingKey
  /-- `encode` with an RS256 header that carries the `kid`. -/
  encode : String → Json → EncodingKey → Except String String
  /-- The text of a `FromUtf8Error`. -/
  utf8Error : ByteArray → String

/-! ## Claims -/

structure KifK8s where
  ns : String
  serviceAccount : String
  pod : Option String
  deriving DecidableEq

structure KifClaims where
  k8s : Option KifK8s
  attributes : Option (BTreeMap String String)
  deriving DecidableEq

structure AwsClaims where
  iss : String
  sub : String
  aud : String
  iat : UInt64
  nbf : UInt64
  exp : UInt64
  jti : String
  kif : Option KifClaims
  deriving DecidableEq

def KifK8s.toJson (k : KifK8s) : Json :=
  .obj ([("namespace", .str k.ns), ("service_account", .str k.serviceAccount)] ++
    Json.optional "pod" .str k.pod)

def KifClaims.toJson (k : KifClaims) : Json :=
  .obj (Json.optional "k8s" KifK8s.toJson k.k8s ++
    Json.optional "attributes" stringMapToJson k.attributes)

def AwsClaims.toJson (c : AwsClaims) : Json :=
  .obj ([("iss", .str c.iss), ("sub", .str c.sub), ("aud", .str c.aud),
      ("iat", .num c.iat.toNat), ("nbf", .num c.nbf.toNat), ("exp", .num c.exp.toNat),
      ("jti", .str c.jti)] ++
    Json.optional "kif" KifClaims.toJson c.kif)

/-- `now_unix_seconds`, for a reading of the clock; `0` before the epoch. -/
def nowUnixSeconds (now : Time) : UInt64 := UInt64.ofNat (now / 1000000000).toNat

/-- `now_nanos`. -/
def nowNanos (now : Time) : ℕ := now.toNat

/-- The clock is read for `iat`, and again for `jti`. -/
def AwsClaims.new (clock : ℕ → Time) (issuer subject audience : String) (ttlSeconds : UInt64)
    (includeProvenance : Bool) (ns serviceAccount : String) (podName : Option String)
    (extraAttributes : Option (BTreeMap String String)) : AwsClaims :=
  let now := nowUnixSeconds (clock 0)
  { iss := issuer
    sub := subject
    aud := audience
    iat := now
    nbf := now
    exp := now + ttlSeconds
    jti := "kif-" ++ toString (nowNanos (clock 1))
    kif :=
      if includeProvenance || extraAttributes.isSome then
        some
          { k8s :=
              if includeProvenance then
                some { ns := ns, serviceAccount := serviceAccount, pod := podName }
              else none
            attributes := extraAttributes }
      else none }

/-! ### The claims document -/

lemma AwsClaims.toJson_k8s (c : AwsClaims) :
    c.toJson.path? ["kif", "k8s"] = (c.kif.bind KifClaims.k8s).map KifK8s.toJson := by
  obtain ⟨_, _, _, _, _, _, _, kif⟩ := c
  match kif with
  | none => rfl
  | some ⟨none, none⟩ => rfl
  | some ⟨none, some _⟩ => rfl
  | some ⟨some _, none⟩ => rfl
  | some ⟨some _, some _⟩ => rfl

lemma AwsClaims.toJson_attributes (c : AwsClaims) :
    c.toJson.path? ["kif", "attributes"] =
      (c.kif.bind KifClaims.attributes).map stringMapToJson := by
  obtain ⟨_, _, _, _, _, _, _, kif⟩ := c
  match kif with
  | none => rfl
  | some ⟨none, none⟩ => rfl
  | some ⟨none, some _⟩ => rfl
  | some ⟨some _, none⟩ => rfl
  | some ⟨some _, some _⟩ => rfl

lemma AwsClaims.toJson_exp (c : AwsClaims) :
    c.toJson.path? ["exp"] = some (.num c.exp.toNat) := rfl

section New

variable (clock : ℕ → Time) (issuer subject audience : String) (ttlSeconds : UInt64)
  (includeProvenance : Bool) (ns serviceAccount : String) (podName : Option String)
  (extraAttributes : Option (BTreeMap String String))

/-- Provenance is there when it is asked for. -/
lemma AwsClaims.new_k8s :
    ((AwsClaims.new clock issuer subject audience ttlSeconds includeProvenance ns serviceAccount
      podName extraAttributes).kif.bind KifClaims.k8s).isSome = includeProvenance := by
  cases includeProvenance <;> cases extraAttributes <;> rfl

/-- The attributes are there with provenance or without. -/
lemma AwsClaims.new_attributes :
    (AwsClaims.new clock issuer subject audience ttlSeconds includeProvenance ns serviceAccount
      podName extraAttributes).kif.bind KifClaims.attributes = extraAttributes := by
  cases includeProvenance <;> cases extraAttributes <;> rfl

/-- A lifetime that fits on the clock is added without wrapping around. -/
lemma AwsClaims.new_exp {c : AwsClaims}
    (hc : c = AwsClaims.new clock issuer subject audience ttlSeconds includeProvenance ns
      serviceAccount podName extraAttributes)
    (hfits : c.iat.toNat + ttlSeconds.toNat < UInt64.size) :
    c.exp.toNat = c.iat.toNat + ttlSeconds.toNat := by
  have hexp : c.exp = c.iat + ttlSeconds := by rw [hc]; rfl
  rw [hexp, UInt64.toNat_add]
  exact Nat.mod_eq_of_lt hfits

end New

/-! ## Signing -/

def signRs256 (crypto : Crypto) (signing : SigningMaterial) (claims : AwsClaims) :
    Except String String :=
  match crypto.fromRsaPem signing.privateKeyPem with
  | .error e => .error ("invalid rsa pem: " ++ e)
  | .ok key => crypto.encode signing.kid claims.toJson key

/-- The JWKS document that is published for a private key. -/
def jwksJsonFromPrivatePem (crypto : Crypto) (signing : SigningMaterial) :
    Except String String :=
  match crypto.fromPkcs8Pem signing.privateKeyPem with
  | .error e => .error ("parse pkcs8 pem: " ++ e)
  | .ok rsa =>
      let (n, e) := crypto.publicNumbers rsa
      crypto.keySetText (.obj
        [("kty", .str "RSA"), ("kid", .str signing.kid), ("use", .str "sig"),
          ("alg", .str "RS256"), ("n", .str n), ("e", .str e)])

end IdentityFederation
