import IdentityFederation.Agent.Main
import IdentityFederation.Federation.Http

/-!
# The two sides of the wire

The agent and the federation service have message types of their own, with separate encodings.
They agree: what one side encodes, the other side decodes to the same fields, whichever optional
member is left out, and a token that stands in the agent's header is the token the service
reviews.
-/

namespace IdentityFederation

/-! ## The request -/

/-- The agent's request, in the type of the service. -/
def Agent.MintRequest.received (r : Agent.MintRequest) : Federation.MintRequest where
  ns := r.ns
  serviceAccountName := r.serviceAccountName
  configHash := r.configHash
  podName := r.podName

/-- **The service decodes what the agent encodes.** -/
theorem mintRequest_ofJson?_toJson (r : Agent.MintRequest) :
    Federation.MintRequest.ofJson? r.toJson = some r.received := by
  obtain ⟨ns, sa, hash, podName⟩ := r
  cases podName <;> rfl

/-! ## The response -/

lemma uint64?_num (n : UInt64) : Json.uint64? (.num n.toNat) = some n := by
  have hbound : (0 : ℤ) ≤ n.toNat ∧ (n.toNat : ℤ) < UInt64.size := by
    have := n.toNat_lt
    simp only [UInt64.size]
    omega
  rw [Json.uint64?, if_pos hbound, Int.toNat_natCast, UInt64.ofNat_toNat]

lemma mintedToken_ofJson?_obj (token : String) (expiresInSeconds : UInt64) :
    Agent.MintedToken.ofJson?
        (.obj [("token", .str token), ("expiresInSeconds", .num expiresInSeconds.toNat)]) =
      some { token := token, expiresInSeconds := expiresInSeconds } := by
  have hmembers : ∀ j, Agent.MintedToken.ofJson? (.obj [("token", .str token),
      ("expiresInSeconds", j)]) =
        (Json.uint64? j).bind fun n => some { token := token, expiresInSeconds := n } :=
    fun _ => rfl
  rw [hmembers, uint64?_num, Option.bind_some]

lemma mintResponse_ofJson?_obj {members : List (String × Json)} {t : Agent.MintedToken}
    (h : Agent.MintedToken.ofJson? (.obj members) = some t) :
    Agent.MintResponse.ofJson? (.obj [("aws", .obj members)]) = some { aws := some t } := by
  have hmember : ∀ decode : Json → Option Agent.MintedToken,
      Json.optionalMember? "aws" decode [("aws", .obj members)] =
        (decode (.obj members)).map some := fun _ => rfl
  have hrecord : Json.record? ["aws"] 1 (.obj [("aws", .obj members)]) =
      some [("aws", .obj members)] := rfl
  simp only [Agent.MintResponse.ofJson?, hrecord, Option.bind_eq_bind, Option.bind_some, hmember,
    h, Option.map_some, Option.pure_def]

/-- **The agent decodes what the service encodes**: the token, and its lifetime. -/
theorem mintResponse_ofJson?_toJson (token : String) (expiresInSeconds : UInt64) :
    Agent.MintResponse.ofJson? (Federation.MintResponse.toJson
        { aws := some { token := token, expiresInSeconds := expiresInSeconds } }) =
      some { aws := some { token := token, expiresInSeconds := expiresInSeconds } } := by
  simp only [Federation.MintResponse.toJson, Federation.MintedToken.toJson]
  exact mintResponse_ofJson?_obj (mintedToken_ofJson?_obj token expiresInSeconds)

lemma mintResult_ok {document : Json} {r : Agent.MintResponse}
    (h : Agent.MintResponse.ofJson? document = some r) :
    Agent.mintResult (.ok { status := 200, body := .json document }) = .ok r := by
  simp only [Agent.mintResult, if_true, h]

/-! ## The header -/

lemma isHeaderChar_of_isVisibleAscii {c : Char} (h : isVisibleAscii c = true) :
    isHeaderChar c = true := by
  simp only [isVisibleAscii, isHeaderChar, Bool.or_eq_true, Bool.and_eq_true,
    decide_eq_true_eq] at h ⊢
  exact h.imp_left fun h => ⟨h.1, by omega⟩

lemma bearerAuth_all {p : Char → Bool} (hbearer : "Bearer ".toList.all p = true) {token : String}
    (h : token.toList.all p = true) : (Agent.bearerAuth token).toList.all p = true := by
  rw [Agent.bearerAuth, String.toList_append, List.all_append, hbearer, h, Bool.and_self]

/-- A token of visible characters can be sent. -/
lemma sendable_of_visible {token : String} (hne : token ≠ "")
    (h : token.toList.all isVisibleAscii = true) : Agent.Sendable token := by
  refine ⟨hne, bearerAuth_all (by decide) ?_⟩
  exact List.all_eq_true.mpr fun c hc =>
    isHeaderChar_of_isVisibleAscii (List.all_eq_true.mp h c hc)

/-- **The service reviews the token that the agent sends.** -/
theorem bearerToken_bearerAuth {token : String} (h : token.toList.all isVisibleAscii = true) :
    Federation.bearerToken (some (Agent.bearerAuth token)) = some token := by
  have htext : headerText (Agent.bearerAuth token) = some (Agent.bearerAuth token) :=
    if_pos (bearerAuth_all (by decide) h)
  simp only [Federation.bearerToken, Option.bind_some, htext]
  exact Text.afterStart?_append _ _

end IdentityFederation
