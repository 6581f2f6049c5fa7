import IdentityFederation.Properties.Provenance

/-!
# The usernames that `mint` accepts

TokenReview reports the username of a ServiceAccount as `system:serviceaccount:<ns>:<sa>`
(`IsServiceAccountUsername`).  `parse_service_account_username` takes the first two of the parts
that follow `system:serviceaccount:` and does not look whether there are more.  So it accepts a
username of the grammar, with its two parts, and also one that goes on after a third colon
(`HasFurtherPart`), with the two parts before it; and it accepts nothing else (`parse_eq_some`).

The parsed pair decides what a caller may ask for, while `sub` is the username itself.  They
agree on the usernames of the grammar, and on no others that are accepted
(`followsGrammar_iff`).
-/

namespace IdentityFederation

/-! ## The grammar -/

/-- A namespace or a name in a username. -/
structure IsPart (s : String) : Prop where
  ne : s ≠ ""
  notMem : ':' ∉ s.toList

/-- `u` is the username of the ServiceAccount `sa` in `ns`. -/
structure IsServiceAccountUsername (u ns sa : String) : Prop where
  eq : u = serviceAccountUsername ns sa
  ns : IsPart ns
  sa : IsPart sa

/-- The username of a ServiceAccount, followed by another colon and anything. -/
def HasFurtherPart (u : String) : Prop :=
  ∃ ns sa rest, IsPart ns ∧ IsPart sa ∧
    u = serviceAccountUsername ns sa ++ String.singleton ':' ++ rest

lemma serviceAccountUsername_eq (ns sa : String) :
    serviceAccountUsername ns sa =
      "system:serviceaccount:" ++ (ns ++ String.singleton ':' ++ sa) := by
  unfold serviceAccountUsername
  rfl

/-! ## What the parser accepts -/

/-- The first two of the parts, if neither is empty. -/
def firstTwoParts : List String → Option (String × String)
  | ns :: sa :: _ => if ns = "" ∨ sa = "" then none else some (ns, sa)
  | _ => none

lemma firstTwoParts_eq_some {parts : List String} {ns sa : String} :
    firstTwoParts parts = some (ns, sa) ↔
      ns ≠ "" ∧ sa ≠ "" ∧ ∃ more, parts = ns :: sa :: more := by
  match parts with
  | [] => simp [firstTwoParts]
  | [_] => simp [firstTwoParts]
  | ns' :: sa' :: more =>
      simp only [firstTwoParts, List.cons.injEq, exists_and_left, exists_eq', and_true]
      split
      · rename_i hempty
        constructor
        · exact nofun
        · rintro ⟨hns, hsa, rfl, rfl⟩
          exact absurd hempty (not_or.mpr ⟨hns, hsa⟩)
      · rename_i hne
        obtain ⟨hns, hsa⟩ := not_or.mp hne
        constructor
        · intro h
          obtain ⟨rfl, rfl⟩ := Prod.mk.inj (Option.some.inj h)
          exact ⟨hns, hsa, rfl, rfl⟩
        · rintro ⟨-, -, rfl, rfl⟩
          rfl

lemma parse_eq_bind (u : String) :
    parseServiceAccountUsername u =
      (Text.afterStart? "system:serviceaccount:" u).bind fun rest =>
        firstTwoParts (Text.split ':' rest) := by
  unfold parseServiceAccountUsername
  cases Text.afterStart? "system:serviceaccount:" u with
  | none => rfl
  | some rest => rfl

/-- How a rest with two parts begins. -/
lemma split_two {rest ns sa : String} {more : List String} :
    Text.split ':' rest = ns :: sa :: more ↔
      ':' ∉ ns.toList ∧ ':' ∉ sa.toList ∧
      (rest = ns ++ String.singleton ':' ++ sa ∧ more = [] ∨
        ∃ t, rest = ns ++ String.singleton ':' ++ (sa ++ String.singleton ':' ++ t) ∧
          more = Text.split ':' t) := by
  constructor
  · intro h
    rcases Text.split_cases ':' rest with ⟨-, hsplit⟩ | ⟨ns', t, hns', rfl, hsplit⟩
    · rw [hsplit] at h
      cases h
    rw [hsplit, List.cons.injEq] at h
    obtain ⟨rfl, h⟩ := h
    rcases Text.split_cases ':' t with ⟨hsa', ht⟩ | ⟨sa', t, hsa', rfl, ht⟩
    · rw [ht, List.cons.injEq] at h
      obtain ⟨rfl, rfl⟩ := h
      exact ⟨hns', hsa', .inl ⟨rfl, rfl⟩⟩
    · rw [ht, List.cons.injEq] at h
      obtain ⟨rfl, rfl⟩ := h
      exact ⟨hns', hsa', .inr ⟨t, rfl, rfl⟩⟩
  · rintro ⟨hns, hsa, ⟨rfl, rfl⟩ | ⟨t, rfl, rfl⟩⟩
    · rw [Text.split_append hns, Text.split_of_notMem hsa]
    · rw [Text.split_append hns, Text.split_append hsa]

/-- **What the parser accepts**, with what result. -/
lemma parse_eq_some {u ns sa : String} :
    parseServiceAccountUsername u = some (ns, sa) ↔
      IsPart ns ∧ IsPart sa ∧ (u = serviceAccountUsername ns sa ∨
        ∃ rest, u = serviceAccountUsername ns sa ++ String.singleton ':' ++ rest) := by
  simp only [parse_eq_bind, Option.bind_eq_some_iff, firstTwoParts_eq_some, split_two,
    Text.afterStart?_eq_some, serviceAccountUsername_eq]
  generalize "system:serviceaccount:" = start
  constructor
  · rintro ⟨_, rfl, hns, hsa, more, hns', hsa', ⟨rfl, -⟩ | ⟨t, rfl, -⟩⟩
    · exact ⟨⟨hns, hns'⟩, ⟨hsa, hsa'⟩, .inl rfl⟩
    · refine ⟨⟨hns, hns'⟩, ⟨hsa, hsa'⟩, .inr ⟨t, ?_⟩⟩
      simp only [String.append_assoc]
  · rintro ⟨hns, hsa, rfl | ⟨t, rfl⟩⟩
    · exact ⟨_, rfl, hns.ne, hsa.ne, [], hns.notMem, hsa.notMem, .inl ⟨rfl, rfl⟩⟩
    · refine ⟨ns ++ String.singleton ':' ++ (sa ++ String.singleton ':' ++ t), ?_, hns.ne, hsa.ne,
        Text.split ':' t, hns.notMem, hsa.notMem, .inr ⟨t, rfl, rfl⟩⟩
      simp only [String.append_assoc]

/-- A username that goes on is another username. -/
lemma append_further_ne (u rest : String) : u ++ String.singleton ':' ++ rest ≠ u := by
  intro h
  have hlength := congrArg (fun s : String => s.toList.length) h
  simp at hlength

/-- Formatting the parsed pair gives the username back, unless it has a further part. -/
lemma format_parsed_iff {u ns sa : String} (h : parseServiceAccountUsername u = some (ns, sa)) :
    serviceAccountUsername ns sa = u ↔ ¬ HasFurtherPart u := by
  obtain ⟨hns, hsa, hu⟩ := parse_eq_some.mp h
  constructor
  · rintro rfl ⟨ns', sa', rest, hns', hsa', hfurther⟩
    -- The longer username is parsed as the same pair.
    have hsame : parseServiceAccountUsername (serviceAccountUsername ns sa) = some (ns', sa') :=
      parse_eq_some.mpr ⟨hns', hsa', .inr ⟨rest, hfurther⟩⟩
    obtain ⟨rfl, rfl⟩ := Prod.mk.inj (Option.some.inj (h.symm.trans hsame))
    exact append_further_ne _ rest hfurther.symm
  · intro hfurther
    rcases hu with rfl | ⟨rest, rfl⟩
    · rfl
    · exact absurd ⟨ns, sa, rest, hns, hsa, rfl⟩ hfurther

/-! ## What is signed -/

namespace Federation

/-- The answer grants a token that was signed with these claims. -/
def Signs (state : AppState) (res : HttpResponse) (claims : AwsClaims) : Prop :=
  ∃ token expiresInSeconds, signRs256 state.crypto state.signing claims = .ok token ∧
    res = { status := 200
            body := .json (MintResponse.toJson
              { aws := some { token := token, expiresInSeconds := expiresInSeconds } }) }

lemma claimsFor_sub (state : AppState) (clock : ℕ → Time) (username : String) (req : MintRequest)
    (spec : ResolvedCloudRoleBindingSpec) (aws : AwsProviderSpec) :
    (claimsFor state clock username req spec aws).sub = username := by
  unfold claimsFor
  cases spec.attributes <;> rfl

/-- The subject of a token for a caller without a further part is the username of the
ServiceAccount that the request names. -/
lemma signed_sub {state : AppState} {clock : ℕ → Time} {s : Cluster}
    {authorization : Option String} {req : MintRequest} {u : String}
    (hauth : Authenticates s authorization u) (hfurther : ¬ HasFurtherPart u)
    (h : (mintAnswer state clock s authorization req).status = 200) :
    ∃ claims, Signs state (mintAnswer state clock s authorization req) claims ∧
      claims.sub = serviceAccountUsername req.ns req.serviceAccountName := by
  obtain ⟨username, r, aws, token, hauth', hparse, -, -, htoken, hres⟩ := mintAnswer_ok h
  obtain rfl : username = u := hauth'.unique hauth rfl
  refine ⟨_, ⟨token, _, htoken, hres⟩, ?_⟩
  rw [claimsFor_sub]
  exact ((format_parsed_iff hparse).mpr hfurther).symm

end Federation

/-! ## The grammar and the parser -/

/-- The parser and `mint` take the username for what the grammar says it is. -/
structure FollowsGrammar (u : String) : Prop where
  parsed : ∀ ns sa,
    parseServiceAccountUsername u = some (ns, sa) ↔ IsServiceAccountUsername u ns sa
  formatted : ∀ ns sa, parseServiceAccountUsername u = some (ns, sa) →
    serviceAccountUsername ns sa = u
  signed : ∀ (state : Federation.AppState) (clock : ℕ → Time) (s : Cluster)
    (authorization : Option String) (req : Federation.MintRequest),
    Federation.Authenticates s authorization u →
    (Federation.mintAnswer state clock s authorization req).status = 200 →
    ∃ claims, Federation.Signs state (Federation.mintAnswer state clock s authorization req) claims ∧
      claims.sub = serviceAccountUsername req.ns req.serviceAccountName

lemma followsGrammar_iff {u : String} : FollowsGrammar u ↔ ¬ HasFurtherPart u := by
  constructor
  · rintro h ⟨ns, sa, rest, hns, hsa, rfl⟩
    have hgrammar := (h.parsed ns sa).mp (parse_eq_some.mpr ⟨hns, hsa, .inr ⟨rest, rfl⟩⟩)
    exact append_further_ne _ rest hgrammar.eq
  · intro hfurther
    refine ⟨fun ns sa => ⟨fun h => ?_, fun h => ?_⟩, fun ns sa h => (format_parsed_iff h).mpr hfurther,
      fun state clock s authorization req hauth h => Federation.signed_sub hauth hfurther h⟩
    · obtain ⟨hns, hsa, -⟩ := parse_eq_some.mp h
      exact ⟨((format_parsed_iff h).mpr hfurther).symm, hns, hsa⟩
    · exact parse_eq_some.mpr ⟨h.ns, h.sa, .inl h.eq⟩

/-- **The parser accepts the grammar, and the usernames that go on after it.**  Two usernames are
treated as the grammar says, and have different pairs if they are different and accepted, exactly
when neither has a further part. -/
theorem username_grammar_iff (u u' : String) :
    (FollowsGrammar u ∧ FollowsGrammar u' ∧
      ∀ ns sa, parseServiceAccountUsername u = some (ns, sa) →
        parseServiceAccountUsername u' = some (ns, sa) → u = u') ↔
      ¬ HasFurtherPart u ∧ ¬ HasFurtherPart u' := by
  constructor
  · rintro ⟨h, h', -⟩
    exact ⟨followsGrammar_iff.mp h, followsGrammar_iff.mp h'⟩
  · rintro ⟨h, h'⟩
    refine ⟨followsGrammar_iff.mpr h, followsGrammar_iff.mpr h', fun ns sa hparse hparse' => ?_⟩
    exact ((format_parsed_iff hparse).mpr h).symm.trans ((format_parsed_iff hparse').mpr h')

/-- A username with a further part is accepted, with the pair of another username. -/
theorem further_part_accepted :
    ¬ (parseServiceAccountUsername "system:serviceaccount:apps:web:admin" = some ("apps", "web") ↔
      IsServiceAccountUsername "system:serviceaccount:apps:web:admin" "apps" "web") ∧
    parseServiceAccountUsername "system:serviceaccount:apps:web:admin" =
      parseServiceAccountUsername "system:serviceaccount:apps:web" := by
  have hparse : parseServiceAccountUsername "system:serviceaccount:apps:web:admin" =
      some ("apps", "web") := by decide
  have hparse' : parseServiceAccountUsername "system:serviceaccount:apps:web" =
      some ("apps", "web") := by decide
  have hother : "system:serviceaccount:apps:web:admin" ≠ serviceAccountUsername "apps" "web" := by
    decide
  exact ⟨fun h => hother (h.mp hparse).eq, hparse.trans hparse'.symm⟩

end IdentityFederation
