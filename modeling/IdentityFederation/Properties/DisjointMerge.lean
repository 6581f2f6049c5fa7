import Mathlib.Tactic.Common
import IdentityFederation.Webhook.Merge
import IdentityFederation.Framework.Loop

/-!
# `merge_inputs` is the disjoint merge

What the merge is for, stated without its loop: a list of bindings is **mergeable** when every
binding sets a provider, exactly one sets `aws`, the explicit values of `includeProvenance`
agree and the `extra` maps have disjoint keys (`Mergeable`), and the merge is then the one
specification that collects their contents (`IsDisjointMerge`).  Both are insensitive to the
order of the bindings.

The loop is connected to this by one invariant, `Accumulates`, which says what the four
accumulators hold of the bindings seen so far.  `mergeStep_ok` preserves it, `mergeStep_error`
says which violation each early exit has met, and `mergeInputs_ok_iff` puts the two together.
-/

namespace IdentityFederation

/-! ## What the bindings say -/

namespace CloudRoleBinding

/-- The binding sets at least one provider block. -/
def SetsProvider (c : CloudRoleBinding) : Prop :=
  c.spec.providers.aws.isSome ∨ c.spec.providers.azure.isSome ∨ c.spec.providers.gcp.isSome

/-- The value of `includeProvenance` the binding sets explicitly. -/
def explicitProvenance (c : CloudRoleBinding) : Option Bool :=
  c.spec.attributes.bind AttributesSpec.includeProvenance

/-- The `extra` map of the binding, empty when it has none. -/
def extraMap (c : CloudRoleBinding) : BTreeMap String String :=
  (c.spec.attributes.bind AttributesSpec.extra).getD ∅

end CloudRoleBinding

/-- The condition under which bindings can be merged. -/
structure Mergeable (inputs : List CloudRoleBinding) : Prop where
  /-- Every input sets at least one provider block. -/
  provider : ∀ c ∈ inputs, c.SetsProvider
  /-- Exactly one input sets `aws`. -/
  oneAws : inputs.countP (fun c => c.spec.providers.aws.isSome) = 1
  /-- The inputs that set `includeProvenance` explicitly set it to the same value. -/
  provenance : ∀ c ∈ inputs, ∀ c' ∈ inputs, ∀ v v',
    c.explicitProvenance = some v → c'.explicitProvenance = some v' → v = v'
  /-- No `extra` key occurs in two different inputs. -/
  extra : inputs.Pairwise fun c c' => ∀ k, k ∈ c.extraMap → k ∉ c'.extraMap

/-- What a beginning of a mergeable list meets: it is mergeable but for the `aws` block, which it
need not have. -/
structure Compatible (seen : List CloudRoleBinding) : Prop where
  provider : ∀ c ∈ seen, c.SetsProvider
  oneAws : seen.countP (fun c => c.spec.providers.aws.isSome) ≤ 1
  provenance : ∀ c ∈ seen, ∀ c' ∈ seen, ∀ v v',
    c.explicitProvenance = some v → c'.explicitProvenance = some v' → v = v'
  extra : seen.Pairwise fun c c' => ∀ k, k ∈ c.extraMap → k ∉ c'.extraMap

lemma Mergeable.compatible {inputs : List CloudRoleBinding} (hm : Mergeable inputs) :
    Compatible inputs :=
  ⟨hm.provider, Nat.le_of_eq hm.oneAws, hm.provenance, hm.extra⟩

/-- The specification that collects the contents of the inputs. -/
structure IsDisjointMerge (saName : String) (inputs : List CloudRoleBinding)
    (spec : ResolvedCloudRoleBindingSpec) : Prop where
  subject : spec.subject = { serviceAccountName := saName }
  /-- The `aws` block is that of an input, unchanged. -/
  aws : ∃ c ∈ inputs, c.spec.providers.aws.isSome ∧ spec.providers.aws = c.spec.providers.aws
  azure : spec.providers.azure = none
  gcp : spec.providers.gcp = none
  /-- `includeProvenance` is the explicit value, or true when there is none; `extra` is the
  union of the maps, left out when it is empty. -/
  attributes : ∃ v u,
    spec.attributes = some
      { includeProvenance := some v, extra := if u.isEmpty then none else some u } ∧
    (∀ c ∈ inputs, ∀ v', c.explicitProvenance = some v' → v = v') ∧
    ((∀ c ∈ inputs, c.explicitProvenance = none) → v = true) ∧
    ∀ k w : String, u[k]? = some w ↔ ∃ c ∈ inputs, c.extraMap[k]? = some w

/-! ## The loop invariant -/

/-- What the accumulators hold after the bindings `seen`. -/
structure Accumulates (seen : List CloudRoleBinding) (acc : MergeAcc) : Prop where
  provider : ∀ c ∈ seen, c.SetsProvider
  aws : seen.filterMap (fun c => c.spec.providers.aws) = acc.aws.toList
  provenance : ∀ v, acc.includeProv = some v ↔ ∃ c ∈ seen, c.explicitProvenance = some v
  extra : ∀ k w : String, acc.extra[k]? = some w ↔ ∃ c ∈ seen, c.extraMap[k]? = some w
  disjoint : seen.Pairwise fun c c' => ∀ k, k ∈ c.extraMap → k ∉ c'.extraMap

lemma accumulates_nil : Accumulates [] {} where
  provider := by simp
  aws := rfl
  provenance := by simp
  extra := by simp
  disjoint := .nil

/-- A key is in a map when it has a value there. -/
lemma mem_iff_exists_getElem? {m : BTreeMap String String} {k : String} :
    k ∈ m ↔ ∃ w, m[k]? = some w := by
  rw [Std.ExtTreeMap.mem_iff_isSome_getElem?, Option.isSome_iff_exists]

/-! ### One lemma for each check -/

lemma requireProvider_ok {c : CloudRoleBinding} (h : requireProvider c = .ok ()) :
    c.SetsProvider := by
  simp only [requireProvider] at h
  split at h
  · rename_i hset
    simpa [CloudRoleBinding.SetsProvider, or_assoc] using hset
  · cases h

lemma requireProvider_error {c : CloudRoleBinding} {issue : MergeIssue}
    (h : requireProvider c = .error issue) :
    ¬ c.SetsProvider ∧ issue = missingProviderIssue c := by
  simp only [requireProvider] at h
  split at h
  · cases h
  · rename_i hset
    refine ⟨fun hc => hset ?_, (Except.error.inj h).symm⟩
    simpa [CloudRoleBinding.SetsProvider, or_assoc] using hc

lemma mergeAws_ok {acc acc' : MergeAcc} {c : CloudRoleBinding}
    (h : mergeAws acc c = .ok acc') :
    acc'.aws.toList = acc.aws.toList ++ c.spec.providers.aws.toList ∧
      acc'.includeProv = acc.includeProv ∧ acc'.extra = acc.extra ∧
      acc'.awsSetBy =
        if c.spec.providers.aws.isSome then some c.nameOrDefault else acc.awsSetBy := by
  unfold mergeAws at h
  split at h
  · rename_i hnone
    obtain rfl := Except.ok.inj h
    simp [hnone]
  · rename_i p hp
    split at h
    · cases h
    · rename_i hfree
      obtain rfl := Except.ok.inj h
      have hnone : acc.aws = none := by simpa using hfree
      simp [hp, hnone]

lemma mergeAws_error {acc : MergeAcc} {c : CloudRoleBinding} {issue : MergeIssue}
    (h : mergeAws acc c = .error issue) :
    acc.aws.isSome ∧ c.spec.providers.aws.isSome ∧ issue = awsConflictIssue acc c := by
  unfold mergeAws at h
  split at h
  · cases h
  · rename_i p hp
    split at h
    · rename_i hset
      exact ⟨hset, by simp [hp], (Except.error.inj h).symm⟩
    · cases h

lemma mergeIncludeProvenance_ok {inputs : List CloudRoleBinding} {acc acc' : MergeAcc}
    {a : AttributesSpec} (h : mergeIncludeProvenance inputs acc a = .ok acc') :
    (∀ v, acc'.includeProv = some v ↔ acc.includeProv = some v ∨ a.includeProvenance = some v) ∧
      acc'.aws = acc.aws ∧ acc'.extra = acc.extra := by
  unfold mergeIncludeProvenance at h
  split at h
  · rename_i hnone
    obtain rfl := Except.ok.inj h
    simp [hnone]
  · rename_i v hv
    split at h
    · rename_i prev hprev
      split at h
      · cases h
      · rename_i hagree
        obtain rfl := Except.ok.inj h
        have hsame : prev = v := by simpa using hagree
        simp [hv, hprev, hsame]
    · rename_i hfree
      obtain rfl := Except.ok.inj h
      simp [hv, hfree]

lemma mergeIncludeProvenance_error {inputs : List CloudRoleBinding} {acc : MergeAcc}
    {a : AttributesSpec} {issue : MergeIssue}
    (h : mergeIncludeProvenance inputs acc a = .error issue) :
    (∃ v v', acc.includeProv = some v ∧ a.includeProvenance = some v' ∧ v ≠ v') ∧
      issue = includeProvenanceIssue inputs := by
  unfold mergeIncludeProvenance at h
  split at h
  · cases h
  · rename_i v hv
    split at h
    · rename_i prev hprev
      split at h
      · rename_i hne
        exact ⟨⟨prev, v, hprev, hv, hne⟩, (Except.error.inj h).symm⟩
      · cases h
    · cases h

lemma mergeExtraEntries_ok {inputs : List CloudRoleBinding} {extra extra' : BTreeMap String String}
    {l : List (String × String)} (h : mergeExtraEntries inputs extra l = .ok extra') :
    (∀ k w : String, extra'[k]? = some w ↔ extra[k]? = some w ∨ (k, w) ∈ l) ∧
      ∀ p ∈ l, p.1 ∉ extra := by
  induction l generalizing extra with
  | nil =>
      obtain rfl := Except.ok.inj h
      simp
  | cons p l ih =>
      obtain ⟨k₀, w₀⟩ := p
      rw [mergeExtraEntries] at h
      split at h
      · cases h
      · rename_i hfresh
        have hnot : k₀ ∉ extra := by simpa using hfresh
        obtain ⟨hlookup, hkeys⟩ := ih h
        constructor
        · intro k w
          rw [hlookup, Std.ExtTreeMap.getElem?_insert]
          by_cases hk : k₀ = k
          · subst hk
            have habsent : extra[k₀]? = none := Std.ExtTreeMap.getElem?_eq_none hnot
            simp [habsent, eq_comm]
          · have hk' : ¬ k = k₀ := fun h => hk h.symm
            simp [hk, hk']
        · intro p hp
          rcases List.mem_cons.mp hp with rfl | hp
          · exact hnot
          · exact fun hmem => hkeys p hp (Std.ExtTreeMap.mem_insert.mpr (.inr hmem))

lemma mergeExtraEntries_error {inputs : List CloudRoleBinding} {extra : BTreeMap String String}
    {l : List (String × String)} {issue : MergeIssue}
    (distinct : l.Pairwise fun p p' => p.1 ≠ p'.1)
    (h : mergeExtraEntries inputs extra l = .error issue) :
    ∃ k, (∃ w, (k, w) ∈ l) ∧ k ∈ extra ∧ issue = duplicateExtraIssue inputs k := by
  induction l generalizing extra with
  | nil => cases h
  | cons p l ih =>
      obtain ⟨k₀, w₀⟩ := p
      rw [mergeExtraEntries] at h
      split at h
      · rename_i hdup
        exact ⟨k₀, ⟨w₀, by simp⟩, by simpa using hdup, (Except.error.inj h).symm⟩
      · obtain ⟨hhead, htail⟩ := List.pairwise_cons.mp distinct
        obtain ⟨k, ⟨w, hw⟩, hmem, hissue⟩ := ih htail h
        refine ⟨k, ⟨w, List.mem_cons_of_mem _ hw⟩, ?_, hissue⟩
        -- The key was not inserted by this iteration: the keys of one map are distinct.
        rcases Std.ExtTreeMap.mem_insert.mp hmem with heq | hmem
        · exact absurd (by simpa using heq) (hhead (k, w) hw)
        · exact hmem

lemma toList_distinct_keys (m : BTreeMap String String) :
    m.toList.Pairwise fun p p' => p.1 ≠ p'.1 :=
  Std.ExtTreeMap.distinct_keys_toList.imp fun h heq => h (by simp [heq])

lemma mergeExtra_ok {inputs : List CloudRoleBinding} {acc acc' : MergeAcc} {a : AttributesSpec}
    (h : mergeExtra inputs acc a = .ok acc') :
    (∀ k w : String,
        acc'.extra[k]? = some w ↔ acc.extra[k]? = some w ∨ (a.extra.getD ∅)[k]? = some w) ∧
      (∀ k, k ∈ a.extra.getD ∅ → k ∉ acc.extra) ∧
      acc'.aws = acc.aws ∧ acc'.includeProv = acc.includeProv := by
  unfold mergeExtra at h
  split at h
  · rename_i hnone
    obtain rfl := Except.ok.inj h
    simp [hnone]
  · rename_i m hm
    obtain ⟨extra, hloop, hret⟩ := Loop.bind_eq_ok.mp h
    obtain rfl := Except.ok.inj hret
    obtain ⟨hlookup, hkeys⟩ := mergeExtraEntries_ok hloop
    simp only [hm, Option.getD_some]
    refine ⟨fun k w => ?_, fun k hk => ?_, trivial, trivial⟩
    · rw [hlookup, Std.ExtTreeMap.mem_toList_iff_getElem?_eq_some]
    · obtain ⟨w, hw⟩ := mem_iff_exists_getElem?.mp hk
      exact hkeys (k, w) (Std.ExtTreeMap.mem_toList_iff_getElem?_eq_some.mpr hw)

lemma mergeExtra_error {inputs : List CloudRoleBinding} {acc : MergeAcc} {a : AttributesSpec}
    {issue : MergeIssue} (h : mergeExtra inputs acc a = .error issue) :
    ∃ k, k ∈ a.extra.getD ∅ ∧ k ∈ acc.extra ∧ issue = duplicateExtraIssue inputs k := by
  unfold mergeExtra at h
  split at h
  · cases h
  · rename_i m hm
    rcases Loop.bind_eq_error.mp h with hloop | ⟨extra, -, hret⟩
    · obtain ⟨k, ⟨w, hw⟩, hmem, hissue⟩ :=
        mergeExtraEntries_error (toList_distinct_keys m) hloop
      refine ⟨k, ?_, hmem, hissue⟩
      rw [hm, Option.getD_some, mem_iff_exists_getElem?]
      exact ⟨w, Std.ExtTreeMap.mem_toList_iff_getElem?_eq_some.mp hw⟩
    · cases hret

/-! ### The body of the loop -/

lemma explicitProvenance_of_attributes {c : CloudRoleBinding} {a : AttributesSpec}
    (h : c.spec.attributes = some a) : c.explicitProvenance = a.includeProvenance := by
  simp [CloudRoleBinding.explicitProvenance, h]

lemma extraMap_of_attributes {c : CloudRoleBinding} {a : AttributesSpec}
    (h : c.spec.attributes = some a) : c.extraMap = a.extra.getD ∅ := by
  simp [CloudRoleBinding.extraMap, h]

/-- What one iteration adds to the accumulators. -/
lemma mergeStep_adds {inputs : List CloudRoleBinding} {acc acc' : MergeAcc}
    {c : CloudRoleBinding} (h : mergeStep inputs acc c = .ok acc') :
    c.SetsProvider ∧
      acc'.aws.toList = acc.aws.toList ++ c.spec.providers.aws.toList ∧
      (∀ v, acc'.includeProv = some v ↔
        acc.includeProv = some v ∨ c.explicitProvenance = some v) ∧
      (∀ k w : String, acc'.extra[k]? = some w ↔
        acc.extra[k]? = some w ∨ c.extraMap[k]? = some w) ∧
      ∀ k, k ∈ c.extraMap → k ∉ acc.extra := by
  obtain ⟨⟨⟩, hprov, h⟩ := Loop.bind_eq_ok.mp h
  obtain ⟨acc₁, haws, h⟩ := Loop.bind_eq_ok.mp h
  obtain ⟨haws, hp₁, he₁, -⟩ := mergeAws_ok haws
  refine ⟨requireProvider_ok hprov, ?_⟩
  cases hattr : c.spec.attributes with
  | none =>
      rw [hattr] at h
      obtain rfl : acc₁ = acc' := Except.ok.inj h
      simp [haws, hp₁, he₁, CloudRoleBinding.explicitProvenance, CloudRoleBinding.extraMap, hattr]
  | some a =>
      rw [hattr] at h
      obtain ⟨acc₂, hinc, hext⟩ := Loop.bind_eq_ok.mp h
      obtain ⟨hinc, ha₂, he₂⟩ := mergeIncludeProvenance_ok hinc
      obtain ⟨hext, hkeys, ha₃, hp₃⟩ := mergeExtra_ok hext
      rw [explicitProvenance_of_attributes hattr, extraMap_of_attributes hattr]
      refine ⟨by rw [ha₃, ha₂, haws], fun v => ?_, fun k w => ?_, fun k hk => ?_⟩
      · rw [hp₃, hinc, hp₁]
      · rw [hext, he₂, he₁]
      · rw [← he₁, ← he₂]
        exact hkeys k hk

/-- **The loop invariant is preserved** by an iteration that does not return. -/
lemma mergeStep_ok {inputs seen : List CloudRoleBinding} {acc acc' : MergeAcc}
    {c : CloudRoleBinding} (hI : Accumulates seen acc) (h : mergeStep inputs acc c = .ok acc') :
    Accumulates (seen ++ [c]) acc' := by
  obtain ⟨hprov, haws, hinc, hext, hkeys⟩ := mergeStep_adds h
  constructor
  case provider =>
    intro c' hc'
    rcases List.mem_append.mp hc' with hc' | hc'
    · exact hI.provider c' hc'
    · obtain rfl := List.mem_singleton.mp hc'
      exact hprov
  case aws =>
    rw [List.filterMap_append, hI.aws, haws]
    cases hc : c.spec.providers.aws <;> simp [hc]
  case provenance =>
    intro v
    rw [hinc, hI.provenance]
    simp [or_and_right, exists_or]
  case extra =>
    intro k w
    rw [hext, hI.extra]
    simp [or_and_right, exists_or]
  case disjoint =>
    refine List.pairwise_append.mpr ⟨hI.disjoint, List.pairwise_singleton .., ?_⟩
    intro c' hc' c'' hc'' k hk hk'
    obtain rfl := List.mem_singleton.mp hc''
    obtain ⟨w, hw⟩ := mem_iff_exists_getElem?.mp hk
    exact hkeys k hk' (mem_iff_exists_getElem?.mpr ⟨w, (hI.extra k w).mpr ⟨c', hc', hw⟩⟩)

/-- **The early exits**: which violation an iteration has met when it returns an issue. -/
lemma mergeStep_error {inputs seen : List CloudRoleBinding} {acc : MergeAcc}
    {c : CloudRoleBinding} {issue : MergeIssue} (hI : Accumulates seen acc)
    (h : mergeStep inputs acc c = .error issue) :
    (¬ c.SetsProvider ∧ issue = missingProviderIssue c) ∨
    (acc.aws.isSome ∧ c.spec.providers.aws.isSome ∧ issue = awsConflictIssue acc c) ∨
    ((∃ c' ∈ seen, ∃ v v', c'.explicitProvenance = some v ∧ c.explicitProvenance = some v' ∧
      v ≠ v') ∧ issue = includeProvenanceIssue inputs) ∨
    ∃ k, k ∈ c.extraMap ∧ (∃ c' ∈ seen, k ∈ c'.extraMap) ∧ issue = duplicateExtraIssue inputs k := by
  rcases Loop.bind_eq_error.mp h with hprov | ⟨⟨⟩, -, h⟩
  · exact .inl (requireProvider_error hprov)
  rcases Loop.bind_eq_error.mp h with haws | ⟨acc₁, haws, h⟩
  · exact .inr (.inl (mergeAws_error haws))
  obtain ⟨-, hp₁, he₁, -⟩ := mergeAws_ok haws
  cases hattr : c.spec.attributes with
  | none =>
      rw [hattr] at h
      cases h
  | some a =>
      rw [hattr] at h
      rcases Loop.bind_eq_error.mp h with hinc | ⟨acc₂, hinc, hext⟩
      · obtain ⟨⟨v, v', hv, hv', hne⟩, hissue⟩ := mergeIncludeProvenance_error hinc
        rw [hp₁] at hv
        obtain ⟨c', hc', hcv⟩ := (hI.provenance v).mp hv
        rw [explicitProvenance_of_attributes hattr]
        exact .inr (.inr (.inl ⟨⟨c', hc', v, v', hcv, hv', hne⟩, hissue⟩))
      · obtain ⟨-, -, he₂⟩ := mergeIncludeProvenance_ok hinc
        obtain ⟨k, hk, hmem, hissue⟩ := mergeExtra_error hext
        rw [he₂, he₁] at hmem
        obtain ⟨w, hw⟩ := mem_iff_exists_getElem?.mp hmem
        obtain ⟨c', hc', hcw⟩ := (hI.extra k w).mp hw
        rw [extraMap_of_attributes hattr]
        exact .inr (.inr (.inr ⟨k, hk, ⟨c', hc', mem_iff_exists_getElem?.mpr ⟨w, hcw⟩⟩, hissue⟩))

/-! ## The merge -/

/-- The invariant holds of all the bindings that the loop has run through. -/
lemma accumulates_of_loop {seen all : List CloudRoleBinding} {acc : MergeAcc}
    (h : seen.foldlM (mergeStep all) {} = .ok acc) : Accumulates seen acc :=
  Loop.foldlM_invariant Accumulates accumulates_nil (fun _ _ _ _ => mergeStep_ok) h

/-- The number of `aws` blocks met is the number of inputs that set one. -/
lemma countP_aws_eq_length (inputs : List CloudRoleBinding) :
    inputs.countP (fun c => c.spec.providers.aws.isSome) =
      (inputs.filterMap fun c => c.spec.providers.aws).length :=
  List.length_filterMap_eq_countP.symm

/-- What the loop has run through is compatible. -/
lemma Accumulates.compatible {seen : List CloudRoleBinding} {acc : MergeAcc}
    (hI : Accumulates seen acc) : Compatible seen where
  provider := hI.provider
  oneAws := by
    rw [countP_aws_eq_length, hI.aws]
    cases acc.aws <;> simp
  provenance := by
    intro c hc c' hc' v v' hv hv'
    have hacc := (hI.provenance v).mpr ⟨c, hc, hv⟩
    have hacc' := (hI.provenance v').mpr ⟨c', hc', hv'⟩
    exact Option.some.inj (hacc.symm.trans hacc')
  extra := hI.disjoint

/-- A compatible list never takes an early exit, whatever list it is a beginning of. -/
lemma Compatible.loop_ok {inputs all : List CloudRoleBinding} (hm : Compatible inputs) :
    ∃ acc, inputs.foldlM (mergeStep all) {} = .ok acc := by
  cases hloop : inputs.foldlM (mergeStep all) {} with
  | ok acc => exact ⟨acc, rfl⟩
  | error issue =>
      exfalso
      obtain ⟨seen, c, rest, acc, hsplit, hseen, hfail⟩ := Loop.foldlM_error hloop
      have hI := accumulates_of_loop hseen
      have hc : c ∈ inputs := by simp [hsplit]
      have hmem : ∀ c' ∈ seen, c' ∈ inputs := fun c' hc' => by simp [hsplit, hc']
      rcases mergeStep_error hI hfail with
        ⟨hno, -⟩ | ⟨hset, haws, -⟩ | ⟨⟨c', hc', v, v', hv, hv', hne⟩, -⟩ | ⟨k, hk, ⟨c', hc', hk'⟩, -⟩
      · exact hno (hm.provider c hc)
      · -- The binding that filled the accumulator and this one are two that set `aws`.
        have hone := hm.oneAws
        obtain ⟨p, hp⟩ := Option.isSome_iff_exists.mp hset
        have hlen : (seen.filterMap fun c => c.spec.providers.aws).length = 1 := by
          rw [hI.aws, hp]
          rfl
        rw [hsplit, List.countP_append, countP_aws_eq_length, hlen, List.countP_cons,
          if_pos haws] at hone
        omega
      · exact hne (hm.provenance c' (hmem c' hc') c hc v v' hv hv')
      · have hpair := hm.extra
        rw [hsplit] at hpair
        exact (List.pairwise_append.mp hpair).2.2 c' hc' c (by simp) k hk' hk

/-- The specification the code builds from its accumulators is the disjoint merge. -/
lemma isDisjointMerge_of_accumulates {saName : String} {inputs : List CloudRoleBinding}
    {acc : MergeAcc} (hI : Accumulates inputs acc) {p : AwsProviderSpec} (hp : acc.aws = some p) :
    IsDisjointMerge saName inputs
      { subject := { serviceAccountName := saName }
        attributes := some
          { includeProvenance := acc.includeProv.or (some true)
            extra := if acc.extra.isEmpty then none else some acc.extra }
        providers := { aws := some p, azure := none, gcp := none } } where
  subject := rfl
  aws := by
    have hmem : p ∈ inputs.filterMap fun c => c.spec.providers.aws := by simp [hI.aws, hp]
    obtain ⟨c, hc, hcp⟩ := List.mem_filterMap.mp hmem
    exact ⟨c, hc, by simp [hcp], hcp.symm⟩
  azure := rfl
  gcp := rfl
  attributes := by
    refine ⟨acc.includeProv.getD true, acc.extra, ?_, ?_, ?_, hI.extra⟩
    · cases acc.includeProv <;> rfl
    · intro c hc v hv
      rw [(hI.provenance v).mpr ⟨c, hc, hv⟩]
      rfl
    · intro hnone
      cases hinc : acc.includeProv with
      | none => rfl
      | some v =>
          obtain ⟨c, hc, hv⟩ := (hI.provenance v).mp hinc
          rw [hnone c hc] at hv
          cases hv

/-- Under `Mergeable` the disjoint merge is unique. -/
lemma IsDisjointMerge.unique {saName : String} {inputs : List CloudRoleBinding}
    {spec spec' : ResolvedCloudRoleBindingSpec} (hm : Mergeable inputs)
    (h : IsDisjointMerge saName inputs spec) (h' : IsDisjointMerge saName inputs spec') :
    spec = spec' := by
  obtain ⟨c, hc, hset, haws⟩ := h.aws
  obtain ⟨c', hc', hset', haws'⟩ := h'.aws
  have hblock : c.spec.providers.aws = c'.spec.providers.aws := by
    have hone := hm.oneAws
    rw [countP_aws_eq_length] at hone
    obtain ⟨p, hlist⟩ := List.length_eq_one_iff.mp hone
    obtain ⟨q, hq⟩ := Option.isSome_iff_exists.mp hset
    obtain ⟨q', hq'⟩ := Option.isSome_iff_exists.mp hset'
    have hmem : q ∈ [p] := hlist ▸ List.mem_filterMap.mpr ⟨c, hc, hq⟩
    have hmem' : q' ∈ [p] := hlist ▸ List.mem_filterMap.mpr ⟨c', hc', hq'⟩
    rw [hq, hq', List.mem_singleton.mp hmem, List.mem_singleton.mp hmem']
  obtain ⟨v, u, hattr, hv, hvt, hu⟩ := h.attributes
  obtain ⟨v', u', hattr', hv', hvt', hu'⟩ := h'.attributes
  have hmaps : u = u' := by
    refine Std.ExtTreeMap.ext_getElem? fun k => Option.ext fun w => ?_
    rw [hu, hu']
  have hvals : v = v' := by
    by_cases hex : ∃ c ∈ inputs, ∃ v₀, c.explicitProvenance = some v₀
    · obtain ⟨c, hc, v₀, hv₀⟩ := hex
      rw [hv c hc v₀ hv₀, hv' c hc v₀ hv₀]
    · have hnone : ∀ c ∈ inputs, c.explicitProvenance = none := fun c hc =>
        Option.eq_none_iff_forall_ne_some.mpr fun v₀ hv₀ => hex ⟨c, hc, v₀, hv₀⟩
      rw [hvt hnone, hvt' hnone]
  obtain ⟨subject, attributes, ⟨aws, azure, gcp⟩⟩ := spec
  obtain ⟨subject', attributes', ⟨aws', azure', gcp'⟩⟩ := spec'
  simp only [ResolvedCloudRoleBindingSpec.mk.injEq, ProvidersSpec.mk.injEq]
  refine ⟨h.subject.trans h'.subject.symm, ?_, ?_, h.azure.trans h'.azure.symm,
    h.gcp.trans h'.gcp.symm⟩
  · rw [show attributes = _ from hattr, show attributes' = _ from hattr', hvals, hmaps]
  · exact haws.trans (hblock.trans haws'.symm)

/-- What `mergeInputs` returns `Ok` with. -/
lemma mergeInputs_ok {saName : String} {inputs : List CloudRoleBinding}
    {spec : ResolvedCloudRoleBindingSpec} (h : mergeInputs saName inputs = .ok spec) :
    Mergeable inputs ∧ IsDisjointMerge saName inputs spec := by
  obtain ⟨acc, hloop, h⟩ := Loop.bind_eq_ok.mp h
  have hI := accumulates_of_loop hloop
  split at h
  · cases h
  · rename_i p hp
    obtain rfl := Except.ok.inj h
    obtain ⟨hprovider, -, hprovenance, hextra⟩ := hI.compatible
    refine ⟨⟨hprovider, ?_, hprovenance, hextra⟩, isDisjointMerge_of_accumulates hI hp⟩
    rw [countP_aws_eq_length, hI.aws, hp]
    rfl

/-- A mergeable list is merged. -/
lemma Mergeable.exists_ok {inputs : List CloudRoleBinding} (hm : Mergeable inputs)
    (saName : String) : ∃ spec, mergeInputs saName inputs = .ok spec := by
  obtain ⟨acc, hloop⟩ := @Compatible.loop_ok inputs inputs hm.compatible
  have hI := accumulates_of_loop hloop
  have hone := hm.oneAws
  rw [countP_aws_eq_length, hI.aws] at hone
  cases hp : acc.aws with
  | none => simp [hp] at hone
  | some p => simp [mergeInputs, hloop, hp, bind, Except.bind, pure, Except.pure]

/-- **`merge_inputs` accepts exactly the mergeable lists, and returns their disjoint merge.** -/
lemma mergeInputs_ok_iff (saName : String) (inputs : List CloudRoleBinding)
    (spec : ResolvedCloudRoleBindingSpec) :
    mergeInputs saName inputs = .ok spec ↔
      Mergeable inputs ∧ IsDisjointMerge saName inputs spec := by
  refine ⟨mergeInputs_ok, fun ⟨hm, hspec⟩ => ?_⟩
  obtain ⟨spec', hok⟩ := hm.exists_ok saName
  rw [hok, (mergeInputs_ok hok).2.unique hm hspec]

/-! ## Order -/

lemma Mergeable.perm {inputs inputs' : List CloudRoleBinding} (hm : Mergeable inputs)
    (hp : inputs.Perm inputs') : Mergeable inputs' where
  provider c hc := hm.provider c (hp.mem_iff.mpr hc)
  oneAws := hp.countP_eq _ ▸ hm.oneAws
  provenance c hc c' hc' := hm.provenance c (hp.mem_iff.mpr hc) c' (hp.mem_iff.mpr hc')
  extra := hp.pairwise hm.extra fun h k hk hk' => h k hk' hk

lemma IsDisjointMerge.perm {saName : String} {inputs inputs' : List CloudRoleBinding}
    {spec : ResolvedCloudRoleBindingSpec} (h : IsDisjointMerge saName inputs spec)
    (hp : inputs.Perm inputs') : IsDisjointMerge saName inputs' spec where
  subject := h.subject
  aws := by simpa only [hp.mem_iff] using h.aws
  azure := h.azure
  gcp := h.gcp
  attributes := by simpa only [hp.mem_iff] using h.attributes

/-- The outcome does not depend on the order of the bindings. -/
lemma mergeInputs_toOption_perm (saName : String) {inputs inputs' : List CloudRoleBinding}
    (hp : inputs.Perm inputs') :
    (mergeInputs saName inputs').toOption = (mergeInputs saName inputs).toOption := by
  have hmem : ∀ (l : List CloudRoleBinding) (spec : ResolvedCloudRoleBindingSpec),
      (mergeInputs saName l).toOption = some spec ↔ Mergeable l ∧ IsDisjointMerge saName l spec := by
    intro l spec
    rw [← mergeInputs_ok_iff]
    cases mergeInputs saName l <;> simp [Except.toOption]
  refine Option.ext fun spec => ?_
  rw [hmem, hmem]
  constructor
  · rintro ⟨hm, hspec⟩
    exact ⟨hm.perm hp.symm, hspec.perm hp.symm⟩
  · rintro ⟨hm, hspec⟩
    exact ⟨hm.perm hp, hspec.perm hp⟩

/-- **`merge_inputs` is exactly the disjoint merge.**  It succeeds on the mergeable lists and
on no others, with the one specification that collects their contents, in whatever order the
bindings are listed. -/
theorem mergeInputs_disjointMerge (saName : String) (inputs : List CloudRoleBinding) :
    ((mergeInputs saName inputs).isOk ↔ Mergeable inputs) ∧
      (∀ spec, mergeInputs saName inputs = .ok spec ↔
        Mergeable inputs ∧ IsDisjointMerge saName inputs spec) ∧
      ∀ inputs', inputs.Perm inputs' →
        (mergeInputs saName inputs').toOption = (mergeInputs saName inputs).toOption := by
  refine ⟨⟨fun h => ?_, fun hm => ?_⟩, mergeInputs_ok_iff saName inputs,
    fun _ hp => mergeInputs_toOption_perm saName hp⟩
  · cases hok : mergeInputs saName inputs with
    | ok spec => exact (mergeInputs_ok hok).1
    | error issue =>
        rw [hok] at h
        cases h
  · obtain ⟨spec, hok⟩ := hm.exists_ok saName
    rw [hok]
    rfl

end IdentityFederation
