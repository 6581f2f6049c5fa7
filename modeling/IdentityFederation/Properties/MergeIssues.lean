import IdentityFederation.Properties.DisjointMerge

/-!
# What a failed merge reports

`merge_inputs` returns the first violation it meets, with the names of the bindings that are to
be marked.

Two bindings conflict when both set `aws`.  Blocks of the other providers are not merged yet: they
count as provider blocks that are present, and what is in them, or how many there are, makes no
difference (`aws_conflicts_detected`).

The names are complete for the violations of attributes and for a merge that leaves no provider,
where every input is named.  A missing provider block is reported with the first binding that
lacks one, and a conflict with the first two bindings that set `aws`; another binding of that kind
goes unreported if it comes later in the list (`HasUnreported`).  These are all the ways to miss a
culprit (`culprits_named_iff`).
-/

namespace IdentityFederation

/-! ## Where the merge stops -/

/-- A merge that fails has stopped at some binding, or has found no `aws` block. -/
lemma mergeInputs_error {saName : String} {inputs : List CloudRoleBinding} {issue : MergeIssue}
    (h : mergeInputs saName inputs = .error issue) :
    (∃ seen c later acc, inputs = seen ++ c :: later ∧
      seen.foldlM (mergeStep inputs) {} = .ok acc ∧ mergeStep inputs acc c = .error issue) ∨
    issue = noProvidersIssue inputs := by
  rcases Loop.bind_eq_error.mp h with hloop | ⟨acc, -, hend⟩
  · exact .inl (Loop.foldlM_error hloop)
  · split at hend
    · exact .inr (Except.error.inj hend).symm
    · cases hend

/-- A merge that stops at a binding returns what is reported there. -/
lemma mergeInputs_stops {saName : String} {seen later : List CloudRoleBinding}
    {c : CloudRoleBinding} {acc : MergeAcc} {issue : MergeIssue}
    (hseen : seen.foldlM (mergeStep (seen ++ c :: later)) {} = .ok acc)
    (hfail : mergeStep (seen ++ c :: later) acc c = .error issue) :
    mergeInputs saName (seen ++ c :: later) = .error issue :=
  Loop.bind_eq_error.mpr (.inl (Loop.foldlM_stops hseen hfail))

lemma mergeStep_missing {inputs : List CloudRoleBinding} {acc : MergeAcc} {c : CloudRoleBinding}
    (hc : ¬ c.SetsProvider) : mergeStep inputs acc c = .error (missingProviderIssue c) := by
  refine Loop.bind_eq_error.mpr (.inl ?_)
  cases hprov : requireProvider c with
  | ok => exact absurd (requireProvider_ok hprov) hc
  | error issue => rw [(requireProvider_error hprov).2]

lemma mergeStep_conflict {inputs : List CloudRoleBinding} {acc : MergeAcc} {c : CloudRoleBinding}
    (hc : c.spec.providers.aws.isSome) (hacc : acc.aws.isSome) :
    mergeStep inputs acc c = .error (awsConflictIssue acc c) := by
  have hprov : requireProvider c = .ok () := by
    simp [requireProvider, hc]
  obtain ⟨p, hp⟩ := Option.isSome_iff_exists.mp hc
  refine Loop.bind_eq_error.mpr (.inr ⟨(), hprov, Loop.bind_eq_error.mpr (.inl ?_)⟩)
  simp [mergeAws, hp, hacc]

/-! ## Conflicts between provider blocks -/

inductive ProviderKind where
  | aws | azure | gcp
  deriving DecidableEq

/-- The binding sets a block of this provider. -/
def CloudRoleBinding.setsBlock (c : CloudRoleBinding) : ProviderKind → Bool
  | .aws => c.spec.providers.aws.isSome
  | .azure => c.spec.providers.azure.isSome
  | .gcp => c.spec.providers.gcp.isSome

/-- Two inputs of the list set a block of this provider. -/
def SetTwice (kind : ProviderKind) (inputs : List CloudRoleBinding) : Prop :=
  2 ≤ inputs.countP fun c => c.setsBlock kind

instance (kind : ProviderKind) (inputs : List CloudRoleBinding) :
    Decidable (SetTwice kind inputs) :=
  inferInstanceAs (Decidable (2 ≤ _))

/-- The bindings differ at most in what they say under `azure` and `gcp`, and in what the merge
does not read at all. -/
structure SameButOtherProviders (c c' : CloudRoleBinding) : Prop where
  name : c'.metadata.name = c.metadata.name
  attributes : c'.spec.attributes = c.spec.attributes
  aws : c'.spec.providers.aws = c.spec.providers.aws
  /-- A binding with a provider block has one. -/
  provider : c'.SetsProvider ↔ c.SetsProvider

lemma inputNames_same {inputs inputs' : List CloudRoleBinding}
    (h : List.Forall₂ SameButOtherProviders inputs inputs') :
    inputNames inputs' = inputNames inputs := by
  induction h with
  | nil => rfl
  | cons hc _ ih =>
      simp only [inputNames, List.filterMap_cons, hc.name] at ih ⊢
      rw [ih]

lemma requireProvider_same {c c' : CloudRoleBinding} (h : SameButOtherProviders c c') :
    requireProvider c' = requireProvider c := by
  have hissue : missingProviderIssue c' = missingProviderIssue c := by
    simp only [missingProviderIssue, CloudRoleBinding.nameOrDefault, h.name]
  by_cases hc : c.SetsProvider
  · have hc' := h.provider.mpr hc
    cases hprov : requireProvider c with
    | error => exact absurd hc (requireProvider_error hprov).1
    | ok =>
        cases hprov' : requireProvider c' with
        | error => exact absurd hc' (requireProvider_error hprov').1
        | ok => rfl
  · have hc' := fun hset => hc (h.provider.mp hset)
    cases hprov : requireProvider c with
    | ok => exact absurd (requireProvider_ok hprov) hc
    | error =>
        cases hprov' : requireProvider c' with
        | ok => exact absurd (requireProvider_ok hprov') hc'
        | error => rw [(requireProvider_error hprov).2, (requireProvider_error hprov').2, hissue]

lemma mergeStep_same {inputs inputs' : List CloudRoleBinding} {c c' : CloudRoleBinding}
    (hnames : inputNames inputs' = inputNames inputs) (h : SameButOtherProviders c c')
    (acc : MergeAcc) : mergeStep inputs' acc c' = mergeStep inputs acc c := by
  simp only [mergeStep, requireProvider_same h, mergeAws, awsConflictIssue,
    CloudRoleBinding.nameOrDefault, h.name, h.attributes, h.aws, mergeIncludeProvenance,
    includeProvenanceIssue, mergeExtra, hnames, mergeExtraEntries_names hnames]

/-- What is in the blocks of the other providers makes no difference to the merge. -/
lemma mergeInputs_same {inputs inputs' : List CloudRoleBinding} (saName : String)
    (h : List.Forall₂ SameButOtherProviders inputs inputs') :
    mergeInputs saName inputs' = mergeInputs saName inputs := by
  have hnames := inputNames_same h
  have hloop : ∀ (l l' : List CloudRoleBinding) (acc : MergeAcc),
      List.Forall₂ SameButOtherProviders l l' →
        l'.foldlM (mergeStep inputs') acc = l.foldlM (mergeStep inputs) acc := by
    intro l l' acc hl
    induction hl generalizing acc with
    | nil => rfl
    | cons hc _ ih => simp only [List.foldlM_cons, mergeStep_same hnames hc, ih]
  simp only [mergeInputs, hloop _ _ _ h, noProvidersIssue, hnames]

/-- A conflict is reported of two inputs that set `aws`. -/
lemma setTwice_of_conflict {saName : String} {inputs : List CloudRoleBinding} {issue : MergeIssue}
    (h : mergeInputs saName inputs = .error issue) (hreason : issue.reason = .providerConflict) :
    SetTwice .aws inputs := by
  rcases mergeInputs_error h with ⟨seen, c, later, acc, hsplit, hseen, hfail⟩ | rfl
  · have hI := accumulates_of_loop hseen
    rcases mergeStep_error hI hfail with
      ⟨-, rfl⟩ | ⟨hacc, hc, -⟩ | ⟨-, rfl⟩ | ⟨k, -, -, rfl⟩
    · cases hreason
    · -- One of the inputs before it has filled the accumulator.
      have hseen : seen.countP (fun c => c.spec.providers.aws.isSome) = 1 := by
        obtain ⟨p, hp⟩ := Option.isSome_iff_exists.mp hacc
        rw [countP_aws_eq_length, hI.aws, hp]
        rfl
      have hcount : inputs.countP (fun c => c.setsBlock .aws) =
          seen.countP (fun c => c.spec.providers.aws.isSome) +
            (later.countP (fun c => c.spec.providers.aws.isSome) + 1) := by
        rw [hsplit, List.countP_append, List.countP_cons, if_pos (show c.setsBlock .aws = true from hc)]
        rfl
      unfold SetTwice
      omega
    · cases hreason
    · cases hreason
  · cases hreason

/-- **Conflicts over `aws` are always detected, and no others are.**  A list in which two inputs
set `aws` is refused, whatever else is in it, and `ProviderConflict` is reported of such lists
only.  What the inputs say under `azure` and `gcp` makes no difference, as long as an input that
has a provider block keeps one. -/
theorem aws_conflicts_detected (saName : String) (inputs : List CloudRoleBinding) :
    (SetTwice .aws inputs → ∃ issue, mergeInputs saName inputs = .error issue) ∧
    (∀ issue, mergeInputs saName inputs = .error issue → issue.reason = .providerConflict →
      SetTwice .aws inputs) ∧
    ∀ inputs', List.Forall₂ SameButOtherProviders inputs inputs' →
      mergeInputs saName inputs' = mergeInputs saName inputs := by
  refine ⟨fun htwice => ?_, fun _ => setTwice_of_conflict, fun _ => mergeInputs_same saName⟩
  cases hmerge : mergeInputs saName inputs with
  | error issue => exact ⟨issue, rfl⟩
  | ok spec =>
      have hone : inputs.countP (fun c => c.setsBlock .aws) = 1 := (mergeInputs_ok hmerge).1.oneAws
      unfold SetTwice at htwice
      omega

/-- A binding of the ServiceAccount `web` with these provider blocks. -/
def providerBinding (name : String) (providers : ProvidersSpec) : CloudRoleBinding where
  metadata := { name := some name }
  spec := { subject := { serviceAccountName := "web" }, attributes := none, providers := providers }

/-- One binding with an `aws` block, and two with an `azure` block. -/
def twoTenants : List CloudRoleBinding :=
  [providerBinding "role" { aws := some { roleArn := "arn:aws:iam::123456789012:role/web" } },
   providerBinding "tenant-1"
    { azure := some { tenantId := "00000000-0000-0000-0000-000000000001"
                      clientId := "00000000-0000-0000-0000-000000000009" } },
   providerBinding "tenant-2"
    { azure := some { tenantId := "00000000-0000-0000-0000-000000000002"
                      clientId := "00000000-0000-0000-0000-000000000009" } }]

/-- Two inputs that set `azure` are merged with the `aws` block of a third. -/
theorem azure_conflict_undetected :
    SetTwice .azure twoTenants ∧ ¬ ∃ issue, mergeInputs "web" twoTenants = .error issue := by
  refine ⟨by decide, ?_⟩
  rintro ⟨issue, h⟩
  have hok : (mergeInputs "web" twoTenants).isOk = true := rfl
  rw [h] at hok
  cases hok

/-- Two `aws` blocks are refused, with a block of another provider beside them. -/
theorem aws_conflicts_detected_three :
    ∃ issue, mergeInputs "web" (twoTenants ++
      [providerBinding "other" { aws := some { roleArn := "arn:aws:iam::123456789012:role/b" } }]) =
        .error issue :=
  (aws_conflicts_detected "web" _).1 (by decide)

/-! ## The names in a report -/

/-- What a merge can be refused for. -/
inductive Violation where
  | missingProvider
  | providerConflict
  | provenanceConflict
  | duplicateExtra (k : String)
  | noProviders
  deriving DecidableEq

/-- The issue reports the violation. -/
def Violation.Reported (issue : MergeIssue) : Violation → Prop
  | .missingProvider => issue.reason = .validationFailed ∧
      issue.message = "CloudRoleBinding must set at least one provider block"
  | .providerConflict => issue.reason = .providerConflict
  | .provenanceConflict => issue.reason = .attributeConflict ∧
      issue.message = "conflict: includeProvenance differs across CloudRoleBindings"
  | .duplicateExtra k => issue.reason = .attributeConflict ∧
      issue.message = "conflict: duplicate attributes.extra key: " ++ k
  | .noProviders => issue.reason = .validationFailed ∧
      issue.message = "no providers configured after merge"

/-- The binding takes part in the violation. -/
def Violation.TakesPart (c : CloudRoleBinding) : Violation → Prop
  | .missingProvider => ¬ c.SetsProvider
  | .providerConflict => c.spec.providers.aws.isSome
  | .provenanceConflict => c.explicitProvenance.isSome
  | .duplicateExtra k => k ∈ c.extraMap
  | .noProviders => True

/-- The issue names every input that takes part in the violation it reports. -/
def NamesCulprits (inputs : List CloudRoleBinding) (issue : MergeIssue) : Prop :=
  ∀ violation : Violation, violation.Reported issue →
    ∀ c ∈ inputs, violation.TakesPart c → c.nameOrDefault ∈ issue.affectedCrbNames

/-- A binding goes on the violation at which the merge of the inputs stops, and has a name of its
own: the first binding without a provider block is `c`, or the first two that set `aws` are `c₀`
and `c`, and there is another one later in the list. -/
def HasUnreported (inputs : List CloudRoleBinding) : Prop :=
  ∃ seen c later, inputs = seen ++ c :: later ∧ Compatible seen ∧
    ((¬ c.SetsProvider ∧
        ∃ c' ∈ later, ¬ c'.SetsProvider ∧ c'.nameOrDefault ≠ c.nameOrDefault) ∨
      ∃ c₀ ∈ seen, c₀.spec.providers.aws.isSome ∧ c.spec.providers.aws.isSome ∧
        ∃ c' ∈ later, c'.spec.providers.aws.isSome ∧ c'.nameOrDefault ≠ c.nameOrDefault ∧
          c'.nameOrDefault ≠ c₀.nameOrDefault)

/-! ### The loop remembers who set `aws` -/

/-- The binding that set `aws`, by its name. -/
def SetBy (seen : List CloudRoleBinding) (acc : MergeAcc) : Prop :=
  ∀ c ∈ seen, c.spec.providers.aws.isSome → acc.awsSetBy = some c.nameOrDefault

lemma mergeIncludeProvenance_setBy {inputs : List CloudRoleBinding} {acc acc' : MergeAcc}
    {a : AttributesSpec} (h : mergeIncludeProvenance inputs acc a = .ok acc') :
    acc'.awsSetBy = acc.awsSetBy := by
  unfold mergeIncludeProvenance at h
  split at h
  · obtain rfl := Except.ok.inj h
    rfl
  split at h
  · split at h
    · cases h
    · obtain rfl := Except.ok.inj h
      rfl
  · obtain rfl := Except.ok.inj h
    rfl

lemma mergeExtra_setBy {inputs : List CloudRoleBinding} {acc acc' : MergeAcc}
    {a : AttributesSpec} (h : mergeExtra inputs acc a = .ok acc') :
    acc'.awsSetBy = acc.awsSetBy := by
  unfold mergeExtra at h
  split at h
  · obtain rfl := Except.ok.inj h
    rfl
  · obtain ⟨extra, -, hret⟩ := Loop.bind_eq_ok.mp h
    obtain rfl := Except.ok.inj hret
    rfl

lemma mergeStep_setBy {inputs : List CloudRoleBinding} {acc acc' : MergeAcc}
    {c : CloudRoleBinding} (h : mergeStep inputs acc c = .ok acc') :
    acc'.awsSetBy =
      if c.spec.providers.aws.isSome then some c.nameOrDefault else acc.awsSetBy := by
  obtain ⟨⟨⟩, -, h⟩ := Loop.bind_eq_ok.mp h
  obtain ⟨acc₁, haws, h⟩ := Loop.bind_eq_ok.mp h
  obtain ⟨-, -, -, hset⟩ := mergeAws_ok haws
  rw [← hset]
  split at h
  · obtain rfl := Except.ok.inj h
    rfl
  · obtain ⟨acc₂, hinc, hext⟩ := Loop.bind_eq_ok.mp h
    rw [mergeExtra_setBy hext, mergeIncludeProvenance_setBy hinc]

lemma setBy_of_loop {seen all : List CloudRoleBinding} {acc : MergeAcc}
    (h : seen.foldlM (mergeStep all) {} = .ok acc) : SetBy seen acc := by
  have hboth : Accumulates seen acc ∧ SetBy seen acc :=
    Loop.foldlM_invariant (fun seen acc => Accumulates seen acc ∧ SetBy seen acc)
      ⟨accumulates_nil, by simp [SetBy]⟩ (fun seen c acc acc' hI hstep => by
        refine ⟨mergeStep_ok hI.1 hstep, fun c' hc' haws => ?_⟩
        have hset := mergeStep_setBy hstep
        rcases List.mem_append.mp hc' with hseen | hnew
        · -- Only one of the bindings sets `aws`, and it is not the new one.
          have hone := (mergeStep_ok hI.1 hstep).compatible.oneAws
          have hpos : 0 < seen.countP fun c => c.spec.providers.aws.isSome :=
            List.countP_pos_iff.mpr ⟨c', hseen, haws⟩
          rw [List.countP_append, List.countP_singleton] at hone
          have hc : ¬ c.spec.providers.aws.isSome := by
            intro hc
            rw [if_pos hc] at hone
            omega
          rw [hset, if_neg hc]
          exact hI.2 c' hseen haws
        · obtain rfl := List.mem_singleton.mp hnew
          rw [hset, if_pos haws]) h
  exact hboth.2

/-! ### One lemma for each report -/

section Reports

variable {inputs seen later : List CloudRoleBinding} {c : CloudRoleBinding} {acc : MergeAcc}

lemma mem_inputNames {c : CloudRoleBinding} (hc : c ∈ inputs) (hname : c.nameOrDefault ≠ "") :
    c.nameOrDefault ∈ inputNames inputs := by
  refine List.mem_filterMap.mpr ⟨c, hc, ?_⟩
  unfold CloudRoleBinding.nameOrDefault at hname ⊢
  cases hmeta : c.metadata.name with
  | none => simp [hmeta] at hname
  | some name => rfl

/-- A report that names all inputs misses nobody. -/
lemma namesCulprits_of_all {issue : MergeIssue} (hnames : ∀ c ∈ inputs, c.nameOrDefault ≠ "")
    (hall : issue.affectedCrbNames = inputNames inputs) : NamesCulprits inputs issue := by
  intro violation _ c hc _
  rw [hall]
  exact mem_inputNames hc (hnames c hc)

/-- A missing provider block is reported of one binding. -/
lemma namesCulprits_missing_iff (hseen : ∀ c' ∈ seen, c'.SetsProvider) :
    NamesCulprits (seen ++ c :: later) (missingProviderIssue c) ↔
      ∀ c' ∈ later, ¬ c'.SetsProvider → c'.nameOrDefault = c.nameOrDefault := by
  have hnamed : ∀ name, name ∈ (missingProviderIssue c).affectedCrbNames ↔
      name = c.nameOrDefault := fun name => List.mem_singleton
  constructor
  · intro h c' hc' hmissing
    exact (hnamed _).mp (h .missingProvider ⟨rfl, rfl⟩ c' (by simp [hc']) hmissing)
  · intro h violation hreported c' hc' htakes
    rw [hnamed]
    cases violation with
    | missingProvider =>
        rcases List.mem_append.mp hc' with hc' | hc'
        · exact absurd (hseen c' hc') htakes
        rcases List.mem_cons.mp hc' with rfl | hc'
        · rfl
        · exact h c' hc' htakes
    | noProviders => exact absurd hreported.2 (by simp [missingProviderIssue])
    | providerConflict => cases hreported
    | provenanceConflict | duplicateExtra k => cases hreported.1

/-- A conflict over `aws` is reported of two bindings. -/
lemma namesCulprits_conflict_iff {c₀ : CloudRoleBinding}
    (hnames : c₀.nameOrDefault ≠ "" ∧ c.nameOrDefault ≠ "")
    (hseen : ∀ c' ∈ seen, c'.spec.providers.aws.isSome → c'.nameOrDefault = c₀.nameOrDefault)
    (hacc : acc.awsSetBy = some c₀.nameOrDefault) :
    NamesCulprits (seen ++ c :: later) (awsConflictIssue acc c) ↔
      ∀ c' ∈ later, c'.spec.providers.aws.isSome →
        c'.nameOrDefault = c₀.nameOrDefault ∨ c'.nameOrDefault = c.nameOrDefault := by
  have hnamed : ∀ name, name ∈ (awsConflictIssue acc c).affectedCrbNames ↔
      name = c₀.nameOrDefault ∨ name = c.nameOrDefault := by
    intro name
    simp only [awsConflictIssue, hacc, Option.getD_some, List.mem_filter, List.mem_cons,
      List.not_mem_nil, or_false, decide_eq_true_eq, and_iff_left_iff_imp]
    rintro (rfl | rfl)
    · exact hnames.1
    · exact hnames.2
  constructor
  · intro h c' hc' haws
    exact (hnamed _).mp (h .providerConflict rfl c' (by simp [hc']) haws)
  · intro h violation hreported c' hc' htakes
    rw [hnamed]
    cases violation with
    | providerConflict =>
        rcases List.mem_append.mp hc' with hc' | hc'
        · exact .inl (hseen c' hc' htakes)
        rcases List.mem_cons.mp hc' with rfl | hc'
        · exact .inr rfl
        · exact h c' hc' htakes
    | missingProvider | noProviders | provenanceConflict | duplicateExtra k =>
        cases hreported.1

end Reports

/-! ### Which lists have an unreported culprit -/

/-- What the loop has seen when it stops at a conflict: one binding set `aws`, and its name is
remembered. -/
lemma conflict_names {seen all : List CloudRoleBinding} {acc : MergeAcc} {c₀ : CloudRoleBinding}
    (hloop : seen.foldlM (mergeStep all) {} = .ok acc) (hc₀ : c₀ ∈ seen)
    (haws : c₀.spec.providers.aws.isSome) :
    acc.awsSetBy = some c₀.nameOrDefault ∧
      ∀ c' ∈ seen, c'.spec.providers.aws.isSome → c'.nameOrDefault = c₀.nameOrDefault := by
  have hby := setBy_of_loop hloop
  refine ⟨hby c₀ hc₀ haws, fun c' hc' haws' => ?_⟩
  exact Option.some.inj ((hby c' hc' haws').symm.trans (hby c₀ hc₀ haws))

lemma isSome_aws_iff {seen : List CloudRoleBinding} {acc : MergeAcc} (hI : Accumulates seen acc) :
    acc.aws.isSome ↔ ∃ c ∈ seen, c.spec.providers.aws.isSome := by
  rw [← List.countP_pos_iff, countP_aws_eq_length, hI.aws]
  cases acc.aws <;> simp

/-- **Every culprit is named, unless one comes late.**  When the merge of bindings with names
fails, its issue names every input that takes part in the reported violation, except where another
binding without a provider block, or a third one with `aws`, follows in the list. -/
theorem culprits_named_iff (saName : String) (inputs : List CloudRoleBinding)
    (hnames : ∀ c ∈ inputs, c.nameOrDefault ≠ "") :
    (∀ issue, mergeInputs saName inputs = .error issue → NamesCulprits inputs issue) ↔
      ¬ HasUnreported inputs := by
  constructor
  · rintro h ⟨seen, c, later, rfl, hcompatible, hcase⟩
    obtain ⟨acc, hloop⟩ := @Compatible.loop_ok _ (seen ++ c :: later) hcompatible
    rcases hcase with ⟨hc, c', hc', hmissing, hne⟩ | ⟨c₀, hc₀, haws₀, haws, c', hc', haws', hne, hne₀⟩
    · have hnamed := h _ (mergeInputs_stops hloop (mergeStep_missing hc))
      exact hne ((namesCulprits_missing_iff hcompatible.provider).mp hnamed c' hc' hmissing)
    · obtain ⟨hby, hseen⟩ := conflict_names hloop hc₀ haws₀
      have hacc := (isSome_aws_iff (accumulates_of_loop hloop)).mpr ⟨c₀, hc₀, haws₀⟩
      have hnamed := h _ (mergeInputs_stops hloop (mergeStep_conflict haws hacc))
      have hboth := (namesCulprits_conflict_iff
        ⟨hnames c₀ (by simp [hc₀]), hnames c (by simp)⟩ hseen hby).mp hnamed c' hc' haws'
      exact hboth.elim hne₀ hne
  · intro hunreported issue h
    rcases mergeInputs_error h with ⟨seen, c, later, acc, rfl, hloop, hfail⟩ | rfl
    · have hI := accumulates_of_loop hloop
      rcases mergeStep_error hI hfail with
        ⟨hc, rfl⟩ | ⟨hacc, haws, rfl⟩ | ⟨-, rfl⟩ | ⟨k, -, -, rfl⟩
      · refine (namesCulprits_missing_iff hI.provider).mpr fun c' hc' hmissing => ?_
        by_contra hne
        exact hunreported ⟨seen, c, later, rfl, hI.compatible, .inl ⟨hc, c', hc', hmissing, hne⟩⟩
      · obtain ⟨c₀, hc₀, haws₀⟩ := (isSome_aws_iff hI).mp hacc
        obtain ⟨hby, hseen⟩ := conflict_names hloop hc₀ haws₀
        refine (namesCulprits_conflict_iff ⟨hnames c₀ (by simp [hc₀]), hnames c (by simp)⟩ hseen
          hby).mpr fun c' hc' haws' => ?_
        by_contra hne
        obtain ⟨hne₀, hne⟩ := not_or.mp hne
        exact hunreported ⟨seen, c, later, rfl, hI.compatible,
          .inr ⟨c₀, hc₀, haws₀, haws, c', hc', haws', hne, hne₀⟩⟩
      · exact namesCulprits_of_all hnames rfl
      · exact namesCulprits_of_all hnames rfl
    · exact namesCulprits_of_all hnames rfl

/-- Three bindings that all say what `includeProvenance` is to be: `audit` does not agree with the
other two. -/
def threeProvenances : List CloudRoleBinding :=
  [("role", { aws := some { roleArn := "arn:aws:iam::123456789012:role/web" } }, true),
   ("tenant", { azure := some { tenantId := "00000000-0000-0000-0000-000000000001"
                                clientId := "00000000-0000-0000-0000-000000000009" } }, true),
   ("audit", { azure := some { tenantId := "00000000-0000-0000-0000-000000000002"
                               clientId := "00000000-0000-0000-0000-000000000009" } }, false)].map
    fun (name, providers, includeProvenance) =>
      { providerBinding name providers with
        spec.attributes := some { includeProvenance := some includeProvenance } }

/-- The three bindings take part in the violation that is reported, and it names all of them. -/
theorem culprits_named_iff_provenance :
    mergeInputs "web" threeProvenances = .error (includeProvenanceIssue threeProvenances) ∧
      (∀ c ∈ threeProvenances, Violation.provenanceConflict.TakesPart c) ∧
      NamesCulprits threeProvenances (includeProvenanceIssue threeProvenances) := by
  have hmerge : mergeInputs "web" threeProvenances =
      .error (includeProvenanceIssue threeProvenances) := rfl
  have htake : ∀ c ∈ threeProvenances, Violation.provenanceConflict.TakesPart c := by
    simp [threeProvenances, Violation.TakesPart, CloudRoleBinding.explicitProvenance]
  refine ⟨hmerge, htake, (culprits_named_iff "web" _ (by decide)).mpr ?_ _ hmerge⟩
  rintro ⟨seen, c, later, hsplit, -, hcase⟩
  have hmem : c ∈ threeProvenances := by simp [hsplit]
  rcases hcase with ⟨hmissing, -⟩ | ⟨-, -, -, haws, c', hlater, haws', hne, -⟩
  · have hset : ∀ c ∈ threeProvenances, c.SetsProvider := by
      simp [threeProvenances, CloudRoleBinding.SetsProvider, providerBinding]
    exact hmissing (hset c hmem)
  · -- Only `role` sets `aws`.
    have hrole : ∀ c ∈ threeProvenances, c.spec.providers.aws.isSome →
        c.nameOrDefault = "role" := by decide
    have hmem' : c' ∈ threeProvenances := by simp [hsplit, hlater]
    exact hne ((hrole c' hmem' haws').trans (hrole c hmem haws).symm)

/-- Of two bindings without a provider block, the second is not named. -/
theorem second_culprit_unnamed :
    ∃ issue, mergeInputs "web" [providerBinding "a" {}, providerBinding "b" {}] = .error issue ∧
      ¬ NamesCulprits [providerBinding "a" {}, providerBinding "b" {}] issue := by
  refine ⟨missingProviderIssue (providerBinding "a" {}), rfl, fun h => ?_⟩
  have hnamed := h .missingProvider ⟨rfl, rfl⟩ (providerBinding "b" {}) (by simp)
    (by simp [Violation.TakesPart, CloudRoleBinding.SetsProvider, providerBinding])
  exact absurd hnamed (by decide)

end IdentityFederation
