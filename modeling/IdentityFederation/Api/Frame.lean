import Mathlib.Order.Nat
import Mathlib.Tactic.Common
import IdentityFederation.Api.Cluster

/-!
# What requests and changes leave alone

Users own the specifications of the bindings, the webhook owns their status and the resolved
bindings.  `Cluster.bindings` is the part that users own: which bindings exist, and the
generation and specification of each.  No request of a component touches it
(`bindings_serve`), no change of a user touches the resolved bindings (`UserChange.Effect`), and the
lemmas below say the same of every other part of the cluster that a statement about runs needs.
-/

namespace IdentityFederation

namespace Cluster

/-- What users wrote: which bindings exist, with generation and specification. -/
def bindings (s : Cluster) : List (ObjectKey × ℕ × CloudRoleBindingSpec) :=
  s.crbs.toList.map fun p => (p.1, p.2.generation, p.2.spec)

/-- The status of a binding. -/
def crbStatus (s : Cluster) (key : ObjectKey) : Option CloudRoleBindingStatus :=
  s.crbs[key]?.bind StoredCrb.status

/-! ## Lookups -/

lemma getElem?_updateCrb (s : Cluster) (key k : ObjectKey) (c : StoredCrb) :
    (s.updateCrb key c)[k]? = s.crbs[k]?.map fun old => if k = key then c else old := by
  rw [updateCrb, Std.ExtTreeMap.getElem?_map]

lemma getElem?_updateCrb_self {s : Cluster} {key : ObjectKey} {old : StoredCrb}
    (h : s.crbs[key]? = some old) (c : StoredCrb) : (s.updateCrb key c)[key]? = some c := by
  rw [getElem?_updateCrb, h]
  simp

lemma getElem?_updateCrb_of_ne (s : Cluster) {key k : ObjectKey} (hne : k ≠ key) (c : StoredCrb) :
    (s.updateCrb key c)[k]? = s.crbs[k]? := by
  rw [getElem?_updateCrb]
  cases s.crbs[k]? <;> simp [hne]

lemma mem_bindings {s : Cluster} {key : ObjectKey} {g : ℕ} {spec : CloudRoleBindingSpec} :
    (key, g, spec) ∈ s.bindings ↔
      ∃ c, s.crbs[key]? = some c ∧ c.generation = g ∧ c.spec = spec := by
  simp only [bindings, List.mem_map, Prod.exists, Prod.mk.injEq,
    Std.ExtTreeMap.mem_toList_iff_getElem?_eq_some]
  constructor
  · rintro ⟨key', c, hc, rfl, hg, hspec⟩
    exact ⟨c, hc, hg, hspec⟩
  · rintro ⟨c, hc, hg, hspec⟩
    exact ⟨key, c, hc, rfl, hg, hspec⟩

lemma mem_list {s : Cluster} {ns : String} {crb : CloudRoleBinding} :
    crb ∈ s.list ns ↔
      ∃ name c, s.crbs[ObjectKey.mk ns name]? = some c ∧ crb = c.object ⟨ns, name⟩ := by
  simp only [list, List.mem_filterMap, Prod.exists, Std.ExtTreeMap.mem_toList_iff_getElem?_eq_some]
  constructor
  · rintro ⟨⟨ns', name⟩, c, hc, h⟩
    split at h
    · rename_i heq
      obtain rfl : ns' = ns := heq
      exact ⟨name, c, hc, (Option.some.inj h).symm⟩
    · cases h
  · rintro ⟨name, c, hc, rfl⟩
    exact ⟨⟨ns, name⟩, c, hc, by simp⟩

/-- The objects a list returns have different names. -/
lemma list_names_distinct (s : Cluster) (ns : String) :
    (s.list ns).Pairwise fun c c' => c.metadata.name ≠ c'.metadata.name := by
  refine List.pairwise_filterMap.mpr ?_
  refine Std.ExtTreeMap.distinct_keys_toList.imp fun {p p'} hne c hc c' hc' => ?_
  simp only [Option.ite_none_right_eq_some, Option.some.injEq] at hc hc'
  obtain ⟨hns, rfl⟩ := hc
  obtain ⟨hns', rfl⟩ := hc'
  intro heq
  refine hne ?_
  have hname : p.1.name = p'.1.name := Option.some.inj heq
  have hkey : p.1 = p'.1 := by
    obtain ⟨⟨ns₁, name₁⟩, c₁⟩ := p
    obtain ⟨⟨ns₂, name₂⟩, c₂⟩ := p'
    simp_all
  simp [hkey]

/-! ## The parts of the cluster under a request -/

/-- A write to the status of a binding that succeeds. -/
lemma replaceCrbStatus_ok {s s' : Cluster} {ns name : String} {crb : CloudRoleBinding}
    (h : s.replaceCrbStatus ns name crb = (.ok (), s')) :
    (∃ c rv, s.crbs[ObjectKey.mk ns name]? = some c ∧
      s'.crbs[ObjectKey.mk ns name]? =
        some { c with status := crb.status, resourceVersion := rv }) ∧
    ∀ k : ObjectKey, k ≠ ⟨ns, name⟩ → s'.crbs[k]? = s.crbs[k]? := by
  unfold replaceCrbStatus at h
  split at h
  · cases h
  rename_i c hc
  split at h
  · cases h
  split at h
  · rename_i hsame
    obtain rfl : s = s' := congrArg Prod.snd h
    exact ⟨⟨c, c.resourceVersion, hc, by rw [hc, hsame]⟩, fun _ _ => rfl⟩
  · obtain rfl := congrArg Prod.snd h
    exact ⟨⟨c, s.revision + 1, hc, getElem?_updateCrb_self hc _⟩,
      fun k hk => getElem?_updateCrb_of_ne s hk _⟩

/-- It leaves the status of every other binding alone. -/
lemma crbStatus_replaceCrbStatus_of_ne {s s' : Cluster} {ns name : String} {crb : CloudRoleBinding}
    (h : s.replaceCrbStatus ns name crb = (.ok (), s')) {k : ObjectKey} (hk : k ≠ ⟨ns, name⟩) :
    s'.crbStatus k = s.crbStatus k := by
  rw [crbStatus, (replaceCrbStatus_ok h).2 k hk]
  rfl

/-- A write that carries the stored resource version succeeds. -/
lemma exists_replaceCrbStatus_ok {s : Cluster} {ns name : String} {crb : CloudRoleBinding}
    {c : StoredCrb} (hc : s.crbs[ObjectKey.mk ns name]? = some c)
    (hrv : crb.metadata.resourceVersion = some c.resourceVersion) :
    ∃ s', s.replaceCrbStatus ns name crb = (.ok (), s') := by
  simp only [replaceCrbStatus, hc, hrv]
  rw [if_neg (by simp)]
  split
  · exact ⟨_, rfl⟩
  · exact ⟨_, rfl⟩

/-- A patch of a resolved binding leaves the statuses of all of them alone. -/
lemma rcrbStatus_patchRcrb (s : Cluster) (ns name : String) (resolved : ResolvedCloudRoleBinding)
    (k : ObjectKey) : ((s.patchRcrb ns name resolved).rcrbs k).bind StoredRcrb.status =
      (s.rcrbs k).bind StoredRcrb.status := by
  by_cases hk : k = ⟨ns, name⟩
  · subst hk
    simp [patchRcrb]
  · simp [patchRcrb, Function.update_of_ne hk]

/-- A patch and the patch of the status after it store the whole object. -/
lemma patchRcrbStatus_patchRcrb (s : Cluster) (ns name : String)
    (resolved : ResolvedCloudRoleBinding) :
    (s.patchRcrb ns name resolved).patchRcrbStatus ns name resolved =
      (.ok (), { s with
        rcrbs := Function.update s.rcrbs ⟨ns, name⟩
          (some { spec := resolved.spec, status := resolved.status })
        revision := s.revision + 1 + 1 }) := by
  simp only [patchRcrbStatus, patchRcrb, Function.update_self, Function.update_idem]

lemma bindings_replaceCrbStatus (s : Cluster) (ns name : String) (crb : CloudRoleBinding) :
    (s.replaceCrbStatus ns name crb).2.bindings = s.bindings := by
  unfold replaceCrbStatus
  split
  · rfl
  rename_i c hc
  split
  · rfl
  split
  · rfl
  simp only [bindings, updateCrb, Std.ExtTreeMap.toList_map, List.map_map]
  refine List.map_congr_left fun p hp => ?_
  have hp := Std.ExtTreeMap.mem_toList_iff_getElem?_eq_some.mp hp
  by_cases hkey : p.1 = ⟨ns, name⟩
  · rw [hkey, hc] at hp
    obtain rfl := Option.some.inj hp
    simp [hkey]
  · simp [hkey]

/-- **No request of a component touches what users wrote.** -/
lemma bindings_serve (s : Cluster) (q : ApiRequest) : (s.serve q).2.bindings = s.bindings := by
  cases q with
  | replaceCrbStatus ns name crb => exact bindings_replaceCrbStatus s ns name crb
  | patchRcrbStatus ns name resolved =>
      simp only [serve, patchRcrbStatus]
      split <;> rfl
  | _ => rfl

/-- The resolved binding a request writes. -/
def writes : ApiRequest → Option ObjectKey
  | .patchRcrb ns name _ | .patchRcrbStatus ns name _ => some ⟨ns, name⟩
  | _ => none

lemma rcrbs_replaceCrbStatus (s : Cluster) (ns name : String) (crb : CloudRoleBinding) :
    (s.replaceCrbStatus ns name crb).2.rcrbs = s.rcrbs := by
  unfold replaceCrbStatus
  repeat' split
  all_goals rfl

/-- A request changes no resolved binding but the one it writes. -/
lemma rcrbs_serve (s : Cluster) (q : ApiRequest) {key : ObjectKey}
    (h : writes q ≠ some key) : (s.serve q).2.rcrbs key = s.rcrbs key := by
  cases q with
  | replaceCrbStatus ns name crb => exact congrFun (rcrbs_replaceCrbStatus s ns name crb) key
  | patchRcrb ns name resolved =>
      exact Function.update_of_ne (fun heq => h (congrArg some heq.symm)) ..
  | patchRcrbStatus ns name resolved =>
      simp only [serve, patchRcrbStatus]
      split
      · rfl
      · exact Function.update_of_ne (fun heq => h (congrArg some heq.symm)) ..
  | _ => rfl

lemma rcrbs_serveWith (f : Fault) (s : Cluster) (q : ApiRequest) {key : ObjectKey}
    (h : writes q ≠ some key) : (serveWith f s q).2.rcrbs key = s.rcrbs key := by
  cases f with
  | refused e => rfl
  | none | unanswered e => exact rcrbs_serve s q h

/-! ## The log -/

/-- The log and the revision grow; the new entries are younger than the old state, and
`byUser` if a user made them. -/
structure LogGrows (byUser : Bool) (s s' : Cluster) : Prop where
  revision : s.revision ≤ s'.revision
  log : ∃ new, s'.log = s.log ++ new ∧
    ∀ e ∈ new, e.byUser = byUser ∧ s.revision < e.revision ∧ e.revision ≤ s'.revision

lemma LogGrows.refl (byUser : Bool) (s : Cluster) : LogGrows byUser s s :=
  ⟨le_rfl, [], by simp⟩

lemma LogGrows.trans {byUser : Bool} {s₁ s₂ s₃ : Cluster} (h : LogGrows byUser s₁ s₂)
    (h' : LogGrows byUser s₂ s₃) : LogGrows byUser s₁ s₃ := by
  obtain ⟨new, hlog, hnew⟩ := h.log
  obtain ⟨new', hlog', hnew'⟩ := h'.log
  refine ⟨h.revision.trans h'.revision, new ++ new', by rw [hlog', hlog, List.append_assoc], ?_⟩
  intro e he
  rcases List.mem_append.mp he with he | he
  · obtain ⟨hby, hlo, hhi⟩ := hnew e he
    exact ⟨hby, hlo, hhi.trans h'.revision⟩
  · obtain ⟨hby, hlo, hhi⟩ := hnew' e he
    exact ⟨hby, h.revision.trans_lt hlo, hhi⟩

/-- A log that only grows is the same at the end if it was the same all the way. -/
lemma LogGrows.log_eq_iff {byUser : Bool} {s₁ s₂ s₃ : Cluster} (h : LogGrows byUser s₁ s₂)
    (h' : LogGrows byUser s₂ s₃) : s₃.log = s₁.log ↔ s₂.log = s₁.log ∧ s₃.log = s₂.log := by
  obtain ⟨new, hlog, -⟩ := h.log
  obtain ⟨new', hlog', -⟩ := h'.log
  have hfirst : s₂.log = s₁.log ↔ new = [] := by rw [hlog, List.append_right_eq_self]
  have hrest : s₃.log = s₂.log ↔ new' = [] := by rw [hlog', List.append_right_eq_self]
  rw [hfirst, hrest, hlog', hlog, List.append_assoc, List.append_right_eq_self,
    List.append_eq_nil_iff]

lemma logGrows_replaceCrbStatus (s : Cluster) (ns name : String) (crb : CloudRoleBinding) :
    LogGrows false s (s.replaceCrbStatus ns name crb).2 := by
  unfold replaceCrbStatus
  split
  · exact .refl false s
  split
  · exact .refl false s
  split
  · exact .refl false s
  · exact ⟨Nat.le_succ _, _, rfl, by simp⟩

lemma logGrows_serve (s : Cluster) (q : ApiRequest) : LogGrows false s (s.serve q).2 := by
  cases q with
  | replaceCrbStatus ns name crb => exact logGrows_replaceCrbStatus s ns name crb
  | patchRcrb | applySecret => exact ⟨Nat.le_succ _, [], by simp [serve, patchRcrb, applySecret]⟩
  | patchRcrbStatus ns name resolved =>
      simp only [serve, patchRcrbStatus]
      split
      · exact .refl false s
      · exact ⟨Nat.le_succ _, [], by simp⟩
  | createPodEvent event => exact ⟨le_rfl, [], by simp [serve]⟩
  | listCrbs | getRcrb | createTokenReview | getSecret => exact .refl false s

lemma logGrows_serveWith (f : Fault) (s : Cluster) (q : ApiRequest) :
    LogGrows false s (serveWith f s q).2 := by
  cases f with
  | refused e => exact .refl false s
  | none | unanswered e => exact logGrows_serve s q

/-! ### Other parts -/

lemma crbs_replaceCrbStatus_of_ne (s : Cluster) {ns name : String} (crb : CloudRoleBinding)
    {k : ObjectKey} (hk : k ≠ ⟨ns, name⟩) :
    (s.replaceCrbStatus ns name crb).2.crbs[k]? = s.crbs[k]? := by
  unfold replaceCrbStatus
  split
  · rfl
  split
  · rfl
  split
  · rfl
  · exact getElem?_updateCrb_of_ne s hk _

lemma authenticator_serve (s : Cluster) (q : ApiRequest) :
    (s.serve q).2.authenticator = s.authenticator := by
  cases q with
  | replaceCrbStatus ns name crb =>
      simp only [serve, replaceCrbStatus]
      repeat' split
      all_goals rfl
  | patchRcrbStatus ns name resolved =>
      simp only [serve, patchRcrbStatus]
      split <;> rfl
  | _ => rfl

lemma authenticator_serveWith (f : Fault) (s : Cluster) (q : ApiRequest) :
    (serveWith f s q).2.authenticator = s.authenticator := by
  cases f with
  | refused e => rfl
  | none | unanswered e => exact authenticator_serve s q

end Cluster

/-! ## The parts of the cluster under a change of a user -/

/-- What a change does: it writes one watch event, about the binding it changes, and touches
nothing but that binding. -/
structure UserChange.Effect (change : UserChange) (s s' : Cluster) where
  event : Event
  crb : CloudRoleBinding
  /-- The event carries the specification that the binding has after the change, or had before
  it was deleted. -/
  event_eq :
    (event = .apply crb ∧ ∃ c, s'.crbs[change.key]? = some c ∧ c.spec = crb.spec) ∨
    (event = .delete crb ∧ s'.crbs[change.key]? = none ∧
      ∃ c, s.crbs[change.key]? = some c ∧ c.spec = crb.spec)
  ns_eq : crb.metadata.ns = some change.key.ns
  log_eq : s'.log = s.log ++ [⟨event, s.revision + 1, true⟩]
  revision_eq : s'.revision = s.revision + 1
  rcrbs_eq : s'.rcrbs = s.rcrbs
  /-- A new binding has no status, and an edit keeps the status. -/
  status_eq : ∀ c, s'.crbs[change.key]? = some c → c.status = s.crbStatus change.key
  others : ∀ k : ObjectKey, k ≠ change.key → s'.crbs[k]? = s.crbs[k]?

lemma UserChange.Effect.current {change : UserChange} {s s' : Cluster}
    (effect : change.Effect s s') {c : StoredCrb} (hc : s'.crbs[change.key]? = some c) :
    c.spec = effect.crb.spec := by
  rcases effect.event_eq with ⟨-, c', hc', hspec⟩ | ⟨-, hnone, -⟩
  · rw [Option.some.inj (hc.symm.trans hc'), hspec]
  · rw [hnone] at hc
    cases hc

/-- What a change leaves of the statuses. -/
lemma UserChange.Effect.crbStatus_eq {change : UserChange} {s s' : Cluster}
    (effect : change.Effect s s') {k : ObjectKey} {c : StoredCrb} (hc : s'.crbs[k]? = some c) :
    c.status = s.crbStatus k := by
  by_cases hk : k = change.key
  · rw [hk] at hc ⊢
    exact effect.status_eq c hc
  · rw [effect.others k hk] at hc
    simp [Cluster.crbStatus, hc]

/-- **Inversion of a change.** -/
lemma UserChange.apply_eq_some {change : UserChange} {s s' : Cluster}
    (h : change.apply s = some s') : Nonempty (change.Effect s s') := by
  cases change with
  | create key spec =>
      simp only [apply] at h
      split at h
      · cases h
      split at h
      · cases h
      obtain rfl := Option.some.inj h
      rename_i hnone _
      refine ⟨⟨_, _, .inl ⟨rfl, _, Std.ExtTreeMap.getElem?_insert_self, rfl⟩, rfl, rfl, rfl, rfl,
        fun c hc => ?_, fun k hk => ?_⟩⟩
      · obtain rfl := Option.some.inj (Std.ExtTreeMap.getElem?_insert_self.symm.trans hc)
        simp [Cluster.crbStatus, UserChange.key, hnone]
      · have hne : key ≠ k := Ne.symm hk
        simp [Std.ExtTreeMap.getElem?_insert, hne]
  | edit key spec =>
      simp only [apply] at h
      split at h
      · cases h
      rename_i old hold
      split at h
      · cases h
      obtain rfl := Option.some.inj h
      refine ⟨⟨_, _, .inl ⟨rfl, _, Cluster.getElem?_updateCrb_self hold _, rfl⟩, rfl, rfl, rfl,
        rfl, fun c hc => ?_, fun k hk => Cluster.getElem?_updateCrb_of_ne s hk _⟩⟩
      obtain rfl := Option.some.inj ((Cluster.getElem?_updateCrb_self hold _).symm.trans hc)
      simp [Cluster.crbStatus, UserChange.key, hold]
  | delete key =>
      simp only [apply] at h
      split at h
      · cases h
      rename_i old hold
      obtain rfl := Option.some.inj h
      refine ⟨⟨_, _, .inr ⟨rfl, Std.ExtTreeMap.getElem?_erase_self, old, hold, rfl⟩, rfl, rfl, rfl,
        rfl, fun c hc => ?_, fun k hk => ?_⟩⟩
      · cases Std.ExtTreeMap.getElem?_erase_self.symm.trans hc
      · have hne : key ≠ k := Ne.symm hk
        simp [Std.ExtTreeMap.getElem?_erase, hne]

/-- The binding that a change leaves: a new one, or what an edit makes of the old one. -/
lemma UserChange.stored_of_apply {change : UserChange} {s s' : Cluster}
    (h : change.apply s = some s') {b : StoredCrb} (hb : s'.crbs[change.key]? = some b) :
    (change = .create change.key b.spec ∧ change.key.name ≠ "" ∧ b.generation = 1 ∧
        b.status = none) ∨
      (change = .edit change.key b.spec ∧ ∃ old, s.crbs[change.key]? = some old ∧
        b.generation = old.generation + 1 ∧ b.status = old.status) := by
  cases change with
  | create key spec =>
      simp only [apply] at h
      split at h
      · cases h
      split at h
      · cases h
      rename_i hname
      obtain rfl := Option.some.inj h
      obtain rfl := Option.some.inj (Std.ExtTreeMap.getElem?_insert_self.symm.trans hb)
      exact .inl ⟨rfl, hname, rfl, rfl⟩
  | edit key spec =>
      simp only [apply] at h
      split at h
      · cases h
      rename_i old hold
      split at h
      · cases h
      obtain rfl := Option.some.inj h
      obtain rfl := Option.some.inj ((Cluster.getElem?_updateCrb_self hold _).symm.trans hb)
      exact .inr ⟨rfl, old, hold, rfl, rfl⟩
  | delete key =>
      simp only [apply] at h
      split at h
      · cases h
      obtain rfl := Option.some.inj h
      cases Std.ExtTreeMap.getElem?_erase_self.symm.trans hb

lemma UserChange.apply_authenticator {change : UserChange} {s s' : Cluster}
    (h : change.apply s = some s') : s'.authenticator = s.authenticator := by
  cases change <;> simp only [apply] at h <;> repeat' split at h
  all_goals cases h
  all_goals rfl

end IdentityFederation
