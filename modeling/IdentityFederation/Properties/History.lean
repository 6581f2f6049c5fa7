import IdentityFederation.Framework.Transition
import IdentityFederation.Properties.ReconcileAlone

/-!
# Histories of a cluster

Users change bindings and the webhook reconciles keys, in any order (`act`).  A worker only
reconciles a key that the watcher has enqueued for an event, and a reconcile may fail at any of
its requests.

An event carries the ServiceAccount that its binding names, so a key is enqueued exactly when a
binding has named it at some moment (`enqueued_iff_everNamed`), and only enqueued keys have a
resolved binding (`enqueued_of_rcrbs`).
-/

namespace IdentityFederation

open Interaction Program

/-! ## Names and keys -/

/-- Some binding names the ServiceAccount. -/
def Cluster.Names (s : Cluster) (key : Key) : Prop :=
  ∃ name c, s.crbs[ObjectKey.mk key.ns name]? = some c ∧
    c.spec.subject.serviceAccountName = key.serviceAccountName

/-- The events of the log make the watcher enqueue the key. -/
def Enqueued (s : Cluster) (key : Key) : Prop :=
  ∃ entry ∈ s.log, watchKey entry.event = some key

/-- The keys of the events of the log, in order. -/
def watchKeys (s : Cluster) : List Key := s.log.filterMap fun entry => watchKey entry.event

variable {sha256 : String → String} {key : Key} {s s' : Cluster}

lemma names_iff_bindings :
    s.Names key ↔ ∃ k g spec, (k, g, spec) ∈ s.bindings ∧ k.ns = key.ns ∧
      spec.subject.serviceAccountName = key.serviceAccountName := by
  constructor
  · rintro ⟨name, c, hc, hsa⟩
    exact ⟨_, _, _, Cluster.mem_bindings.mpr ⟨c, hc, rfl, rfl⟩, rfl, hsa⟩
  · rintro ⟨⟨ns, name⟩, g, spec, hmem, hns, hsa⟩
    obtain ⟨c, hc, -, rfl⟩ := Cluster.mem_bindings.mp hmem
    obtain rfl : ns = key.ns := hns
    exact ⟨name, c, hc, hsa⟩

lemma names_of_bindings (h : s.bindings = s'.bindings) : s.Names key ↔ s'.Names key := by
  rw [names_iff_bindings, names_iff_bindings, h]

lemma mem_relevantCrbs {crb : CloudRoleBinding} :
    crb ∈ relevantCrbs key.serviceAccountName (s.list key.ns) ↔
      ∃ name c, s.crbs[ObjectKey.mk key.ns name]? = some c ∧ crb = c.object ⟨key.ns, name⟩ ∧
        c.spec.subject.serviceAccountName = key.serviceAccountName := by
  simp only [relevantCrbs, List.mem_filter, Cluster.mem_list, decide_eq_true_eq]
  constructor
  · rintro ⟨⟨name, c, hc, rfl⟩, hsa⟩
    exact ⟨name, c, hc, rfl, hsa⟩
  · rintro ⟨name, c, hc, rfl, hsa⟩
    exact ⟨⟨name, c, hc, rfl⟩, hsa⟩

lemma relevantCrbs_eq_nil (h : ¬ s.Names key) :
    relevantCrbs key.serviceAccountName (s.list key.ns) = [] := by
  refine List.eq_nil_iff_forall_not_mem.mpr fun crb hcrb => h ?_
  obtain ⟨name, c, hc, -, hsa⟩ := mem_relevantCrbs.mp hcrb
  exact ⟨name, c, hc, hsa⟩

lemma resolved_injective : Function.Injective Key.resolved := by
  rintro ⟨ns, sa⟩ ⟨ns', sa'⟩ h
  simpa [Key.resolved] using h

lemma mem_watchKeys : key ∈ watchKeys s ↔ Enqueued s key := by
  simp only [watchKeys, List.mem_filterMap, Enqueued]

lemma Enqueued.of_log {new : List LogEntry} (h : Enqueued s key) (hlog : s'.log = s.log ++ new) :
    Enqueued s' key := by
  obtain ⟨entry, hmem, hkey⟩ := h
  exact ⟨entry, by simp [hlog, hmem], hkey⟩

/-! ## The system -/

/-- What happens to a cluster while the webhook runs. -/
inductive Action where
  | change (change : UserChange)
  /-- A worker reconciles a key; its requests meet the faults. -/
  | reconcile (key : Key) (clock : ℕ → Time) (faults : List Fault)

instance (s : Cluster) (key : Key) : Decidable (Enqueued s key) :=
  inferInstanceAs (Decidable (∃ entry ∈ s.log, watchKey entry.event = some key))

/-- One action; only an enqueued key is reconciled. -/
def act (sha256 : String → String) (s : Cluster) : Action → Option Cluster
  | .change change => change.apply s
  | .reconcile key clock faults =>
      if Enqueued s key then
        some ((reconcile sha256 clock key).run.exec Cluster.serveFaulty (s, faults)).2.1
      else none

/-- A binding named the ServiceAccount at some moment of the history. -/
def EverNamed (sha256 : String → String) (s₀ : Cluster) (history : List Action) (key : Key) :
    Prop :=
  ∃ earlier later t, history = earlier ++ later ∧
    Transition.run (act sha256) s₀ earlier = some t ∧ t.Names key

/-! ### What a component adds to the log -/

/-- What a component adds to the log are events about bindings that exist. -/
structure LogNames (s s' : Cluster) : Prop where
  bindings : s'.bindings = s.bindings
  log : ∃ new, s'.log = s.log ++ new ∧
    ∀ entry ∈ new, ∀ key, watchKey entry.event = some key → s.Names key

lemma LogNames.refl (s : Cluster) : LogNames s s := ⟨rfl, [], by simp⟩

lemma LogNames.trans {s₁ s₂ s₃ : Cluster} (h : LogNames s₁ s₂) (h' : LogNames s₂ s₃) :
    LogNames s₁ s₃ := by
  obtain ⟨new, hlog, hnew⟩ := h.log
  obtain ⟨new', hlog', hnew'⟩ := h'.log
  refine ⟨h'.bindings.trans h.bindings, new ++ new', by rw [hlog', hlog, List.append_assoc], ?_⟩
  intro entry hmem key hkey
  rcases List.mem_append.mp hmem with hmem | hmem
  · exact hnew entry hmem key hkey
  · exact (names_of_bindings h.bindings).mp (hnew' entry hmem key hkey)

lemma logNames_replaceCrbStatus (s : Cluster) (ns name : String) (crb : CloudRoleBinding) :
    LogNames s (s.replaceCrbStatus ns name crb).2 := by
  refine ⟨Cluster.bindings_replaceCrbStatus s ns name crb, ?_⟩
  unfold Cluster.replaceCrbStatus
  split
  · exact ⟨[], by simp⟩
  rename_i c hc
  split
  · exact ⟨[], by simp⟩
  split
  · exact ⟨[], by simp⟩
  · refine ⟨_, rfl, fun entry hmem key hkey => ?_⟩
    obtain rfl := List.mem_singleton.mp hmem
    obtain rfl := Option.some.inj hkey
    exact ⟨name, c, hc, rfl⟩

lemma logNames_serve (s : Cluster) (q : ApiRequest) : LogNames s (s.serve q).2 := by
  refine ⟨Cluster.bindings_serve s q, ?_⟩
  cases q with
  | replaceCrbStatus ns name crb => exact (logNames_replaceCrbStatus s ns name crb).log
  | patchRcrbStatus ns name resolved =>
      simp only [Cluster.serve, Cluster.patchRcrbStatus]
      split <;> exact ⟨[], by simp⟩
  | _ => exact ⟨[], by simp [Cluster.serve, Cluster.patchRcrb, Cluster.applySecret]⟩

lemma logNames_serveWith (f : Fault) (s : Cluster) (q : ApiRequest) :
    LogNames s (Cluster.serveWith f s q).2 := by
  cases f with
  | refused e => exact .refl s
  | none | unanswered e => exact logNames_serve s q

lemma logNames_exec_faulty {α : Type} (p : ApiProgram α) (s : Cluster) (faults : List Fault) :
    LogNames s (p.exec Cluster.serveFaulty (s, faults)).2.1 :=
  exec_preorder Cluster.serveFaulty (fun s s' => LogNames s.1 s'.1) (fun s => .refl s.1)
    (fun _ _ _ h h' => h.trans h') (fun s q => logNames_serveWith _ s.1 q) p (s, faults)

/-- The event of a change names the ServiceAccount of the binding it leaves. -/
lemma UserChange.Effect.watchKey_eq {change : UserChange} (effect : change.Effect s s') :
    watchKey effect.event =
      some ⟨change.key.ns, effect.crb.spec.subject.serviceAccountName⟩ := by
  rcases effect.event_eq with ⟨h, -⟩ | ⟨h, -⟩ <;> simp [h, watchKey, effect.ns_eq]

variable {authenticator : String → Option TokenReviewStatus} {history : List Action}

/-! ## Whoever is named has been enqueued -/

lemma enqueued_act {a : Action} (h : act sha256 s a = some s') (hkey : Enqueued s key) :
    Enqueued s' key := by
  cases a with
  | change change =>
      obtain ⟨effect⟩ := UserChange.apply_eq_some h
      exact hkey.of_log effect.log_eq
  | reconcile key' clock faults =>
      simp only [act, Option.ite_none_right_eq_some, Option.some.injEq] at h
      obtain ⟨-, rfl⟩ := h
      obtain ⟨new, hlog, -⟩ := (logNames_exec_faulty (reconcile sha256 clock key').run s faults).log
      exact hkey.of_log hlog

/-- **Whoever is named has been enqueued**: a binding cannot name a ServiceAccount without an
event that carries the name. -/
lemma namesEnqueued_act {a : Action} (hI : ∀ key, s.Names key → Enqueued s key)
    (h : act sha256 s a = some s') : ∀ key, s'.Names key → Enqueued s' key := by
  intro key hnames
  cases a with
  | change change =>
      obtain ⟨effect⟩ := UserChange.apply_eq_some h
      obtain ⟨name, c, hc, hsa⟩ := hnames
      by_cases hk : (⟨key.ns, name⟩ : ObjectKey) = change.key
      · -- The binding that was changed: its event is the last of the log.
        rw [hk] at hc
        refine ⟨_, by rw [effect.log_eq]; exact List.mem_append_right _ List.mem_cons_self, ?_⟩
        rw [effect.watchKey_eq, ← effect.current hc, hsa, ← hk]
      · rw [effect.others _ hk] at hc
        exact (hI key ⟨name, c, hc, hsa⟩).of_log effect.log_eq
  | reconcile key' clock faults =>
      refine enqueued_act h (hI key ((names_of_bindings ?_).mp hnames))
      simp only [act, Option.ite_none_right_eq_some, Option.some.injEq] at h
      obtain ⟨-, rfl⟩ := h
      exact (logNames_exec_faulty _ s faults).bindings

lemma not_names_empty :
    ¬ (Cluster.empty authenticator).Names key := by
  rintro ⟨name, c, hc, -⟩
  simp [Cluster.empty] at hc

lemma enqueued_of_everNamed
    (h : Transition.run (act sha256) (Cluster.empty authenticator) history = some s)
    (hnamed : EverNamed sha256 (Cluster.empty authenticator) history key) : Enqueued s key := by
  obtain ⟨earlier, later, t, rfl, hearlier, hnames⟩ := hnamed
  have hinv : ∀ key, t.Names key → Enqueued t key :=
    Transition.run_invariant hearlier (fun key hn => absurd hn not_names_empty)
      fun _ _ _ hI hs => namesEnqueued_act hI hs
  rw [Transition.run_append, hearlier] at h
  exact Transition.run_preorder (fun s s' => Enqueued s key → Enqueued s' key) (fun _ hk => hk)
    (fun _ _ _ h₁ h₂ hk => h₂ (h₁ hk)) (fun _ _ _ hs => enqueued_act hs) h (hinv key hnames)

/-! ## Whoever is enqueued has been named -/

lemma everNamed_append {s₀ : Cluster} (h : EverNamed sha256 s₀ history key) (more : List Action) :
    EverNamed sha256 s₀ (history ++ more) key := by
  obtain ⟨earlier, later, t, rfl, hrun, hnames⟩ := h
  exact ⟨earlier, later ++ more, t, by rw [List.append_assoc], hrun, hnames⟩

/-- A cluster that a history reaches names what was ever named. -/
lemma everNamed_of_names {s₀ : Cluster} (h : Transition.run (act sha256) s₀ history = some s)
    (hnames : s.Names key) : EverNamed sha256 s₀ history key :=
  ⟨history, [], s, (List.append_nil _).symm, h, hnames⟩

/-- An action enqueues only keys that are named before or after it. -/
lemma enqueued_cases {a : Action} (h : act sha256 s a = some s') (hkey : Enqueued s' key) :
    Enqueued s key ∨ s.Names key ∨ s'.Names key := by
  obtain ⟨entry, hmem, hwatch⟩ := hkey
  cases a with
  | change change =>
      obtain ⟨effect⟩ := UserChange.apply_eq_some h
      rw [effect.log_eq, List.mem_append, List.mem_singleton] at hmem
      rcases hmem with hmem | rfl
      · exact .inl ⟨entry, hmem, hwatch⟩
      obtain rfl := Option.some.inj (effect.watchKey_eq.symm.trans hwatch)
      -- The binding of the event is there after the change, or was there before it.
      rcases effect.event_eq with ⟨-, c, hc, hspec⟩ | ⟨-, -, c, hc, hspec⟩
      · exact .inr (.inr ⟨_, c, hc, by rw [hspec]⟩)
      · exact .inr (.inl ⟨_, c, hc, by rw [hspec]⟩)
  | reconcile key' clock faults =>
      simp only [act, Option.ite_none_right_eq_some, Option.some.injEq] at h
      obtain ⟨-, rfl⟩ := h
      obtain ⟨new, hlog, hnew⟩ :=
        (logNames_exec_faulty (reconcile sha256 clock key').run s faults).log
      rw [hlog, List.mem_append] at hmem
      rcases hmem with hmem | hmem
      · exact .inl ⟨entry, hmem, hwatch⟩
      · exact .inr (.inl (hnew entry hmem key hwatch))

/-- **A key is enqueued exactly when a binding has named it.** -/
lemma enqueued_iff_everNamed
    (h : Transition.run (act sha256) (Cluster.empty authenticator) history = some s) :
    Enqueued s key ↔ EverNamed sha256 (Cluster.empty authenticator) history key := by
  refine ⟨fun hkey => ?_, enqueued_of_everNamed h⟩
  induction history using List.reverseRecOn generalizing s with
  | nil =>
      obtain rfl := Option.some.inj h
      obtain ⟨entry, hmem, -⟩ := hkey
      simp [Cluster.empty] at hmem
  | append_singleton history a ih =>
      have hrun := h
      rw [Transition.run_append, Option.bind_eq_some_iff] at h
      obtain ⟨t, ht, hlast⟩ := h
      obtain ⟨s₁, hact, hs₁⟩ := Option.bind_eq_some_iff.mp hlast
      obtain rfl := Option.some.inj hs₁
      rcases enqueued_cases hact hkey with hkey | hnames | hnames
      · exact everNamed_append (ih ht hkey) [a]
      · exact everNamed_append (everNamed_of_names ht hnames) [a]
      · exact everNamed_of_names hrun hnames

/-! ## Only enqueued ServiceAccounts have a resolved binding -/

lemma rcrbs_exec_reconcile {clock : ℕ → Time} {key' : Key} {faults : List Fault}
    (hne : key ≠ key') :
    ((reconcile sha256 clock key').run.exec Cluster.serveFaulty (s, faults)).2.1.rcrbs
      key.resolved = s.rcrbs key.resolved := by
  refine exec_frame_of_sends (fun t : Cluster × List Fault => t.1.rcrbs key.resolved)
    (fun t q hq => ?_) (reconcile_writes sha256 clock key') (s, faults)
  exact Cluster.rcrbs_serveWith _ _ _ fun hw => hne (resolved_injective (hq _ hw))

lemma enqueued_of_rcrbs
    (h : Transition.run (act sha256) (Cluster.empty authenticator) history = some s)
    (hr : s.rcrbs key.resolved ≠ none) : Enqueued s key := by
  refine Transition.run_invariant (I := fun s => s.rcrbs key.resolved ≠ none → Enqueued s key)
    h (fun hr => absurd rfl hr) (fun s a s' hI hs hr => ?_) hr
  cases a with
  | change change =>
      obtain ⟨effect⟩ := UserChange.apply_eq_some hs
      rw [effect.rcrbs_eq] at hr
      exact enqueued_act hs (hI hr)
  | reconcile key' clock faults =>
      refine enqueued_act hs ?_
      simp only [act, Option.ite_none_right_eq_some, Option.some.injEq] at hs
      obtain ⟨hkey', rfl⟩ := hs
      by_cases heq : key = key'
      · rwa [heq]
      · rw [rcrbs_exec_reconcile heq] at hr
        exact hI hr

end IdentityFederation
