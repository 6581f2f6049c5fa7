import IdentityFederation.Properties.Coherence
import IdentityFederation.Properties.Provenance
import IdentityFederation.Properties.SameNamespace

/-!
# Namespaces do not interfere

Take any run of the reconciles and of the users, and erase from it everything that is not about
one namespace: the changes of other bindings, the reconciles of other keys with all their requests
and failures.  What is left is a run, and the namespace cannot tell the two apart
(`isolated`): it has the same bindings with the same statuses and the same resolved bindings, the
federation service answers requests about it in the same way, and so does the admission handler.
-/

namespace IdentityFederation

open Interaction Program

variable {ns : String} {x : Versions} {s s' : Cluster}

/-! ## Runs -/

variable {ι : Type} [DecidableEq ι] {sha256 : String → String}

/-- The run without what is not about the namespace.  `on` says which workers reconcile a key of
the namespace. -/
def erase (ns : String) : (ι → Bool) → List (ReplicaLabel ι) → List (ReplicaLabel ι)
  | _, [] => []
  | on, .change change :: ls =>
      if change.key.ns = ns then .change change :: erase ns on ls else erase ns on ls
  | on, .start i key clock :: ls =>
      if key.ns = ns then .start i key clock :: erase ns (Function.update on i true) ls
      else erase ns (Function.update on i false) ls
  | on, .call i fault :: ls =>
      if on i then .call i fault :: erase ns on ls else erase ns on ls
  | on, .stop i :: ls =>
      if on i then .stop i :: erase ns on ls else erase ns on ls

/-- The whole run and the one without the rest: the namespace is the same, and so are the programs
that reconcile its keys; the other workers are idle in the second run. -/
structure SameRun (ns : String) (x : Versions) (on : ι → Bool) (c c' : Replicas ι) : Prop where
  shared : SameNs ns x c.shared c'.shared
  inside : ∀ i, on i = true → SameProgram ns x (c.member i) (c'.member i)
  outside : ∀ i, on i = false → (∃ res, c'.member i = .ret res) ∧
    ∃ key : Key, key.ns ≠ ns ∧ (c.member i).Sends (ReconcileRequest key)

variable {on : ι → Bool} {c c' c₁ : Replicas ι}

omit [DecidableEq ι] in
lemma SameRun.later {y : Versions} (h : SameRun ns x on c c') (hle : x ≤ y) {s s' : Cluster}
    (hs : SameNs ns y s s') :
    SameRun ns y on { c with shared := s } { c' with shared := s' } where
  shared := hs
  inside i hi := (h.inside i hi).later hle
  outside := h.outside

/-- A worker starts on a key of the namespace, in both runs. -/
lemma SameRun.startInside (h : SameRun ns x on c c') (i : ι)
    {p q : ApiProgram (Except Error Unit)} (hp : SameProgram ns x p q) :
    SameRun ns x (Function.update on i true) (c.setWorker i p) (c'.setWorker i q) where
  shared := h.shared
  inside j hj := by
    by_cases hji : j = i
    · subst hji
      simpa using hp
    · rw [Function.update_of_ne hji] at hj
      simpa [Replicas.member_setWorker_of_ne _ hji] using h.inside j hj
  outside j hj := by
    by_cases hji : j = i
    · subst hji
      simp at hj
    · rw [Function.update_of_ne hji] at hj
      simpa [Replicas.member_setWorker_of_ne _ hji] using h.outside j hj

/-- A worker that was outside, or has returned, starts on another key, in the first run only. -/
lemma SameRun.startOutside (h : SameRun ns x on c c') {i : ι}
    {p : ApiProgram (Except Error Unit)} {key : Key} (hkey : key.ns ≠ ns)
    (hp : p.Sends (ReconcileRequest key)) (hidle : ∃ res, c'.member i = .ret res) :
    SameRun ns x (Function.update on i false) (c.setWorker i p) c' where
  shared := h.shared
  inside j hj := by
    by_cases hji : j = i
    · subst hji
      simp at hj
    · rw [Function.update_of_ne hji] at hj
      simpa [Replicas.member_setWorker_of_ne _ hji] using h.inside j hj
  outside j hj := by
    by_cases hji : j = i
    · subst hji
      exact ⟨hidle, key, hkey, by simpa using hp⟩
    · rw [Function.update_of_ne hji] at hj
      simpa [Replicas.member_setWorker_of_ne _ hji] using h.outside j hj

omit [DecidableEq ι] in
/-- A worker that has returned in the first run has returned in the second. -/
lemma SameRun.returned (h : SameRun ns x on c c') {i : ι} {res : Except Error Unit}
    (hi : c.member i = .ret res) : ∃ res', c'.member i = .ret res' := by
  cases hon : on i with
  | true =>
      have hsame := h.inside i hon
      rw [hi] at hsame
      generalize c'.member i = p' at hsame ⊢
      cases hsame
      exact ⟨_, rfl⟩
  | false => exact (h.outside i hon).1

/-- A request of a worker on the namespace is served in both runs. -/
lemma SameRun.callInside (h : SameRun ns x on c c') {i : ι} (hon : on i = true) {fault : Fault}
    (hact : c.act Cluster.serveWith i fault = some c₁) :
    ∃ c₁' y, c'.act Cluster.serveWith i fault = some c₁' ∧ SameRun ns y on c₁ c₁' := by
  obtain ⟨c₁', q, q', hact', hq, hshared, hshared', hmember, hothers, hothers'⟩ :=
    Crew.related_act hact (h.inside i hon)
  obtain ⟨y, hle, hsame, hanswer⟩ := same_serveWith h.shared hq fault
  refine ⟨c₁', y, hact', ?_, fun j hj => ?_, fun j hj => ?_⟩
  · rw [hshared, hshared']
    exact hsame
  · by_cases hji : j = i
    · subst hji
      exact hmember y hle hanswer
    · rw [hothers j hji, hothers' j hji]
      exact (h.inside j hj).later hle
  · have hji : j ≠ i := by
      rintro rfl
      rw [hon] at hj
      cases hj
    rw [hothers j hji, hothers' j hji]
    exact h.outside j hj

/-- A request of another worker does not touch the namespace. -/
lemma SameRun.callOutside (h : SameRun ns x on c c') {i : ι} (hoff : on i = false) {fault : Fault}
    (hact : c.act Cluster.serveWith i fault = some c₁) : SameRun ns x on c₁ c' := by
  obtain ⟨q, k, hi, hshared, hmember, hothers⟩ := Crew.act_eq_some Cluster.serveWith hact
  obtain ⟨hidle, key, hkey, hsends⟩ := h.outside i hoff
  rw [hi] at hsends
  refine ⟨?_, fun j hj => ?_, fun j hj => ?_⟩
  · rw [hshared]
    exact h.shared.untouched (untouched_serveWith hkey hsends.1 fault)
  · have hji : j ≠ i := by
      rintro rfl
      rw [hoff] at hj
      cases hj
    rw [hothers j hji]
    exact h.inside j hj
  · by_cases hji : j = i
    · subst hji
      refine ⟨hidle, key, hkey, ?_⟩
      rw [hmember]
      exact hsends.2 _
    · rw [hothers j hji]
      exact h.outside j hj

/-- Which workers reconcile a key of the namespace after a step. -/
def active (ns : String) (on : ι → Bool) : ReplicaLabel ι → ι → Bool
  | .start i key _ => Function.update on i (decide (key.ns = ns))
  | _ => on

lemma erase_cons (on : ι → Bool) (l : ReplicaLabel ι) (ls : List (ReplicaLabel ι)) :
    erase ns on (l :: ls) = erase ns on [l] ++ erase ns (active ns on l) ls := by
  cases l with
  | start i key clock =>
      by_cases hkey : key.ns = ns <;> simp [erase, active, hkey]
  | change change =>
      by_cases hkey : change.key.ns = ns <;> simp [erase, active, hkey]
  | call i fault =>
      cases hon : on i <;> simp [erase, active, hon]
  | stop i =>
      cases hon : on i <;> simp [erase, active, hon]

/-- **One step of the whole run is one step of the other, or none.** -/
lemma SameRun.step (h : SameRun ns x on c c') {l : ReplicaLabel ι}
    (hstep : Replicas.step sha256 c l = some c₁) :
    ∃ c₁' y, Transition.run (Replicas.step sha256) c' (erase ns on [l]) = some c₁' ∧
      SameRun ns y (active ns on l) c₁ c₁' := by
  cases l with
  | change change =>
      obtain ⟨cluster, happly, rfl⟩ := Option.map_eq_some_iff.mp hstep
      by_cases hkey : change.key.ns = ns
      · obtain ⟨cluster', y, happly', hle, hsame⟩ := same_change h.shared hkey happly
        refine ⟨_, y, ?_, h.later hle hsame⟩
        simp [erase, hkey, Transition.run, Replicas.step, happly']
      · refine ⟨c', x, by simp [erase, hkey, Transition.run], ?_⟩
        exact ⟨h.shared.untouched (untouched_change hkey happly), h.inside, h.outside⟩
  | start i key clock =>
      simp only [Replicas.step] at hstep
      split at hstep
      case h_2 => cases hstep
      rename_i res hres
      obtain rfl := Option.some.inj hstep
      obtain ⟨res', hres'⟩ := h.returned hres
      by_cases hkey : key.ns = ns
      · have hsame := h.startInside i (sameProgram_reconcile sha256 clock hkey)
        refine ⟨_, x, ?_, by simpa only [active, hkey, decide_true] using hsame⟩
        simp [erase, hkey, Transition.run, Replicas.step, hres']
      · have hsame := h.startOutside hkey (reconcile_requests sha256 clock key) ⟨res', hres'⟩
        refine ⟨c', x, by simp [erase, hkey, Transition.run], ?_⟩
        simpa only [active, hkey, decide_false] using hsame
  | call i fault =>
      cases hon : on i with
      | true =>
          obtain ⟨c₁', y, hact', hsame⟩ := h.callInside hon hstep
          exact ⟨c₁', y, by simp [erase, hon, Transition.run, Replicas.step, hact'], hsame⟩
      | false =>
          exact ⟨c', x, by simp [erase, hon, Transition.run], h.callOutside hon hstep⟩
  | stop i =>
      obtain rfl := Option.some.inj hstep
      cases hon : on i with
      | true =>
          have hsame := h.startInside i (p := .ret (.ok ())) (q := .ret (.ok ())) (.ret rfl)
          rw [← hon, Function.update_eq_self] at hsame
          exact ⟨_, x, by simp [erase, hon, Transition.run, Replicas.step], hsame⟩
      | false =>
          obtain ⟨hidle, key, hkey, -⟩ := h.outside i hon
          have hsame := h.startOutside (p := .ret (.ok ())) hkey trivial hidle
          rw [← hon, Function.update_eq_self] at hsame
          exact ⟨c', x, by simp [erase, hon, Transition.run], hsame⟩

/-- **Every run, with the rest erased, is a run in which the namespace is the same.** -/
lemma sameRun_erase {ls : List (ReplicaLabel ι)} (h : SameRun ns x on c c')
    (hrun : Transition.run (Replicas.step sha256) c ls = some c₁) :
    ∃ c₁' y on', Transition.run (Replicas.step sha256) c' (erase ns on ls) = some c₁' ∧
      SameRun ns y on' c₁ c₁' := by
  induction ls generalizing c c' x on with
  | nil =>
      obtain rfl := Option.some.inj hrun
      exact ⟨c', x, on, rfl, h⟩
  | cons l ls ih =>
      obtain ⟨c₂, hstep, hrest⟩ := Option.bind_eq_some_iff.mp hrun
      obtain ⟨c₂', y, hrun₂, hsame⟩ := h.step hstep
      obtain ⟨c₁', z, on', hrun', hend⟩ := ih hsame hrest
      refine ⟨c₁', z, on', ?_, hend⟩
      rw [erase_cons, Transition.run_append, hrun₂]
      exact hrun'

/-! ## What the namespace sees -/

/-- What a binding is to its owner. -/
def StoredCrb.visible (c : StoredCrb) : ℕ × CloudRoleBindingSpec × Option CloudRoleBindingStatus :=
  (c.generation, c.spec, c.status)

/-- The namespace is the same in both clusters, but for the versions of its bindings. -/
structure SameView (ns : String) (s s' : Cluster) : Prop where
  bindings : ∀ name, s.crbs[ObjectKey.mk ns name]?.map StoredCrb.visible =
    s'.crbs[ObjectKey.mk ns name]?.map StoredCrb.visible
  resolved : ∀ name, s.rcrbs ⟨ns, name⟩ = s'.rcrbs ⟨ns, name⟩

lemma SameNs.view (h : SameNs ns x s s') : SameView ns s s' where
  bindings name := by
    rcases h.lookup name with ⟨hc, hc'⟩ | ⟨c, c', hc, hc', hsame⟩
    · rw [hc, hc']
    · simp [hc, hc', StoredCrb.visible, hsame.generation, hsame.spec, hsame.status]
  resolved := h.rcrbs

/-- What readers of the namespace are answered. -/
lemma SameNs.reads (h : SameNs ns x s s') {q : ApiRequest}
    (hq : AdmissionApiRequest ns q ∨ ∃ name, MintApiRequest ⟨ns, name⟩ q) :
    (s.serve q).1 = (s'.serve q).1 ∧ SameNs ns x (s.serve q).2 (s'.serve q).2 := by
  cases q with
  | getRcrb n name =>
      obtain rfl : n = ns := by
        rcases hq with hq | ⟨name', hq⟩
        · exact hq
        · exact congrArg ObjectKey.ns hq
      exact ⟨by simp only [Cluster.serve, h.rcrbs], h⟩
  | createTokenReview token => exact ⟨by simp only [Cluster.serve, h.authenticator], h⟩
  | createPodEvent event =>
      exact ⟨rfl, h.keep ⟨rfl, rfl, le_rfl⟩ ⟨rfl, rfl, le_rfl⟩ h.rcrbs⟩
  | _ => rcases hq with hq | ⟨name, hq⟩ <;> cases hq

variable {authenticator : String → Option TokenReviewStatus}

/-- Requests about the namespace are answered in the same way. -/
lemma SameNs.answers (h : SameNs ns x s s') :
    (∀ state clock authorization (req : Federation.MintRequest), req.ns = ns →
      Federation.mintAnswer state clock s authorization req =
        Federation.mintAnswer state clock s' authorization req) ∧
    ∀ (Patch : Type) (diff : Pod → Pod → Patch) cfg (req : AdmissionRequest),
      req.nsOrDefault = ns →
      ((handle diff cfg ⟨some req⟩).run.exec Cluster.serve s).1 =
        ((handle diff cfg ⟨some req⟩).run.exec Cluster.serve s').1 := by
  constructor
  · rintro state clock authorization req rfl
    have hread : ∀ s s' (q : ApiRequest), SameNs req.ns x s s' →
        MintApiRequest ⟨req.ns, req.serviceAccountName⟩ q →
        (s.serve q).1 = (s'.serve q).1 ∧ SameNs req.ns x (s.serve q).2 (s'.serve q).2 :=
      fun s s' q hs hq => hs.reads (.inr ⟨_, hq⟩)
    exact exec_eq_of_sends (SameNs req.ns x) hread (mint_requests state clock authorization req) h
  · rintro Patch diff cfg req rfl
    have hread : ∀ s s' (q : ApiRequest), SameNs req.nsOrDefault x s s' →
        AdmissionApiRequest req.nsOrDefault q →
        (s.serve q).1 = (s'.serve q).1 ∧ SameNs req.nsOrDefault x (s.serve q).2 (s'.serve q).2 :=
      fun s s' q hs hq => hs.reads (.inl hq)
    exact exec_eq_of_sends (SameNs req.nsOrDefault x) hread (handle_requests diff cfg req) h

omit [DecidableEq ι] in
/-- At the start nothing exists and nobody works. -/
lemma sameRun_boot (ns : String) (authenticator : String → Option TokenReviewStatus) :
    SameRun ns Versions.start (fun _ => false)
      (Replicas.boot (Cluster.empty authenticator) : Replicas ι)
      (Replicas.boot (Cluster.empty authenticator)) where
  shared := by
    refine ⟨fun name => ?_, fun _ => rfl, rfl, fun _ _ hv => hv.elim⟩
    simp only [Replicas.boot, Cluster.empty, Std.ExtTreeMap.getElem?_empty]
    exact .none
  inside _ h := by cases h
  outside _ _ := ⟨⟨_, rfl⟩, ⟨ns ++ "-", ""⟩, by simp, trivial⟩

/-- **What happens in other namespaces cannot be told from a namespace.**  Take any run of any
number of workers from an empty cluster.  The labels of it that concern the namespace, taken alone,
are a run as well, and lead to a cluster with the same bindings and statuses in the namespace and
the same resolved bindings.  Requests about ServiceAccounts of the namespace get the same answer
on both clusters, and so do admission reviews of its Pods. -/
theorem isolated (ns : String) {ls : List (ReplicaLabel ι)}
    (hrun : Transition.run (Replicas.step sha256) (Replicas.boot (Cluster.empty authenticator)) ls =
      some c) :
    ∃ c', Transition.run (Replicas.step sha256) (Replicas.boot (Cluster.empty authenticator))
        (erase ns (fun _ => false) ls) = some c' ∧
      SameView ns c.shared c'.shared ∧
      (∀ state clock authorization (req : Federation.MintRequest), req.ns = ns →
        Federation.mintAnswer state clock c.shared authorization req =
          Federation.mintAnswer state clock c'.shared authorization req) ∧
      ∀ (Patch : Type) (diff : Pod → Pod → Patch) cfg (req : AdmissionRequest),
        req.nsOrDefault = ns →
        ((handle diff cfg ⟨some req⟩).run.exec Cluster.serve c.shared).1 =
          ((handle diff cfg ⟨some req⟩).run.exec Cluster.serve c'.shared).1 := by
  obtain ⟨c', x, on, hrun', hsame⟩ := sameRun_erase (sameRun_boot ns authenticator) hrun
  exact ⟨c', hrun', hsame.shared.view, hsame.shared.answers⟩

/-! ### Two namespaces -/

/-- The run of the first configuration in `apps`, after a binding was created in `shop`. -/
def twoNamespaces : List (ReplicaLabel Unit) :=
  .change (.create ⟨"shop", "role"⟩ (roleBinding "web" "arn:aws:iam::123456789012:role/shop")) ::
    firstConfiguration

/-- In `apps` it makes no difference that there is a binding in `shop`. -/
theorem isolated_two_namespaces : ∃ c c' : Replicas Unit,
    Transition.run (Replicas.step webDigest) (Replicas.boot (Cluster.empty fun _ => none))
      twoNamespaces = some c ∧
    grantedRole c.shared ⟨"apps", "web"⟩ = some "arn:aws:iam::123456789012:role/web" ∧
    Transition.run (Replicas.step webDigest) (Replicas.boot (Cluster.empty fun _ => none))
      firstConfiguration = some c' ∧
    SameView "apps" c.shared c'.shared := by
  obtain ⟨c, hrun, hrole⟩ : ∃ c, Transition.run (Replicas.step webDigest)
      (Replicas.boot (Cluster.empty fun _ => none)) twoNamespaces = some c ∧
      grantedRole c.shared ⟨"apps", "web"⟩ = some "arn:aws:iam::123456789012:role/web" :=
    Option.map_eq_some_iff.mp (by decide)
  obtain ⟨c', hrun', hview, -⟩ := isolated "apps" hrun
  exact ⟨c, c', hrun, hrole, hrun', hview⟩

end IdentityFederation
