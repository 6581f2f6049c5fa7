import IdentityFederation.Federation.Http
import IdentityFederation.Properties.Restart
import IdentityFederation.Properties.Upserts
import IdentityFederation.Webhook.Admission

/-!
# When a stored resolved binding is coherent

A resolved binding is stored with two requests, its specification first and then its status.  In
between, and for ever if the second request fails, the object has the new specification beside
the old status.  That is harmless as long as the old status is not `Ready`, or the specification
has not changed; it is not when the webhook replaces the configuration of a `Ready` object.

So what matters is what a reconcile finds (`Recorded.Orderly`): when it lists the bindings of a
ServiceAccount, they ask for the same as at the last list for it, or else the object is not `Ready`
and no other reconcile of the ServiceAccount is under way.  Then every stored object is coherent at
every moment, whatever fails and wherever workers stop (`resolved_coherent`), and what `mint` and
the admission handler read is one configuration with its own hash.  A reconcile that finds bindings
that ask for something else than the `Ready` object has leaves an incoherent object behind
(`allCoherent_patchRcrb_iff`).  It is enough that users change what the bindings ask for while
nothing has been made of them (`Recorded.orderly_of_inTime`).
-/

namespace IdentityFederation

open Interaction Program

variable {sha256 : String → String} {ι : Type} [DecidableEq ι]

/-! ## Coherence -/

/-- The hash of a status. -/
def StoredRcrb.configHash (r : StoredRcrb) : Option String := r.status.bind (·.configHash)

/-- A `Ready` object has an AWS block and the hash of its own specification, and only `Ready`
objects have a hash. -/
structure Coherent (sha256 : String → String) (r : StoredRcrb) : Prop where
  ready : ∀ key, isReady (r.object key) = true →
    r.spec.providers.aws.isSome ∧ r.configHash = some (configHashOf sha256 r.spec)
  hashed : ∀ key, r.configHash ≠ none → isReady (r.object key) = true

/-- Every stored object is coherent. -/
def AllCoherent (sha256 : String → String) (s : Cluster) : Prop :=
  ∀ key r, s.rcrbs key = some r → Coherent sha256 r

/-- What a patch carries. -/
def stored (resolved : ResolvedCloudRoleBinding) : StoredRcrb where
  spec := resolved.spec
  status := resolved.status

/-- An object that is not `Ready` and has no hash is coherent. -/
lemma Coherent.of_unready {r : StoredRcrb} (hready : ∀ key, isReady (r.object key) = false)
    (hhash : r.configHash = none) : Coherent sha256 r where
  ready key h := by
    rw [hready key] at h
    cases h
  hashed _ h := absurd hhash h

/-- The outcome of a reconcile is coherent. -/
lemma coherent_outcome (sha256 : String → String) (key : Key) (all : List CloudRoleBinding)
    (now : Time) : Coherent sha256 (stored (outcome sha256 key all now)) := by
  unfold outcome resolvedFor
  cases hv : verdictOn key all with
  | error issue => exact .of_unready (fun _ => rfl) rfl
  | ok merged =>
      obtain ⟨crb, -, hsome, haws⟩ := (mergeInputs_ok hv).2.aws
      exact ⟨fun _ _ => ⟨by rw [← haws] at hsome; exact hsome, rfl⟩, fun _ _ => rfl⟩

/-- Whether an object is `Ready` is a matter of its status. -/
lemma isReady_object (r r' : StoredRcrb) (h : r.status = r'.status) (key key' : ObjectKey) :
    isReady (r.object key) = isReady (r'.object key') := by
  simp [isReady, StoredRcrb.object, h]

/-- A coherent object keeps its status when its specification is replaced by itself. -/
lemma Coherent.patchSpec {r : StoredRcrb} {spec : ResolvedCloudRoleBindingSpec}
    (h : Coherent sha256 r) (hspec : ∀ key, isReady (r.object key) = true → r.spec = spec) :
    Coherent sha256 { spec := spec, status := r.status } where
  ready key hready := by
    have hready' := (isReady_object _ r rfl key key).symm.trans hready
    rw [← hspec key hready']
    exact h.ready key hready'
  hashed key hhash := (isReady_object _ r rfl key key).trans (h.hashed key hhash)

/-! ## Reachable states -/

/-- What the last list for a ServiceAccount has shown, and this one, ask for the same. -/
def Shown (lastList : Key → Option (List CloudRoleBinding)) (key : Key)
    (all : List CloudRoleBinding) : Prop :=
  ∃ last, lastList key = some last ∧ Agree key last all

/-- The objects are coherent, and a `Ready` one has the specification that the last list for its
ServiceAccount asks for. -/
structure Accounted (sha256 : String → String) (s : Cluster)
    (lastList : Key → Option (List CloudRoleBinding)) : Prop where
  coherent : AllCoherent sha256 s
  ready : ∀ key r, s.rcrbs key.resolved = some r → isReady (r.object key.resolved) = true →
    ∃ last, lastList key = some last ∧ r.spec = (outcome sha256 key last 0).spec

section Written

variable {lastList : Key → Option (List CloudRoleBinding)} {key : Key}
  {all all' : List CloudRoleBinding} {now now' : Time} {s s' : Cluster} {r' : StoredRcrb}

/-- Lists that show what the last one has shown are resolved to one specification. -/
lemma Shown.spec_eq (h : Shown lastList key all) (h' : Shown lastList key all') :
    (outcome sha256 key all now).spec = (outcome sha256 key all' now').spec := by
  obtain ⟨last, hlast, hagree⟩ := h
  obtain ⟨last', hlast', hagree'⟩ := h'
  obtain rfl := Option.some.inj (hlast.symm.trans hlast')
  rw [← (agree_iff sha256 key last all 0 now).mp hagree]
  exact (agree_iff sha256 key last all' 0 now').mp hagree'

/-- A `Ready` object has the specification of every such list. -/
lemma Accounted.spec_eq (hs : Accounted sha256 s lastList) (hshown : Shown lastList key all)
    {r : StoredRcrb} (hr : s.rcrbs key.resolved = some r)
    (hready : isReady (r.object key.resolved) = true) :
    r.spec = (outcome sha256 key all now).spec := by
  obtain ⟨last, hlast, hspec⟩ := hs.ready key r hr hready
  obtain ⟨last', hlast', hagree⟩ := hshown
  obtain rfl := Option.some.inj (hlast.symm.trans hlast')
  rw [hspec]
  exact (agree_iff sha256 key last all 0 now).mp hagree

/-- The specification of such a list is stored beside the old status. -/
lemma Accounted.coherent_patchSpec (hs : Accounted sha256 s lastList)
    (hshown : Shown lastList key all) :
    Coherent sha256
      { spec := (outcome sha256 key all now).spec
        status := (s.rcrbs key.resolved).bind StoredRcrb.status } := by
  cases hold : s.rcrbs key.resolved with
  | none => exact .of_unready (fun _ => rfl) rfl
  | some old =>
      exact (hs.coherent _ old hold).patchSpec fun key' hready =>
        hs.spec_eq hshown hold ((isReady_object old old rfl _ _).trans hready)

variable (hshown : Shown lastList key all) (hr' : s'.rcrbs key.resolved = some r')
  (hspec : r'.spec = (outcome sha256 key all now).spec)
  (hothers : ∀ k, k ≠ key.resolved → s'.rcrbs k = s.rcrbs k)

include hshown hr' hspec hothers

/-- The specification of such a list is stored, in a coherent object. -/
lemma Accounted.write (hs : Accounted sha256 s lastList) (hcoherent : Coherent sha256 r') :
    Accounted sha256 s' lastList := by
  constructor
  case coherent =>
    intro k r hr
    by_cases hk : k = key.resolved
    · subst hk
      obtain rfl := Option.some.inj (hr'.symm.trans hr)
      exact hcoherent
    · exact hs.coherent k r ((hothers k hk).symm.trans hr)
  case ready =>
    intro key' r hr hready
    by_cases hk : key' = key
    · subst hk
      obtain rfl := Option.some.inj (hr'.symm.trans hr)
      obtain ⟨last, hlast, hagree⟩ := hshown
      exact ⟨last, hlast, hspec.trans ((agree_iff sha256 key' last all 0 now).mp hagree).symm⟩
    · have hne : key'.resolved ≠ key.resolved := fun heq => hk (resolved_injective heq)
      exact hs.ready key' r ((hothers _ hne).symm.trans hr) hready

/-- It is the one that every other worker with such a list has patched. -/
lemma working_write {key? : Option Key} {p : ApiProgram (Except Error Unit)}
    (hworking : Working sha256 (Shown lastList) s key? p) :
    Working sha256 (Shown lastList) s' key? p := by
  refine hworking.mono (fun _ _ _ _ hl => hl) fun key' _ all' now' r hl _ hr hpatched => ?_
  by_cases hk : key' = key
  · subst hk
    exact ⟨r', hr', hspec.trans (hshown.spec_eq hl)⟩
  · have hne : key'.resolved ≠ key.resolved := fun heq => hk (resolved_injective heq)
    exact ⟨r, (hothers _ hne).trans hr, hpatched⟩

end Written

namespace Recorded

variable {s s' : Recorded ι}

/-- A worker reconciles this key, has listed, and has not returned. -/
def UnderWay (s : Recorded ι) (key : Key) (i : ι) : Prop :=
  s.reconciling i = some key ∧ hasListed (s.replicas.member i) = true

/-- What a reconcile lists asks for the same as the last list for its ServiceAccount, or the object
is not `Ready` and no other reconcile of the ServiceAccount is under way. -/
def Orderly (s : Recorded ι) : ReplicaLabel ι → Prop
  | .call i .none => (s.replicas.member i).next.any ApiRequest.isList = true →
      ∀ key ∈ s.reconciling i,
        (∀ last ∈ s.lastList key, Agree key last (s.replicas.shared.list key.ns)) ∨
        ((∀ r ∈ s.replicas.shared.rcrbs key.resolved, isReady (r.object key.resolved) = false) ∧
          ∀ j, j ≠ i → ¬ s.UnderWay key j)
  | _ => True

/-- What holds in every state of an orderly run. -/
structure Kept (sha256 : String → String) (s : Recorded ι) : Prop where
  accounted : Accounted sha256 s.replicas.shared s.lastList
  working : ∀ i, Working sha256 (Shown s.lastList) s.replicas.shared (s.reconciling i)
    (s.replicas.member i)

omit [DecidableEq ι] in
lemma kept_boot {s₀ : Cluster} {lastList : Key → Option (List CloudRoleBinding)}
    (hstart : Accounted sha256 s₀ lastList) :
    (boot s₀ lastList : Recorded ι).Kept sha256 :=
  ⟨hstart, fun _ => .returned _ _⟩

/-- A list that the run may take. -/
lemma Kept.list {i : ι} {key : Key} (hs : s.Kept sha256)
    (hfound : (∀ last ∈ s.lastList key, Agree key last (s.replicas.shared.list key.ns)) ∨
      ((∀ r ∈ s.replicas.shared.rcrbs key.resolved, isReady (r.object key.resolved) = false) ∧
        ∀ j, j ≠ i → ¬ s.UnderWay key j))
    (hkey : s.reconciling i = some key) (hshared : s'.replicas.shared = s.replicas.shared)
    (hlast : s'.lastList = Function.update s.lastList key (some (s.replicas.shared.list key.ns)))
    (hu : Upserting sha256 key (s.replicas.shared.list key.ns) (s'.replicas.member i))
    (hkeys : s'.reconciling = s.reconciling)
    (hmembers : ∀ j, j ≠ i → s'.replicas.member j = s.replicas.member j) : s'.Kept sha256 := by
  constructor
  case accounted =>
    refine ⟨fun k r hr => hs.accounted.coherent k r (hshared ▸ hr), fun key' r hr hready => ?_⟩
    rw [hshared] at hr
    by_cases hk : key' = key
    · subst hk
      rw [hlast, Function.update_self]
      refine ⟨_, rfl, ?_⟩
      rcases hfound with hagree | ⟨hunready, -⟩
      · obtain ⟨last, hlast', hspec⟩ := hs.accounted.ready key' r hr hready
        exact hspec.trans ((agree_iff ..).mp (hagree last hlast'))
      · rw [hunready r hr] at hready
        cases hready
    · rw [hlast, Function.update_of_ne hk]
      exact hs.accounted.ready key' r hr hready
  case working =>
    intro j
    rw [hshared, hkeys]
    by_cases hji : j = i
    · subst hji
      rw [hkey]
      exact .upserting key _ ⟨_, by rw [hlast, Function.update_self], .refl key _⟩ hu
    · rw [hmembers j hji]
      refine (hs.working j).mono (fun hlisted key' hkey' all hshown => ?_)
        fun _ _ _ _ r _ _ hr hspec => ⟨r, hr, hspec⟩
      obtain ⟨last, hlast', hall⟩ := hshown
      by_cases hk : key' = key
      · subst hk
        refine ⟨_, by rw [hlast, Function.update_self], ?_⟩
        rcases hfound with hagree | ⟨-, hnobody⟩
        · exact (hagree last hlast').symm.trans hall
        · exact absurd ⟨hkey', hlisted⟩ (hnobody j hji)
      · exact ⟨last, by rw [hlast, Function.update_of_ne hk, hlast'], hall⟩

/-- A patch of a resolved binding. -/
lemma Kept.write {i : ι} {key : Key} {all : List CloudRoleBinding} {now : Time} {r' : StoredRcrb}
    (hs : s.Kept sha256) (hshown : Shown s.lastList key all)
    (hr' : s'.replicas.shared.rcrbs key.resolved = some r')
    (hspec : r'.spec = (outcome sha256 key all now).spec)
    (hothers : ∀ k, k ≠ key.resolved → s'.replicas.shared.rcrbs k = s.replicas.shared.rcrbs k)
    (hcoherent : Coherent sha256 r') (hlast : s'.lastList = s.lastList)
    (hi : Working sha256 (Shown s.lastList) s'.replicas.shared (s'.reconciling i)
      (s'.replicas.member i))
    (hkeys : s'.reconciling = s.reconciling)
    (hmembers : ∀ j, j ≠ i → s'.replicas.member j = s.replicas.member j) : s'.Kept sha256 := by
  refine ⟨by rw [hlast]; exact hs.accounted.write hshown hr' hspec hothers hcoherent, fun j => ?_⟩
  rw [hlast]
  by_cases hji : j = i
  · rwa [hji]
  · rw [hkeys, hmembers j hji]
    exact working_write hshown hr' hspec hothers (hs.working j)

/-- **Every orderly step keeps the objects coherent.** -/
lemma Kept.step {l : ReplicaLabel ι} (hs : s.Kept sha256) (horderly : s.Orderly l)
    (h : s.step sha256 l = some s') : s'.Kept sha256 := by
  cases step_effect hs.working h with
  | quiet hq hworking =>
      rw [← hq.lastList] at hworking
      refine ⟨⟨fun k r hr => ?_, fun key r hr => ?_⟩, hworking⟩
      · exact hs.accounted.coherent k r (hq.rcrbs ▸ hr)
      · rw [hq.lastList]
        exact hs.accounted.ready key r (hq.rcrbs ▸ hr)
  | call i heffect hkeys hmembers =>
      cases heffect with
      | list key hkey hnext hshared hlast _ hu =>
          refine hs.list (horderly ?_ key hkey) hkey hshared hlast hu hkeys hmembers
          rw [hnext]
          rfl
      | patch key all now hkey hshown _ _ hshared hlast _ hworking =>
          refine hs.write hshown (by rw [hshared]; exact Function.update_self ..) rfl
            (fun k hk => by rw [hshared]; exact Function.update_of_ne hk ..) ?_ hlast
            (by rwa [hkeys, hkey]) hkeys hmembers
          exact hs.accounted.coherent_patchSpec hshown
      | finish key all now old res hkey hshown _ _ _ hrcrbs hlast _ hmember =>
          refine hs.write hshown (by rw [hrcrbs]; exact Function.update_self ..) rfl
            (fun k hk => by rw [hrcrbs]; exact Function.update_of_ne hk ..)
            (coherent_outcome sha256 key all now) hlast ?_ hkeys hmembers
          rw [hmember]
          exact .returned _ _

end Recorded

/-! ## Changes that come in time -/

/-- Clusters with the same bindings ask for the same. -/
lemma agree_of_bindings {s s' : Cluster} (h : s.bindings = s'.bindings) (key : Key) :
    Agree key (s.list key.ns) (s'.list key.ns) :=
  (agree_iff id key _ _ 0 0).mpr (by rw [outcome_of_bindings id h key 0])

namespace Recorded

variable {s s' : Recorded ι} {key : Key} {l : ReplicaLabel ι}

/-- The object of the ServiceAccount is not `Ready`, and no reconcile of it is under way. -/
def Idle (s : Recorded ι) (key : Key) : Prop :=
  (∀ r ∈ s.replicas.shared.rcrbs key.resolved, isReady (r.object key.resolved) = false) ∧
    ∀ i, ¬ s.UnderWay key i

/-- A user changes what the bindings of a ServiceAccount ask for only while its object is not
`Ready` and no reconcile of it is under way. -/
def InTime (s : Recorded ι) : ReplicaLabel ι → Prop
  | .change change => ∀ cluster ∈ change.apply s.replicas.shared, ∀ key,
      Agree key (s.replicas.shared.list key.ns) (cluster.list key.ns) ∨ s.Idle key
  | _ => True

/-- The last list for a ServiceAccount has shown what its bindings ask for now, or else nothing has
been made of it. -/
def UpToDate (s : Recorded ι) : Prop :=
  ∀ key, Shown s.lastList key (s.replicas.shared.list key.ns) ∨ s.Idle key

omit [DecidableEq ι] in
lemma UpToDate.orderly (hs : s.UpToDate) (l : ReplicaLabel ι) : s.Orderly l := by
  cases l with
  | change | start | stop => trivial
  | call i fault =>
      cases fault with
      | refused | unanswered => trivial
      | none =>
          intro _ key _
          rcases hs key with ⟨last, hlast, hagree⟩ | ⟨hunready, hnobody⟩
          · refine .inl fun last' hlast' => ?_
            obtain rfl := Option.some.inj (hlast.symm.trans hlast')
            exact hagree
          · exact .inr ⟨hunready, fun j _ => hnobody j⟩

/-- The record of the lists changes by a list that is taken now. -/
lemma lastList_step (hs : s.Kept sha256) (h : s.step sha256 l = some s') (key : Key) :
    s'.lastList key = s.lastList key ∨
      s'.lastList key = some (s.replicas.shared.list key.ns) := by
  cases step_effect hs.working h with
  | quiet hq _ => exact .inl (by rw [hq.lastList])
  | call i heffect _ _ =>
      cases heffect with
      | patch | finish => exact .inl (congrFun ‹s'.lastList = s.lastList› key)
      | list key' _ _ _ hlast _ _ =>
          by_cases hk : key = key'
          · subst hk
            exact .inr (by rw [hlast, Function.update_self])
          · exact .inl (by rw [hlast, Function.update_of_ne hk])

/-- An object changes by a reconcile that is under way. -/
lemma rcrbs_step (hs : s.Kept sha256) (h : s.step sha256 l = some s')
    (hnobody : ∀ i, ¬ s.UnderWay key i) :
    s'.replicas.shared.rcrbs key.resolved = s.replicas.shared.rcrbs key.resolved := by
  -- Whoever patches a resolved binding has listed.
  have hothers : ∀ {i key' q}, s.reconciling i = some key' → (s.replicas.member i).next = some q →
      q.isList = false → key.resolved ≠ key'.resolved := by
    intro i key' q hkey hnext hq heq
    obtain rfl := resolved_injective heq
    exact hnobody i ⟨hkey, by simp [hasListed, hnext, hq]⟩
  cases step_effect hs.working h with
  | quiet hq _ => rw [hq.rcrbs]
  | call i heffect _ _ =>
      cases heffect with
      | list key' _ _ hshared _ _ _ => rw [hshared]
      | patch key' all now hkey _ _ hnext hshared _ _ _ =>
          rw [hshared]
          exact Function.update_of_ne (hothers hkey hnext rfl) ..
      | finish key' all now old res hkey _ hnext _ _ hrcrbs _ _ _ =>
          rw [hrcrbs]
          exact Function.update_of_ne (hothers hkey hnext rfl) ..

/-- A reconcile is under way from its list on. -/
lemma underWay_step (hs : s.Kept sha256) (h : s.step sha256 l = some s') {i : ι}
    (hunder : s'.UnderWay key i) :
    s.UnderWay key i ∨ s'.lastList key = some (s.replicas.shared.list key.ns) := by
  obtain ⟨replicas, hstep, rfl⟩ := Option.map_eq_some_iff.mp h
  obtain ⟨hkey, hlisted⟩ := hunder
  dsimp only at hkey hlisted
  cases l with
  | change change =>
      obtain ⟨cluster, -, rfl⟩ := Option.map_eq_some_iff.mp hstep
      exact .inl ⟨hkey, hlisted⟩
  | start j key' clock =>
      simp only [Replicas.step] at hstep
      split at hstep
      case h_2 => cases hstep
      obtain rfl := Option.some.inj hstep
      by_cases hij : i = j
      · subst hij
        rw [Replicas.member_setWorker_self, hasListed_reconcile] at hlisted
        cases hlisted
      · rw [Replicas.member_setWorker_of_ne _ hij] at hlisted
        rw [reconcilingAfter, Function.update_of_ne hij] at hkey
        exact .inl ⟨hkey, hlisted⟩
  | stop j =>
      obtain rfl := Option.some.inj hstep
      by_cases hij : i = j
      · subst hij
        rw [Replicas.member_setWorker_self] at hlisted
        cases hlisted
      · rw [Replicas.member_setWorker_of_ne _ hij] at hlisted
        exact .inl ⟨hkey, hlisted⟩
  | call j fault =>
      obtain ⟨q, k, hj, -, hmember, hothers⟩ := Crew.act_eq_some Cluster.serveWith hstep
      by_cases hij : i = j
      · subst hij
        have hworking := hs.working i
        rw [hj] at hworking
        rcases hworking.hasListed_or with hbefore | ⟨key', clock, hkey', hprogram⟩
        · exact .inl ⟨hkey, by rwa [hj]⟩
        · -- The list of this worker is answered.
          obtain rfl := Option.some.inj (hkey.symm.trans hkey')
          obtain ⟨rfl, hk⟩ := Program.call.inj hprogram
          obtain rfl := eq_of_heq hk
          rw [hmember] at hlisted
          cases fault with
          | refused e | unanswered e => cases hlisted
          | none =>
              have hnext : (s.replicas.member i).next = some (.listCrbs key.ns) := by
                rw [hj]
                rfl
              refine .inr ?_
              simp only [lastListAfter, hnext, hkey']
              exact Function.update_self ..
      · rw [hothers i hij] at hlisted
        exact .inl ⟨hkey, hlisted⟩

/-- A ServiceAccount stays idle until its bindings are listed. -/
lemma Idle.step (hs : s.Kept sha256) (h : s.step sha256 l = some s') (hidle : s.Idle key)
    (hlist : s'.lastList key ≠ some (s.replicas.shared.list key.ns)) : s'.Idle key := by
  refine ⟨?_, fun i hunder => ?_⟩
  · rw [rcrbs_step hs h hidle.2]
    exact hidle.1
  · exact hidle.2 i ((underWay_step hs h hunder).resolve_right hlist)

/-- **A step keeps the lists up to date.** -/
lemma UpToDate.step (hkept : s.Kept sha256) (hs : s.UpToDate) (hintime : s.InTime l)
    (h : s.step sha256 l = some s') : s'.UpToDate := by
  intro key
  by_cases hl : ∃ change, l = .change change
  · -- The record is as before, and the user changes what the bindings ask for in time.
    obtain ⟨change, rfl⟩ := hl
    obtain ⟨replicas, hstep, rfl⟩ := Option.map_eq_some_iff.mp h
    obtain ⟨cluster, happly, rfl⟩ := Option.map_eq_some_iff.mp hstep
    obtain ⟨effect⟩ := UserChange.apply_eq_some happly
    have hidle : s.Idle key → ∀ r ∈ cluster.rcrbs key.resolved,
        isReady (r.object key.resolved) = false := by
      rw [effect.rcrbs_eq]
      exact fun hidle => hidle.1
    rcases hs key with ⟨last, hlast, hagree⟩ | hbefore
    · rcases hintime cluster happly key with hsame | hbefore
      · exact .inl ⟨last, hlast, hagree.trans hsame⟩
      · exact .inr ⟨hidle hbefore, hbefore.2⟩
    · exact .inr ⟨hidle hbefore, hbefore.2⟩
  · have hsame : Agree key (s.replicas.shared.list key.ns) (s'.replicas.shared.list key.ns) := by
      obtain ⟨replicas, hstep, rfl⟩ := Option.map_eq_some_iff.mp h
      exact agree_of_bindings (bindings_step (fun change heq => hl ⟨change, heq⟩) hstep).symm key
    by_cases hlist : s'.lastList key = some (s.replicas.shared.list key.ns)
    · exact .inl ⟨_, hlist, hsame⟩
    · have hlast := (lastList_step hkept h key).resolve_right hlist
      rcases hs key with ⟨last, hshown, hagree⟩ | hidle
      · exact .inl ⟨last, hlast.trans hshown, hagree.trans hsame⟩
      · exact .inr (hidle.step hkept h hlist)

/-- **Changes that come in time.**  A run is orderly if users change what the bindings of a
ServiceAccount ask for only while its object is not `Ready` and no reconcile of it is under way,
whatever fails, wherever workers stop and however their reconciles overlap. -/
theorem orderly_of_inTime {s₀ : Cluster} {lastList : Key → Option (List CloudRoleBinding)}
    (hstart : Accounted sha256 s₀ lastList)
    (hcurrent : ∀ key, Shown lastList key (s₀.list key.ns) ∨
      ∀ r ∈ s₀.rcrbs key.resolved, isReady (r.object key.resolved) = false)
    (hreach : Transition.Reachable (Recorded.step sha256) InTime (boot s₀ lastList) s) :
    Transition.Reachable (Recorded.step sha256) Orderly (boot s₀ lastList) s := by
  have hboot : (boot s₀ lastList : Recorded ι).UpToDate := fun key =>
    (hcurrent key).imp_right fun hunready => ⟨hunready, fun i hunder => by cases hunder.1⟩
  exact hreach.mono_of_invariant (I := fun s => s.Kept sha256 ∧ s.UpToDate)
    ⟨kept_boot hstart, hboot⟩
    (fun _ _ _ ⟨hkept, hs⟩ horderly hintime hstep =>
      ⟨hkept.step horderly hstep, hs.step hkept hintime hstep⟩)
    fun _ l hs _ => hs.2.orderly l

end Recorded

/-! ## What the readers see -/

/-- The others keep the objects coherent, as workers do whose requests fit. -/
def KeepsCoherent (sha256 : String → String) (s s' : Cluster) : Prop :=
  AllCoherent sha256 s → AllCoherent sha256 s'

lemma KeepsCoherent.refl (s : Cluster) : KeepsCoherent sha256 s s := id

variable {s : Cluster}

/-- A program that writes no resolved binding finds them coherent all the way. -/
lemma reads_establish {α : Type} {p : ApiProgram α}
    (hp : p.Sends fun q => Cluster.writes q = none) (hs : AllCoherent sha256 s) :
    p.Establishes Cluster.serveWith (KeepsCoherent sha256) (fun _ s => AllCoherent sha256 s) s := by
  induction p generalizing s with
  | ret a => exact fun s' hs' => hs' hs
  | call q k ih =>
      intro s' hs' fault
      refine ih _ (hp.2 _) fun key r hr => hs' hs key r ?_
      rwa [Cluster.rcrbs_serveWith fault s' q (by simp [hp.1])] at hr

lemma getResolvedBinding_establishes (hs : AllCoherent sha256 s) (ns saName : String) :
    (getResolvedBinding ns saName).run.Establishes Cluster.serveWith (KeepsCoherent sha256)
      (fun res _ => ∀ resolved, res = .ok resolved → Coherent sha256 (stored resolved)) s := by
  rintro s' hs' (_ | e | e)
  case refused | unanswered => exact Establishes.run_throw _ _ _
  intro _ _ resolved hresolved
  simp only [Cluster.serveWith, Cluster.serve] at hresolved
  cases hr : s'.rcrbs ⟨ns, saName⟩ with
  | none =>
      rw [hr] at hresolved
      cases hresolved
  | some r =>
      rw [hr] at hresolved
      obtain rfl := Except.ok.inj hresolved
      exact hs' hs _ r hr

/-- The token was minted from one configuration with the hash of the request. -/
def MintedFrom (sha256 : String → String) (state : Federation.AppState) (clock : ℕ → Time)
    (req : Federation.MintRequest) (res : HttpResponse) : Prop :=
  ∃ username spec aws token, spec.providers.aws = some aws ∧
    configHashOf sha256 spec = req.configHash ∧
    signRs256 state.crypto state.signing
      (Federation.claimsFor state clock username req spec aws) = .ok token ∧
    res.body = .json (Federation.MintResponse.toJson
      { aws := some
          { token := token
            expiresInSeconds := aws.maxSessionDurationSeconds.getD 3600 } })

lemma mintedFrom_mintResolved {state : Federation.AppState} {clock : ℕ → Time}
    {username : String} {req : Federation.MintRequest} {resolved : ResolvedCloudRoleBinding}
    (hcoherent : Coherent sha256 (stored resolved))
    (hok : (Federation.mintResolved state clock username req resolved).status = 200) :
    MintedFrom sha256 state clock req
      (Federation.mintResolved state clock username req resolved) := by
  obtain ⟨aws, token, haws, hhash, htoken, hanswer⟩ := Federation.mintResolved_ok hok
  -- An object with a hash is `Ready`, and its hash is that of its specification.
  have hready := hcoherent.hashed ⟨"", ""⟩ (by simp [StoredRcrb.configHash, stored, hhash])
  have hspec := (hcoherent.ready _ hready).2
  simp only [StoredRcrb.configHash, stored, hhash, Option.some.injEq] at hspec
  exact ⟨username, resolved.spec, aws, token, haws, hspec.symm, htoken, by rw [hanswer]⟩

/-- **A token is minted from a configuration that has the hash of the request.** -/
lemma mint_establishes (hs : AllCoherent sha256 s) (state : Federation.AppState)
    (clock : ℕ → Time) (authorization : Option String) (req : Federation.MintRequest) :
    (Federation.mint state clock authorization req).Establishes Cluster.serveWith
      (KeepsCoherent sha256)
      (fun res _ => res.status = 200 → MintedFrom sha256 state clock req res) s := by
  have hrefuse : ∀ status text (s : Cluster), status ≠ 200 →
      (Program.ret (Federation.refuse status text) : ApiProgram HttpResponse).Establishes
        Cluster.serveWith (KeepsCoherent sha256)
        (fun res _ => res.status = 200 → MintedFrom sha256 state clock req res) s :=
    fun status text s hne s' _ hok => absurd hok hne
  unfold Federation.mint
  split
  · exact hrefuse _ _ s (by decide)
  refine Establishes.bind KeepsCoherent.refl ((reads_establish ?_ hs).mono fun res s hs => ?_)
  · refine Sends.run_bind ⟨rfl, fun _ => trivial⟩ fun status => ?_
    repeat' split
    all_goals trivial
  cases res with
  | error e => exact hrefuse _ _ s (by decide)
  | ok username =>
      simp only [Federation.mintFor]
      split
      · exact hrefuse _ _ s (by decide)
      split
      · exact hrefuse _ _ s (by decide)
      refine Establishes.bind KeepsCoherent.refl
        ((getResolvedBinding_establishes hs _ _).mono fun res s hres => ?_)
      cases res with
      | error e => exact hrefuse _ _ s (by decide)
      | ok resolved => exact fun _ _ hok => mintedFrom_mintResolved (hres resolved rfl) hok

/-- The patch injects the role of one configuration together with its hash. -/
def PatchedFrom {Patch : Type} (sha256 : String → String) (diff : Pod → Pod → Patch)
    (cfg : WebhookConfig) (review : AdmissionReview) (resp : AdmissionResponse Patch) : Prop :=
  ∀ patch, resp.patch = some patch → ∃ pod spec aws,
    review.request.bind AdmissionRequest.object = some pod ∧ spec.providers.aws = some aws ∧
    buildPodPatch diff pod cfg.agentImage cfg.agentImagePullPolicy cfg.agentPort
      cfg.federationUrl pod.saName (configHashOf sha256 spec) aws = .ok patch

section Handle

variable {Patch : Type} {diff : Pod → Pod → Patch} {cfg : WebhookConfig}
  {review : AdmissionReview}

lemma PatchedFrom.of_none {resp : AdmissionResponse Patch} (h : resp.patch = none) :
    PatchedFrom sha256 diff cfg review resp := by
  intro patch hpatch
  rw [h] at hpatch
  cases hpatch

/-- Nothing is injected on the way through the failure mode. -/
lemma failOrSkip_establishes (req : AdmissionRequest) (podName message : String) (s : Cluster) :
    (failOrSkip cfg req podName message).run.Establishes Cluster.serveWith (KeepsCoherent sha256)
      (fun res _ => ∀ resp, res = .ok resp → PatchedFrom sha256 diff cfg review resp) s := by
  unfold failOrSkip
  cases cfg.admissionFailureMode with
  | fail =>
      intro s' _ resp hresp
      obtain rfl := Except.ok.inj hresp
      exact .of_none rfl
  | ignore =>
      intro s' _ fault s'' _ resp hresp
      obtain rfl := Except.ok.inj hresp
      exact .of_none rfl

lemma handleResolved_establishes {req : AdmissionRequest} {pod : Pod}
    {resolved : ResolvedCloudRoleBinding} (hcoherent : Coherent sha256 (stored resolved))
    (hreview : review.request = some req) (hobject : req.object = some pod) (s : Cluster) :
    (handleResolved diff cfg req pod resolved).run.Establishes Cluster.serveWith
      (KeepsCoherent sha256)
      (fun res _ => ∀ resp, res = .ok resp → PatchedFrom sha256 diff cfg review resp) s := by
  simp only [handleResolved]
  split
  · exact failOrSkip_establishes _ _ _ s
  rename_i hready
  have hready : isReady resolved = true := not_not.mp hready
  have hhash := (hcoherent.ready ⟨"", ""⟩ hready).2
  split
  · exact Establishes.run_throw _ _ _
  rename_i configHash hconfigHash
  split
  · exact Establishes.run_throw _ _ _
  rename_i aws haws
  split
  · exact Establishes.run_throw _ _ _
  rename_i patch hpatch
  intro s' _ resp hresp patch' hpatch'
  obtain rfl := Except.ok.inj hresp
  obtain rfl := Option.some.inj hpatch'
  simp only [StoredRcrb.configHash, stored, hconfigHash, Option.some.injEq] at hhash
  exact ⟨pod, resolved.spec, aws, by simp [hreview, hobject], haws, by rw [← hhash, hpatch]⟩

/-- **A role is injected together with the hash of its configuration.** -/
lemma handle_establishes (hs : AllCoherent sha256 s) (diff : Pod → Pod → Patch)
    (cfg : WebhookConfig) (review : AdmissionReview) :
    (handle diff cfg review).run.Establishes Cluster.serveWith (KeepsCoherent sha256)
      (fun res _ => ∀ resp, res = .ok resp → PatchedFrom sha256 diff cfg review resp) s := by
  unfold handle
  have hallow : ∀ (req : AdmissionRequest) (s : Cluster),
      (pure { AdmissionResponse.ofRequest req with allowed := true } :
        ApiM (AdmissionResponse Patch)).run.Establishes Cluster.serveWith (KeepsCoherent sha256)
        (fun res _ => ∀ resp, res = .ok resp → PatchedFrom sha256 diff cfg review resp) s := by
    intro req s s' _ resp hresp
    obtain rfl := Except.ok.inj hresp
    exact .of_none rfl
  split
  · exact Establishes.run_throw _ _ _
  rename_i req hreview
  dsimp only
  split
  · exact hallow req s
  split
  · exact Establishes.run_throw _ _ _
  rename_i pod hobject
  split
  · exact hallow req s
  refine Establishes.run_bind KeepsCoherent.refl ?_
  rintro s₁ hs₁ (_ | e | e)
  case refused | unanswered =>
    intro s₂ _ found hfound
    cases e with
    | notFound =>
        obtain rfl := Except.ok.inj hfound
        exact hallow req s₂
    | conflict | unavailable => cases hfound
  intro s₂ _ found hfound
  simp only [Cluster.serveWith, Cluster.serve] at hfound
  cases hr : s₁.rcrbs ⟨req.nsOrDefault, pod.saName⟩ with
  | none =>
      rw [hr] at hfound
      obtain rfl := Except.ok.inj hfound
      exact hallow req s₂
  | some r =>
      rw [hr] at hfound
      obtain rfl := Except.ok.inj hfound
      exact handleResolved_establishes (hs₁ hs _ r hr) hreview hobject s₂

end Handle

/-- **A stored resolved binding is coherent**, in every run in which each reconcile that lists finds
bindings that ask for the same as at the last list for its ServiceAccount, or else an object that is
not `Ready` and no other reconcile of it under way.  Every token that is minted meanwhile comes from
one configuration that has the hash of the request, and every patch injects the role of one
configuration together with its hash. -/
theorem resolved_coherent (sha256 : String → String) {s₀ : Cluster}
    {lastList : Key → Option (List CloudRoleBinding)} (hstart : Accounted sha256 s₀ lastList)
    {c : Recorded ι}
    (hreach : Transition.Reachable (Recorded.step sha256) Recorded.Orderly
      (Recorded.boot s₀ lastList) c) :
    AllCoherent sha256 c.replicas.shared ∧
    (∀ state clock authorization req,
      (Federation.mint state clock authorization req).Establishes Cluster.serveWith
        (KeepsCoherent sha256)
        (fun res _ => res.status = 200 → MintedFrom sha256 state clock req res)
        c.replicas.shared) ∧
    ∀ (Patch : Type) (diff : Pod → Pod → Patch) cfg review,
      (handle diff cfg review).run.Establishes Cluster.serveWith (KeepsCoherent sha256)
        (fun res _ => ∀ resp, res = .ok resp → PatchedFrom sha256 diff cfg review resp)
        c.replicas.shared := by
  have hkept : c.Kept sha256 :=
    hreach.invariant (Recorded.kept_boot hstart) fun _ _ _ hs hguard hstep => hs.step hguard hstep
  have hobjects := hkept.accounted.coherent
  exact ⟨hobjects, mint_establishes hobjects, fun _ => handle_establishes hobjects⟩

/-- The digest tells the texts of two specifications apart. -/
def Distinguishes (sha256 : String → String) (spec spec' : ResolvedCloudRoleBindingSpec) : Prop :=
  sha256 spec.toJson.text = sha256 spec'.toJson.text → spec.toJson.text = spec'.toJson.text

/-- A digest that tells two specifications apart gives them different hashes. -/
lemma Distinguishes.spec_eq {spec spec' : ResolvedCloudRoleBindingSpec}
    (h : Distinguishes sha256 spec spec')
    (hhash : configHashOf sha256 spec = configHashOf sha256 spec') : spec = spec' :=
  ResolvedCloudRoleBindingSpec.toJson_injective (Json.text_injective (h hhash))

/-- **What a reconcile finds decides.**  A reconcile whose list asks for what a `Ready` object has
keeps every object coherent when it patches the specification; one that has found anything else
does not. -/
theorem allCoherent_patchRcrb_iff {key : Key} {last all : List CloudRoleBinding} {now now' : Time}
    {r : StoredRcrb} (hs : AllCoherent sha256 s) (hr : s.rcrbs key.resolved = some r)
    (hready : isReady (r.object key.resolved) = true)
    (hlast : r.spec = (outcome sha256 key last now).spec)
    (hdigest : Distinguishes sha256 r.spec (outcome sha256 key all now').spec) :
    AllCoherent sha256 (s.patchRcrb key.ns key.serviceAccountName (outcome sha256 key all now')) ↔
      Agree key last all := by
  let new : StoredRcrb := { spec := (outcome sha256 key all now').spec, status := r.status }
  have hnew : (s.patchRcrb key.ns key.serviceAccountName (outcome sha256 key all now')).rcrbs
      key.resolved = some new := by
    have hr : s.rcrbs ⟨key.ns, key.serviceAccountName⟩ = some r := hr
    simp [Cluster.patchRcrb, Key.resolved, hr, new]
  rw [agree_iff sha256 key last all now now', ← hlast]
  constructor
  · intro hafter
    have hready' := (isReady_object new r rfl key.resolved key.resolved).trans hready
    have hhash := ((hs _ r hr).ready _ hready).2
    have hhash' := ((hafter _ new hnew).ready _ hready').2
    exact hdigest.spec_eq (Option.some.inj (hhash.symm.trans hhash'))
  · intro hspec k r' hr'
    by_cases hk : k = key.resolved
    · subst hk
      obtain rfl := Option.some.inj (hnew.symm.trans hr')
      exact (hs _ r hr).patchSpec fun _ _ => hspec
    · exact hs k r' ((Function.update_of_ne hk ..).symm.trans hr')

/-! ### A first configuration, and the last binding that is deleted -/

/-- A binding is created and its key reconciled. -/
def firstConfiguration : List (ReplicaLabel Unit) :=
  [.change (.create ⟨"apps", "role"⟩ (roleBinding "web" "arn:aws:iam::123456789012:role/web")),
   .start () ⟨"apps", "web"⟩ fun _ => 0,
   .call () .none, .call () .none, .call () .none, .call () .none]

/-- The binding is deleted; the next reconcile has written the specification. -/
def tornDeletion : List (ReplicaLabel Unit) :=
  firstConfiguration ++
    [.change (.delete ⟨"apps", "role"⟩), .start () ⟨"apps", "web"⟩ fun _ => 0,
     .call () .none, .call () .none]

/-- A reconcile loses its last request, and the role is edited.  Then two workers reconcile the
ServiceAccount side by side, and each of them patches what the other has patched. -/
def sideBySide : List (ReplicaLabel Bool) :=
  [.change (.create ⟨"apps", "role"⟩ (roleBinding "web" "arn:aws:iam::123456789012:role/old")),
   .start true ⟨"apps", "web"⟩ fun _ => 0,
   .call true .none, .call true .none, .call true .none, .call true (.refused .unavailable),
   .change (.edit ⟨"apps", "role"⟩ (roleBinding "web" "arn:aws:iam::123456789012:role/web")),
   .start true ⟨"apps", "web"⟩ fun _ => 0, .call true .none, .call true .none,
   .start false ⟨"apps", "web"⟩ fun _ => 0, .call false .none,
   .call true .none, .call false .none, .call true .none, .call false .none, .call false .none]

instance (s : Recorded Bool) (key : Key) (i : Bool) : Decidable (s.UnderWay key i) :=
  inferInstanceAs (Decidable (_ ∧ _))

instance (s : Recorded Bool) (l : ReplicaLabel Bool) : Decidable (s.Orderly l) :=
  match l with
  | .call i .none => inferInstanceAs (Decidable (_ → ∀ key ∈ s.reconciling i, _ ∨ (_ ∧ _)))
  | .call _ (.refused _) | .call _ (.unanswered _) | .change _ | .start .. | .stop _ =>
      .isTrue trivial

/-- Without resolved bindings there is nothing to account for. -/
lemma accounted_empty (authenticator : String → Option TokenReviewStatus) :
    Accounted sha256 (Cluster.empty authenticator) fun _ => none where
  coherent key r hr := by cases hr
  ready key r hr := by cases hr

/-- The object that two workers have stored together is coherent. -/
theorem resolved_coherent_side_by_side :
    ∃ c : Recorded Bool, Transition.run (Recorded.step roleDigest)
        (Recorded.boot (Cluster.empty fun _ => none) fun _ => none) sideBySide = some c ∧
      grantedRole c.replicas.shared ⟨"apps", "web"⟩ =
        some "arn:aws:iam::123456789012:role/web" ∧
      AllCoherent roleDigest c.replicas.shared := by
  obtain ⟨c, hrun, hrole⟩ : ∃ c : Recorded Bool, Transition.run (Recorded.step roleDigest)
      (Recorded.boot (Cluster.empty fun _ => none) fun _ => none) sideBySide = some c ∧
      grantedRole c.replicas.shared ⟨"apps", "web"⟩ =
        some "arn:aws:iam::123456789012:role/web" :=
    Option.map_eq_some_iff.mp (by decide)
  exact ⟨c, hrun, hrole, (resolved_coherent roleDigest (accounted_empty _)
    (Transition.reachable_of_run (by decide) hrun)).1⟩

/-- **An object that is `Ready` without a provider**: the specification of the failed outcome is
stored beside the status of the outcome before it. -/
theorem torn_resolved_ready :
    ∃ c : Replicas Unit,
      Transition.Reachable (Replicas.step webDigest) Transition.Always
        (Replicas.boot (Cluster.empty fun _ => none)) c ∧
      ∃ r, c.shared.rcrbs ⟨"apps", "web"⟩ = some r ∧
        isReady (r.object ⟨"apps", "web"⟩) = true ∧ r.spec.providers.aws = none := by
  obtain ⟨c, hrun, hfacts⟩ : ∃ c, Transition.run (Replicas.step webDigest)
      (Replicas.boot (Cluster.empty fun _ => none)) tornDeletion = some c ∧
      ((c.shared.rcrbs ⟨"apps", "web"⟩).map fun r =>
        (isReady (r.object ⟨"apps", "web"⟩), r.spec.providers.aws)) = some (true, none) :=
    Option.map_eq_some_iff.mp (by decide)
  obtain ⟨r, hr, hready⟩ := Option.map_eq_some_iff.mp hfacts
  obtain ⟨hready, haws⟩ := Prod.mk.inj hready
  exact ⟨c, Transition.reachable_of_run (Transition.guarded_always _ _) hrun, r, hr, hready, haws⟩

end IdentityFederation
