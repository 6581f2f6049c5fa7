import IdentityFederation.Properties.ConfigHash
import IdentityFederation.Properties.Requests

/-!
# The two patches of a reconcile

A reconcile lists the bindings once.  Then it writes statuses, patches the specification of the
resolved binding, and patches its status.  `Working` says where in this a worker is, and
`Recorded.step_effect` what one step does: it leaves all resolved bindings alone, or it is the list
of a worker, or one of the two patches.

`Recorded` are the workers of `Replicas` with a record of the run, which no worker reads: whose key
each one reconciles, what the last list for a ServiceAccount has shown, and which objects are half
written.  Every run of the workers has such a record (`exists_recorded`).

What is stored as the specification depends on what the bindings ask for and on nothing else of the
list (`agree_iff`).
-/

namespace IdentityFederation

open Interaction Program

/-! ## Lists that ask for the same -/

/-- Two lists of a namespace ask for the same for a ServiceAccount: neither can be merged, or both
can, and they ask for one configuration. -/
def Agree (key : Key) (all all' : List CloudRoleBinding) : Prop :=
  (Mergeable (relevantCrbs key.serviceAccountName all) ↔
      Mergeable (relevantCrbs key.serviceAccountName all')) ∧
    (Mergeable (relevantCrbs key.serviceAccountName all) →
      SameConfiguration key.serviceAccountName key.serviceAccountName
        (relevantCrbs key.serviceAccountName all) (relevantCrbs key.serviceAccountName all'))

variable {sha256 : String → String} {key : Key} {all all' : List CloudRoleBinding} {now : Time}

lemma mergeable_iff_verdictOn : Mergeable (relevantCrbs key.serviceAccountName all) ↔
    ∃ merged, verdictOn key all = .ok merged :=
  ⟨fun h => h.exists_ok key.serviceAccountName, fun ⟨_, h⟩ => (mergeInputs_ok h).1⟩

/-- What is stored for a ServiceAccount has an AWS block exactly if its bindings can be merged. -/
lemma mergeable_iff_aws (sha256 : String → String) (key : Key) (all : List CloudRoleBinding)
    (now : Time) : Mergeable (relevantCrbs key.serviceAccountName all) ↔
    (outcome sha256 key all now).spec.providers.aws.isSome = true := by
  rw [mergeable_iff_verdictOn]
  unfold outcome resolvedFor
  cases hv : verdictOn key all with
  | error issue => simp [buildFailedResolved]
  | ok merged =>
      obtain ⟨crb, -, hsome, haws⟩ := (mergeInputs_ok hv).2.aws
      rw [← haws] at hsome
      simpa [buildResolvedFromSpec] using hsome

/-- **The stored specification is what the bindings ask for.** -/
lemma agree_iff (sha256 : String → String) (key : Key) (all all' : List CloudRoleBinding)
    (now now' : Time) : Agree key all all' ↔
      (outcome sha256 key all now).spec = (outcome sha256 key all' now').spec := by
  constructor
  · rintro ⟨hiff, hsame⟩
    unfold outcome resolvedFor
    cases hv : verdictOn key all with
    | error issue =>
        cases hv' : verdictOn key all' with
        | error issue' => rfl
        | ok merged' =>
            obtain ⟨merged, hmerged⟩ := mergeable_iff_verdictOn.mp
              (hiff.mpr (mergeable_iff_verdictOn.mpr ⟨merged', hv'⟩))
            cases hv.symm.trans hmerged
    | ok merged =>
        have hm := mergeable_iff_verdictOn.mpr ⟨merged, hv⟩
        obtain ⟨merged', hv'⟩ := mergeable_iff_verdictOn.mp (hiff.mp hm)
        rw [hv']
        exact (eq_iff_sameConfiguration hv hv').mpr (hsame hm)
  · intro hspec
    have hiff : Mergeable (relevantCrbs key.serviceAccountName all) ↔
        Mergeable (relevantCrbs key.serviceAccountName all') := by
      rw [mergeable_iff_aws sha256 key all now, hspec, ← mergeable_iff_aws]
    refine ⟨hiff, fun hm => ?_⟩
    obtain ⟨merged, hv⟩ := mergeable_iff_verdictOn.mp hm
    obtain ⟨merged', hv'⟩ := mergeable_iff_verdictOn.mp (hiff.mp hm)
    refine (eq_iff_sameConfiguration hv hv').mp ?_
    simpa [outcome, resolvedFor, hv, hv', buildResolvedFromSpec] using hspec

lemma Agree.refl (key : Key) (all : List CloudRoleBinding) : Agree key all all :=
  (agree_iff id key all all 0 0).mpr rfl

lemma Agree.symm (h : Agree key all all') : Agree key all' all :=
  (agree_iff id key all' all 0 0).mpr ((agree_iff id key all all' 0 0).mp h).symm

lemma Agree.trans {all'' : List CloudRoleBinding} (h : Agree key all all')
    (h' : Agree key all' all'') : Agree key all all'' :=
  (agree_iff id key all all'' 0 0).mpr
    (((agree_iff id key all all' 0 0).mp h).trans ((agree_iff id key all' all'' 0 0).mp h'))

instance (key : Key) (all all' : List CloudRoleBinding) : Decidable (Agree key all all') :=
  decidable_of_iff _ (agree_iff id key all all' 0 0).symm

/-! ## Where a worker is -/

/-- The last request of a reconcile. -/
def statusPatch (key : Key) (resolved : ResolvedCloudRoleBinding) :
    ApiProgram (Except Error Unit) :=
  (ApiM.send (.patchRcrbStatus key.ns key.serviceAccountName resolved)).run

/-- What is left of a reconcile that has listed, and has not patched the specification. -/
inductive Upserting (sha256 : String → String) (key : Key) (all : List CloudRoleBinding) :
    ApiProgram (Except Error Unit) → Prop where
  | failed (e : Error) : Upserting sha256 key all (.ret (.error e))
  | status {name : String} {crb : CloudRoleBinding}
      {k : ApiResponse (.replaceCrbStatus key.ns name crb) → ApiProgram (Except Error Unit)} :
      (∀ r, Upserting sha256 key all (k r)) →
      Upserting sha256 key all (.call (.replaceCrbStatus key.ns name crb) k)
  | patch (now : Time) : Upserting sha256 key all
      (.call (.patchRcrb key.ns key.serviceAccountName (outcome sha256 key all now)) fun r =>
        match r with
        | .ok _ => statusPatch key (outcome sha256 key all now)
        | .error e => .ret (.error (.api e)))

lemma upserting_upsertResolved :
    Upserting sha256 key all (upsertResolved key.ns (outcome sha256 key all now)).run := by
  unfold upsertResolved
  rw [name_outcome]
  dsimp only
  split
  · exact .failed _
  · have hrun : (do
        ApiM.send (.patchRcrb key.ns key.serviceAccountName (outcome sha256 key all now))
        ApiM.send (.patchRcrbStatus key.ns key.serviceAccountName (outcome sha256 key all now)) :
          ApiM Unit).run =
        .call (.patchRcrb key.ns key.serviceAccountName (outcome sha256 key all now)) fun r =>
          match r with
          | .ok _ => statusPatch key (outcome sha256 key all now)
          | .error e => .ret (.error (.api e)) := by
      refine congrArg (Program.call _) (funext fun r => ?_)
      cases r <;> rfl
    exact hrun ▸ .patch now

/-- The statuses come before the patches. -/
lemma Upserting.bind {p : ApiProgram (Except Error Unit)}
    {f : Except Error Unit → ApiProgram (Except Error Unit)}
    (hp : p.Sends fun q => ∃ name crb, q = .replaceCrbStatus key.ns name crb)
    (hf : ∀ res, Upserting sha256 key all (f res)) : Upserting sha256 key all (p >>= f) := by
  induction p with
  | ret a => exact hf a
  | call q k ih =>
      obtain ⟨⟨name, crb, rfl⟩, hk⟩ := hp
      exact .status fun r => ih r (hk r)

lemma upserting_reconcileListed (clock : ℕ → Time) :
    Upserting sha256 key all (reconcileListed sha256 clock key all).run := by
  unfold reconcileListed
  rw [ExceptT.run_bind]
  refine Upserting.bind (writeStatuses_sends ..) fun res => ?_
  cases res with
  | error e => exact .failed e
  | ok _ => exact upserting_upsertResolved

/-- Where a worker is that reconciles this key.  What it has listed meets `Listed`, and the object
still has the specification that it has patched. -/
inductive Working (sha256 : String → String) (Listed : Key → List CloudRoleBinding → Prop)
    (s : Cluster) : Option Key → ApiProgram (Except Error Unit) → Prop where
  | returned (key : Option Key) (res : Except Error Unit) : Working sha256 Listed s key (.ret res)
  | listing (key : Key) (clock : ℕ → Time) :
      Working sha256 Listed s (some key) (reconcile sha256 clock key).run
  | upserting (key : Key) (all : List CloudRoleBinding) {p : ApiProgram (Except Error Unit)} :
      Listed key all → Upserting sha256 key all p → Working sha256 Listed s (some key) p
  | finishing (key : Key) (all : List CloudRoleBinding) (now : Time) (r : StoredRcrb) :
      Listed key all → s.rcrbs key.resolved = some r → r.spec = (outcome sha256 key all now).spec →
      Working sha256 Listed s (some key) (statusPatch key (outcome sha256 key all now))

/-- The request is a list. -/
def ApiRequest.isList : ApiRequest → Bool
  | .listCrbs _ => true
  | _ => false

/-- The worker has listed, and has not returned. -/
def hasListed (p : ApiProgram (Except Error Unit)) : Bool := p.next.any fun q => !q.isList

lemma Upserting.hasListed_of_call {q : ApiRequest}
    {k : ApiResponse q → ApiProgram (Except Error Unit)}
    (h : Upserting sha256 key all (.call q k)) : hasListed (.call q k) = true := by
  cases h <;> rfl

@[simp] lemma hasListed_reconcile (clock : ℕ → Time) (key : Key) :
    hasListed (reconcile sha256 clock key).run = false := rfl

/-- A worker that has not returned has listed, or is about to. -/
lemma Working.hasListed_or {Listed : Key → List CloudRoleBinding → Prop} {s : Cluster}
    {key? : Option Key} {q : ApiRequest} {k : ApiResponse q → ApiProgram (Except Error Unit)}
    (h : Working sha256 Listed s key? (.call q k)) : hasListed (.call q k) = true ∨
      ∃ key clock, key? = some key ∧ Program.call q k = (reconcile sha256 clock key).run := by
  generalize hp : Program.call q k = p at h
  cases h with
  | returned => cases hp
  | listing key clock => exact .inr ⟨key, clock, rfl, rfl⟩
  | upserting key all hl hu =>
      subst hp
      exact .inl hu.hasListed_of_call
  | finishing => exact .inl rfl

/-- A worker is where it was after a step of another one, if that spoils neither what it has listed
nor the specification that it has patched. -/
lemma Working.mono {Listed Listed' : Key → List CloudRoleBinding → Prop} {s s' : Cluster}
    {key? : Option Key} {p : ApiProgram (Except Error Unit)}
    (h : Working sha256 Listed s key? p)
    (hlisted : hasListed p = true → ∀ key ∈ key?, ∀ all, Listed key all → Listed' key all)
    (hspec : ∀ key ∈ key?, ∀ all now r, Listed key all →
      p = statusPatch key (outcome sha256 key all now) → s.rcrbs key.resolved = some r →
      r.spec = (outcome sha256 key all now).spec →
      ∃ r', s'.rcrbs key.resolved = some r' ∧ r'.spec = (outcome sha256 key all now).spec) :
    Working sha256 Listed' s' key? p := by
  cases h with
  | returned => exact .returned _ _
  | listing key clock => exact .listing key clock
  | upserting key all hl hu =>
      cases p with
      | ret res => exact .returned _ res
      | call q k => exact .upserting key all (hlisted hu.hasListed_of_call _ rfl _ hl) hu
  | finishing key all now r hl hr hs =>
      obtain ⟨r', hr', hs'⟩ := hspec _ rfl _ _ _ hl rfl hr hs
      exact .finishing key all now r' (hlisted rfl _ rfl _ hl) hr' hs'

/-- A worker whose request fails returns, or goes on to the next status. -/
lemma Working.error {Listed : Key → List CloudRoleBinding → Prop} {s : Cluster} {key? : Option Key}
    {q : ApiRequest} {k : ApiResponse q → ApiProgram (Except Error Unit)}
    (h : Working sha256 Listed s key? (.call q k)) (s' : Cluster) (e : ApiError) :
    Working sha256 Listed s' key? (k (.error e)) := by
  generalize hp : Program.call q k = p at h
  cases h with
  | returned => cases hp
  | listing key clock =>
      obtain ⟨rfl, hk⟩ := Program.call.inj hp
      obtain rfl := eq_of_heq hk
      exact .returned _ _
  | upserting key all hl hu =>
      cases hu with
      | failed => cases hp
      | status hk =>
          obtain ⟨rfl, hk'⟩ := Program.call.inj hp
          obtain rfl := eq_of_heq hk'
          exact .upserting key all hl (hk _)
      | patch now =>
          obtain ⟨rfl, hk⟩ := Program.call.inj hp
          obtain rfl := eq_of_heq hk
          exact .returned _ _
  | finishing =>
      obtain ⟨rfl, hk⟩ := Program.call.inj hp
      obtain rfl := eq_of_heq hk
      exact .returned _ _

/-- The status goes to an object that has the specification already. -/
lemma rcrbs_statusPatch {s : Cluster} {resolved : ResolvedCloudRoleBinding} {r : StoredRcrb}
    (hr : s.rcrbs key.resolved = some r) (hspec : r.spec = resolved.spec) :
    (s.patchRcrbStatus key.ns key.serviceAccountName resolved).2.rcrbs =
      Function.update s.rcrbs key.resolved
        (some { spec := resolved.spec, status := resolved.status }) := by
  have hr : s.rcrbs ⟨key.ns, key.serviceAccountName⟩ = some r := hr
  simp only [Cluster.patchRcrbStatus, hr, hspec]
  rfl

/-! ## Workers with a record -/

/-- The workers, and a record of the run that none of them reads. -/
structure Recorded (ι : Type) where
  replicas : Replicas ι
  /-- The key that a worker reconciles, or has reconciled last. -/
  reconciling : ι → Option Key
  /-- What the last list for a ServiceAccount has shown. -/
  lastList : Key → Option (List CloudRoleBinding)
  /-- Of the patches of the object that took effect, the last one was one of the specification. -/
  halfWritten : ObjectKey → Bool

namespace Recorded

variable {ι : Type} [DecidableEq ι]

/-- No worker has started. -/
def boot (cluster : Cluster) (lastList : Key → Option (List CloudRoleBinding)) : Recorded ι where
  replicas := Replicas.boot cluster
  reconciling := fun _ => none
  lastList := lastList
  halfWritten := fun _ => false

def reconcilingAfter (s : Recorded ι) : ReplicaLabel ι → ι → Option Key
  | .start i key _ => Function.update s.reconciling i (some key)
  | _ => s.reconciling

/-- A list whose answer arrives is recorded. -/
def lastListAfter (s : Recorded ι) :
    ReplicaLabel ι → Key → Option (List CloudRoleBinding)
  | .call i .none =>
      match (s.replicas.member i).next, s.reconciling i with
      | some (.listCrbs ns), some key =>
          Function.update s.lastList key (some (s.replicas.shared.list ns))
      | _, _ => s.lastList
  | _ => s.lastList

/-- A patch that takes effect is recorded. -/
def halfWrittenAfter (s : Recorded ι) : ReplicaLabel ι → ObjectKey → Bool
  | .call i fault =>
      if fault.executes then
        match (s.replicas.member i).next with
        | some (.patchRcrb ns name _) => Function.update s.halfWritten ⟨ns, name⟩ true
        | some (.patchRcrbStatus ns name _) => Function.update s.halfWritten ⟨ns, name⟩ false
        | _ => s.halfWritten
      else s.halfWritten
  | _ => s.halfWritten

def step (sha256 : String → String) (s : Recorded ι) (l : ReplicaLabel ι) :
    Option (Recorded ι) :=
  (s.replicas.step sha256 l).map fun replicas =>
    { replicas := replicas
      reconciling := s.reconcilingAfter l
      lastList := s.lastListAfter l
      halfWritten := s.halfWrittenAfter l }

/-- **Every run has a record**: what the workers do does not depend on it. -/
lemma exists_recorded {s : Recorded ι} {ls : List (ReplicaLabel ι)} {c : Replicas ι}
    (h : Transition.run (Replicas.step sha256) s.replicas ls = some c) :
    ∃ s', Transition.run (Recorded.step sha256) s ls = some s' ∧ s'.replicas = c := by
  induction ls generalizing s with
  | nil => exact ⟨s, rfl, Option.some.inj h⟩
  | cons l ls ih =>
      obtain ⟨t, hstep, hrest⟩ := Option.bind_eq_some_iff.mp h
      let next : Recorded ι :=
        { replicas := t
          reconciling := s.reconcilingAfter l
          lastList := s.lastListAfter l
          halfWritten := s.halfWrittenAfter l }
      have hnext : s.step sha256 l = some next := by simp only [step, hstep, Option.map_some, next]
      obtain ⟨s', hrun, hs'⟩ := ih (s := next) hrest
      refine ⟨s', ?_, hs'⟩
      rw [Transition.run, hnext]
      exact hrun

/-! ## What one request does -/

variable {s s' : Recorded ι} {i : ι} {Listed : Key → List CloudRoleBinding → Prop}

/-- The resolved bindings and the record of them are as before. -/
structure Quiet (s s' : Recorded ι) : Prop where
  rcrbs : s'.replicas.shared.rcrbs = s.replicas.shared.rcrbs
  lastList : s'.lastList = s.lastList
  halfWritten : s'.halfWritten = s.halfWritten

/-- What a request of a worker does otherwise. -/
inductive CallEffect (sha256 : String → String) (Listed : Key → List CloudRoleBinding → Prop)
    (s s' : Recorded ι) (i : ι) : Fault → Prop where
  | list (key : Key) : s.reconciling i = some key →
      (s.replicas.member i).next = some (.listCrbs key.ns) →
      s'.replicas.shared = s.replicas.shared →
      s'.lastList = Function.update s.lastList key (some (s.replicas.shared.list key.ns)) →
      s'.halfWritten = s.halfWritten →
      Upserting sha256 key (s.replicas.shared.list key.ns) (s'.replicas.member i) →
      CallEffect sha256 Listed s s' i .none
  | patch {fault : Fault} (key : Key) (all : List CloudRoleBinding) (now : Time) :
      s.reconciling i = some key → Listed key all → fault.executes = true →
      (s.replicas.member i).next =
        some (.patchRcrb key.ns key.serviceAccountName (outcome sha256 key all now)) →
      s'.replicas.shared = s.replicas.shared.patchRcrb key.ns key.serviceAccountName
        (outcome sha256 key all now) →
      s'.lastList = s.lastList →
      s'.halfWritten = Function.update s.halfWritten key.resolved true →
      Working sha256 Listed s'.replicas.shared (some key) (s'.replicas.member i) →
      CallEffect sha256 Listed s s' i fault
  | finish {fault : Fault} (key : Key) (all : List CloudRoleBinding) (now : Time) (old : StoredRcrb)
      (res : Except Error Unit) : s.reconciling i = some key → Listed key all →
      (s.replicas.member i).next = some
        (.patchRcrbStatus key.ns key.serviceAccountName (outcome sha256 key all now)) →
      s.replicas.shared.rcrbs key.resolved = some old →
      old.spec = (outcome sha256 key all now).spec →
      s'.replicas.shared.rcrbs = Function.update s.replicas.shared.rcrbs key.resolved
        (some { spec := (outcome sha256 key all now).spec
                status := (outcome sha256 key all now).status }) →
      s'.lastList = s.lastList →
      s'.halfWritten = Function.update s.halfWritten key.resolved false →
      s'.replicas.member i = .ret res →
      CallEffect sha256 Listed s s' i fault

section Call

variable {replicas : Replicas ι} {q : ApiRequest}
  {k : ApiResponse q → ApiProgram (Except Error Unit)} {fault : Fault}
  (hworking : Working sha256 Listed s.replicas.shared (s.reconciling i) (.call q k))
  (hshared : replicas.shared = (Cluster.serveWith fault s.replicas.shared q).2)
  (hmember : replicas.member i = k (Cluster.serveWith fault s.replicas.shared q).1)

include hworking hshared hmember

omit [DecidableEq ι] in
/-- A request that does not take effect. -/
lemma callEffect_refused (hf : fault.executes = false) :
    let s' : Recorded ι :=
      { replicas := replicas
        reconciling := s.reconciling
        lastList := s.lastListAfter (.call i fault)
        halfWritten := s.halfWrittenAfter (.call i fault) }
    Quiet s s' ∧ Working sha256 Listed replicas.shared (s.reconciling i) (replicas.member i) := by
  cases fault with
  | none | unanswered e => cases hf
  | refused e =>
      refine ⟨⟨congrArg Cluster.rcrbs hshared, rfl, rfl⟩, ?_⟩
      rw [hmember]
      exact hworking.error _ e

omit [DecidableEq ι] in
/-- A request that takes effect, whether its answer arrives or not. -/
lemma callEffect_executes (hi : s.replicas.member i = .call q k) (hf : fault.executes = true) :
    let s' : Recorded ι :=
      { replicas := replicas
        reconciling := s.reconciling
        lastList := s.lastListAfter (.call i fault)
        halfWritten := s.halfWrittenAfter (.call i fault) }
    Quiet s s' ∧ Working sha256 Listed replicas.shared (s.reconciling i) (replicas.member i) ∨
      CallEffect sha256 Listed s s' i fault := by
  intro s'
  have hnext : (s.replicas.member i).next = some q := by rw [hi]; rfl
  have hserved : replicas.shared = (s.replicas.shared.serve q).2 := by
    cases fault with
    | none | unanswered e => exact hshared
    | refused e => cases hf
  -- Where the worker is if the answer is lost.
  have hlost : ∀ e, fault = .unanswered e →
      Working sha256 Listed replicas.shared (s.reconciling i) (replicas.member i) := by
    rintro e rfl
    rw [hmember]
    exact hworking.error _ e
  generalize hkey : s.reconciling i = key? at hworking hlost ⊢
  generalize hp : Program.call q k = p at hworking
  cases hworking with
  | returned => cases hp
  | listing key clock =>
      obtain ⟨rfl, hk⟩ := Program.call.inj hp
      obtain rfl := eq_of_heq hk
      have hhalf : s.halfWrittenAfter (.call i fault) = s.halfWritten := by
        simp only [halfWrittenAfter, hnext, ite_self]
      cases fault with
      | refused e => cases hf
      | none =>
          refine .inr (.list key hkey hnext hserved ?_ hhalf ?_)
          · simp only [s', lastListAfter, hnext, hkey]
          · dsimp only [s']
            rw [hmember]
            exact upserting_reconcileListed clock
      | unanswered e => exact .inl ⟨⟨congrArg Cluster.rcrbs hserved, rfl, hhalf⟩, hlost e rfl⟩
  | upserting key all hl hu =>
      cases hu with
      | failed => cases hp
      | status hk =>
          obtain ⟨rfl, hk'⟩ := Program.call.inj hp
          obtain rfl := eq_of_heq hk'
          refine .inl ⟨⟨?_, ?_, by simp only [s', halfWrittenAfter, hnext, ite_self]⟩, ?_⟩
          · funext key'
            dsimp only [s']
            rw [hserved]
            exact Cluster.rcrbs_serve _ _ nofun
          · cases fault <;> simp only [s', lastListAfter, hnext]
          · rw [hmember]
            exact .upserting key all hl (hk _)
      | patch now =>
          obtain ⟨rfl, hk⟩ := Program.call.inj hp
          obtain rfl := eq_of_heq hk
          have hhalf : s.halfWrittenAfter (.call i fault) =
              Function.update s.halfWritten key.resolved true := by
            simp only [halfWrittenAfter, hnext, hf, if_true]
            rfl
          cases fault with
          | refused e => cases hf
          | unanswered e =>
              exact .inr (.patch key all now hkey hl rfl hnext hserved rfl hhalf (hlost e rfl))
          | none =>
              refine .inr (.patch key all now hkey hl rfl hnext hserved ?_ hhalf ?_)
              · simp only [s', lastListAfter, hnext]
              · dsimp only [s']
                rw [hmember, hserved]
                exact .finishing key all now _ hl (Function.update_self ..) rfl
  | finishing key all now r hl hr hspec =>
      obtain ⟨rfl, hk⟩ := Program.call.inj hp
      obtain rfl := eq_of_heq hk
      refine .inr (.finish key all now r _ hkey hl hnext hr hspec ?_ ?_ ?_ hmember)
      · dsimp only [s']
        rw [hserved]
        exact rcrbs_statusPatch hr hspec
      · cases fault <;> simp only [s', lastListAfter, hnext]
      · simp only [s', halfWrittenAfter, hnext, hf, if_true]
        rfl

end Call

/-- What a step does: nothing to the resolved bindings, or a request of a worker does something. -/
inductive StepEffect (sha256 : String → String) (Listed : Key → List CloudRoleBinding → Prop)
    (s s' : Recorded ι) : ReplicaLabel ι → Prop where
  | quiet {l : ReplicaLabel ι} : Quiet s s' →
      (∀ i, Working sha256 Listed s'.replicas.shared (s'.reconciling i) (s'.replicas.member i)) →
      StepEffect sha256 Listed s s' l
  | call (i : ι) {fault : Fault} : CallEffect sha256 Listed s s' i fault →
      s'.reconciling = s.reconciling →
      (∀ j, j ≠ i → s'.replicas.member j = s.replicas.member j) →
      StepEffect sha256 Listed s s' (.call i fault)

/-- A worker does not notice what leaves the resolved bindings alone. -/
lemma working_of_rcrbs {s s' : Cluster} {key? : Option Key} {p : ApiProgram (Except Error Unit)}
    (hworking : Working sha256 Listed s key? p) (h : s'.rcrbs = s.rcrbs) :
    Working sha256 Listed s' key? p :=
  hworking.mono (fun _ _ _ _ hl => hl) fun key _ all now r _ _ hr hspec => ⟨r, by rw [h, hr], hspec⟩

/-- A quiet request leaves the other workers where they are, too. -/
lemma working_quiet (hworking : ∀ j, Working sha256 Listed s.replicas.shared (s.reconciling j)
      (s.replicas.member j)) (hq : Quiet s s') (hkeys : s'.reconciling = s.reconciling)
    (hmembers : ∀ j, j ≠ i → s'.replicas.member j = s.replicas.member j)
    (hi : Working sha256 Listed s'.replicas.shared (s'.reconciling i) (s'.replicas.member i))
    (j : ι) : Working sha256 Listed s'.replicas.shared (s'.reconciling j)
      (s'.replicas.member j) := by
  by_cases hji : j = i
  · rwa [hji]
  · rw [hkeys, hmembers j hji]
    exact working_of_rcrbs (hworking j) hq.rcrbs

/-- **What one step does.** -/
lemma step_effect {l : ReplicaLabel ι}
    (hworking : ∀ i, Working sha256 Listed s.replicas.shared (s.reconciling i)
      (s.replicas.member i))
    (h : s.step sha256 l = some s') : StepEffect sha256 Listed s s' l := by
  obtain ⟨replicas, hstep, rfl⟩ := Option.map_eq_some_iff.mp h
  cases l with
  | change change =>
      obtain ⟨cluster, happly, rfl⟩ := Option.map_eq_some_iff.mp hstep
      obtain ⟨effect⟩ := UserChange.apply_eq_some happly
      exact .quiet ⟨effect.rcrbs_eq, rfl, rfl⟩ fun i =>
        working_of_rcrbs (hworking i) effect.rcrbs_eq
  | start i key clock =>
      simp only [Replicas.step] at hstep
      split at hstep
      · obtain rfl := Option.some.inj hstep
        refine .quiet ⟨rfl, rfl, rfl⟩ fun j => ?_
        by_cases hji : j = i
        · subst hji
          simpa [reconcilingAfter] using .listing key clock
        · simpa [reconcilingAfter, Function.update_of_ne hji, Replicas.member_setWorker_of_ne _ hji]
            using hworking j
      · cases hstep
  | stop i =>
      obtain rfl := Option.some.inj hstep
      refine .quiet ⟨rfl, rfl, rfl⟩ fun j => ?_
      by_cases hji : j = i
      · subst hji
        simpa [reconcilingAfter] using .returned _ _
      · simpa [reconcilingAfter, Function.update_of_ne hji, Replicas.member_setWorker_of_ne _ hji]
          using hworking j
  | call i fault =>
      obtain ⟨q, k, hi, hshared, hmember, hothers⟩ := Crew.act_eq_some Cluster.serveWith hstep
      have hcalled := hworking i
      rw [hi] at hcalled
      cases hf : fault.executes with
      | false =>
          obtain ⟨hq, hi⟩ := callEffect_refused hcalled hshared hmember hf
          exact .quiet hq (working_quiet hworking hq rfl hothers hi)
      | true =>
          rcases callEffect_executes hcalled hshared hmember hi hf with ⟨hq, hi⟩ | heffect
          · exact .quiet hq (working_quiet hworking hq rfl hothers hi)
          · exact .call i heffect rfl hothers

end Recorded

end IdentityFederation
