import Mathlib.Data.List.Forall2
import IdentityFederation.Framework.Related
import IdentityFederation.Properties.Requests
import IdentityFederation.Webhook.Replicas

/-!
# A namespace in two runs

What it means that a namespace is the same in two runs that differ elsewhere (`SameNs`), and that
requests and changes keep it so.

The two runs do differ in the resource versions, since one counter serves the whole cluster.
`Versions` says which versions of the two stand for each other.  A reconcile hands versions back
and does not look at them, so it sends the same requests in both runs up to that correspondence,
in the sense of `Framework.Related` (`sameProgram_reconcile`).
-/

namespace IdentityFederation

open Interaction Program

/-! ## Versions of two runs -/

/-- Which resource versions of two runs stand for each other, one for one. -/
structure Versions where
  pairs : ℕ → ℕ → Prop
  oneToOne : ∀ v v' w w', pairs v v' → pairs w w' → (v = w ↔ v' = w')

namespace Versions

instance : Preorder Versions where
  le x y := ∀ v v', x.pairs v v' → y.pairs v v'
  le_refl _ _ _ h := h
  le_trans _ _ _ h h' v v' hx := h' v v' (h v v' hx)

/-- Before anything was written. -/
def start : Versions where
  pairs _ _ := False
  oneToOne := by simp

/-- Each run has written a version above all of its own. -/
def extend (x : Versions) (r r' : ℕ) (h : ∀ v v', x.pairs v v' → v ≤ r ∧ v' ≤ r') :
    Versions where
  pairs v v' := x.pairs v v' ∨ (v = r + 1 ∧ v' = r' + 1)
  oneToOne := by
    rintro v v' w w' (hv | ⟨rfl, rfl⟩) (hw | ⟨rfl, rfl⟩)
    · exact x.oneToOne v v' w w' hv hw
    · have := h v v' hv
      omega
    · have := h w w' hw
      omega
    · simp

lemma le_extend (x : Versions) {r r' : ℕ} (h : ∀ v v', x.pairs v v' → v ≤ r ∧ v' ≤ r') :
    x ≤ x.extend r r' h := fun _ _ => .inl

end Versions

/-! ## What is the same in two clusters -/

/-- The object of a binding as two runs know it. -/
structure SameObject (x : Versions) (crb crb' : CloudRoleBinding) : Prop where
  bare : crb.bare = crb'.bare
  version : ∃ v v', x.pairs v v' ∧ crb.metadata.resourceVersion = some v ∧
    crb'.metadata.resourceVersion = some v'

/-- A stored binding in two runs. -/
structure SameStored (x : Versions) (c c' : StoredCrb) : Prop where
  generation : c.generation = c'.generation
  spec : c.spec = c'.spec
  status : c.status = c'.status
  version : x.pairs c.resourceVersion c'.resourceVersion

/-- A namespace in two runs. -/
structure SameNs (ns : String) (x : Versions) (s s' : Cluster) : Prop where
  crbs : ∀ name, Option.Rel (SameStored x) s.crbs[ObjectKey.mk ns name]?
    s'.crbs[ObjectKey.mk ns name]?
  rcrbs : ∀ name, s.rcrbs ⟨ns, name⟩ = s'.rcrbs ⟨ns, name⟩
  authenticator : s.authenticator = s'.authenticator
  bounded : ∀ v v', x.pairs v v' → v ≤ s.revision ∧ v' ≤ s'.revision

/-- A binding exists in both runs or in none. -/
lemma SameNs.lookup {ns : String} {x : Versions} {s s' : Cluster} (h : SameNs ns x s s')
    (name : String) :
    (s.crbs[ObjectKey.mk ns name]? = none ∧ s'.crbs[ObjectKey.mk ns name]? = none) ∨
    ∃ c c', s.crbs[ObjectKey.mk ns name]? = some c ∧ s'.crbs[ObjectKey.mk ns name]? = some c' ∧
      SameStored x c c' := by
  have hrel := h.crbs name
  generalize s.crbs[ObjectKey.mk ns name]? = o at hrel ⊢
  generalize s'.crbs[ObjectKey.mk ns name]? = o' at hrel ⊢
  cases hrel with
  | none => exact .inl ⟨rfl, rfl⟩
  | some hc => exact .inr ⟨_, _, rfl, rfl, hc⟩

section Later

variable {x y : Versions} (hle : x ≤ y)

include hle

lemma SameObject.later {crb crb' : CloudRoleBinding} (h : SameObject x crb crb') :
    SameObject y crb crb' := by
  obtain ⟨v, v', hv, hrest⟩ := h.version
  exact ⟨h.bare, v, v', hle v v' hv, hrest⟩

lemma SameStored.later {c c' : StoredCrb} (h : SameStored x c c') : SameStored y c c' :=
  ⟨h.generation, h.spec, h.status, hle _ _ h.version⟩

lemma SameNs.crbs_later {ns : String} {s s' : Cluster} (h : SameNs ns x s s') (name : String) :
    Option.Rel (SameStored y) s.crbs[ObjectKey.mk ns name]? s'.crbs[ObjectKey.mk ns name]? := by
  rcases h.lookup name with ⟨hc, hc'⟩ | ⟨c, c', hc, hc', hsame⟩
  · rw [hc, hc']
    exact .none
  · rw [hc, hc']
    exact .some (hsame.later hle)

end Later

variable {ns : String} {x : Versions} {s s' : Cluster}

/-- The generation and the specification of the bindings of a namespace. -/
def nsBinding (ns : String) (k : ObjectKey) (c : StoredCrb) :
    Option (ℕ × CloudRoleBindingSpec) :=
  if k.ns = ns then some (c.generation, c.spec) else none

lemma map_bare_list_ns (s : Cluster) (ns : String) :
    (s.list ns).map CloudRoleBinding.bare =
      (s.crbs.filterMap (nsBinding ns)).toList.map bareObject := by
  rw [map_bare_list, Cluster.bindings, Std.ExtTreeMap.toList_filterMap, List.filterMap_map,
    List.map_filterMap]
  refine List.filterMap_congr fun p _ => ?_
  by_cases hns : p.1.ns = ns <;> simp [nsBinding, hns]

/-- The two runs have listed the same bindings. -/
lemma SameNs.list (h : SameNs ns x s s') :
    List.Forall₂ (SameObject x) (s.list ns) (s'.list ns) := by
  have hmaps : s.crbs.filterMap (nsBinding ns) = s'.crbs.filterMap (nsBinding ns) := by
    refine Std.ExtTreeMap.ext_getElem? fun k => ?_
    rw [Std.ExtTreeMap.getElem?_filterMap', Std.ExtTreeMap.getElem?_filterMap']
    obtain ⟨n, name⟩ := k
    by_cases hn : n = ns
    · subst hn
      rcases h.lookup name with ⟨hc, hc'⟩ | ⟨c, c', hc, hc', hsame⟩
      · rw [hc, hc']
      · simp [hc, hc', nsBinding, hsame.generation, hsame.spec]
    · cases s.crbs[ObjectKey.mk n name]? <;> cases s'.crbs[ObjectKey.mk n name]? <;>
        simp [nsBinding, hn]
  have hbare : List.Forall₂ (fun crb crb' => crb.bare = crb'.bare) (s.list ns) (s'.list ns) := by
    have heq : (s.list ns).map CloudRoleBinding.bare = (s'.list ns).map CloudRoleBinding.bare := by
      rw [map_bare_list_ns, hmaps, ← map_bare_list_ns]
    rw [← List.forall₂_eq_eq_eq] at heq
    simpa only [List.forall₂_map_left_iff, List.forall₂_map_right_iff] using heq
  have hleft := (List.forall₂_and_left _ _).mpr ⟨fun crb (hcrb : crb ∈ s.list ns) => hcrb, hbare⟩
  have hboth := (List.forall₂_and_left _ _).mpr
    ⟨fun crb (hcrb : crb ∈ s'.list ns) => hcrb, hleft.flip⟩
  refine hboth.flip.imp fun crb crb' ⟨hcrb', hcrb, heq⟩ => ⟨heq, ?_⟩
  obtain ⟨name, c, hc, rfl⟩ := Cluster.mem_list.mp hcrb
  obtain ⟨name', c', hc', rfl⟩ := Cluster.mem_list.mp hcrb'
  obtain rfl : name = name' := by
    have hname := congrArg (fun crb => crb.metadata.name) heq
    simpa [CloudRoleBinding.bare, StoredCrb.object] using hname
  rcases h.lookup name with ⟨hnone, -⟩ | ⟨c₁, c₁', hc₁, hc₁', hsame⟩
  · cases hnone.symm.trans hc
  · obtain rfl := Option.some.inj (hc₁.symm.trans hc)
    obtain rfl := Option.some.inj (hc₁'.symm.trans hc')
    exact ⟨_, _, hsame.version, rfl, rfl⟩

/-! ## A reconcile in two runs -/

/-- The requests of a reconcile in two runs. -/
def SameRequest (ns : String) (x : Versions) : ApiRequest → ApiRequest → Prop
  | .listCrbs n, .listCrbs n' => n = ns ∧ n' = ns
  | .replaceCrbStatus n name crb, .replaceCrbStatus n' name' crb' =>
      n = ns ∧ n' = ns ∧ name = name' ∧ crb.status = crb'.status ∧ SameObject x crb crb'
  | .patchRcrb n name resolved, .patchRcrb n' name' resolved'
  | .patchRcrbStatus n name resolved, .patchRcrbStatus n' name' resolved' =>
      n = ns ∧ n' = ns ∧ name = name' ∧ resolved = resolved'
  | _, _ => False

/-- Their answers: the same, or lists of the same bindings. -/
def SameAnswer (x : Versions) : (q q' : ApiRequest) → ApiResponse q → ApiResponse q' → Prop
  | .listCrbs _, .listCrbs _, r, r' => outcomes (fun x => List.Forall₂ (SameObject x)) x r r'
  | .replaceCrbStatus .., .replaceCrbStatus .., r, r' => r = r'
  | .patchRcrb .., .patchRcrb .., r, r' => r = r'
  | .patchRcrbStatus .., .patchRcrbStatus .., r, r' => r = r'
  | _, _, _, _ => False

/-- Two runs of a program that reconciles a key of the namespace. -/
abbrev SameProgram (ns : String) (x : Versions) {α : Type}
    (p p' : ApiProgram (Except Error α)) : Prop :=
  Related (SameRequest ns) SameAnswer (outcomes fun _ a a' => a = a') x p p'

lemma SameRequest.later {y : Versions} {q q' : ApiRequest} (hle : x ≤ y)
    (h : SameRequest ns x q q') : SameRequest ns y q q' := by
  cases q <;> cases q' <;> try exact h
  obtain ⟨hn, hn', hname, hstatus, hsame⟩ := h
  exact ⟨hn, hn', hname, hstatus, hsame.later hle⟩

lemma outcomes_eq {α : Type} (x : Versions) (res : Except Error α) :
    outcomes (fun (_ : Versions) (a a' : α) => a = a') x res res := by
  cases res <;> rfl

lemma SameProgram.later {y : Versions} {α : Type} {p p' : ApiProgram (Except Error α)}
    (h : SameProgram ns x p p') (hle : x ≤ y) : SameProgram ns y p p' := by
  refine Related.later (fun _ _ _ _ hw hq => hq.later hw) (fun _ _ a a' _ ha => ?_) h hle
  cases a <;> cases a' <;> exact ha

/-! ### The program -/

/-- What a reconcile reads of a binding is the same. -/
lemma SameObject.reads {crb crb' : CloudRoleBinding} (h : SameObject x crb crb') :
    crb.nameOrDefault = crb'.nameOrDefault ∧
      ∀ verdict now, crbStatusFor verdict crb now = crbStatusFor verdict crb' now := by
  have hstatus : ∀ (verdict : Verdict) (c : CloudRoleBinding) now,
      crbStatusFor verdict c.bare now = crbStatusFor verdict c now := by
    intro verdict c now
    cases verdict <;> rfl
  have hname : crb.bare.nameOrDefault = crb'.bare.nameOrDefault := congrArg _ h.bare
  refine ⟨hname, fun verdict now => ?_⟩
  rw [← hstatus verdict crb, h.bare, hstatus]

lemma sameProgram_writeStatuses {l l' : List CloudRoleBinding}
    (h : List.Forall₂ (SameObject x) l l') (verdict : Verdict) (clock : ℕ → Time) :
    SameProgram ns x (writeStatuses ns verdict clock l).run
      (writeStatuses ns verdict clock l').run := by
  induction h generalizing clock with
  | nil => exact .ret rfl
  | @cons crb crb' rest rest' hcrb _ ih =>
      obtain ⟨hname, hstatus⟩ := hcrb.reads
      simp only [writeStatuses, hname]
      split
      · exact ih clock
      split
      · refine Related.run_bind (V := fun _ a a' => a = a') ?_ fun y hle _ _ _ =>
          (ih _).later hle
        refine .call ⟨rfl, rfl, hname, congrArg some (hstatus verdict (clock 0)), ?_⟩
          fun y _ r r' hr => .ret ?_
        · exact ⟨hcrb.bare, hcrb.version⟩
        · obtain rfl : r = r' := hr
          exact outcomes_eq _ _
      · exact ih clock

lemma sameProgram_upsertResolved (resolved : ResolvedCloudRoleBinding) :
    SameProgram ns x (upsertResolved ns resolved).run (upsertResolved ns resolved).run := by
  simp only [upsertResolved]
  split
  · exact .ret rfl
  refine Related.run_bind (V := fun _ a a' => a = a') ?_ fun y _ _ _ _ => ?_
  · refine .call ⟨rfl, rfl, rfl, rfl⟩ fun y _ r r' hr => .ret ?_
    obtain rfl : r = r' := hr
    exact outcomes_eq _ _
  · refine .call ⟨rfl, rfl, rfl, rfl⟩ fun y _ r r' hr => .ret ?_
    obtain rfl : r = r' := hr
    exact outcomes_eq _ _

lemma relevantCrbs_same {l l' : List CloudRoleBinding} (h : List.Forall₂ (SameObject x) l l')
    (sa : String) : List.Forall₂ (SameObject x) (relevantCrbs sa l) (relevantCrbs sa l') := by
  induction h with
  | nil => exact .nil
  | @cons crb crb' rest rest' hcrb _ ih =>
      have hbare : crb.bare.spec = crb'.bare.spec := congrArg _ hcrb.bare
      have hspec : crb.spec = crb'.spec := hbare
      by_cases hsa : crb'.spec.subject.serviceAccountName = sa
      · simpa [relevantCrbs, hspec, hsa] using List.Forall₂.cons hcrb ih
      · simpa [relevantCrbs, hspec, hsa] using ih

lemma map_bare_same {l l' : List CloudRoleBinding} (h : List.Forall₂ (SameObject x) l l') :
    l.map CloudRoleBinding.bare = l'.map CloudRoleBinding.bare := by
  induction h with
  | nil => rfl
  | cons hcrb _ ih => rw [List.map_cons, List.map_cons, hcrb.bare, ih]

/-- **A reconcile of a key of the namespace does the same in both runs.** -/
lemma sameProgram_reconcile (sha256 : String → String) (clock : ℕ → Time) {key : Key}
    (hkey : key.ns = ns) :
    SameProgram ns x (reconcile sha256 clock key).run (reconcile sha256 clock key).run := by
  subst hkey
  refine Related.run_bind (V := fun x => List.Forall₂ (SameObject x)) ?_ fun y _ l l' hl => ?_
  · refine .call ⟨rfl, rfl⟩ fun y _ r r' hr => .ret ?_
    cases r <;> cases r' <;> first | exact hr | exact congrArg Error.api hr
  have hverdict : verdictOn key l = verdictOn key l' := by
    rw [← verdictOn_map_bare, map_bare_same hl, verdictOn_map_bare]
  have houtcome : ∀ now, outcome sha256 key l now = outcome sha256 key l' now := by
    intro now
    rw [← outcome_map_bare, map_bare_same hl, outcome_map_bare]
  have hrelevant := relevantCrbs_same hl key.serviceAccountName
  unfold reconcileListed
  dsimp only
  rw [hverdict, houtcome, hrelevant.length_eq]
  exact Related.run_bind (sameProgram_writeStatuses hrelevant _ _) fun z _ _ _ _ =>
    sameProgram_upsertResolved _

/-! ## What requests and changes do to two runs -/

lemma sameAnswer_error {y : Versions} {q q' : ApiRequest} (h : SameRequest ns x q q')
    (e : ApiError) : SameAnswer y q q' (.error e) (.error e) := by
  cases q <;> cases q' <;> first | exact rfl | exact h.elim

/-- The bindings are as they were; the revision may have grown. -/
structure KeepsCrbs (s t : Cluster) : Prop where
  crbs : t.crbs = s.crbs
  authenticator : t.authenticator = s.authenticator
  revision : s.revision ≤ t.revision

lemma SameNs.keep {t t' : Cluster} (h : SameNs ns x s s') (ht : KeepsCrbs s t)
    (ht' : KeepsCrbs s' t') (hrcrbs : ∀ name, t.rcrbs ⟨ns, name⟩ = t'.rcrbs ⟨ns, name⟩) :
    SameNs ns x t t' where
  crbs := by
    rw [ht.crbs, ht'.crbs]
    exact h.crbs
  rcrbs := hrcrbs
  authenticator := by rw [ht.authenticator, ht'.authenticator, h.authenticator]
  bounded v v' hv := by
    obtain ⟨hv, hv'⟩ := h.bounded v v' hv
    exact ⟨hv.trans ht.revision, hv'.trans ht'.revision⟩

/-- One binding was written, with the next version. -/
structure WritesCrb (s t : Cluster) (key : ObjectKey) (c : StoredCrb) : Prop where
  written : t.crbs[key]? = some c
  others : ∀ k, k ≠ key → t.crbs[k]? = s.crbs[k]?
  version : c.resourceVersion = s.revision + 1
  revision : t.revision = s.revision + 1
  rcrbs : t.rcrbs = s.rcrbs
  authenticator : t.authenticator = s.authenticator

lemma SameNs.write {t t' : Cluster} (h : SameNs ns x s s') {n : String} {c c' : StoredCrb}
    (ht : WritesCrb s t ⟨ns, n⟩ c) (ht' : WritesCrb s' t' ⟨ns, n⟩ c')
    (hgeneration : c.generation = c'.generation) (hspec : c.spec = c'.spec)
    (hstatus : c.status = c'.status) :
    SameNs ns (x.extend s.revision s'.revision h.bounded) t t' where
  crbs m := by
    by_cases hm : m = n
    · subst hm
      rw [ht.written, ht'.written]
      exact .some ⟨hgeneration, hspec, hstatus, .inr ⟨ht.version, ht'.version⟩⟩
    · rw [ht.others _ (by simpa using hm), ht'.others _ (by simpa using hm)]
      exact h.crbs_later (x.le_extend h.bounded) m
  rcrbs n := by rw [ht.rcrbs, ht'.rcrbs, h.rcrbs]
  authenticator := by rw [ht.authenticator, ht'.authenticator, h.authenticator]
  bounded v v' hv := by
    rw [ht.revision, ht'.revision]
    rcases hv with hv | ⟨rfl, rfl⟩
    · have := h.bounded v v' hv
      omega
    · exact ⟨le_rfl, le_rfl⟩

/-- The same versions stand for the same state of a binding. -/
lemma SameStored.conflict_iff {c c' : StoredCrb} {crb crb' : CloudRoleBinding}
    (h : SameStored x c c') (hcrb : SameObject x crb crb') :
    crb.metadata.resourceVersion = some c.resourceVersion ↔
      crb'.metadata.resourceVersion = some c'.resourceVersion := by
  obtain ⟨v, v', hv, hversion, hversion'⟩ := hcrb.version
  rw [hversion, hversion', Option.some.injEq, Option.some.injEq]
  exact x.oneToOne _ _ _ _ hv h.version

lemma writesCrb_update {s : Cluster} {key : ObjectKey} {old c : StoredCrb} {log : List LogEntry}
    (hold : s.crbs[key]? = some old) (hc : c.resourceVersion = s.revision + 1) :
    WritesCrb s { s with crbs := s.updateCrb key c, revision := s.revision + 1, log := log } key c where
  written := Cluster.getElem?_updateCrb_self hold c
  others _ hk := Cluster.getElem?_updateCrb_of_ne s hk c
  version := hc
  revision := rfl
  rcrbs := rfl
  authenticator := rfl

lemma same_replaceCrbStatus (h : SameNs ns x s s') {name : String} {crb crb' : CloudRoleBinding}
    (hstatus : crb.status = crb'.status) (hcrb : SameObject x crb crb') :
    ∃ y, x ≤ y ∧ SameNs ns y (s.replaceCrbStatus ns name crb).2 (s'.replaceCrbStatus ns name crb').2 ∧
      (s.replaceCrbStatus ns name crb).1 = (s'.replaceCrbStatus ns name crb').1 := by
  rcases h.lookup name with ⟨hc, hc'⟩ | ⟨c, c', hc, hc', hsame⟩
  · refine ⟨x, le_rfl, ?_⟩
    simp only [Cluster.replaceCrbStatus, hc, hc', and_true]
    exact h
  obtain ⟨v, v', -, hversion, hversion'⟩ := hcrb.version
  have hconflict := hsame.conflict_iff hcrb
  simp only [hversion, hversion', Option.some.injEq] at hconflict
  simp only [Cluster.replaceCrbStatus, hc, hc', hversion, hversion', ne_eq, Option.some.injEq,
    hconflict, hstatus, hsame.status, reduceCtorEq, not_false_eq_true, true_and]
  split
  · exact ⟨x, le_rfl, h, rfl⟩
  split
  · exact ⟨x, le_rfl, h, rfl⟩
  · refine ⟨_, x.le_extend h.bounded, ?_, rfl⟩
    exact h.write (writesCrb_update hc rfl) (writesCrb_update hc' rfl) hsame.generation hsame.spec
      rfl

/-- **A request that is sent in both runs has the same effect in both.** -/
lemma same_serve (h : SameNs ns x s s') {q q' : ApiRequest} (hq : SameRequest ns x q q') :
    ∃ y, x ≤ y ∧ SameNs ns y (s.serve q).2 (s'.serve q').2 ∧
      SameAnswer y q q' (s.serve q).1 (s'.serve q').1 := by
  cases q <;> cases q' <;> try exact hq.elim
  case listCrbs.listCrbs n n' =>
      obtain ⟨rfl, rfl⟩ := hq
      exact ⟨x, le_rfl, h, h.list⟩
  case replaceCrbStatus.replaceCrbStatus n name crb n' name' crb' =>
      obtain ⟨rfl, rfl, rfl, hstatus, hcrb⟩ := hq
      exact same_replaceCrbStatus h hstatus hcrb
  case patchRcrb.patchRcrb n name resolved n' name' resolved' =>
      obtain ⟨rfl, rfl, rfl, rfl⟩ := hq
      refine ⟨x, le_rfl, h.keep ⟨rfl, rfl, Nat.le_succ _⟩ ⟨rfl, rfl, Nat.le_succ _⟩ fun k => ?_, rfl⟩
      simp only [Cluster.serve, Cluster.patchRcrb, h.rcrbs, Function.update_apply]
  case patchRcrbStatus.patchRcrbStatus n name resolved n' name' resolved' =>
      obtain ⟨rfl, rfl, rfl, rfl⟩ := hq
      have hold := h.rcrbs name
      simp only [Cluster.serve, Cluster.patchRcrbStatus, ← hold]
      split
      · exact ⟨x, le_rfl, h, rfl⟩
      · refine ⟨x, le_rfl, h.keep ⟨rfl, rfl, Nat.le_succ _⟩ ⟨rfl, rfl, Nat.le_succ _⟩ fun k => ?_,
          rfl⟩
        simp only [h.rcrbs, Function.update_apply]

lemma same_serveWith (h : SameNs ns x s s') {q q' : ApiRequest} (hq : SameRequest ns x q q')
    (fault : Fault) :
    ∃ y, x ≤ y ∧ SameNs ns y (Cluster.serveWith fault s q).2 (Cluster.serveWith fault s' q').2 ∧
      SameAnswer y q q' (Cluster.serveWith fault s q).1 (Cluster.serveWith fault s' q').1 := by
  cases fault with
  | none => exact same_serve h hq
  | refused e => exact ⟨x, le_rfl, h, sameAnswer_error hq e⟩
  | unanswered e =>
      obtain ⟨y, hle, hsame, -⟩ := same_serve h hq
      exact ⟨y, hle, hsame, sameAnswer_error hq e⟩

lemma writesCrb_insert {s : Cluster} {key : ObjectKey} {c : StoredCrb} {log : List LogEntry}
    (hc : c.resourceVersion = s.revision + 1) :
    WritesCrb s { s with crbs := s.crbs.insert key c, revision := s.revision + 1, log := log } key
      c where
  written := Std.ExtTreeMap.getElem?_insert_self
  others k hk := by
    have hne : key ≠ k := Ne.symm hk
    simp [Std.ExtTreeMap.getElem?_insert, hne]
  version := hc
  revision := rfl
  rcrbs := rfl
  authenticator := rfl

/-- **A change in the namespace has the same effect in both runs.** -/
lemma same_change (h : SameNs ns x s s') {change : UserChange} (hkey : change.key.ns = ns)
    {t : Cluster} (ht : change.apply s = some t) :
    ∃ t' y, change.apply s' = some t' ∧ x ≤ y ∧ SameNs ns y t t' := by
  subst hkey
  rcases h.lookup change.key.name with ⟨hc, hc'⟩ | ⟨c, c', hc, hc', hsame⟩
  · cases change with
    | create key spec =>
        have hc : s.crbs[key]? = none := hc
        have hc' : s'.crbs[key]? = none := hc'
        simp only [UserChange.apply, hc, hc'] at ht ⊢
        split at ht
        · cases ht
        rename_i hname
        obtain rfl := Option.some.inj ht
        rw [if_neg hname]
        refine ⟨_, _, rfl, x.le_extend h.bounded, ?_⟩
        exact h.write (n := key.name) (writesCrb_insert rfl) (writesCrb_insert rfl) rfl rfl rfl
    | edit key spec | delete key =>
        have hc : s.crbs[key]? = none := hc
        simp only [UserChange.apply, hc] at ht
        cases ht
  · cases change with
    | create key spec =>
        have hc : s.crbs[key]? = some c := hc
        simp only [UserChange.apply, hc] at ht
        cases ht
    | edit key spec =>
        have hc : s.crbs[key]? = some c := hc
        have hc' : s'.crbs[key]? = some c' := hc'
        simp only [UserChange.apply, hc, hc', hsame.spec] at ht ⊢
        split at ht
        · cases ht
        rename_i hspec
        obtain rfl := Option.some.inj ht
        rw [if_neg hspec]
        refine ⟨_, _, rfl, x.le_extend h.bounded, ?_⟩
        exact h.write (n := key.name) (writesCrb_update hc rfl) (writesCrb_update hc' rfl)
          (congrArg (· + 1) hsame.generation) rfl hsame.status
    | delete key =>
        have hc : s.crbs[key]? = some c := hc
        have hc' : s'.crbs[key]? = some c' := hc'
        simp only [UserChange.apply, hc, hc'] at ht ⊢
        obtain rfl := Option.some.inj ht
        refine ⟨_, x, rfl, le_rfl, fun name => ?_, h.rcrbs, h.authenticator, fun v v' hv => ?_⟩
        · by_cases hk : (⟨key.ns, name⟩ : ObjectKey) = key
          · simp [hk, UserChange.key]
          · have hne : key ≠ ⟨key.ns, name⟩ := Ne.symm hk
            simpa [UserChange.key, Std.ExtTreeMap.getElem?_erase, hne] using h.crbs name
        · have := h.bounded v v' hv
          exact ⟨by simp only; omega, by simp only; omega⟩

/-! ### What is not about the namespace -/

/-- Nothing in the namespace has changed. -/
structure Untouched (ns : String) (s t : Cluster) : Prop where
  crbs : ∀ name, t.crbs[ObjectKey.mk ns name]? = s.crbs[ObjectKey.mk ns name]?
  rcrbs : ∀ name, t.rcrbs ⟨ns, name⟩ = s.rcrbs ⟨ns, name⟩
  authenticator : t.authenticator = s.authenticator
  revision : s.revision ≤ t.revision

lemma SameNs.untouched {t : Cluster} (h : SameNs ns x s s') (ht : Untouched ns s t) :
    SameNs ns x t s' where
  crbs name := by
    rw [ht.crbs]
    exact h.crbs name
  rcrbs name := by rw [ht.rcrbs, h.rcrbs]
  authenticator := by rw [ht.authenticator, h.authenticator]
  bounded v v' hv := by
    obtain ⟨hv, hv'⟩ := h.bounded v v' hv
    exact ⟨hv.trans ht.revision, hv'⟩

lemma untouched_change {change : UserChange} (hkey : change.key.ns ≠ ns) {t : Cluster}
    (ht : change.apply s = some t) : Untouched ns s t := by
  obtain ⟨effect⟩ := UserChange.apply_eq_some ht
  have hne : ∀ name, (⟨ns, name⟩ : ObjectKey) ≠ change.key := fun name heq =>
    hkey (congrArg ObjectKey.ns heq).symm
  refine ⟨fun name => effect.others _ (hne name), fun name => by rw [effect.rcrbs_eq], ?_, ?_⟩
  · exact UserChange.apply_authenticator ht
  · rw [effect.revision_eq]
    exact Nat.le_succ _

lemma untouched_serveWith {key : Key} (hkey : key.ns ≠ ns) {q : ApiRequest}
    (hq : ReconcileRequest key q) (fault : Fault) :
    Untouched ns s (Cluster.serveWith fault s q).2 := by
  have hgrows := (Cluster.logGrows_serveWith fault s q).revision
  refine ⟨fun name => ?_, fun name => ?_, Cluster.authenticator_serveWith fault s q, hgrows⟩
  · cases q with
    | replaceCrbStatus n name' crb =>
        obtain rfl : n = key.ns := hq
        have hne : (⟨ns, name⟩ : ObjectKey) ≠ ⟨key.ns, name'⟩ := fun heq =>
          hkey (congrArg ObjectKey.ns heq).symm
        cases fault with
        | refused e => rfl
        | none | unanswered e => exact Cluster.crbs_replaceCrbStatus_of_ne s crb hne
    | patchRcrbStatus n name' resolved =>
        cases fault with
        | refused e => rfl
        | none | unanswered e =>
            simp only [Cluster.serveWith, Cluster.serve, Cluster.patchRcrbStatus]
            split <;> rfl
    | _ => cases fault <;> rfl
  · refine Cluster.rcrbs_serveWith fault s q fun hw => hkey ?_
    cases q with
    | patchRcrb n name' resolved | patchRcrbStatus n name' resolved =>
        have hkeys := (Option.some.inj hw).symm.trans hq
        exact (congrArg ObjectKey.ns hkeys).symm
    | _ => cases hw

end IdentityFederation
