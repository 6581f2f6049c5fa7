import IdentityFederation.Webhook.Injection

/-!
# Which variables take effect

A list of variables may have a name more than once, and Kubernetes then uses the last entry
(`effective`).  `upsert_env` changes the first one.  So an injected variable takes effect if its
name occurs at most once, or its last entry was right all along (`variables_take_effect_iff`).

The other variables stay as they are, and a second injection changes nothing, whatever the list
holds.
-/

namespace IdentityFederation

/-- A variable with a literal value. -/
def literal (p : String × String) : EnvVar where
  name := p.1
  value := some p.2

/-- The entry that Kubernetes uses. -/
def effective (env : List EnvVar) (name : String) : Option EnvVar :=
  (Keyed.entries EnvVar.name env name).getLast?

/-- The names of the injected variables. -/
def injectedNames (aws : AwsProviderSpec) : List String := (awsVariables aws).map Prod.fst

variable {aws : AwsProviderSpec} {c : Container} {env : List EnvVar} {p : String × String}
  {vs : List (String × String)}

/-! ## One variable -/

lemma upsertEnv_eq_upsert (env : List EnvVar) (p : String × String) :
    upsertEnv env p.1 p.2 = Keyed.upsert EnvVar.name
      (fun e => { e with value := some p.2, valueFrom := none }) (literal p) env := by
  induction env with
  | nil => rfl
  | cons e env ih =>
      unfold upsertEnv Keyed.upsert
      rw [ih]
      rfl

/-- The first entry of the name is the literal, and the entries after it stay. -/
lemma entries_upsertEnv_self (env : List EnvVar) (p : String × String) :
    Keyed.entries EnvVar.name (upsertEnv env p.1 p.2) p.1 =
      literal p :: (Keyed.entries EnvVar.name env p.1).tail := by
  have hself := Keyed.entries_upsert_self EnvVar.name (l := env) (a := literal p)
    (f := fun e => { e with value := some p.2, valueFrom := none }) fun _ => rfl
  rw [← upsertEnv_eq_upsert] at hself
  refine hself.trans ?_
  cases hentries : Keyed.entries EnvVar.name env (literal p).name with
  | nil =>
      have hentries : Keyed.entries EnvVar.name env p.1 = [] := hentries
      rw [hentries]
      rfl
  | cons e rest =>
      have hentries : Keyed.entries EnvVar.name env p.1 = e :: rest := hentries
      have hname : e.name = p.1 :=
        (Keyed.mem_entries.mp (hentries ▸ List.mem_cons_self)).2
      simp [hentries, literal, hname]

lemma filter_upsertEnv {q : String → Bool} (hq : q p.1 = false) :
    (upsertEnv env p.1 p.2).filter (fun e => q e.name) = env.filter fun e => q e.name := by
  rw [upsertEnv_eq_upsert]
  refine Keyed.filter_upsert EnvVar.name (fun _ => ?_) hq
  rfl

lemma upsertEnv_eq_self (h : (Keyed.entries EnvVar.name env p.1).head? = some (literal p)) :
    upsertEnv env p.1 p.2 = env := by
  rw [upsertEnv_eq_upsert]
  exact Keyed.upsert_eq_self h rfl

/-! ## All of them -/

lemma filter_foldl_upsertEnv {q : String → Bool} (hq : ∀ p ∈ vs, q p.1 = false) :
    (vs.foldl (fun env p => upsertEnv env p.1 p.2) env).filter (fun e => q e.name) =
      env.filter fun e => q e.name := by
  induction vs generalizing env with
  | nil => rfl
  | cons p vs ih =>
      rw [List.foldl_cons, ih fun p' hp' => hq p' (List.mem_cons_of_mem p hp'),
        filter_upsertEnv (hq p List.mem_cons_self)]

/-- Of the entries of each name, the first is the literal and the others stay. -/
lemma entries_foldl_upsertEnv (hnodup : (vs.map Prod.fst).Nodup) (hp : p ∈ vs) :
    Keyed.entries EnvVar.name (vs.foldl (fun env p => upsertEnv env p.1 p.2) env) p.1 =
      literal p :: (Keyed.entries EnvVar.name env p.1).tail := by
  induction vs generalizing env with
  | nil => cases hp
  | cons p' vs ih =>
      obtain ⟨hfresh, hnodup⟩ := List.nodup_cons.mp hnodup
      rw [List.foldl_cons]
      rcases List.mem_cons.mp hp with rfl | hp
      · -- The later variables have other names.
        have hlater := @filter_foldl_upsertEnv (upsertEnv env p.1 p.2) vs (fun name => name = p.1)
          fun p' hp' => decide_eq_false fun heq => hfresh (heq ▸ List.mem_map_of_mem hp')
        exact hlater.trans (entries_upsertEnv_self env p)
      · have hne : p'.1 ≠ p.1 := fun heq => hfresh (heq ▸ List.mem_map_of_mem hp)
        have hfirst := @filter_upsertEnv env p' (fun name => name = p.1) (decide_eq_false hne)
        rw [ih hnodup hp]
        exact congrArg (literal p :: ·.tail) hfirst

lemma foldl_upsertEnv_eq_self
    (h : ∀ p ∈ vs, (Keyed.entries EnvVar.name env p.1).head? = some (literal p)) :
    vs.foldl (fun env p => upsertEnv env p.1 p.2) env = env := by
  induction vs with
  | nil => rfl
  | cons p vs ih =>
      rw [List.foldl_cons, upsertEnv_eq_self (h p List.mem_cons_self)]
      exact ih fun p' hp' => h p' (List.mem_cons_of_mem p hp')

/-! ## A container -/

lemma injectedNames_nodup (aws : AwsProviderSpec) : (injectedNames aws).Nodup := by
  unfold injectedNames awsVariables
  cases aws.region <;> cases aws.stsRegionalEndpoints <;> simp

lemma entries_setVariables (env : List EnvVar) (hp : p ∈ awsVariables aws) :
    Keyed.entries EnvVar.name (setVariables aws env) p.1 =
      literal p :: (Keyed.entries EnvVar.name env p.1).tail :=
  entries_foldl_upsertEnv (injectedNames_nodup aws) hp

lemma setVariables_others (aws : AwsProviderSpec) (env : List EnvVar) :
    (setVariables aws env).filter (fun e => e.name ∉ injectedNames aws) =
      env.filter fun e => e.name ∉ injectedNames aws :=
  filter_foldl_upsertEnv (q := fun name => name ∉ injectedNames aws) fun _ hp =>
    decide_eq_false (not_not_intro (List.mem_map_of_mem hp))

lemma setVariables_setVariables (aws : AwsProviderSpec) (env : List EnvVar) :
    setVariables aws (setVariables aws env) = setVariables aws env := by
  refine foldl_upsertEnv_eq_self fun p hp => ?_
  rw [entries_setVariables env hp]
  rfl

/-- A second injection changes nothing. -/
lemma Container.injected_injected (aws : AwsProviderSpec) (c : Container) :
    (c.injected aws).injected aws = c.injected aws := by
  have hmounts := Keyed.ensure_ensure VolumeMount.name awsVolumeMount c.mounts
  have henv := setVariables_setVariables aws c.envVars
  rw [injected, injected_mounts, injected_envVars, hmounts, henv]
  rfl

lemma effective_setVariables (env : List EnvVar) (hp : p ∈ awsVariables aws) :
    effective (setVariables aws env) p.1 = some (literal p) ↔
      (Keyed.entries EnvVar.name env p.1).length ≤ 1 ∨ effective env p.1 = some (literal p) := by
  rw [effective, effective, entries_setVariables env hp]
  match Keyed.entries EnvVar.name env p.1 with
  | [] => simp
  | [e] => simp
  | e :: e' :: rest => simp

/-- What an injection comes to, if the variables take effect. -/
structure VariablesTakeEffect (aws : AwsProviderSpec) (c c' : Container) : Prop where
  effective : ∀ p ∈ awsVariables aws, effective c'.envVars p.1 = some (literal p)
  others : c'.envVars.filter (fun e => e.name ∉ injectedNames aws) =
    c.envVars.filter fun e => e.name ∉ injectedNames aws
  again : injectAwsIntoAppContainer c' aws = .ok c'

/-- **Which variables take effect.**  An injection succeeds for every role that is not blank.
Afterwards the last entry of every injected name is the injected value, the other variables are as
they were, and a second injection changes nothing, exactly if each injected name occurred at most
once, or its last entry was the injected value already. -/
theorem variables_take_effect_iff (hrole : Text.trim aws.roleArn ≠ "") (c : Container) :
    (∃ c', injectAwsIntoAppContainer c aws = .ok c' ∧ VariablesTakeEffect aws c c') ↔
      ∀ p ∈ awsVariables aws, (Keyed.entries EnvVar.name c.envVars p.1).length ≤ 1 ∨
        effective c.envVars p.1 = some (literal p) := by
  constructor
  · rintro ⟨c', hinject, heffect⟩ p hp
    obtain rfl := injectAwsIntoAppContainer_ok hinject
    exact (effective_setVariables c.envVars hp).mp (heffect.effective p hp)
  · intro h
    refine ⟨c.injected aws, injectAwsIntoAppContainer_eq_ok hrole c, ?_, ?_, ?_⟩
    · exact fun p hp => (effective_setVariables c.envVars hp).mpr (h p hp)
    · exact setVariables_others aws c.envVars
    · rw [injectAwsIntoAppContainer_eq_ok hrole, c.injected_injected]

/-! ### A variable of its own, and a variable that occurs twice -/

/-- The AWS block of the examples. -/
def shopRole : AwsProviderSpec where
  roleArn := "arn:aws:iam::123456789012:role/shop"
  region := some "eu-west-1"

/-- A container with a variable that is not injected, and one that comes from elsewhere. -/
def ordinaryContainer : Container where
  name := "app"
  env := some [{ name := "PORT", value := some "8080" },
    { name := "AWS_REGION"
      valueFrom := some
        { other := [("configMapKeyRef", "\x7b\"name\":\"settings\",\"key\":\"region\"\x7d")] } }]

theorem variables_take_effect_ordinary :
    ∃ c', injectAwsIntoAppContainer ordinaryContainer shopRole = .ok c' ∧
      VariablesTakeEffect shopRole ordinaryContainer c' :=
  (variables_take_effect_iff (by decide) ordinaryContainer).mpr (by decide)

/-- A container with two entries of one name. -/
def twiceContainer : Container where
  name := "app"
  env := some [{ name := "AWS_ROLE_ARN", value := some "a" },
    { name := "AWS_ROLE_ARN", value := some "b" }]

/-- **The second entry wins**: the role that the container sees is not the one that was injected. -/
theorem second_entry_wins :
    ∃ c', injectAwsIntoAppContainer twiceContainer shopRole = .ok c' ∧
      effective c'.envVars "AWS_ROLE_ARN" = some (literal ("AWS_ROLE_ARN", "b")) ∧
      ¬ VariablesTakeEffect shopRole twiceContainer c' := by
  have hlast : effective (twiceContainer.injected shopRole).envVars "AWS_ROLE_ARN" =
      some (literal ("AWS_ROLE_ARN", "b")) := by decide
  refine ⟨_, injectAwsIntoAppContainer_eq_ok (by decide) _, hlast, fun h => ?_⟩
  have hfirst := h.effective ("AWS_ROLE_ARN", shopRole.roleArn) (by decide)
  exact absurd (hlast.symm.trans hfirst) (by decide)

end IdentityFederation
