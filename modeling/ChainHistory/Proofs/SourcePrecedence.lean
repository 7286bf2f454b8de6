import ChainHistory.Proofs.AssocLookup
import ChainHistory.Settings.Environment

/-! Whatever is set is left as it is, so that each of the three places that variables come from counts
before those that are read after it. -/

namespace ChainHistory.Settings

/-- The assignments that have a value. -/
def given (assignments : List (String × Option String)) : Variables :=
  assignments.filterMap fun a => a.2.map (a.1, ·)

/-- Those of the configuration's own variables that stand in the file. -/
def own (values : Variables) : Variables :=
  configKeys.filterMap fun key => (values.lookup key).map (key, ·)

/-- Sets variables one after the other, those that are not set. -/
def setAll (ds : Variables) (env : Variables) : Except LoadError Variables :=
  ds.foldlM (fun env d => setNew d.1 d.2 env) env

/-- A name and a value without the character that ends texts in the process. -/
def NoNull (d : String × String) : Prop := '\x00' ∉ d.1.toList ++ d.2.toList

/-- The variable has a name that can be set, or is set and need not be. -/
def Settable (env : Variables) (d : String × String) : Prop :=
  '=' ∈ d.1.toList → (env.lookup d.1).isSome = true

instance : DecidablePred NoNull := fun d =>
  inferInstanceAs (Decidable ('\x00' ∉ d.1.toList ++ d.2.toList))

instance (env : Variables) : DecidablePred (Settable env) := fun d =>
  inferInstanceAs (Decidable ('=' ∈ d.1.toList → (env.lookup d.1).isSome = true))

theorem applyAssignments_eq (assignments : List (String × Option String)) (env : Variables) :
    applyAssignments assignments env = setAll (given assignments) env := by
  rw [setAll, given, List.foldlM_filterMap, applyAssignments]
  refine congrArg (fun f => List.foldlM f env assignments) ?_
  funext env a
  cases a.2 <;> rfl

theorem applyConfig_eq (values env : Variables) :
    applyConfig values env = setAll (own values) env := by
  rw [setAll, own, List.foldlM_filterMap, applyConfig]
  refine congrArg (fun f => List.foldlM f env configKeys) ?_
  funext env key
  cases values.lookup key <;> rfl

section Set

variable {d : String × String} {ds env : Variables}

theorem setNew_of_settable (hnull : NoNull d) (h : Settable env d) :
    setNew d.1 d.2 env = .ok (Assoc.putNew d.1 d.2 env) := by
  rw [setNew, Assoc.putNew]
  split
  · rfl
  · rename_i hset
    rw [if_neg hnull, if_neg fun hname => hset (h hname)]

theorem setNew_of_not_settable (hnull : NoNull d) (h : ¬ Settable env d) :
    setNew d.1 d.2 env = .error .illegalName := by
  obtain ⟨hname, hset⟩ := Classical.not_imp.mp h
  rw [setNew, if_neg hset, if_neg hnull, if_pos hname]

/-- Setting a variable that can be set changes nothing about which others can be. -/
theorem settable_putNew_iff {d' : String × String} (h : Settable env d) :
    Settable (Assoc.putNew d.1 d.2 env) d' ↔ Settable env d' := by
  unfold Settable
  rw [Assoc.lookup_putNew, Assoc.lookup_pair]
  by_cases hname : d'.1 = d.1
  · rw [Settable, ← hname] at h
    rw [if_pos hname, Option.or_some]
    exact ⟨fun _ => h, fun _ _ => rfl⟩
  · rw [if_neg hname, Option.or_none]

theorem setAll_cons (hnull : NoNull d) (h : Settable env d) :
    setAll (d :: ds) env = setAll ds (Assoc.putNew d.1 d.2 env) := by
  rw [setAll, List.foldlM_cons, setNew_of_settable hnull h]
  rfl

/-- Variables that can be set count behind those that are. -/
theorem setAll_of_settable (hnull : ∀ d ∈ ds, NoNull d) (h : ∀ d ∈ ds, Settable env d) :
    ∃ after, setAll ds env = .ok after ∧
      ∀ key, after.lookup key = (env.lookup key).or (ds.lookup key) := by
  induction ds generalizing env with
  | nil => exact ⟨env, rfl, fun key => Option.or_none.symm⟩
  | cons d ds ih =>
    obtain ⟨hnull, hnulls⟩ := List.forall_mem_cons.mp hnull
    obtain ⟨hd, hds⟩ := List.forall_mem_cons.mp h
    have hrest : ∀ d' ∈ ds, Settable (Assoc.putNew d.1 d.2 env) d' := fun d' hd' =>
      (settable_putNew_iff hd).mpr (hds d' hd')
    obtain ⟨after, hafter, hlookup⟩ := ih hnulls hrest
    refine ⟨after, (setAll_cons hnull hd).trans hafter, fun key => ?_⟩
    rw [hlookup, Assoc.lookup_putNew, Option.or_assoc, ← List.lookup_append]
    rfl

theorem setAll_of_not_settable (hnull : ∀ d ∈ ds, NoNull d) (h : ∃ d ∈ ds, ¬ Settable env d) :
    setAll ds env = .error .illegalName := by
  induction ds generalizing env with
  | nil =>
    obtain ⟨d, hd, -⟩ := h
    exact absurd hd List.not_mem_nil
  | cons d ds ih =>
    obtain ⟨hnull, hnulls⟩ := List.forall_mem_cons.mp hnull
    by_cases hd : Settable env d
    · -- The one that fails comes later, and fails as well once this one is set.
      obtain ⟨d', hd', hnot⟩ := h
      have hmem : d' ∈ ds := by
        rcases List.mem_cons.mp hd' with rfl | hmem
        · exact absurd hd hnot
        · exact hmem
      rw [setAll_cons hnull hd]
      exact ih hnulls ⟨d', hmem, fun hset => hnot ((settable_putNew_iff hd).mp hset)⟩
    · rw [setAll, List.foldlM_cons, setNew_of_not_settable hnull hd]
      rfl

end Set

theorem lookup_filterMap_keys (f : String → Option String) (keys : List String) (k : String) :
    (keys.filterMap fun key => (f key).map (key, ·)).lookup k = if k ∈ keys then f k else none := by
  induction keys with
  | nil => rfl
  | cons key keys ih =>
    cases hf : f key with
    | none =>
      simp only [List.filterMap_cons, hf, Option.map_none, ih, List.mem_cons]
      by_cases hk : k = key
      · rw [hk, hf, ite_self, ite_self]
      · rw [if_congr (or_iff_right hk) rfl rfl]
    | some v =>
      simp only [List.filterMap_cons, hf, Option.map_some, List.lookup_cons, ih, List.mem_cons]
      by_cases hk : k = key
      · rw [hk, beq_self_eq_true, if_pos (Or.inl rfl), hf]
      · rw [beq_false_of_ne hk, if_congr (or_iff_right hk) rfl rfl]

theorem lookup_own (values : Variables) (key : String) :
    (own values).lookup key = if key ∈ configKeys then values.lookup key else none :=
  lookup_filterMap_keys (fun key => values.lookup key) configKeys key

theorem configFile_congr {env env' : Variables}
    (h : env.lookup "CONFIG_DIR" = env'.lookup "CONFIG_DIR") (t : FileTree) (cwd : Path) :
    configFile t cwd env = configFile t cwd env' := by
  rw [configFile, configFile, h]

/-- What is set in the end, as the three places have it. -/
structure Layered (process assigned values after : Variables) : Prop where
  own : ∀ key ∈ configKeys,
    after.lookup key = ((process.lookup key).or (assigned.lookup key)).or (values.lookup key)
  other : ∀ key ∉ configKeys, after.lookup key = (process.lookup key).or (assigned.lookup key)
  kept : ∀ key value, process.lookup key = some value → after.lookup key = some value

theorem layered_of_lookup {process assigned values env after : Variables}
    (henv : ∀ key, env.lookup key = (process.lookup key).or (assigned.lookup key))
    (hafter : ∀ key, after.lookup key = (env.lookup key).or ((own values).lookup key)) :
    Layered process assigned values after where
  own key hkey := by rw [hafter, henv, lookup_own, if_pos hkey]
  other key hkey := by rw [hafter, henv, lookup_own, if_neg hkey, Option.or_none]
  kept key value h := by rw [hafter, henv, h, Option.some_or, Option.some_or]

/-- The configuration's own variables have names that can be set. -/
theorem setAll_own {values : Variables} (hnull : ∀ d ∈ values, NoNull d) (env : Variables) :
    ∃ after, setAll (own values) env = .ok after ∧
      ∀ key, after.lookup key = (env.lookup key).or ((own values).lookup key) := by
  have hkeys : ∀ key ∈ configKeys, '=' ∉ key.toList := by decide
  have hmem : ∀ d ∈ own values, d.1 ∈ configKeys ∧ d ∈ values := by
    intro d hd
    obtain ⟨key, hkey, hvalue⟩ := List.mem_filterMap.mp hd
    obtain ⟨v, hv, rfl⟩ := Option.map_eq_some_iff.mp hvalue
    exact ⟨hkey, Assoc.mem_of_lookup hv⟩
  exact setAll_of_settable (fun d hd => hnull d (hmem d hd).2)
    fun d hd hname => absurd hname (hkeys d.1 (hmem d hd).1)

/-- The process counts before the assignments and these before the configuration file, which sets
the configuration's own variables only. Nothing fails but a name that cannot be set, which the
assignments alone may hold. -/
theorem load_layered {t : FileTree} {cwd : Path} {process values : Variables}
    {assignments : List (String × Option String)}
    (hassignments : readAssignments t cwd process = .ok assignments)
    (hvalues : readConfig t cwd (configFile t cwd (process ++ given assignments)) = .ok values)
    (hnull : ∀ d ∈ given assignments ++ values, NoNull d) :
    ((∀ d ∈ given assignments, Settable process d) →
      ∃ e, Environment.load t cwd process = .ok e ∧ e.configValues = values ∧
        Layered process (given assignments) values e.vars) ∧
    ((∃ d ∈ given assignments, ¬ Settable process d) →
      Environment.load t cwd process = .error .illegalName) := by
  obtain ⟨hgiven, hfile⟩ := List.forall_mem_append.mp hnull
  have hload : Environment.load t cwd process = (do
      let env ← setAll (given assignments) process
      let values ← readConfig t cwd (configFile t cwd env)
      let after ← setAll (own values) env
      return ⟨after, Path.resolve cwd (configFile t cwd env), values⟩) := by
    simp only [Environment.load, hassignments, applyAssignments_eq, applyConfig_eq]
    rfl
  constructor
  · intro hsettable
    obtain ⟨env, henv, hlookup⟩ := setAll_of_settable hgiven hsettable
    obtain ⟨after, hafter, hlookup'⟩ := setAll_own hfile env
    -- The file is where the assignments say, unless the process says where it is.
    have hconfig : configFile t cwd env = configFile t cwd (process ++ given assignments) :=
      configFile_congr (by rw [hlookup, List.lookup_append]) t cwd
    have hok : Environment.load t cwd process =
        .ok ⟨after, Path.resolve cwd (configFile t cwd env), values⟩ := by
      rw [hload, henv]
      simp only [bind, Except.bind, pure, Except.pure, hconfig, hvalues, hafter]
    exact ⟨_, hok, rfl, layered_of_lookup hlookup hlookup'⟩
  · intro hnot
    rw [hload, setAll_of_not_settable hgiven hnot]
    rfl

/-- Assignments and a configuration file in one directory. -/
def overlappingSources : FileTree where
  files := [
    (["srv", "etc", ".env"], Text.Utf8.encode
      "CHAINS=a:tx\nexport UPSTREAM_TOKEN=\"t\"\nPATH=/bin\nLOG_DIR\n".toList),
    (["srv", "etc", "config.yaml"], Text.Utf8.encode
      "CHAINS: b:tx\nUPSTREAM_TOKEN: u\nTX_PER_PAGE: 5\nPATH: /x\nHOME: /y\n".toList)]

/-- An empty variable is set, an assignment without a value sets nothing, and a key that is not the
configuration's own stays in the file. -/
theorem load_layered_overlapping :
    ∃ e, Environment.load overlappingSources ["srv"] [("CONFIG_DIR", "etc"), ("CHAINS", "")] =
        .ok e ∧
      e.vars.lookup "CHAINS" = some "" ∧ e.vars.lookup "UPSTREAM_TOKEN" = some "t" ∧
      e.vars.lookup "TX_PER_PAGE" = some "5" ∧ e.vars.lookup "LOG_DIR" = none ∧
      e.vars.lookup "PATH" = some "/bin" ∧ e.vars.lookup "HOME" = none := by
  have hassignments : readAssignments overlappingSources ["srv"]
      [("CONFIG_DIR", "etc"), ("CHAINS", "")] = .ok [("CHAINS", some "a:tx"),
        ("UPSTREAM_TOKEN", some "t"), ("PATH", some "/bin"), ("LOG_DIR", none)] := by
    decide +kernel
  have hvalues : readConfig overlappingSources ["srv"] "etc/config.yaml" = .ok [("CHAINS", "b:tx"),
      ("UPSTREAM_TOKEN", "u"), ("TX_PER_PAGE", "5"), ("PATH", "/x"), ("HOME", "/y")] := by
    decide +kernel
  obtain ⟨e, hload, -, hlayers⟩ := (load_layered hassignments hvalues (by decide)).1 (by decide)
  exact ⟨e, hload, hlayers.own "CHAINS" (by decide), hlayers.own "UPSTREAM_TOKEN" (by decide),
    hlayers.own "TX_PER_PAGE" (by decide), hlayers.own "LOG_DIR" (by decide),
    hlayers.other "PATH" (by decide), hlayers.other "HOME" (by decide)⟩

end ChainHistory.Settings
