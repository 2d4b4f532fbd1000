import ReactiveForm.CommandLine.Run
import ReactiveForm.Proofs.Config.ReadingBack
import ReactiveForm.Proofs.Config.Setting
import ReactiveForm.Proofs.FileTree.Writing

/-!
# `ReactiveForm.Proofs.CommandLine.Saving` — settings that are changed by commands

A command that changes a setting loads the configuration, changes it and writes it; if one of these fails,
no file is changed. What it has written is what the next command loads, as long as it can be read: a class
name with a line or paragraph separator in it is accepted and written, and then no command can load the
configuration any more.

## Contents
- `Environment.Loads`, what every command loads from the configuration file at a path, and
  `Environment.Saved`, a configuration that has been written there.
- `Environment.files_of_failure`, `Environment.run_set` and `Environment.saved_of_success`, one command;
  `Environment.failure_of_loads_error`, one that finds what it cannot load.
- `Environment.Sets`, commands that change settings one after the other, and `Environment.Sets.saved`.
- `set_transactional`.
-/

namespace ReactiveForm

namespace CommandLine

namespace Environment

variable {env env' : Environment} {path : Path} {s : Settings} {c c' : Config} {key value : String}
  {args : List String}

/-! ## Loading and saving -/

/-- What commands make of the configuration file at a path when they load it, whatever else their options
say. -/
def Loads (env : Environment) (path : Path) (result : Except ConfigFileError Config) : Prop :=
  ∀ s, env.configPath s = .ok path → env.loadConfig s = result

variable {result result' : Except ConfigFileError Config}

theorem loadConfig_eq (hpath : env.configPath s = .ok path) : env.loadConfig s =
    if env.files.contains path then env.readConfig path else .ok {} := by
  unfold loadConfig
  rw [hpath]
  rfl

/-- All commands that use one file load the same configuration. -/
theorem loads_iff (hpath : env.configPath s = .ok path) : env.Loads path result ↔ env.loadConfig s = result :=
  ⟨fun h => h s hpath, fun h s' hs' => by rw [loadConfig_eq hs', ← loadConfig_eq hpath, h]⟩

theorem Loads.unique (h : env.Loads path result) (h' : env.Loads path result') : result = result' := by
  have hpath : env.configPath { config := some path } = .ok path := rfl
  exact (h _ hpath).symm.trans (h' _ hpath)

/-- A configuration that has been written to a path: the file holds its text. Commands that use the file
load the configuration if it can be read, and else fail. -/
structure Saved (env : Environment) (path : Path) (c : Config) : Prop where
  text : env.files.read path = .ok c.text
  loads : c.isReadable = true → env.Loads path (.ok c)
  fails : c.isReadable = false → ∃ place, env.Loads path (.error (.malformed path (.syntaxError place)))

/-- **What has been saved is loaded again if it can be read.** -/
theorem saved_of_saveConfig {files : FileTree} (hpath : env.configPath s = .ok path)
    (h : env.saveConfig s c = .ok files) : Saved { env with files } path c := by
  unfold saveConfig at h
  obtain ⟨path', hpath', h⟩ := bind_eq_ok_iff.mp h
  obtain rfl : path = path' := Except.ok.inj (hpath.symm.trans hpath')
  obtain ⟨held, -, h⟩ := bind_eq_ok_iff.mp h
  have hwrite := mapError_eq_ok_iff.mp h
  have hread := FileTree.read_of_write hwrite
  have hload : Loads { env with files } path ((Config.read c.text).mapError (.malformed path)) := by
    intro s' hs'
    rw [loadConfig_eq hs', if_pos (FileTree.contains_of_write hwrite)]
    unfold readConfig
    simp only [hread]
    rfl
  refine ⟨hread, fun hreadable => ?_, fun hreadable => ?_⟩
  · rw [Config.read_text hreadable] at hload
    exact hload
  · obtain ⟨place, herror⟩ := Config.exists_read_text_eq_error hreadable
    rw [herror] at hload
    exact ⟨place, hload⟩

/-! ## One command -/

/-- **A command that fails changes no file**, whatever it is. -/
theorem files_of_failure (hcode : (run env args).response.code ≠ 0) : (run env args).files = env.files := by
  unfold run at hcode ⊢
  cases hparse : Invocation.parse args with
  | error stop => rfl
  | ok i =>
    simp only [hparse] at hcode ⊢
    unfold Invocation.run at hcode ⊢
    cases hcommand : i.command with
    | query q => rfl
    | config command =>
      simp only [hcommand] at hcode ⊢
      cases hmaintain : env.maintain i.settings command with
      | error e => rfl
      | ok result =>
        -- what is done ends with success
        simp only [hmaintain] at hcode
        exact absurd rfl hcode

/-- What the next command finds. -/
def after (env : Environment) (args : List String) : Environment := { env with files := (run env args).files }

/-- A change succeeds when the configuration has been loaded, changed and saved. -/
theorem set_eq_ok_iff {files : FileTree} : env.set s key value = .ok files ↔
    ∃ c c', env.loadConfig s = .ok c ∧ c.set key value = .ok c' ∧ env.saveConfig s c' = .ok files := by
  unfold set
  simp only [bind_eq_ok_iff, mapError_eq_ok_iff]
  constructor
  · rintro ⟨c, hc, c', hc', h⟩
    exact ⟨c, c', hc, hc', h⟩
  · rintro ⟨c, c', hc, hc', h⟩
    exact ⟨c, hc, c', hc', h⟩

/-- **A command that changes a setting does all or nothing:** it ends with success and the changed files,
or with a failure and the files as they were. -/
theorem run_set (env : Environment) (h : Invocation.parse args = .ok ⟨s, .config (.set key value)⟩) :
    (∃ files, env.set s key value = .ok files ∧ (run env args).files = files ∧
      (run env args).response.code = ExitStatus.success.code) ∨
    (∃ e, env.set s key value = .error e ∧ (run env args).files = env.files ∧
      (run env args).response.code = ExitStatus.failure.code) := by
  have hrun : run env args = Invocation.run env ⟨s, .config (.set key value)⟩ := by
    unfold run
    rw [h]
  have hmaintain : env.maintain s (.set key value) =
      (env.set s key value).map fun files => (.set key value, files) := by
    show (do return (Maintained.set key value, ← env.set s key value)) = _
    cases env.set s key value <;> rfl
  rw [hrun]
  unfold Invocation.run
  simp only [hmaintain]
  cases hset : env.set s key value with
  | ok files => exact .inl ⟨files, rfl, rfl, rfl⟩
  | error e => exact .inr ⟨e, rfl, rfl, rfl⟩

/-- **A change succeeds exactly when the configuration can be loaded, changed and saved.** -/
theorem succeeds_iff (h : Invocation.parse args = .ok ⟨s, .config (.set key value)⟩) :
    (run env args).response.code = 0 ↔ ∃ files c c', env.loadConfig s = .ok c ∧ c.set key value = .ok c' ∧
      env.saveConfig s c' = .ok files := by
  simp only [← set_eq_ok_iff]
  rcases run_set env h with ⟨files, hset, -, hcode⟩ | ⟨e, hset, -, hcode⟩
  · exact ⟨fun _ => ⟨files, hset⟩, fun _ => hcode⟩
  · rw [hcode, hset]
    exact ⟨nofun, nofun⟩

/-- **A change that succeeds is saved:** it is that of the configuration that was loaded. -/
theorem saved_of_success (h : Invocation.parse args = .ok ⟨s, .config (.set key value)⟩)
    (hcode : (run env args).response.code = 0) :
    ∃ path c c', env.configPath s = .ok path ∧ env.Loads path (.ok c) ∧ c.set key value = .ok c' ∧
      (env.after args).Saved path c' := by
  rcases run_set env h with ⟨files, hset, hfiles, -⟩ | ⟨_, -, -, hfail⟩
  · obtain ⟨c, c', hload, hchange, hsave⟩ := set_eq_ok_iff.mp hset
    obtain ⟨path, hpath, -⟩ := bind_eq_ok_iff.mp hload
    refine ⟨path, c, c', hpath, (loads_iff hpath).mpr hload, hchange, ?_⟩
    have hsaved := saved_of_saveConfig hpath hsave
    unfold after
    rw [hfiles]
    exact hsaved
  · rw [hfail] at hcode
    cases hcode

/-- **Once the configuration cannot be loaded, no setting can be changed.** -/
theorem failure_of_loads_error {e : ConfigFileError} (hpath : env.configPath s = .ok path)
    (hload : env.Loads path (.error e)) (h : Invocation.parse args = .ok ⟨s, .config (.set key value)⟩) :
    (run env args).response.code ≠ 0 := by
  intro hcode
  obtain ⟨_, _, _, hc, -⟩ := (succeeds_iff h).mp hcode
  cases (hload s hpath).symm.trans hc

/-! ## Commands one after the other -/

/-- Arguments that ask for a setting to be changed in the configuration file at a path. -/
def Asks (env : Environment) (path : Path) (args : List String) (key value : String) : Prop :=
  ∃ s, Invocation.parse args = .ok ⟨s, .config (.set key value)⟩ ∧ env.configPath s = .ok path

/-- Commands that change settings in the file at a path one after the other, and all succeed: what the
first one finds, the settings with the texts that they are given, and what the last one leaves. -/
inductive Sets (path : Path) : Environment → List (String × String) → Environment → Prop
  | done (env : Environment) : Sets path env [] env
  | set {env env' : Environment} {args : List String} {key value : String}
      {changes : List (String × String)} (asks : env.Asks path args key value)
      (succeeds : (run env args).response.code = 0) (rest : Sets path (env.after args) changes env') :
      Sets path env ((key, value) :: changes) env'

/-- **Changes that succeed one after the other are saved:** had one of them left what cannot be read, the
next would not have succeeded. -/
theorem Sets.saved {changes : List (String × String)} (h : Sets path env changes env') (hne : changes ≠ []) :
    ∃ c c', env.Loads path (.ok c) ∧ Config.ChangedAll changes c c' ∧ env'.Saved path c' := by
  induction h with
  | done => exact absurd rfl hne
  | set asks succeeds rest ih =>
    obtain ⟨s, hparse, hpath⟩ := asks
    obtain ⟨path', c, c₁, hpath', hload, hset, hsaved⟩ := saved_of_success hparse succeeds
    obtain rfl := Except.ok.inj (hpath'.symm.trans hpath)
    have hchanged := Config.set_eq_ok_iff.mp hset
    cases rest with
    | done => exact ⟨c, c₁, hload, .cons hchanged (.nil c₁), hsaved⟩
    | set =>
      obtain ⟨c₂, c', hload₂, hall, hsaved'⟩ := ih (List.cons_ne_nil _ _)
      -- the next command has loaded what this one has saved
      have hreadable : c₁.isReadable = true := by
        by_contra hnot
        obtain ⟨place, hfails⟩ := hsaved.fails (eq_false_of_ne_true hnot)
        cases hfails.unique hload₂
      obtain rfl := Except.ok.inj ((hsaved.loads hreadable).unique hload₂)
      exact ⟨c, c', hload, .cons hchanged hall, hsaved'⟩

end Environment

open Environment Json5

/-- **Changing settings by commands is transactional.** A command that fails changes no file. A command
that changes a setting succeeds exactly when the configuration can be loaded, changed and saved, and then it
has saved the one that differs from what was loaded in that setting only, which has the value that the text
stands for. After any number of commands that succeed, each setting has the value that it was given last.
What has been saved is loaded by every later command, unless a separator stands in one of the class names:
then every later command fails to load it. So nobody is locked out who has no separator in the class names
and gives none. -/
theorem set_transactional (env : Environment) :
    (∀ args, (run env args).response.code ≠ 0 → (run env args).files = env.files) ∧
    (∀ args s key value, Invocation.parse args = .ok ⟨s, .config (.set key value)⟩ →
      ((run env args).response.code = 0 ↔ ∃ files c c', env.loadConfig s = .ok c ∧
        c.set key value = .ok c' ∧ env.saveConfig s c' = .ok files) ∧
      ((run env args).response.code = 0 → ∃ path c c', env.configPath s = .ok path ∧
        env.Loads path (.ok c) ∧ c.set key value = .ok c' ∧ Config.Changed key value c c' ∧
        (env.after args).Saved path c')) ∧
    ∀ path changes env', Sets path env changes env' → changes ≠ [] →
      ∃ c c', env.Loads path (.ok c) ∧ Config.ChangedAll changes c c' ∧ env'.Saved path c' ∧
        (c.isReadable = true → (∀ change ∈ changes, hasSeparator change.2 = false) →
          env'.Loads path (.ok c')) := by
  refine ⟨fun args => files_of_failure, fun args s key value hparse => ⟨succeeds_iff hparse, fun hcode => ?_⟩,
    fun path changes env' hsets hne => ?_⟩
  · obtain ⟨path, c, c', hpath, hload, hset, hsaved⟩ := saved_of_success hparse hcode
    exact ⟨path, c, c', hpath, hload, hset, Config.set_eq_ok_iff.mp hset, hsaved⟩
  · obtain ⟨c, c', hload, hall, hsaved⟩ := hsets.saved hne
    exact ⟨c, c', hload, hall, hsaved, fun hreadable hclean =>
      hsaved.loads (Config.isReadable_of_changedAll hall hreadable hclean)⟩

/-- Where nothing has been saved yet, a key that there is not is refused, and then a class name and a switch
are set one after the other. -/
theorem set_transactional_twice :
    let env : Environment := { home := some "home" }
    let path : Path := ⟨"home/.formfx/config.json"⟩
    let changes := [("classes.hidden", " x "), ("capabilities.switch", "off")]
    (run env ["config", "set", "nope", "1"]).files = env.files ∧
    (∃ path c c', env.configPath {} = .ok path ∧ env.Loads path (.ok c) ∧
      c.set "classes.hidden" " x " = .ok c' ∧ Config.Changed "classes.hidden" " x " c c' ∧
      (env.after ["config", "set", "classes.hidden", " x "]).Saved path c') ∧
    ∃ env', Sets path env changes env' ∧ ∃ c c', env.Loads path (.ok c) ∧
      Config.ChangedAll changes c c' ∧ env'.Saved path c' ∧ env'.Loads path (.ok c') := by
  intro env path changes
  obtain ⟨hfails, hsaves, hall⟩ := set_transactional env
  let args := ["config", "set", "classes.hidden", " x "]
  let more := ["config", "set", "capabilities.switch", "off"]
  have hparse : Invocation.parse args = .ok ⟨{}, .config (.set "classes.hidden" " x ")⟩ := by decide +kernel
  have hmore : Invocation.parse more = .ok ⟨{}, .config (.set "capabilities.switch" "off")⟩ := by
    decide +kernel
  have hcode : (run env args).response.code = 0 := by decide +kernel
  have hpath : env.configPath {} = .ok path := by decide +kernel
  have hdefault : env.Loads path (.ok {}) := (loads_iff hpath).mpr (by decide +kernel)
  -- the first command leaves what the second one loads
  have hcode' : (run (env.after args) more).response.code = 0 := by
    obtain ⟨path', c, c', hpath', hload, hset, hsaved⟩ := saved_of_success hparse hcode
    obtain rfl : path' = path := Except.ok.inj (hpath'.symm.trans hpath)
    obtain rfl : c = {} := Except.ok.inj (hload.unique hdefault)
    obtain rfl := Except.ok.inj hset
    obtain ⟨files, hfiles⟩ : ∃ files, (env.after args).saveConfig {}
        { classes := { hidden := "x" }, capabilities := { switches := false } } = .ok files :=
      isNone_error?_iff.mp (by decide +kernel)
    exact (succeeds_iff hmore).mpr
      ⟨files, _, _, hsaved.loads (by decide +kernel) {} hpath, by decide +kernel, hfiles⟩
  have hsets : Sets path env changes ((env.after args).after more) :=
    .set ⟨{}, hparse, hpath⟩ hcode (.set ⟨{}, hmore, hpath⟩ hcode' (.done _))
  obtain ⟨c, c', hload, hchanged, hsaved, hloads⟩ := hall _ _ _ hsets (List.cons_ne_nil _ _)
  obtain rfl : c = {} := Except.ok.inj (hload.unique hdefault)
  exact ⟨hfails _ (by decide +kernel), (hsaves _ _ _ _ hparse).2 hcode, _, hsets, _, c', hload, hchanged,
    hsaved, hloads (by decide +kernel) (by decide +kernel)⟩

/-- A class name with a line separator in it is saved, and then no command can load the configuration, nor
change it. -/
theorem separator_locks_out :
    let env : Environment := { home := some "home" }
    let path : Path := ⟨"home/.formfx/config.json"⟩
    let args := ["config", "set", "classes.hidden", "a\u2028b"]
    (run env args).response.code = 0 ∧
    (∃ place, (env.after args).Loads path (.error (.malformed path (.syntaxError place)))) ∧
    ∀ more key value, (env.after args).Asks path more key value →
      (run (env.after args) more).response.code ≠ 0 := by
  intro env path args
  have hcode : (run env args).response.code = 0 := by decide +kernel
  have hparse : Invocation.parse args = .ok ⟨{}, .config (.set "classes.hidden" "a\u2028b")⟩ := by
    decide +kernel
  obtain ⟨path', c, c', hpath, hload, hset, hsaved⟩ := saved_of_success hparse hcode
  obtain rfl : path' = path := Except.ok.inj (hpath.symm.trans (by decide +kernel))
  obtain rfl : c = {} := Except.ok.inj (hload.unique ((loads_iff hpath).mpr (by decide +kernel)))
  obtain rfl := Except.ok.inj hset
  obtain ⟨place, hfails⟩ := hsaved.fails (by decide +kernel)
  exact ⟨hcode, ⟨place, hfails⟩, fun more key value ⟨s, hmore, hs⟩ => failure_of_loads_error hs hfails hmore⟩

end CommandLine

end ReactiveForm
