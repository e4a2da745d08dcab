import QECompiler.Config.QEConfig

/-! Builder stages as ordered overlays, the design `QEConfigBuilder` states for
them ("This may layer on top of existing configuration settings"). What a stage
knows is a partial configuration, an `Overlay`; applying it takes the overlay's
value for every field it has one for, keeps the base's value elsewhere, and
appends to the plugin lists. Proved: applying two overlays in turn is applying
their merge, in which the later one wins field by field; fields outside the
overlay keep the base's value. The builders are shown to be overlays in the
modules that model them. -/

namespace QECompiler.Config

/-- A partial configuration: a value for each field a builder stage has
information for. -/
structure Overlay where
  targetName : Option String := none
  targetConfigPath : Option String := none
  inputType : Option InputType := none
  emitAction : Option EmitAction := none
  verbosityLevel : Option QEVerbosity := none
  maxThreads : Option UInt32 := none
  flags : Flag → Option Bool := fun _ => none
  passPlugins : List String := []
  dialectPlugins : List String := []
  optFlags : OptFlag → Option Bool := fun _ => none
  emitBytecodeVersion : Option Int := none
  irdlFileFlag : Option String := none

namespace QEConfig

/-- Every feature flag set at once. -/
def withFlags (c : QEConfig) (g : Flag → Bool) : QEConfig :=
  { c with
    addTargetPassesFlag := g .addTargetPasses
    showTargetsFlag := g .showTargets
    showPayloadsFlag := g .showPayloads
    showConfigFlag := g .showConfig
    emitPlaintextPayloadFlag := g .emitPlaintextPayload
    includeSourceFlag := g .includeSource
    compileTargetIRFlag := g .compileTargetIR
    bypassPayloadTargetCompilationFlag := g .bypassPayloadTargetCompilation }

/-- Every `mlir-opt` flag set at once. -/
def withOptFlags (c : QEConfig) (g : OptFlag → Bool) : QEConfig :=
  { c with
    allowUnregisteredDialectsFlag := g .allowUnregisteredDialects
    dumpPassPipelineFlag := g .dumpPassPipeline
    enableDebuggerActionHookFlag := g .enableDebuggerActionHook
    useExplicitModuleFlag := g .useExplicitModule
    runReproducerFlag := g .runReproducer
    showDialectsFlag := g .showDialects
    splitInputFileFlag := g .splitInputFile
    verifyDiagnosticsFlag := g .verifyDiagnostics
    verifyPassesFlag := g .verifyPasses
    verifyRoundtripFlag := g .verifyRoundtrip }

@[simp] theorem flag_withFlags (c : QEConfig) (g : Flag → Bool) (f : Flag) :
    (c.withFlags g).flag f = g f := by
  cases f <;> rfl

@[simp] theorem optFlag_withOptFlags (c : QEConfig) (g : OptFlag → Bool) (f : OptFlag) :
    (c.withOptFlags g).optFlag f = g f := by
  cases f <;> rfl

end QEConfig

namespace Overlay

/-- Lay the overlay over `c`. -/
def apply (o : Overlay) (c : QEConfig) : QEConfig :=
  { (c.withFlags fun f => (o.flags f).getD (c.flag f)).withOptFlags
      fun f => (o.optFlags f).getD (c.optFlag f) with
    targetName := o.targetName.or c.targetName
    targetConfigPath := o.targetConfigPath.or c.targetConfigPath
    inputType := o.inputType.getD c.inputType
    emitAction := o.emitAction.getD c.emitAction
    verbosityLevel := o.verbosityLevel.getD c.verbosityLevel
    maxThreads := o.maxThreads.or c.maxThreads
    passPlugins := c.passPlugins ++ o.passPlugins
    dialectPlugins := c.dialectPlugins ++ o.dialectPlugins
    emitBytecodeVersion := o.emitBytecodeVersion.or c.emitBytecodeVersion
    irdlFileFlag := o.irdlFileFlag.getD c.irdlFileFlag }

/-- `o₂` laid over `o₁`: the later overlay's value wins where it has one. -/
def merge (o₁ o₂ : Overlay) : Overlay where
  targetName := o₂.targetName.or o₁.targetName
  targetConfigPath := o₂.targetConfigPath.or o₁.targetConfigPath
  inputType := o₂.inputType.or o₁.inputType
  emitAction := o₂.emitAction.or o₁.emitAction
  verbosityLevel := o₂.verbosityLevel.or o₁.verbosityLevel
  maxThreads := o₂.maxThreads.or o₁.maxThreads
  flags f := (o₂.flags f).or (o₁.flags f)
  passPlugins := o₁.passPlugins ++ o₂.passPlugins
  dialectPlugins := o₁.dialectPlugins ++ o₂.dialectPlugins
  optFlags f := (o₂.optFlags f).or (o₁.optFlags f)
  emitBytecodeVersion := o₂.emitBytecodeVersion.or o₁.emitBytecodeVersion
  irdlFileFlag := o₂.irdlFileFlag.or o₁.irdlFileFlag

section Fields

variable (o : Overlay) (c : QEConfig)

@[simp] theorem apply_targetName : (o.apply c).targetName = o.targetName.or c.targetName := rfl
@[simp] theorem apply_targetConfigPath :
    (o.apply c).targetConfigPath = o.targetConfigPath.or c.targetConfigPath := rfl
@[simp] theorem apply_inputType : (o.apply c).inputType = o.inputType.getD c.inputType := rfl
@[simp] theorem apply_emitAction : (o.apply c).emitAction = o.emitAction.getD c.emitAction := rfl
@[simp] theorem apply_verbosityLevel :
    (o.apply c).verbosityLevel = o.verbosityLevel.getD c.verbosityLevel := rfl
@[simp] theorem apply_maxThreads : (o.apply c).maxThreads = o.maxThreads.or c.maxThreads := rfl
@[simp] theorem apply_flag (f : Flag) : (o.apply c).flag f = (o.flags f).getD (c.flag f) := by
  cases f <;> rfl
@[simp] theorem apply_optFlag (f : OptFlag) :
    (o.apply c).optFlag f = (o.optFlags f).getD (c.optFlag f) := by
  cases f <;> rfl
@[simp] theorem apply_passPlugins : (o.apply c).passPlugins = c.passPlugins ++ o.passPlugins := rfl
@[simp] theorem apply_dialectPlugins :
    (o.apply c).dialectPlugins = c.dialectPlugins ++ o.dialectPlugins := rfl
@[simp] theorem apply_emitBytecodeVersion :
    (o.apply c).emitBytecodeVersion = o.emitBytecodeVersion.or c.emitBytecodeVersion := rfl
@[simp] theorem apply_irdlFileFlag : (o.apply c).irdlFileFlag = o.irdlFileFlag.getD c.irdlFileFlag :=
  rfl

/-- The fields no builder stage has information for keep the base's value. -/
theorem apply_frame :
    (o.apply c).payloadName = c.payloadName ∧ (o.apply c).emitBytecodeFlag = c.emitBytecodeFlag :=
  ⟨rfl, rfl⟩

end Fields

/-- The empty overlay changes nothing. -/
@[simp] theorem apply_empty (c : QEConfig) : ({} : Overlay).apply c = c := by
  simp only [apply, QEConfig.withFlags, QEConfig.withOptFlags, QEConfig.flag, QEConfig.optFlag,
    Option.getD_none, Option.none_or, List.append_nil]

/-- An overlay with values for the scalar fields only changes those fields. -/
theorem apply_scalar (targetName targetConfigPath : Option String)
    (verbosityLevel : Option QEVerbosity) (maxThreads : Option UInt32) (c : QEConfig) :
    ({ targetName, targetConfigPath, verbosityLevel, maxThreads } : Overlay).apply c =
      { c with
        targetName := targetName.or c.targetName
        targetConfigPath := targetConfigPath.or c.targetConfigPath
        verbosityLevel := verbosityLevel.getD c.verbosityLevel
        maxThreads := maxThreads.or c.maxThreads } := by
  simp only [apply, QEConfig.withFlags, QEConfig.withOptFlags, QEConfig.flag, QEConfig.optFlag,
    Option.getD_none, Option.none_or, List.append_nil]

theorem getD_or {α : Type} (a b : Option α) (x : α) : (a.or b).getD x = a.getD (b.getD x) := by
  cases a <;> rfl

/-- Laying `o₁` and then `o₂` over a configuration lays their merge over it. -/
theorem apply_apply (o₁ o₂ : Overlay) (c : QEConfig) :
    o₂.apply (o₁.apply c) = (o₁.merge o₂).apply c := by
  simp only [apply, merge, QEConfig.withFlags, QEConfig.withOptFlags, QEConfig.flag,
    QEConfig.optFlag, getD_or, Option.or_assoc, List.append_assoc]

end Overlay

end QECompiler.Config
