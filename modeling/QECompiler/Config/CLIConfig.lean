import QECompiler.Config.CLIOptions

/-! The CLI builder (`CLIConfigBuilder.cpp`). `populateConfig(config)` copies the
option singleton into the caller's configuration; `populateConfig(config, in, out)`
then resolves the input kind and the emit action on the singleton itself and
copies them over, an `EStateM` computation over the pair whose result is the
warnings printed. Proved: the one-argument call is the singleton's overlay, which
carries every boolean flag; the three-argument call fails exactly on an
undetectable input, changing neither kind, and otherwise leaves a detected emit
action and the warnings `computeOutputType` prints. -/

namespace QECompiler.Config

namespace QEConfigCLOptions

variable (extensions : List (String × FileExtension))

/-- `computeInputType`: when no kind is set, bytecode if the (`mlir-opt`)
emit-bytecode flag is set, else the kind of the input's extension; it fails when
that is `Undetected` and the input is not standard input. -/
def computeInputType (inputFilename : String) : EStateM String QEConfigCLOptions Unit := fun cl =>
  if cl.inputType = .Undetected then
    let cl := if cl.emitBytecodeFlag then { cl with inputType := .Bytecode }
      else { cl with inputType := fileExtensionToInputType (getExtension extensions inputFilename) }
    if inputFilename ≠ "-" ∧ cl.inputType = .Undetected then
      .error "Unable to autodetect file extension type! Please specify the input type with -X" cl
    else .ok () cl
  else .ok () cl

/-- `computeOutputType`: when no action is set, MLIR for standard output, else the
action of the output's extension, or MLIR with a warning when the extension names
none; a set action is kept, with a warning when the extension disagrees. -/
def computeOutputType (outputFilename : String) :
    EStateM String QEConfigCLOptions (List String) := fun cl =>
  if outputFilename ≠ "-" then
    let extensionAction := fileExtensionToAction (getExtension extensions outputFilename)
    if extensionAction = .Undetected ∧ cl.emitAction = .Undetected then
      .ok ["Cannot determine the file extension of the specified output file " ++ outputFilename ++
        " defaulting to dumping MLIR\n"] { cl with emitAction := .MLIR }
    else if cl.emitAction = .Undetected then .ok [] { cl with emitAction := extensionAction }
    else if extensionAction ≠ cl.emitAction then
      .ok ["Warning! The output type in the file extension doesn\x27t match the output type " ++
        "specified by --emit!\n"] cl
    else .ok [] cl
  else if cl.emitAction = .Undetected then .ok [] { cl with emitAction := .MLIR }
  else .ok [] cl

/-- The input kind `computeInputType` settles on. -/
def resolvedInputType (cl : QEConfigCLOptions) (inputFilename : String) : InputType :=
  if cl.inputType ≠ .Undetected then cl.inputType
  else if cl.emitBytecodeFlag then .Bytecode
  else fileExtensionToInputType (getExtension extensions inputFilename)

/-- The emit action `computeOutputType` settles on. -/
def resolvedEmitAction (cl : QEConfigCLOptions) (outputFilename : String) : EmitAction :=
  if cl.emitAction ≠ .Undetected then cl.emitAction
  else if outputFilename = "-" then .MLIR
  else if fileExtensionToAction (getExtension extensions outputFilename) = .Undetected then .MLIR
  else fileExtensionToAction (getExtension extensions outputFilename)

/-- Whether the input kind cannot be resolved, the one failure of the call. -/
def inputUndetectable (cl : QEConfigCLOptions) (inputFilename : String) : Prop :=
  inputFilename ≠ "-" ∧ resolvedInputType extensions cl inputFilename = .Undetected

instance (cl : QEConfigCLOptions) (inputFilename : String) :
    Decidable (inputUndetectable extensions cl inputFilename) :=
  inferInstanceAs (Decidable (_ ∧ _))

/-- The warnings `computeOutputType` prints for a file: that its extension names no
action when none is set, or that it disagrees with the action set. -/
def outputWarnings (cl : QEConfigCLOptions) (outputFilename : String) : List String :=
  if outputFilename = "-" then []
  else if cl.emitAction = .Undetected then
    if fileExtensionToAction (getExtension extensions outputFilename) = .Undetected then
      ["Cannot determine the file extension of the specified output file " ++ outputFilename ++
        " defaulting to dumping MLIR\n"]
    else []
  else if fileExtensionToAction (getExtension extensions outputFilename) = cl.emitAction then []
  else ["Warning! The output type in the file extension doesn\x27t match the output type " ++
    "specified by --emit!\n"]

/-- `computeInputType` either fails, leaving the singleton as it was, or records
the resolved kind. -/
theorem computeInputType_eq (cl : QEConfigCLOptions) (inputFilename : String) :
    computeInputType extensions inputFilename cl =
      if inputUndetectable extensions cl inputFilename then
        .error "Unable to autodetect file extension type! Please specify the input type with -X" cl
      else .ok () { cl with inputType := resolvedInputType extensions cl inputFilename } := by
  unfold computeInputType inputUndetectable resolvedInputType
  by_cases hu : cl.inputType = .Undetected
  · have heta : { cl with inputType := .Undetected } = cl := by rw [← hu]
    by_cases hb : cl.emitBytecodeFlag <;> simp only [hu, hb, ne_eq, not_true_eq_false, if_false,
      if_true, Bool.false_eq_true, reduceCtorEq, and_false]
    split_ifs <;> simp_all
  · simp [hu]

theorem resolvedEmitAction_ne (cl : QEConfigCLOptions) (outputFilename : String) :
    resolvedEmitAction extensions cl outputFilename ≠ .Undetected := by
  unfold resolvedEmitAction
  split_ifs <;> simp_all

/-- `computeOutputType` never fails: it records the resolved action and prints its
warnings. -/
theorem computeOutputType_eq (cl : QEConfigCLOptions) (outputFilename : String) :
    computeOutputType extensions outputFilename cl =
      .ok (outputWarnings extensions cl outputFilename)
        { cl with emitAction := resolvedEmitAction extensions cl outputFilename } := by
  unfold computeOutputType resolvedEmitAction outputWarnings
  split_ifs <;> simp_all

end QEConfigCLOptions

namespace CLIConfigBuilder

open QEConfigCLOptions

variable (extensions : List (String × FileExtension))

/-- `populateConfig(config)`: the optional settings where the singleton has them,
every flag and the IRDL file as the singleton holds them, the plugin paths
appended. The debug configuration and pass-pipeline callback it also copies are
not modelled. It always returns success. -/
def populateConfig (cl : QEConfigCLOptions) (config : QEConfig) : QEConfig :=
  { config with
    verbosityLevel :=
      if cl.verbosityLevel ≠ ._VerbosityCnt then cl.verbosityLevel else config.verbosityLevel
    -- qe
    targetName := if cl.targetName.isSome then cl.targetName else config.targetName
    targetConfigPath :=
      if cl.targetConfigPath.isSome then cl.targetConfigPath else config.targetConfigPath
    addTargetPassesFlag := cl.addTargetPassesFlag
    showTargetsFlag := cl.showTargetsFlag
    showPayloadsFlag := cl.showPayloadsFlag
    showConfigFlag := cl.showConfigFlag
    emitPlaintextPayloadFlag := cl.emitPlaintextPayloadFlag
    includeSourceFlag := cl.includeSourceFlag
    compileTargetIRFlag := cl.compileTargetIRFlag
    bypassPayloadTargetCompilationFlag := cl.bypassPayloadTargetCompilationFlag
    passPlugins := config.passPlugins ++ cl.passPlugins
    dialectPlugins := config.dialectPlugins ++ cl.dialectPlugins
    maxThreads := if cl.maxThreads.isSome then cl.maxThreads else config.maxThreads
    -- opt
    allowUnregisteredDialectsFlag := cl.allowUnregisteredDialectsFlag
    dumpPassPipelineFlag := cl.dumpPassPipelineFlag
    emitBytecodeVersion :=
      if cl.emitBytecodeVersion.isSome then cl.emitBytecodeVersion else config.emitBytecodeVersion
    irdlFileFlag := cl.irdlFileFlag
    enableDebuggerActionHookFlag := cl.enableDebuggerActionHookFlag
    useExplicitModuleFlag := cl.useExplicitModuleFlag
    runReproducerFlag := cl.runReproducerFlag
    showDialectsFlag := cl.showDialectsFlag
    verifyDiagnosticsFlag := cl.verifyDiagnosticsFlag
    verifyPassesFlag := cl.verifyPassesFlag
    verifyRoundtripFlag := cl.verifyRoundtripFlag
    splitInputFileFlag := cl.splitInputFileFlag }

/-- `populateConfig(config, inputFilename, outputFilename)` over the singleton and
the caller's configuration; the result is the warnings printed. -/
def populateConfigFiles (inputFilename outputFilename : String) :
    EStateM String (QEConfigCLOptions × QEConfig) (List String) := fun (cl, config) =>
  let config := populateConfig cl config
  match computeInputType extensions inputFilename cl with
  | .error e cl => .error e (cl, config)
  | .ok () cl =>
    let config := { config with inputType := cl.inputType }
    match computeOutputType extensions outputFilename cl with
    | .error e cl => .error e (cl, config)
    | .ok warnings cl => .ok warnings (cl, { config with emitAction := cl.emitAction })

/-! ### The one-argument call is an overlay -/

/-- What the singleton says about a configuration, as `populateConfig` copies it:
the optional settings where they are set, every flag and the IRDL file
always. -/
def cliOverlay (cl : QEConfigCLOptions) : Overlay where
  targetName := cl.targetName
  targetConfigPath := cl.targetConfigPath
  verbosityLevel := if cl.verbosityLevel ≠ ._VerbosityCnt then some cl.verbosityLevel else none
  maxThreads := cl.maxThreads
  flags f := some (cl.flag f)
  passPlugins := cl.passPlugins
  dialectPlugins := cl.dialectPlugins
  optFlags f := some (cl.optFlag f)
  emitBytecodeVersion := cl.emitBytecodeVersion
  irdlFileFlag := some cl.irdlFileFlag

theorem ite_isSome {α : Type} (o o' : Option α) : (if o.isSome then o else o') = o.or o' := by
  cases o <;> rfl

/-- `populateConfig(config)` lays the singleton's overlay over `config`. -/
theorem populateConfig_eq_apply (cl : QEConfigCLOptions) (c : QEConfig) :
    populateConfig cl c = (cliOverlay cl).apply c := by
  simp only [populateConfig, cliOverlay, Overlay.apply, QEConfig.withFlags, QEConfig.withOptFlags,
    QEConfig.flag, QEConfig.optFlag, Option.getD_none, Option.getD_some, ite_isSome]
  split_ifs <;> rfl

/-- A second `populateConfig(config)` from the same singleton changes nothing but
appending the singleton's plugin paths once more. -/
theorem populateConfig_populateConfig (cl : QEConfigCLOptions) (c : QEConfig) :
    populateConfig cl (populateConfig cl c) =
      { populateConfig cl c with
        passPlugins := (populateConfig cl c).passPlugins ++ cl.passPlugins
        dialectPlugins := (populateConfig cl c).dialectPlugins ++ cl.dialectPlugins } := by
  simp only [populateConfig_eq_apply, Overlay.apply_apply]
  simp only [Overlay.apply, Overlay.merge, cliOverlay, Option.or_self, QEConfig.withFlags,
    QEConfig.withOptFlags, QEConfig.flag, QEConfig.optFlag, Option.getD_some, List.append_assoc]

/-! ### The three-argument call -/

/-- The call fails exactly when the input kind cannot be resolved, and then the
configuration holds the one-argument overlay and the singleton is unchanged. -/
theorem populateConfigFiles_error {cl : QEConfigCLOptions} {inputFilename : String}
    (h : inputUndetectable extensions cl inputFilename) (c : QEConfig) (outputFilename : String) :
    populateConfigFiles extensions inputFilename outputFilename (cl, c) =
      .error "Unable to autodetect file extension type! Please specify the input type with -X"
        (cl, populateConfig cl c) := by
  simp only [populateConfigFiles, computeInputType_eq, if_pos h]

/-- Otherwise it succeeds with the warnings of `computeOutputType`: both the
singleton and the configuration get the resolved kinds, and the configuration's
own kinds are overwritten. -/
theorem populateConfigFiles_ok {cl : QEConfigCLOptions} {inputFilename : String}
    (h : ¬inputUndetectable extensions cl inputFilename) (c : QEConfig) (outputFilename : String) :
    populateConfigFiles extensions inputFilename outputFilename (cl, c) =
      .ok (outputWarnings extensions cl outputFilename)
        ({ cl with
            inputType := resolvedInputType extensions cl inputFilename
            emitAction := resolvedEmitAction extensions cl outputFilename },
          { populateConfig cl c with
            inputType := resolvedInputType extensions cl inputFilename
            emitAction := resolvedEmitAction extensions cl outputFilename }) := by
  simp only [populateConfigFiles, computeInputType_eq, if_neg h, computeOutputType_eq]
  rfl

/-- From any state of the singleton, a successful call leaves a detected emit
action, and a detected input type unless the input is standard input; on standard
input the call never fails. -/
theorem populateConfigFiles_detects (cl : QEConfigCLOptions) (c : QEConfig)
    (inputFilename outputFilename : String) :
    (∀ warnings cl' c', populateConfigFiles extensions inputFilename outputFilename (cl, c) =
        .ok warnings (cl', c') →
      c'.getEmitAction ≠ .Undetected ∧
        (inputFilename ≠ "-" → c'.getInputType ≠ .Undetected)) ∧
    (inputFilename = "-" →
      ∃ warnings s, populateConfigFiles extensions inputFilename outputFilename (cl, c) =
        .ok warnings s) := by
  by_cases h : inputUndetectable extensions cl inputFilename
  · rw [populateConfigFiles_error extensions h]
    exact ⟨fun _ _ _ hok => (nomatch hok), fun hin => absurd hin h.1⟩
  · rw [populateConfigFiles_ok extensions h]
    refine ⟨fun w' cl' c' hok => ?_, fun _ => ⟨_, _, rfl⟩⟩
    cases hok
    exact ⟨resolvedEmitAction_ne extensions cl outputFilename,
      fun hin hres => h ⟨hin, hres⟩⟩

end CLIConfigBuilder

end QECompiler.Config
