import Mathlib.Data.List.Basic

/-! The QE configuration record (`QEConfig.h`): the enumerations it classifies
inputs and outputs by, the `mlir-opt` options it inherits from
`mlir::MlirOptMainConfig`, its own fields with their defaults, and its setters
and getters. The file-extension lookups of `QEConfig.cpp`, which is not among
the sources, are modelled from the spec, with the table of extension spellings a
parameter. Proved: every setter/getter pair reads
back what was set, and a setter leaves every getter that reads another field
unchanged; the pass-plugin pair writes and reads the dialect-plugin field. -/

namespace QECompiler.Config

inductive QEVerbosity where
  | Error | Warn | Info | Debug | _VerbosityCnt
  deriving DecidableEq, Repr

inductive EmitAction where
  | Undetected | None | AST | ASTPretty | MLIR | Bytecode | WaveMem | QEM | QEQEM
  deriving DecidableEq, Repr

inductive FileExtension where
  | None | AST | ASTPretty | QASM | MLIR | Bytecode | WaveMem | QEM | QEQEM
  deriving DecidableEq, Repr

inductive InputType where
  | Undetected | QASM | MLIR | Bytecode
  deriving DecidableEq, Repr

/-! ### File extensions -/

/-- Modelled from the spec: `strToFileExtension` (QEConfig.cpp is not among the
sources), a lookup in the table of extension spellings; an unlisted spelling is
`None`. -/
def strToFileExtension (extensions : List (String × FileExtension)) (extStr : String) :
    FileExtension :=
  (extensions.lookup extStr).getD .None

/-- Modelled from the spec: the spellings it gives, `qasm`, `mlir`, `bc` and
`qem`. It names AST-dump, waveform-memory and QEQEM outputs without their
spelling, which a table that is a parameter leaves open. -/
def namedExtensions : List (String × FileExtension) :=
  [("qasm", .QASM), ("mlir", .MLIR), ("bc", .Bytecode), ("qem", .QEM)]

/-- Modelled from the spec: `getExtension`, the extension after the last `.` of a
file name; a name without a `.` has none. -/
def getExtension (extensions : List (String × FileExtension)) (inStr : String) : FileExtension :=
  match inStr.data.reverse.span (· != '.') with
  | (ext, '.' :: _) => strToFileExtension extensions (String.mk ext.reverse)
  | _ => .None

/-- Modelled from the spec: `fileExtensionToInputType`; an extension that names no
input kind is `Undetected`. -/
def fileExtensionToInputType : FileExtension → InputType
  | .QASM => .QASM
  | .MLIR => .MLIR
  | .Bytecode => .Bytecode
  | _ => .Undetected

/-- Modelled from the spec: `fileExtensionToAction`; an unrecognised extension is
`Undetected`. -/
def fileExtensionToAction : FileExtension → EmitAction
  | .AST => .AST
  | .ASTPretty => .ASTPretty
  | .MLIR => .MLIR
  | .Bytecode => .Bytecode
  | .WaveMem => .WaveMem
  | .QEM => .QEM
  | .QEQEM => .QEQEM
  | _ => .Undetected

/-! ### The configuration record -/

/-- The fields of `mlir::MlirOptMainConfig` that the builders read or write, with
the library's defaults. The debug configuration and the pass-pipeline callback,
which the CLI builder copies over as opaque library objects, are not modelled. -/
structure MlirOptMainConfig where
  allowUnregisteredDialectsFlag : Bool := false
  dumpPassPipelineFlag : Bool := false
  emitBytecodeFlag : Bool := false
  emitBytecodeVersion : Option Int := none
  irdlFileFlag : String := ""
  enableDebuggerActionHookFlag : Bool := false
  useExplicitModuleFlag : Bool := false
  runReproducerFlag : Bool := false
  showDialectsFlag : Bool := false
  splitInputFileFlag : Bool := false
  verifyDiagnosticsFlag : Bool := false
  verifyPassesFlag : Bool := true
  verifyRoundtripFlag : Bool := false
  deriving DecidableEq, Repr

/-- `QEConfig`; `{}` is a default-constructed configuration. `unsigned int` is
`UInt32`. -/
structure QEConfig extends MlirOptMainConfig where
  targetName : Option String := none
  targetConfigPath : Option String := none
  inputType : InputType := .Undetected
  emitAction : EmitAction := .Undetected
  verbosityLevel : QEVerbosity := .Warn
  addTargetPassesFlag : Bool := true
  showTargetsFlag : Bool := false
  showPayloadsFlag : Bool := false
  showConfigFlag : Bool := false
  payloadName : String := "-"
  emitPlaintextPayloadFlag : Bool := false
  includeSourceFlag : Bool := false
  compileTargetIRFlag : Bool := false
  bypassPayloadTargetCompilationFlag : Bool := false
  passPlugins : List String := []
  dialectPlugins : List String := []
  maxThreads : Option UInt32 := none
  deriving DecidableEq, Repr

/-- The eight boolean feature flags of `QEConfig`, each with its setter and its
`should*` getter. -/
inductive Flag where
  | addTargetPasses | showTargets | showPayloads | showConfig
  | emitPlaintextPayload | includeSource | compileTargetIR | bypassPayloadTargetCompilation
  deriving DecidableEq, Repr

/-- The boolean `mlir-opt` options that the CLI builder copies. -/
inductive OptFlag where
  | allowUnregisteredDialects | dumpPassPipeline | enableDebuggerActionHook | useExplicitModule
  | runReproducer | showDialects | splitInputFile | verifyDiagnostics | verifyPasses
  | verifyRoundtrip
  deriving DecidableEq, Repr

namespace QEConfig

/-- The field a flag setter writes and its getter reads. -/
def flag (c : QEConfig) : Flag → Bool
  | .addTargetPasses => c.addTargetPassesFlag
  | .showTargets => c.showTargetsFlag
  | .showPayloads => c.showPayloadsFlag
  | .showConfig => c.showConfigFlag
  | .emitPlaintextPayload => c.emitPlaintextPayloadFlag
  | .includeSource => c.includeSourceFlag
  | .compileTargetIR => c.compileTargetIRFlag
  | .bypassPayloadTargetCompilation => c.bypassPayloadTargetCompilationFlag

def setFlag (c : QEConfig) (f : Flag) (v : Bool) : QEConfig :=
  match f with
  | .addTargetPasses => { c with addTargetPassesFlag := v }
  | .showTargets => { c with showTargetsFlag := v }
  | .showPayloads => { c with showPayloadsFlag := v }
  | .showConfig => { c with showConfigFlag := v }
  | .emitPlaintextPayload => { c with emitPlaintextPayloadFlag := v }
  | .includeSource => { c with includeSourceFlag := v }
  | .compileTargetIR => { c with compileTargetIRFlag := v }
  | .bypassPayloadTargetCompilation => { c with bypassPayloadTargetCompilationFlag := v }

@[simp] theorem flag_setFlag_self (c : QEConfig) (f : Flag) (v : Bool) :
    (c.setFlag f v).flag f = v := by
  cases f <;> rfl

@[simp] theorem flag_setFlag_of_ne (c : QEConfig) {f g : Flag} (v : Bool) (h : f ≠ g) :
    (c.setFlag f v).flag g = c.flag g := by
  cases f <;> cases g <;> first | rfl | exact absurd rfl h

def optFlag (c : QEConfig) : OptFlag → Bool
  | .allowUnregisteredDialects => c.allowUnregisteredDialectsFlag
  | .dumpPassPipeline => c.dumpPassPipelineFlag
  | .enableDebuggerActionHook => c.enableDebuggerActionHookFlag
  | .useExplicitModule => c.useExplicitModuleFlag
  | .runReproducer => c.runReproducerFlag
  | .showDialects => c.showDialectsFlag
  | .splitInputFile => c.splitInputFileFlag
  | .verifyDiagnostics => c.verifyDiagnosticsFlag
  | .verifyPasses => c.verifyPassesFlag
  | .verifyRoundtrip => c.verifyRoundtripFlag

def setOptFlag (c : QEConfig) (f : OptFlag) (v : Bool) : QEConfig :=
  match f with
  | .allowUnregisteredDialects => { c with allowUnregisteredDialectsFlag := v }
  | .dumpPassPipeline => { c with dumpPassPipelineFlag := v }
  | .enableDebuggerActionHook => { c with enableDebuggerActionHookFlag := v }
  | .useExplicitModule => { c with useExplicitModuleFlag := v }
  | .runReproducer => { c with runReproducerFlag := v }
  | .showDialects => { c with showDialectsFlag := v }
  | .splitInputFile => { c with splitInputFileFlag := v }
  | .verifyDiagnostics => { c with verifyDiagnosticsFlag := v }
  | .verifyPasses => { c with verifyPassesFlag := v }
  | .verifyRoundtrip => { c with verifyRoundtripFlag := v }

def setTargetName (c : QEConfig) (name : String) : QEConfig := { c with targetName := some name }
def getTargetName (c : QEConfig) : Option String := c.targetName

def setTargetConfigPath (c : QEConfig) (path : String) : QEConfig :=
  { c with targetConfigPath := some path }
def getTargetConfigPath (c : QEConfig) : Option String := c.targetConfigPath

def setInputType (c : QEConfig) (type : InputType) : QEConfig := { c with inputType := type }
def getInputType (c : QEConfig) : InputType := c.inputType

def setEmitAction (c : QEConfig) (action : EmitAction) : QEConfig := { c with emitAction := action }
def getEmitAction (c : QEConfig) : EmitAction := c.emitAction

def setVerbosityLevel (c : QEConfig) (level : QEVerbosity) : QEConfig :=
  { c with verbosityLevel := level }
def getVerbosityLevel (c : QEConfig) : QEVerbosity := c.verbosityLevel

def addTargetPasses (c : QEConfig) (flag : Bool) : QEConfig := c.setFlag .addTargetPasses flag
def shouldAddTargetPasses (c : QEConfig) : Bool := c.flag .addTargetPasses
def showTargets (c : QEConfig) (flag : Bool) : QEConfig := c.setFlag .showTargets flag
def shouldShowTargets (c : QEConfig) : Bool := c.flag .showTargets
def showPayloads (c : QEConfig) (flag : Bool) : QEConfig := c.setFlag .showPayloads flag
def shouldShowPayloads (c : QEConfig) : Bool := c.flag .showPayloads
def showConfig (c : QEConfig) (flag : Bool) : QEConfig := c.setFlag .showConfig flag
def shouldShowConfig (c : QEConfig) : Bool := c.flag .showConfig
def emitPlaintextPayload (c : QEConfig) (flag : Bool) : QEConfig :=
  c.setFlag .emitPlaintextPayload flag
def shouldEmitPlaintextPayload (c : QEConfig) : Bool := c.flag .emitPlaintextPayload
def includeSource (c : QEConfig) (flag : Bool) : QEConfig := c.setFlag .includeSource flag
def shouldIncludeSource (c : QEConfig) : Bool := c.flag .includeSource
def compileTargetIR (c : QEConfig) (flag : Bool) : QEConfig := c.setFlag .compileTargetIR flag
def shouldCompileTargetIR (c : QEConfig) : Bool := c.flag .compileTargetIR
def bypassPayloadTargetCompilation (c : QEConfig) (flag : Bool) : QEConfig :=
  c.setFlag .bypassPayloadTargetCompilation flag
def shouldBypassPayloadTargetCompilation (c : QEConfig) : Bool :=
  c.flag .bypassPayloadTargetCompilation

def setPayloadName (c : QEConfig) (name : String) : QEConfig := { c with payloadName := name }
def getPayloadName (c : QEConfig) : String := c.payloadName

/-- `setPassPlugins` stores into `dialectPlugins`, as the source does. -/
def setPassPlugins (c : QEConfig) (plugins : List String) : QEConfig :=
  { c with dialectPlugins := plugins }
/-- `getPassPlugins` reads `dialectPlugins`, as the source does. -/
def getPassPlugins (c : QEConfig) : List String := c.dialectPlugins

def setDialectPlugins (c : QEConfig) (plugins : List String) : QEConfig :=
  { c with dialectPlugins := plugins }
def getDialectPlugins (c : QEConfig) : List String := c.dialectPlugins

def setMaxThreads (c : QEConfig) (maxThreads_ : UInt32) : QEConfig :=
  { c with maxThreads := some maxThreads_ }
def getMaxThreads (c : QEConfig) : Option UInt32 := c.maxThreads

end QEConfig

/-! ### Setter/getter pairs -/

/-- The setter/getter pairs of `QEConfig`, named after the field they are for. -/
inductive Accessor where
  | targetName | targetConfigPath | inputType | emitAction | verbosityLevel
  | flag (f : Flag) | payloadName | passPlugins | dialectPlugins | maxThreads
  deriving DecidableEq, Repr

namespace Accessor

/-- The type of the setter's argument. -/
def Arg : Accessor → Type
  | .targetName | .targetConfigPath | .payloadName => String
  | .inputType => InputType
  | .emitAction => EmitAction
  | .verbosityLevel => QEVerbosity
  | .flag _ => Bool
  | .passPlugins | .dialectPlugins => List String
  | .maxThreads => UInt32

/-- The type the getter returns. -/
def Val : Accessor → Type
  | .targetName | .targetConfigPath => Option String
  | .payloadName => String
  | .inputType => InputType
  | .emitAction => EmitAction
  | .verbosityLevel => QEVerbosity
  | .flag _ => Bool
  | .passPlugins | .dialectPlugins => List String
  | .maxThreads => Option UInt32

def set : (a : Accessor) → QEConfig → a.Arg → QEConfig
  | .targetName => QEConfig.setTargetName
  | .targetConfigPath => QEConfig.setTargetConfigPath
  | .inputType => QEConfig.setInputType
  | .emitAction => QEConfig.setEmitAction
  | .verbosityLevel => QEConfig.setVerbosityLevel
  | .flag f => fun c v => c.setFlag f v
  | .payloadName => QEConfig.setPayloadName
  | .passPlugins => QEConfig.setPassPlugins
  | .dialectPlugins => QEConfig.setDialectPlugins
  | .maxThreads => QEConfig.setMaxThreads

def get : (a : Accessor) → QEConfig → a.Val
  | .targetName => QEConfig.getTargetName
  | .targetConfigPath => QEConfig.getTargetConfigPath
  | .inputType => QEConfig.getInputType
  | .emitAction => QEConfig.getEmitAction
  | .verbosityLevel => QEConfig.getVerbosityLevel
  | .flag f => fun c => c.flag f
  | .payloadName => QEConfig.getPayloadName
  | .passPlugins => QEConfig.getPassPlugins
  | .dialectPlugins => QEConfig.getDialectPlugins
  | .maxThreads => QEConfig.getMaxThreads

/-- What the getter returns once the setter has stored `v`: the optional fields
return it wrapped. -/
def stored : (a : Accessor) → a.Arg → a.Val
  | .targetName | .targetConfigPath | .maxThreads => some
  | .inputType | .emitAction | .verbosityLevel | .payloadName => id
  | .flag _ | .passPlugins | .dialectPlugins => id

/-- The field the setter writes and the getter reads, named by the pair that is
for it. Both pass-plugin accessors use the dialect-plugin field. -/
def storage : Accessor → Accessor
  | .passPlugins => .dialectPlugins
  | a => a

theorem get_set_self (a : Accessor) (c : QEConfig) (v : a.Arg) : a.get (a.set c v) = a.stored v := by
  cases a <;> simp [get, set, stored] <;> rfl

/-- Setters and getters of different fields are independent. -/
theorem get_set_of_storage_ne (a b : Accessor) (c : QEConfig) (v : a.Arg)
    (h : a.storage ≠ b.storage) : b.get (a.set c v) = b.get c := by
  cases a <;> cases b <;> simp_all [storage, get, set] <;> (try cases ‹Flag›) <;> rfl

/-- A value whose setting each getter sees on the default configuration. -/
def changing : (a : Accessor) → a.Arg
  | .targetName | .targetConfigPath | .payloadName => "x"
  | .inputType => .QASM
  | .emitAction => .MLIR
  | .verbosityLevel => .Error
  | .flag f => !(({} : QEConfig).flag f)
  | .passPlugins | .dialectPlugins => ["x"]
  | .maxThreads => (0 : UInt32)

theorem get_set_changing (a : Accessor) : a.get (a.set {} a.changing) ≠ a.get {} := by
  cases a with
  | flag f => cases f <;> dsimp only [Val] <;> decide
  | _ => dsimp only [Val]; decide

/-- A getter that reads the field a setter writes sees the write. -/
theorem exists_get_set_ne {a b : Accessor} (h : a.storage = b.storage) :
    ∃ c v, b.get (a.set c v) ≠ b.get c := by
  cases a <;> cases b <;> simp only [storage, reduceCtorEq, flag.injEq] at h
  all_goals first
    | exact ⟨{}, _, get_set_changing _⟩
    | (subst h; exact ⟨{}, _, get_set_changing _⟩)

/-- Every getter returns what its setter stored, and a setter leaves another pair's
getter unchanged exactly when the two pairs use different fields; the pass-plugin
and dialect-plugin pairs share one. -/
theorem get_set_stored_and_independent_iff :
    (∀ a c (v : Arg a), a.get (a.set c v) = a.stored v) ∧
      ∀ a b : Accessor, (∀ c v, b.get (a.set c v) = b.get c) ↔ a.storage ≠ b.storage :=
  ⟨get_set_self, fun a b =>
    ⟨fun hind h => let ⟨c, v, hne⟩ := exists_get_set_ne h; hne (hind c v),
      fun h c v => get_set_of_storage_ne a b c v h⟩⟩

/-- Setting the pass plugins of a default configuration changes its dialect plugins. -/
theorem setPassPlugins_changes_getDialectPlugins :
    (QEConfig.setPassPlugins {} ["libpass.so"]).getDialectPlugins = ["libpass.so"] ∧
      QEConfig.getDialectPlugins {} = [] := ⟨rfl, rfl⟩

end Accessor

end QECompiler.Config
