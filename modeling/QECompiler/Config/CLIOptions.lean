import QECompiler.Config.Overlay
import QECompiler.Support.StringRef

/-! The process-wide option state of the CLI builder: `QEConfigCLOptions`, the
`clOptionsConfig` singleton of `CLIConfigBuilder.cpp`, a `QEConfig` whose fields
are the external storage of the `llvm::cl` options, set to their `cl::init`
values at construction. A parsed command line is the list of occurrences the
parser delivers, each writing its option's storage or running its callback.
Proved: a command line lays the merge of its occurrences' overlays, the last
occurrence of an option winning; an empty `--target` or `--config` and a
non-positive `--max-threads` leave the field as it was. -/

namespace QECompiler.Config

/-- `BytecodeVersionParser::parse`, the parser of `--emit-bytecode-version`: the
argument as a decimal `long long`, or the parser's message. -/
def BytecodeVersionParser.parse (arg : String) : Except String (Option Int) :=
  match StringRef.getAsSignedInteger arg.data 10 with
  | some w => .ok (some w)
  | none => .error ("Invalid argument \x27" ++ arg ++ "\x27, only integer is supported.")

/-- `--emit-bytecode-version` accepts exactly a whole decimal numeral, optionally
negated, whose value is within `long long`, and rejects any other argument with
the parser's message naming it. -/
theorem BytecodeVersionParser.parse_eq_iff (arg : String) (v : Option Int) :
    (BytecodeVersionParser.parse arg = .ok v ↔
      ∃ w, StringRef.signedNumeral 10 arg.data = some w ∧ v = some w ∧
        -2 ^ 63 ≤ w ∧ w < 2 ^ 63) ∧
      ∀ e, BytecodeVersionParser.parse arg = .error e ↔
        StringRef.signedNumeral 10 arg.data = none ∧
          e = "Invalid argument \x27" ++ arg ++ "\x27, only integer is supported." := by
  unfold BytecodeVersionParser.parse
  rw [StringRef.getAsSignedInteger_eq (by norm_num) (by norm_num)]
  cases h : StringRef.signedNumeral 10 arg.data with
  | none => simp [eq_comm]
  | some w =>
    have := StringRef.signedNumeral_range h
    simp only [Except.ok.injEq, Option.some.injEq, exists_eq_left', reduceCtorEq, false_and,
      iff_false, not_false_eq_true, implies_true, and_true]
    exact ⟨fun hv => ⟨hv.symm, this⟩, fun hv => hv.1.symm⟩

example : BytecodeVersionParser.parse "-12" = .ok (some (-12)) ∧
    BytecodeVersionParser.parse "12abc" =
      .error "Invalid argument \x2712abc\x27, only integer is supported." := ⟨rfl, rfl⟩

/-- `QEConfigCLOptions`: the options' storage, and whether
`setDialectPluginsCallback` has given the `load-dialect-plugin` list its
callback. -/
structure QEConfigCLOptions extends QEConfig where
  dialectPluginsCallback : Bool := false

/-- `VERIFY_PASSES_DEFAULT`, for a build without `NOVERIFY`. -/
def verifyPassesDefault : Bool := true

namespace QEConfigCLOptions

/-- The singleton as its constructor leaves it, with the `cl::init` values of the
options that have external storage. -/
def init : QEConfigCLOptions :=
  { addTargetPassesFlag := true
    showTargetsFlag := false
    showPayloadsFlag := false
    showConfigFlag := false
    emitPlaintextPayloadFlag := false
    includeSourceFlag := false
    compileTargetIRFlag := false
    bypassPayloadTargetCompilationFlag := false
    allowUnregisteredDialectsFlag := false
    dumpPassPipelineFlag := false
    emitBytecodeVersion := none
    irdlFileFlag := ""
    enableDebuggerActionHookFlag := false
    useExplicitModuleFlag := false
    runReproducerFlag := false
    showDialectsFlag := false
    splitInputFileFlag := false
    verifyDiagnosticsFlag := false
    verifyPassesFlag := verifyPassesDefault
    verifyRoundtripFlag := false
    verbosityLevel := ._VerbosityCnt }

/-- `CLIConfigBuilder::registerCLOptions`, as far as the singleton sees it: it
installs the callback of the `load-dialect-plugin` list. -/
def registerCLOptions (cl : QEConfigCLOptions) : QEConfigCLOptions :=
  { cl with dialectPluginsCallback := true }

end QEConfigCLOptions

/-- One occurrence of an option on a parsed command line, with the value its
parser produced. The `-X`, `--emit` and `--verbosity` parsers accept only the
named values, none of which is the `Undetected` or `_VerbosityCnt` sentinel; the
`--max-threads` parser produces an `int`, and `--emit-bytecode-version` the value
`BytecodeVersionParser.parse` reads. -/
inductive CLOption where
  | X (type : InputType) (named : type ≠ .Undetected)
  | emit (action : EmitAction) (named : action ≠ .Undetected)
  | config (config : String)
  | target (target : String)
  | flag (f : Flag) (value : Bool)
  | optFlag (f : OptFlag) (value : Bool)
  | emitBytecodeVersion (version : Int)
  | irdlFile (filename : String)
  | loadPassPlugin (pluginPath : String)
  | loadDialectPlugin (pluginPath : String)
  | verbosity (level : QEVerbosity) (named : level ≠ ._VerbosityCnt)
  | maxThreads (cliMaxThreads : Int)

namespace QEConfigCLOptions

/-- The effect of one occurrence: an option with external storage writes it; the
`config`, `target`, `max-threads` and plugin options run their callbacks.
Loading a plugin is not modelled; its path is recorded either way. -/
def handle (cl : QEConfigCLOptions) : CLOption → QEConfigCLOptions
  | .X type _ => { cl with inputType := type }
  | .emit action _ => { cl with emitAction := action }
  | .config config => if config ≠ "" then { cl with targetConfigPath := some config } else cl
  | .target target => if target ≠ "" then { cl with targetName := some target } else cl
  | .flag f value => { cl with toQEConfig := cl.setFlag f value }
  | .optFlag f value => { cl with toQEConfig := cl.setOptFlag f value }
  | .emitBytecodeVersion version => { cl with emitBytecodeVersion := some version }
  | .irdlFile filename => { cl with irdlFileFlag := filename }
  | .loadPassPlugin pluginPath => { cl with passPlugins := cl.passPlugins ++ [pluginPath] }
  | .loadDialectPlugin pluginPath =>
    if cl.dialectPluginsCallback then { cl with dialectPlugins := cl.dialectPlugins ++ [pluginPath] }
    else cl
  | .verbosity level _ => { cl with verbosityLevel := level }
  | .maxThreads cliMaxThreads =>
    if cliMaxThreads > 0 then { cl with maxThreads := some (UInt32.ofNat cliMaxThreads.toNat) }
    else cl

/-- The singleton after the parser has delivered a command line. -/
def parse (cl : QEConfigCLOptions) (args : List CLOption) : QEConfigCLOptions :=
  args.foldl handle cl

@[simp] theorem parse_nil (cl : QEConfigCLOptions) : parse cl [] = cl := rfl

@[simp] theorem parse_cons (cl : QEConfigCLOptions) (a : CLOption) (args : List CLOption) :
    parse cl (a :: args) = parse (cl.handle a) args := rfl

/-- The singleton of a process that registered its options and parsed `args`. -/
def parsed (args : List CLOption) : QEConfigCLOptions := parse init.registerCLOptions args

end QEConfigCLOptions

/-! ### A command line as an overlay -/

namespace CLOption

/-- The input kind an occurrence gives: a `-X`. -/
def inputType? : CLOption → Option InputType
  | .X type _ => some type
  | _ => none

/-- The emit action an occurrence gives: an `--emit`. -/
def emitAction? : CLOption → Option EmitAction
  | .emit action _ => some action
  | _ => none

/-- The target name an occurrence gives: a non-empty `--target`. -/
def targetName? : CLOption → Option String
  | .target name => if name ≠ "" then some name else none
  | _ => none

/-- The target config path an occurrence gives: a non-empty `--config`. -/
def targetConfigPath? : CLOption → Option String
  | .config path => if path ≠ "" then some path else none
  | _ => none

/-- The verbosity an occurrence gives: a `--verbosity`. -/
def verbosityLevel? : CLOption → Option QEVerbosity
  | .verbosity level _ => some level
  | _ => none

/-- The thread cap an occurrence gives: a positive `--max-threads`, converted to
`unsigned int`. -/
def maxThreads? : CLOption → Option UInt32
  | .maxThreads n => if n > 0 then some (UInt32.ofNat n.toNat) else none
  | _ => none

/-- What one occurrence says about the configuration; `registered` tells whether
the dialect-plugin callback is installed. -/
def overlay (registered : Bool) (a : CLOption) : Overlay :=
  match a with
  | .X _ _ | .emit _ _ => { inputType := a.inputType?, emitAction := a.emitAction? }
  | .flag f value => { flags := fun g => if g = f then some value else none }
  | .optFlag f value => { optFlags := fun g => if g = f then some value else none }
  | .emitBytecodeVersion version => { emitBytecodeVersion := some version }
  | .irdlFile filename => { irdlFileFlag := some filename }
  | .loadPassPlugin pluginPath => { passPlugins := [pluginPath] }
  | .loadDialectPlugin pluginPath => { dialectPlugins := if registered then [pluginPath] else [] }
  | _ =>
    { targetName := a.targetName?, targetConfigPath := a.targetConfigPath?,
      verbosityLevel := a.verbosityLevel?, maxThreads := a.maxThreads? }

@[simp] theorem overlay_inputType (r : Bool) (a : CLOption) :
    (a.overlay r).inputType = a.inputType? := by cases a <;> rfl
@[simp] theorem overlay_emitAction (r : Bool) (a : CLOption) :
    (a.overlay r).emitAction = a.emitAction? := by cases a <;> rfl
@[simp] theorem overlay_targetName (r : Bool) (a : CLOption) :
    (a.overlay r).targetName = a.targetName? := by cases a <;> rfl
@[simp] theorem overlay_targetConfigPath (r : Bool) (a : CLOption) :
    (a.overlay r).targetConfigPath = a.targetConfigPath? := by cases a <;> rfl
@[simp] theorem overlay_verbosityLevel (r : Bool) (a : CLOption) :
    (a.overlay r).verbosityLevel = a.verbosityLevel? := by cases a <;> rfl
@[simp] theorem overlay_maxThreads (r : Bool) (a : CLOption) :
    (a.overlay r).maxThreads = a.maxThreads? := by cases a <;> rfl

end CLOption

/-- What a command line says: its occurrences' overlays merged in order. -/
def commandLineOverlay (registered : Bool) (args : List CLOption) : Overlay :=
  args.foldr (fun a o => (a.overlay registered).merge o) {}

theorem getLast?_filterMap_cons {α β : Type} (f : α → Option β) (a : α) (l : List α) :
    ((a :: l).filterMap f).getLast? = (l.filterMap f).getLast?.or (f a) := by
  rw [List.filterMap_cons]
  cases f a with
  | none => simp
  | some b => rw [List.getLast?_cons]; cases (l.filterMap f).getLast? <;> rfl

/-- A field that the later overlay wins is the last value the command line gives
it. -/
theorem commandLineOverlay_field {α : Type} (π : Overlay → Option α)
    (hπ : ∀ o₁ o₂, π (o₁.merge o₂) = (π o₂).or (π o₁)) (hempty : π {} = none) (r : Bool)
    (args : List CLOption) :
    π (commandLineOverlay r args) = (args.filterMap fun a => π (a.overlay r)).getLast? := by
  induction args with
  | nil => exact hempty
  | cons a args ih => rw [getLast?_filterMap_cons, ← ih]; exact hπ _ _

namespace QEConfigCLOptions

@[simp] theorem handle_dialectPluginsCallback (cl : QEConfigCLOptions) (a : CLOption) :
    (cl.handle a).dialectPluginsCallback = cl.dialectPluginsCallback := by
  cases a <;> simp only [handle] <;> split_ifs <;> rfl

/-- One occurrence lays its overlay over the singleton's configuration. -/
theorem handle_toQEConfig (cl : QEConfigCLOptions) (a : CLOption) :
    (cl.handle a).toQEConfig = (a.overlay cl.dialectPluginsCallback).apply cl.toQEConfig := by
  cases a <;> (try cases ‹Flag›) <;> (try cases ‹OptFlag›) <;>
    simp only [handle, CLOption.overlay, CLOption.inputType?, CLOption.emitAction?,
      CLOption.targetName?, CLOption.targetConfigPath?,
      CLOption.verbosityLevel?, CLOption.maxThreads?, Overlay.apply, QEConfig.withFlags,
      QEConfig.withOptFlags, QEConfig.flag, QEConfig.optFlag, QEConfig.setFlag, QEConfig.setOptFlag,
      Option.getD_none, Option.getD_some, Option.none_or, Option.or_some, List.append_nil,
      ↓reduceIte, reduceCtorEq] <;>
    split_ifs <;> simp

theorem parse_dialectPluginsCallback (cl : QEConfigCLOptions) (args : List CLOption) :
    (parse cl args).dialectPluginsCallback = cl.dialectPluginsCallback := by
  induction args generalizing cl with
  | nil => rfl
  | cons a args ih => rw [parse_cons, ih, handle_dialectPluginsCallback]

/-- A command line lays the merge of its occurrences' overlays over the singleton's
configuration. -/
theorem parse_toQEConfig (cl : QEConfigCLOptions) (args : List CLOption) :
    (parse cl args).toQEConfig =
      (commandLineOverlay cl.dialectPluginsCallback args).apply cl.toQEConfig := by
  induction args generalizing cl with
  | nil => exact (Overlay.apply_empty _).symm
  | cons a args ih =>
    rw [parse_cons, ih, handle_dialectPluginsCallback, handle_toQEConfig, Overlay.apply_apply]
    rfl

/-! ### The fields a command line sets -/

section Fields

variable (cl : QEConfigCLOptions) (args : List CLOption)

/-- Each setting is the last value the command line gives it, else the
singleton's own. -/
theorem parse_targetName :
    (parse cl args).targetName = (args.filterMap CLOption.targetName?).getLast?.or cl.targetName := by
  rw [congrArg QEConfig.targetName (parse_toQEConfig cl args), Overlay.apply_targetName,
    commandLineOverlay_field Overlay.targetName (fun _ _ => rfl) rfl]
  simp only [CLOption.overlay_targetName]

theorem parse_targetConfigPath :
    (parse cl args).targetConfigPath =
      (args.filterMap CLOption.targetConfigPath?).getLast?.or cl.targetConfigPath := by
  rw [congrArg QEConfig.targetConfigPath (parse_toQEConfig cl args), Overlay.apply_targetConfigPath,
    commandLineOverlay_field Overlay.targetConfigPath (fun _ _ => rfl) rfl]
  simp only [CLOption.overlay_targetConfigPath]

theorem parse_maxThreads :
    (parse cl args).maxThreads = (args.filterMap CLOption.maxThreads?).getLast?.or cl.maxThreads := by
  rw [congrArg QEConfig.maxThreads (parse_toQEConfig cl args), Overlay.apply_maxThreads,
    commandLineOverlay_field Overlay.maxThreads (fun _ _ => rfl) rfl]
  simp only [CLOption.overlay_maxThreads]

theorem parse_verbosityLevel :
    (parse cl args).verbosityLevel =
      (args.filterMap CLOption.verbosityLevel?).getLast?.getD cl.verbosityLevel := by
  rw [congrArg QEConfig.verbosityLevel (parse_toQEConfig cl args), Overlay.apply_verbosityLevel,
    commandLineOverlay_field Overlay.verbosityLevel (fun _ _ => rfl) rfl]
  simp only [CLOption.overlay_verbosityLevel]

theorem parse_inputType :
    (parse cl args).inputType = (args.filterMap CLOption.inputType?).getLast?.getD cl.inputType := by
  rw [congrArg QEConfig.inputType (parse_toQEConfig cl args), Overlay.apply_inputType,
    commandLineOverlay_field Overlay.inputType (fun _ _ => rfl) rfl]
  simp only [CLOption.overlay_inputType]

theorem parse_emitAction :
    (parse cl args).emitAction = (args.filterMap CLOption.emitAction?).getLast?.getD cl.emitAction := by
  rw [congrArg QEConfig.emitAction (parse_toQEConfig cl args), Overlay.apply_emitAction,
    commandLineOverlay_field Overlay.emitAction (fun _ _ => rfl) rfl]
  simp only [CLOption.overlay_emitAction]

/-- In a fresh process the singleton's configuration is the command line's
overlay, with the dialect-plugin callback installed, over the `cl::init`
values. -/
theorem parsed_toQEConfig (args : List CLOption) :
    (parsed args).toQEConfig = (commandLineOverlay true args).apply init.toQEConfig :=
  parse_toQEConfig _ args

/-- No option sets the emit-bytecode flag of the singleton. -/
theorem parse_emitBytecodeFlag : (parse cl args).emitBytecodeFlag = cl.emitBytecodeFlag :=
  (congrArg (·.emitBytecodeFlag) (parse_toQEConfig cl args)).trans (Overlay.apply_frame _ _).2

end Fields

end QEConfigCLOptions

end QECompiler.Config
