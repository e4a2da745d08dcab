import QECompiler.Config.CLIOptions

/-! The command line as the registered options of `QEConfigCLOptions` read it:
each option under its name with the parser of its values (`cl::parser<bool>`,
`cl::parser<int>`, a `cl::values` table, the string parser, or
`BytecodeVersionParser`). An argument is the option's name and its value text;
the first one no option takes stops the tool. Proved: each setting is the last
value its own option gives, so the interleaving of different options never
matters; and every occurrence is read back from its option's name and its value
printed. -/

namespace QECompiler.Config

/-! ### Option names -/

/-- The names the feature flags are registered under. -/
def Flag.argStr : Flag → String
  | .addTargetPasses => "add-target-passes"
  | .showTargets => "show-targets"
  | .showPayloads => "show-payloads"
  | .showConfig => "show-config"
  | .emitPlaintextPayload => "plaintext-payload"
  | .includeSource => "include-source"
  | .compileTargetIR => "compile-target-ir"
  | .bypassPayloadTargetCompilation => "bypass-payload-target-compilation"

/-- The names the `mlir-opt` flags are registered under. -/
def OptFlag.argStr : OptFlag → String
  | .allowUnregisteredDialects => "allow-unregistered-dialect"
  | .dumpPassPipeline => "dump-pass-pipeline"
  | .enableDebuggerActionHook => "mlir-enable-debugger-hook"
  | .useExplicitModule => "no-implicit-module"
  | .runReproducer => "run-reproducer"
  | .showDialects => "show-dialects"
  | .splitInputFile => "split-input-file"
  | .verifyDiagnostics => "verify-diagnostics"
  | .verifyPasses => "verify-each"
  | .verifyRoundtrip => "verify-roundtrip"

def Flag.all : List Flag :=
  [.addTargetPasses, .showTargets, .showPayloads, .showConfig, .emitPlaintextPayload,
    .includeSource, .compileTargetIR, .bypassPayloadTargetCompilation]

def OptFlag.all : List OptFlag :=
  [.allowUnregisteredDialects, .dumpPassPipeline, .enableDebuggerActionHook, .useExplicitModule,
    .runReproducer, .showDialects, .splitInputFile, .verifyDiagnostics, .verifyPasses,
    .verifyRoundtrip]

namespace CLOption

/-- The name of the option an occurrence is of. -/
def argStr : CLOption → String
  | .X .. => "X"
  | .emit .. => "emit"
  | .config _ => "config"
  | .target _ => "target"
  | .flag f _ => f.argStr
  | .optFlag f _ => f.argStr
  | .emitBytecodeVersion _ => "emit-bytecode-version"
  | .irdlFile _ => "irdl-file"
  | .loadPassPlugin _ => "load-pass-plugin"
  | .loadDialectPlugin _ => "load-dialect-plugin"
  | .verbosity .. => "verbosity"
  | .maxThreads _ => "max-threads"

/-! ### A command line in closed form -/

/-- The value an occurrence gives the feature flag `g`. -/
def flag? (g : Flag) : CLOption → Option Bool
  | .flag f value => if g = f then some value else none
  | _ => none

/-- The value an occurrence gives the `mlir-opt` flag `g`. -/
def optFlag? (g : OptFlag) : CLOption → Option Bool
  | .optFlag f value => if g = f then some value else none
  | _ => none

def emitBytecodeVersion? : CLOption → Option Int
  | .emitBytecodeVersion version => some version
  | _ => none

def irdlFile? : CLOption → Option String
  | .irdlFile filename => some filename
  | _ => none

def passPlugin? : CLOption → Option String
  | .loadPassPlugin pluginPath => some pluginPath
  | _ => none

def dialectPlugin? : CLOption → Option String
  | .loadDialectPlugin pluginPath => some pluginPath
  | _ => none

section Overlay

variable (r : Bool) (a : CLOption)

@[simp] theorem overlay_flags (g : Flag) : (a.overlay r).flags g = a.flag? g := by cases a <;> rfl
@[simp] theorem overlay_optFlags (g : OptFlag) : (a.overlay r).optFlags g = a.optFlag? g := by
  cases a <;> rfl
@[simp] theorem overlay_emitBytecodeVersion :
    (a.overlay r).emitBytecodeVersion = a.emitBytecodeVersion? := by cases a <;> rfl
@[simp] theorem overlay_irdlFileFlag : (a.overlay r).irdlFileFlag = a.irdlFile? := by
  cases a <;> rfl
@[simp] theorem overlay_passPlugins : (a.overlay r).passPlugins = a.passPlugin?.toList := by
  cases a <;> rfl
@[simp] theorem overlay_dialectPlugins :
    (a.overlay r).dialectPlugins = if r then a.dialectPlugin?.toList else [] := by
  cases a <;> cases r <;> rfl

end Overlay

end CLOption

theorem filterMap_cons_eq {α β : Type} (f : α → Option β) (a : α) (l : List α) :
    (a :: l).filterMap f = (f a).toList ++ l.filterMap f := by
  cases h : f a <;> simp [List.filterMap_cons, h]

theorem getLast?_toList_append {α : Type} (o : Option α) (l : List α) :
    (o.toList ++ l).getLast? = l.getLast?.or o := by
  cases o with
  | none => simp
  | some b =>
    rw [Option.toList_some, List.singleton_append, List.getLast?_cons]
    cases l.getLast? <;> rfl

/-- A command line's overlay: each setting the last value its option gives, and
the plugin paths in the order given. -/
theorem commandLineOverlay_eq (r : Bool) (args : List CLOption) :
    commandLineOverlay r args =
      { targetName := (args.filterMap CLOption.targetName?).getLast?
        targetConfigPath := (args.filterMap CLOption.targetConfigPath?).getLast?
        inputType := (args.filterMap CLOption.inputType?).getLast?
        emitAction := (args.filterMap CLOption.emitAction?).getLast?
        verbosityLevel := (args.filterMap CLOption.verbosityLevel?).getLast?
        maxThreads := (args.filterMap CLOption.maxThreads?).getLast?
        flags := fun f => (args.filterMap (CLOption.flag? f)).getLast?
        passPlugins := args.filterMap CLOption.passPlugin?
        dialectPlugins := if r then args.filterMap CLOption.dialectPlugin? else []
        optFlags := fun f => (args.filterMap (CLOption.optFlag? f)).getLast?
        emitBytecodeVersion := (args.filterMap CLOption.emitBytecodeVersion?).getLast?
        irdlFileFlag := (args.filterMap CLOption.irdlFile?).getLast? } := by
  induction args with
  | nil => cases r <;> rfl
  | cons a args ih =>
    show (a.overlay r).merge (commandLineOverlay r args) = _
    rw [ih]
    cases r <;> simp only [Overlay.merge, filterMap_cons_eq, getLast?_toList_append,
      CLOption.overlay_targetName, CLOption.overlay_targetConfigPath, CLOption.overlay_inputType,
      CLOption.overlay_emitAction, CLOption.overlay_verbosityLevel, CLOption.overlay_maxThreads,
      CLOption.overlay_flags, CLOption.overlay_optFlags, CLOption.overlay_emitBytecodeVersion,
      CLOption.overlay_irdlFileFlag, CLOption.overlay_passPlugins, CLOption.overlay_dialectPlugins,
      if_true, Bool.false_eq_true, if_false, List.append_nil]

/-- The occurrences of other options do not bear on a setting that only its own
option gives. -/
theorem filterMap_filter_argStr {β : Type} {f : CLOption → Option β} {n : String}
    (hf : ∀ a, a.argStr ≠ n → f a = none) (args : List CLOption) :
    (args.filter (·.argStr = n)).filterMap f = args.filterMap f := by
  induction args with
  | nil => rfl
  | cons a args ih =>
    by_cases ha : a.argStr = n
    · simp [List.filter_cons, ha, filterMap_cons_eq, ih]
    · simp [List.filter_cons, ha, filterMap_cons_eq, ih, hf a ha]

/-- Two command lines that give each option the same values in the same order lay
the same overlay. -/
theorem commandLineOverlay_congr (r : Bool) {args args' : List CLOption}
    (h : ∀ n, args.filter (·.argStr = n) = args'.filter (·.argStr = n)) :
    commandLineOverlay r args = commandLineOverlay r args' := by
  have key {β : Type} (f : CLOption → Option β) (n : String)
      (hf : ∀ a, a.argStr ≠ n → f a = none) : args.filterMap f = args'.filterMap f := by
    rw [← filterMap_filter_argStr hf, h, filterMap_filter_argStr hf]
  have hflags (g : Flag) : args.filterMap (CLOption.flag? g) = args'.filterMap (CLOption.flag? g) :=
    key _ g.argStr fun a ha => by
      cases a <;> try rfl
      simp only [CLOption.flag?, ite_eq_right_iff, reduceCtorEq]
      rintro rfl; exact ha rfl
  have hoptFlags (g : OptFlag) :
      args.filterMap (CLOption.optFlag? g) = args'.filterMap (CLOption.optFlag? g) :=
    key _ g.argStr fun a ha => by
      cases a <;> try rfl
      simp only [CLOption.optFlag?, ite_eq_right_iff, reduceCtorEq]
      rintro rfl; exact ha rfl
  rw [commandLineOverlay_eq, commandLineOverlay_eq, key _ "target" ?_, key _ "config" ?_,
    key _ "X" ?_, key _ "emit" ?_, key _ "verbosity" ?_, key _ "max-threads" ?_,
    key _ "load-pass-plugin" ?_, key _ "load-dialect-plugin" ?_, key _ "emit-bytecode-version" ?_,
    key _ "irdl-file" ?_]
  · simp only [hflags, hoptFlags]
  all_goals intro a ha; cases a <;> first | rfl | exact absurd rfl ha

namespace QEConfigCLOptions

theorem eq_of_toQEConfig {cl cl' : QEConfigCLOptions} (h : cl.toQEConfig = cl'.toQEConfig)
    (hcb : cl.dialectPluginsCallback = cl'.dialectPluginsCallback) : cl = cl' := by
  cases cl; cases cl'; simp_all

/-- Two command lines that give each option the same values in the same order
leave the singleton alike, however their options are interleaved. -/
theorem parse_congr (cl : QEConfigCLOptions) {args args' : List CLOption}
    (h : ∀ n, args.filter (·.argStr = n) = args'.filter (·.argStr = n)) :
    parse cl args = parse cl args' :=
  eq_of_toQEConfig
    (by rw [parse_toQEConfig, parse_toQEConfig, commandLineOverlay_congr _ h])
    (by rw [parse_dialectPluginsCallback, parse_dialectPluginsCallback])

end QEConfigCLOptions

/-! ### Reading an argument -/

/-- `cl::parser<bool>::parse`: the spellings of true and false LLVM accepts; a
flag given alone is true. -/
def parseBool (arg : String) : Except String Bool :=
  if arg = "" ∨ arg = "true" ∨ arg = "TRUE" ∨ arg = "True" ∨ arg = "1" then .ok true
  else if arg = "false" ∨ arg = "FALSE" ∨ arg = "False" ∨ arg = "0" then .ok false
  else .error ("\x27" ++ arg ++ "\x27 is invalid value for boolean argument! Try 0 or 1")

/-- `cl::parser<int>::parse`: `getAsInteger` at `int`, with the radix left to the
prefix; a `long long` that does not survive the cast to `int` is rejected. -/
def parseInt (arg : String) : Except String Int :=
  match StringRef.getAsSignedInteger arg.data 0 with
  | some v =>
    if -2 ^ 31 ≤ v ∧ v < 2 ^ 31 then .ok v
    else .error ("\x27" ++ arg ++ "\x27 value invalid for integer argument!")
  | none => .error ("\x27" ++ arg ++ "\x27 value invalid for integer argument!")

/-- `cl::parser<DataType>::parse` of an option with `cl::values`: the value the
argument names. -/
def parseEnum {α : Type} (values : List (String × α)) (arg : String) : Except String α :=
  match values.lookup arg with
  | some v => .ok v
  | none => .error ("Cannot find option named \x27" ++ arg ++ "\x27!")

/-- The `cl::values` of `-X`; none is the `Undetected` sentinel. -/
def inputTypeValues : List (String × {type : InputType // type ≠ .Undetected}) :=
  [("qasm", ⟨.QASM, by decide⟩), ("mlir", ⟨.MLIR, by decide⟩),
    ("bytecode", ⟨.Bytecode, by decide⟩)]

/-- The `cl::values` of `--emit`; none is the `Undetected` sentinel. -/
def emitActionValues : List (String × {action : EmitAction // action ≠ .Undetected}) :=
  [("ast", ⟨.AST, by decide⟩), ("ast-pretty", ⟨.ASTPretty, by decide⟩),
    ("mlir", ⟨.MLIR, by decide⟩), ("bytecode", ⟨.Bytecode, by decide⟩),
    ("wavemem", ⟨.WaveMem, by decide⟩), ("qem", ⟨.QEM, by decide⟩),
    ("qe-qem", ⟨.QEQEM, by decide⟩), ("none", ⟨.None, by decide⟩)]

/-- The `cl::values` of `--verbosity`; none is the `_VerbosityCnt` sentinel. -/
def verbosityValues : List (String × {level : QEVerbosity // level ≠ ._VerbosityCnt}) :=
  [("error", ⟨.Error, by decide⟩), ("warn", ⟨.Warn, by decide⟩),
    ("info", ⟨.Info, by decide⟩), ("debug", ⟨.Debug, by decide⟩)]

/-- A registered option: its name and the parser of its values into occurrences,
each an occurrence of this option. -/
structure RegisteredOption where
  argStr : String
  parse : String → Except String CLOption
  parse_argStr : ∀ arg a, parse arg = .ok a → a.argStr = argStr

/-- The option whose parser reads a value that its occurrence carries. -/
def RegisteredOption.ofParser {α : Type} (parser : String → Except String α)
    (mk : α → CLOption) (argStr : String) (hmk : ∀ v, (mk v).argStr = argStr) :
    RegisteredOption where
  argStr := argStr
  parse arg := (parser arg).map mk
  parse_argStr arg a h := by
    cases hp : parser arg <;> simp only [hp, Except.map, reduceCtorEq, Except.ok.injEq] at h
    exact h ▸ hmk _

/-- The options `QEConfigCLOptions` registers. `--emit-bytecode-version` stores
what `BytecodeVersionParser` returns, always a value. The pass-pipeline options of
MLIR's `PassPipelineCLParser` are not modelled. -/
def registeredOptions : List RegisteredOption :=
  [.ofParser (parseEnum inputTypeValues) (fun t => .X t.1 t.2) "X" fun _ => rfl,
    .ofParser (parseEnum emitActionValues) (fun t => .emit t.1 t.2) "emit" fun _ => rfl,
    .ofParser (fun arg => .ok arg) .config "config" fun _ => rfl,
    .ofParser (fun arg => .ok arg) .target "target" fun _ => rfl] ++
  Flag.all.map (fun f => .ofParser parseBool (.flag f) f.argStr fun _ => rfl) ++
  OptFlag.all.map (fun f => .ofParser parseBool (.optFlag f) f.argStr fun _ => rfl) ++
  [.ofParser BytecodeVersionParser.parse (fun v => .emitBytecodeVersion (v.getD 0))
      "emit-bytecode-version" fun _ => rfl,
    .ofParser (fun arg => .ok arg) .irdlFile "irdl-file" fun _ => rfl,
    .ofParser (fun arg => .ok arg) .loadPassPlugin "load-pass-plugin" fun _ => rfl,
    .ofParser (fun arg => .ok arg) .loadDialectPlugin "load-dialect-plugin" fun _ => rfl,
    .ofParser (parseEnum verbosityValues) (fun l => .verbosity l.1 l.2) "verbosity" fun _ => rfl,
    .ofParser parseInt .maxThreads "max-threads" fun _ => rfl]

/-- Why an argument stops the tool: no option has its name, or its option's
parser rejects the value, with the parser's message. -/
inductive ReadError where
  | unknownArgument (argStr : String)
  | invalidValue (argStr message : String)
  deriving DecidableEq, Repr

namespace CLOption

/-- An argument, read by the option it names. -/
def read (argStr arg : String) : Except ReadError CLOption :=
  match registeredOptions.find? (·.argStr = argStr) with
  | some o => (o.parse arg).mapError (.invalidValue argStr)
  | none => .error (.unknownArgument argStr)

/-- An argument is read as an occurrence of the option it names. -/
theorem read_argStr {argStr arg : String} {a : CLOption} (h : read argStr arg = .ok a) :
    a.argStr = argStr := by
  unfold read at h
  split at h
  · next o ho =>
    have hname := @List.find?_some _ (fun o => decide (o.argStr = argStr)) o _ ho
    cases hp : o.parse arg <;> simp only [hp, Except.mapError, reduceCtorEq, Except.ok.injEq] at h
    exact h ▸ (o.parse_argStr _ _ hp).trans (of_decide_eq_true hname)
  · cases h

/-- The name a value has in a `cl::values` table. -/
def valueName {α : Type} {p : α → Prop} [DecidableEq α]
    (values : List (String × {v : α // p v})) (v : α) : String :=
  ((values.find? (·.2.1 = v)).map (·.1)).getD ""

/-- The text of an occurrence's value: the name of an enumerated value, a boolean
as `true` or `false`, an integer in decimal, a string as it is. -/
def value : CLOption → String
  | .X type _ => valueName inputTypeValues type
  | .emit action _ => valueName emitActionValues action
  | .config s | .target s | .irdlFile s | .loadPassPlugin s | .loadDialectPlugin s => s
  | .flag _ v | .optFlag _ v => toString v
  | .emitBytecodeVersion v | .maxThreads v => toString v
  | .verbosity level _ => valueName verbosityValues level

/-- Whether an occurrence's value fits its option's C++ type: `int` for
`--max-threads`, `int64_t` for `--emit-bytecode-version`. -/
def Representable : CLOption → Prop
  | .emitBytecodeVersion version => -2 ^ 63 ≤ version ∧ version < 2 ^ 63
  | .maxThreads cliMaxThreads => -2 ^ 31 ≤ cliMaxThreads ∧ cliMaxThreads < 2 ^ 31
  | _ => True

instance : DecidablePred Representable
  | .emitBytecodeVersion _ | .maxThreads _ => inferInstanceAs (Decidable (_ ∧ _))
  | .X .. | .emit .. | .config _ | .target _ | .flag .. | .optFlag .. | .irdlFile _
  | .loadPassPlugin _ | .loadDialectPlugin _ | .verbosity .. => isTrue trivial

/-- Every occurrence whose value fits its option's type is read back from its
option's name and its value printed. -/
theorem read_argStr_value (a : CLOption) (ha : a.Representable) :
    read a.argStr a.value = .ok a := by
  cases a with
  | X type named => cases type <;> first | exact absurd rfl named | rfl
  | emit action named => cases action <;> first | exact absurd rfl named | rfl
  | verbosity level named => cases level <;> first | exact absurd rfl named | rfl
  | flag f v => cases f <;> cases v <;> rfl
  | optFlag f v => cases f <;> cases v <;> rfl
  | config | target | irdlFile | loadPassPlugin | loadDialectPlugin => rfl
  | emitBytecodeVersion version =>
    have hparse : BytecodeVersionParser.parse (toString version) = .ok (some version) := by
      rw [BytecodeVersionParser.parse, StringRef.getAsSignedInteger_toString (Or.inr rfl) ha]
    show ((BytecodeVersionParser.parse (toString version)).map _).mapError _ = _
    rw [hparse]; rfl
  | maxThreads n =>
    obtain ⟨hlo, hhi⟩ := ha
    have hparse : parseInt (toString n) = .ok n := by
      rw [parseInt, StringRef.getAsSignedInteger_toString (Or.inl rfl) ⟨by omega, by omega⟩]
      exact if_pos ⟨hlo, hhi⟩
    show ((parseInt (toString n)).map _).mapError _ = _
    rw [hparse]; rfl

theorem read_max_threads_eight :
    Representable (.maxThreads 8) ∧ read "max-threads" "8" = .ok (.maxThreads 8) :=
  ⟨by decide, read_argStr_value (.maxThreads 8) (by decide)⟩

end CLOption

/-! ### A command line -/

/-- The occurrences a command line's arguments are read as, in order. -/
def readCommandLine (argv : List (String × String)) : Except ReadError (List CLOption) :=
  argv.mapM fun arg => CLOption.read arg.1 arg.2

theorem readCommandLine_cons_eq_ok {arg : String × String} {argv : List (String × String)}
    {args : List CLOption} :
    readCommandLine (arg :: argv) = .ok args ↔
      ∃ a args', CLOption.read arg.1 arg.2 = .ok a ∧ readCommandLine argv = .ok args' ∧
        args = a :: args' := by
  unfold readCommandLine
  rw [List.mapM_cons]
  cases CLOption.read arg.1 arg.2 <;> cases argv.mapM fun arg => CLOption.read arg.1 arg.2 <;>
    simp [bind, Except.bind, pure, Except.pure, eq_comm]

/-- The arguments of one option are read as the occurrences of that option. -/
theorem readCommandLine_filter {argv : List (String × String)} {args : List CLOption}
    (h : readCommandLine argv = .ok args) (n : String) :
    readCommandLine (argv.filter (·.1 = n)) = .ok (args.filter (·.argStr = n)) := by
  induction argv generalizing args with
  | nil => cases h; rfl
  | cons arg argv ih =>
    obtain ⟨a, args', ha, hargs, rfl⟩ := readCommandLine_cons_eq_ok.1 h
    by_cases hn : arg.1 = n
    · have hname : a.argStr = n := (CLOption.read_argStr ha).trans hn
      simp only [List.filter_cons, hn, hname, decide_True, if_true]
      exact readCommandLine_cons_eq_ok.2 ⟨a, _, ha, ih hargs, rfl⟩
    · have hname : a.argStr ≠ n := (CLOption.read_argStr ha).symm ▸ hn
      simp only [List.filter_cons, hn, hname, decide_False, Bool.false_eq_true, if_false]
      exact ih hargs

/-- Two command lines that give each option the same values in the same order
configure the singleton alike, however their options are interleaved. -/
theorem parse_eq_of_same_option_values (cl : QEConfigCLOptions)
    {argv argv' : List (String × String)} {args args' : List CLOption}
    (h : readCommandLine argv = .ok args) (h' : readCommandLine argv' = .ok args')
    (hvalues : ∀ n, argv.filter (·.1 = n) = argv'.filter (·.1 = n)) :
    QEConfigCLOptions.parse cl args = QEConfigCLOptions.parse cl args' :=
  QEConfigCLOptions.parse_congr cl fun n => by
    have e := readCommandLine_filter h n
    rw [hvalues n, readCommandLine_filter h' n] at e
    exact (Except.ok.inj e).symm

theorem parse_eq_of_same_option_values_of_swap :
    QEConfigCLOptions.parse QEConfigCLOptions.init
        [.target "qpu", .verbosity .Debug (by decide)] =
      QEConfigCLOptions.parse QEConfigCLOptions.init
        [.verbosity .Debug (by decide), .target "qpu"] :=
  @parse_eq_of_same_option_values QEConfigCLOptions.init
    [("target", "qpu"), ("verbosity", "debug")] [("verbosity", "debug"), ("target", "qpu")] _ _
    rfl rfl fun n => by
      simp only [List.filter_cons, List.filter_nil]
      split_ifs <;> simp only [decide_eq_true_eq] at *
      all_goals first
        | rfl
        | exact absurd (‹"target" = n›.trans ‹"verbosity" = n›.symm) (by decide)

end QECompiler.Config
