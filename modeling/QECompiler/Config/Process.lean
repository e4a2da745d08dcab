import QECompiler.Config.CLIConfig

/-! The option singleton over the life of a process. `clOptionsConfig` is a
`ManagedStatic`: the command line is parsed into it once, and every
three-argument `populateConfig` call resolves the kinds on the singleton itself
and leaves them there. A history is the sequence of calls the process made.
Proved: a call changes no option but the two kinds, and a settled kind never
changes again; so a call after any history behaves as in a fresh process whose
command line also gave the kinds the history resolved. In a fresh process the
kinds and warnings follow from the command line and the file names alone. -/

namespace QECompiler.Config

open QEConfigCLOptions CLIConfigBuilder

/-- The state an `EStateM` computation leaves, whether it succeeded or failed. -/
def resultState {ε σ α : Type} : EStateM.Result ε σ α → σ
  | .ok _ s => s
  | .error _ s => s

/-- One three-argument `populateConfig` call: the caller's configuration and the
two file names. -/
structure Call where
  config : QEConfig
  inputFilename : String
  outputFilename : String

variable (extensions : List (String × FileExtension))

/-- The singleton after one call. -/
def callStep (cl : QEConfigCLOptions) (call : Call) : QEConfigCLOptions :=
  (resultState
    (populateConfigFiles extensions call.inputFilename call.outputFilename (cl, call.config))).1

/-- The singleton after a history of calls. -/
def afterCalls (cl : QEConfigCLOptions) (calls : List Call) : QEConfigCLOptions :=
  calls.foldl (callStep extensions) cl

/-- A failed call leaves the singleton as it was; a successful one records the
resolved kinds. -/
theorem callStep_eq (cl : QEConfigCLOptions) (call : Call) :
    callStep extensions cl call =
      if inputUndetectable extensions cl call.inputFilename then cl
      else { cl with
        inputType := resolvedInputType extensions cl call.inputFilename
        emitAction := resolvedEmitAction extensions cl call.outputFilename } := by
  unfold callStep
  split_ifs with h
  · rw [populateConfigFiles_error extensions h]; rfl
  · rw [populateConfigFiles_ok extensions h]; rfl

theorem resolvedInputType_of_ne {cl : QEConfigCLOptions} (h : cl.inputType ≠ .Undetected)
    (inputFilename : String) : resolvedInputType extensions cl inputFilename = cl.inputType := by
  simp [resolvedInputType, h]

theorem resolvedEmitAction_of_ne {cl : QEConfigCLOptions} (h : cl.emitAction ≠ .Undetected)
    (outputFilename : String) :
    resolvedEmitAction extensions cl outputFilename = cl.emitAction := by
  simp [resolvedEmitAction, h]

/-! ### What a history can change -/

/-- `cl` differs from `cl₀` at most in the kinds, and only in those `cl₀` has not
settled. -/
structure KindsOnly (cl₀ cl : QEConfigCLOptions) : Prop where
  frame : ∃ type action, cl = { cl₀ with inputType := type, emitAction := action }
  inputType_sticky : cl₀.inputType ≠ .Undetected → cl.inputType = cl₀.inputType
  emitAction_sticky : cl₀.emitAction ≠ .Undetected → cl.emitAction = cl₀.emitAction

theorem kindsOnly_refl (cl : QEConfigCLOptions) : KindsOnly cl cl :=
  ⟨⟨cl.inputType, cl.emitAction, rfl⟩, fun _ => rfl, fun _ => rfl⟩

theorem kindsOnly_callStep {cl₀ cl : QEConfigCLOptions} (h : KindsOnly cl₀ cl) (call : Call) :
    KindsOnly cl₀ (callStep extensions cl call) := by
  rw [callStep_eq]
  split_ifs
  · exact h
  obtain ⟨⟨type, action, rfl⟩, hi, he⟩ := h
  refine ⟨⟨_, _, rfl⟩, fun hne => ?_, fun hne => ?_⟩
  · rw [← hi hne]; exact resolvedInputType_of_ne extensions (hi hne ▸ hne) _
  · rw [← he hne]; exact resolvedEmitAction_of_ne extensions (he hne ▸ hne) _

theorem kindsOnly_afterCalls (cl : QEConfigCLOptions) (calls : List Call) :
    KindsOnly cl (afterCalls extensions cl calls) := by
  suffices ∀ cl', KindsOnly cl cl' → KindsOnly cl (calls.foldl (callStep extensions) cl') from
    this cl (kindsOnly_refl cl)
  induction calls with
  | nil => exact fun _ h => h
  | cons call calls ih => exact fun cl' h => ih _ (kindsOnly_callStep extensions h call)

theorem afterCalls_append_cons (cl : QEConfigCLOptions) (calls : List Call) (call : Call)
    (later : List Call) :
    afterCalls extensions cl (calls ++ call :: later) =
      afterCalls extensions (callStep extensions (afterCalls extensions cl calls) call) later := by
  simp only [afterCalls, List.foldl_append, List.foldl_cons]

/-- A successful call settles the emit action, and the input kind when it resolves
one, for every later call. -/
theorem afterCalls_callStep_kinds {cl : QEConfigCLOptions} {call : Call}
    (h : ¬inputUndetectable extensions cl call.inputFilename) (later : List Call) :
    (afterCalls extensions (callStep extensions cl call) later).emitAction =
        resolvedEmitAction extensions cl call.outputFilename ∧
      (resolvedInputType extensions cl call.inputFilename ≠ .Undetected →
        (afterCalls extensions (callStep extensions cl call) later).inputType =
          resolvedInputType extensions cl call.inputFilename) := by
  have hstep := callStep_eq extensions cl call
  rw [if_neg h] at hstep
  have hk := kindsOnly_afterCalls extensions (callStep extensions cl call) later
  rw [hstep] at hk ⊢
  exact ⟨hk.emitAction_sticky (resolvedEmitAction_ne _ _ _), hk.inputType_sticky⟩

/-- The first successful call settles the emit action, and the input kind when it
resolves one, for the rest of the process. -/
theorem afterCalls_kinds_settled (cl : QEConfigCLOptions) (calls : List Call) (call : Call)
    (later : List Call)
    (h : ¬inputUndetectable extensions (afterCalls extensions cl calls) call.inputFilename) :
    (afterCalls extensions cl (calls ++ call :: later)).emitAction =
        resolvedEmitAction extensions (afterCalls extensions cl calls) call.outputFilename ∧
      (resolvedInputType extensions (afterCalls extensions cl calls) call.inputFilename ≠
          .Undetected →
        (afterCalls extensions cl (calls ++ call :: later)).inputType =
          resolvedInputType extensions (afterCalls extensions cl calls) call.inputFilename) := by
  rw [afterCalls_append_cons]
  exact afterCalls_callStep_kinds extensions h later

theorem afterCalls_kinds_settled_of_qem :
    (afterCalls namedExtensions (parsed [])
        ([⟨{}, "a.qasm", "-"⟩] ++ ⟨{}, "b.mlir", "out.qem"⟩ :: [])).emitAction =
        resolvedEmitAction namedExtensions
          (afterCalls namedExtensions (parsed []) [⟨{}, "a.qasm", "-"⟩]) "out.qem" ∧
      (resolvedInputType namedExtensions
          (afterCalls namedExtensions (parsed []) [⟨{}, "a.qasm", "-"⟩]) "b.mlir" ≠
          .Undetected →
        (afterCalls namedExtensions (parsed [])
            ([⟨{}, "a.qasm", "-"⟩] ++ ⟨{}, "b.mlir", "out.qem"⟩ :: [])).inputType =
          resolvedInputType namedExtensions
            (afterCalls namedExtensions (parsed []) [⟨{}, "a.qasm", "-"⟩]) "b.mlir") :=
  afterCalls_kinds_settled namedExtensions (parsed []) [⟨{}, "a.qasm", "-"⟩]
    ⟨{}, "b.mlir", "out.qem"⟩ [] (by decide)

theorem getLast?_filterMap_of {α β : Type} {f : α → Option β} (p : β → Prop)
    (hf : ∀ a b, f a = some b → p b) {l : List α} {b : β}
    (h : (l.filterMap f).getLast? = some b) : p b := by
  obtain ⟨a, -, ha⟩ := List.mem_filterMap.1 (List.mem_of_getLast?_eq_some h)
  exact hf a b ha

theorem getLast?_inputType_ne {args : List CLOption} {t : InputType}
    (h : (args.filterMap CLOption.inputType?).getLast? = some t) : t ≠ .Undetected :=
  getLast?_filterMap_of (· ≠ .Undetected) (fun o t ho => by cases o <;> cases ho; assumption) h

theorem getLast?_emitAction_ne {args : List CLOption} {a : EmitAction}
    (h : (args.filterMap CLOption.emitAction?).getLast? = some a) : a ≠ .Undetected :=
  getLast?_filterMap_of (· ≠ .Undetected) (fun o a ho => by cases o <;> cases ho; assumption) h

theorem parsed_emitAction (args : List CLOption) :
    (parsed args).emitAction = (args.filterMap CLOption.emitAction?).getLast?.getD .Undetected :=
  parse_emitAction _ _

theorem resolvedInputType_parsed (args : List CLOption) (inputFilename : String) :
    resolvedInputType extensions (parsed args) inputFilename =
      (args.filterMap CLOption.inputType?).getLast?.getD
        (fileExtensionToInputType (getExtension extensions inputFilename)) := by
  unfold resolvedInputType parsed
  rw [parse_inputType, parse_emitBytecodeFlag]
  cases h : (args.filterMap CLOption.inputType?).getLast? with
  | none => rfl
  | some t => simp [getLast?_inputType_ne h]

theorem resolvedEmitAction_parsed (args : List CLOption) (outputFilename : String) :
    resolvedEmitAction extensions (parsed args) outputFilename =
      (args.filterMap CLOption.emitAction?).getLast?.getD
        (if outputFilename = "-" ∨
            fileExtensionToAction (getExtension extensions outputFilename) = .Undetected
          then .MLIR else fileExtensionToAction (getExtension extensions outputFilename)) := by
  unfold resolvedEmitAction
  rw [parsed_emitAction]
  cases h : (args.filterMap CLOption.emitAction?).getLast? with
  | none => simp only [Option.getD_none, ne_eq, not_true_eq_false, if_false]; split_ifs <;> simp_all
  | some a => simp [getLast?_emitAction_ne h]

/-- In a fresh process a file output warns when no `--emit` is given and its
extension names no action, or when it disagrees with the last `--emit`. -/
theorem outputWarnings_parsed (args : List CLOption) (outputFilename : String) :
    outputWarnings extensions (parsed args) outputFilename =
      if outputFilename = "-" then []
      else match (args.filterMap CLOption.emitAction?).getLast? with
        | none =>
          if fileExtensionToAction (getExtension extensions outputFilename) = .Undetected then
            ["Cannot determine the file extension of the specified output file " ++
              outputFilename ++ " defaulting to dumping MLIR\n"]
          else []
        | some emitted =>
          if fileExtensionToAction (getExtension extensions outputFilename) = emitted then []
          else
            ["Warning! The output type in the file extension doesn\x27t match the output type " ++
              "specified by --emit!\n"] := by
  unfold outputWarnings
  rw [parsed_emitAction]
  cases h : (args.filterMap CLOption.emitAction?).getLast? with
  | none => rfl
  | some a => simp only [Option.getD_some, if_neg (getLast?_emitAction_ne h)]

/-- In a fresh process the input kind is the last `-X`, else the kind of the
input's extension, and the call fails exactly when that is `Undetected` for a
file; the emit action is the last `--emit`, else MLIR for standard output or for
an output whose extension names no action, with a warning for a file, else that
action; an `--emit` the extension disagrees with is kept, with a warning. The
kinds of the caller's configuration are overwritten, never read. -/
theorem populateConfigFiles_fresh (args : List CLOption) (c : QEConfig)
    (inputFilename outputFilename : String) :
    let type := (args.filterMap CLOption.inputType?).getLast?.getD
      (fileExtensionToInputType (getExtension extensions inputFilename))
    let extensionAction := fileExtensionToAction (getExtension extensions outputFilename)
    let action := (args.filterMap CLOption.emitAction?).getLast?.getD
      (if outputFilename = "-" ∨ extensionAction = .Undetected then .MLIR else extensionAction)
    let warnings :=
      if outputFilename = "-" then []
      else match (args.filterMap CLOption.emitAction?).getLast? with
        | none =>
          if extensionAction = .Undetected then
            ["Cannot determine the file extension of the specified output file " ++
              outputFilename ++ " defaulting to dumping MLIR\n"]
          else []
        | some emitted =>
          if extensionAction = emitted then []
          else
            ["Warning! The output type in the file extension doesn\x27t match the output type " ++
              "specified by --emit!\n"]
    (inputFilename ≠ "-" ∧ type = .Undetected →
      populateConfigFiles extensions inputFilename outputFilename (parsed args, c) =
        .error "Unable to autodetect file extension type! Please specify the input type with -X"
          (parsed args, populateConfig (parsed args) c)) ∧
    (¬(inputFilename ≠ "-" ∧ type = .Undetected) →
      populateConfigFiles extensions inputFilename outputFilename (parsed args, c) =
        .ok warnings ({ parsed args with inputType := type, emitAction := action },
          { populateConfig (parsed args) c with inputType := type, emitAction := action })) := by
  intro type extensionAction action warnings
  have hin : resolvedInputType extensions (parsed args) inputFilename = type :=
    resolvedInputType_parsed extensions args inputFilename
  refine ⟨fun h => populateConfigFiles_error extensions ⟨h.1, hin.trans h.2⟩ c outputFilename,
    fun h => ?_⟩
  rw [populateConfigFiles_ok extensions (fun hu => h ⟨hu.1, hin.symm.trans hu.2⟩), hin,
    resolvedEmitAction_parsed, outputWarnings_parsed]

/-- The caller's kinds and emit-bytecode flag are not consulted: a configuration
that names QASM input, or asks for bytecode, still fails on a file whose extension
names no kind, and a configuration's QEM action gives way to MLIR on standard
output. -/
theorem populateConfigFiles_ignores_config_kinds :
    (∃ e s, populateConfigFiles namedExtensions "prog.txt" "-"
        (parsed [], { inputType := .QASM }) = .error e s) ∧
      (∃ e s, populateConfigFiles namedExtensions "prog.txt" "-"
        (parsed [], { emitBytecodeFlag := true }) = .error e s) ∧
      ∃ w cl' c', populateConfigFiles namedExtensions "prog.qasm" "-"
          (parsed [], { emitAction := .QEM }) = .ok w (cl', c') ∧ c'.emitAction = .MLIR :=
  ⟨⟨_, _, rfl⟩, ⟨_, _, rfl⟩, ⟨_, _, _, rfl, rfl⟩⟩

end QECompiler.Config
