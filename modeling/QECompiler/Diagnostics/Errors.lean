import Mathlib.Data.List.Basic

/-! Structured diagnostics (`errors.cpp`) and their pickling in the Python
bindings (`lib_enums.cpp`). A diagnostic is formatted as
`"<severity>: <category>\n<message>"`; `emitDiagnostic` hands it to the optional
callback and returns the string error LLVM 17's `createStringError` builds from
the text, which ends at the first NUL. Proved: the failure carries that text with
or without a callback, also from the overload taking the parts; `toString` is
injective, so a failure on a message without NUL determines the diagnostic.
Unpickling accepts exactly a severity, a category and a `str`, `bytes` or
`bytearray` message. -/

namespace QECompiler

inductive ErrorCategory where
  | OpenQASM3ParseFailure | QECompilerError | QECompilerNoInputError
  | QECompilerCommunicationFailure | QECompilerEOFFailure | QECompilerNonZeroStatus
  | QECompilerSequenceTooLong | QECompilationFailure | QELinkerNotImplemented
  | QELinkSignatureWarning | QELinkSignatureError | QELinkAddressError
  | QELinkSignatureNotFound | QELinkArgumentNotFoundWarning | QELinkInvalidPatchTypeError
  | QEControlSystemResourcesExceeded | UncategorizedError
  deriving DecidableEq, Repr

inductive Severity where
  | Info | Warning | Error | Fatal
  deriving DecidableEq, Repr

structure Diagnostic where
  severity : Severity
  category : ErrorCategory
  message : String
  deriving DecidableEq, Repr

def getErrorCategoryAsString : ErrorCategory → String
  | .OpenQASM3ParseFailure => "OpenQASM 3 parse error"
  | .QECompilerError => "Unknown compiler error"
  | .QECompilerNoInputError => "Error when no input file or string is provided"
  | .QECompilerCommunicationFailure => "Error on compilation communication failure"
  | .QECompilerEOFFailure => "EOF Error"
  | .QECompilerNonZeroStatus => "Errored because non-zero status is returned"
  | .QECompilerSequenceTooLong => "Input sequence is too long"
  | .QECompilationFailure => "Failure during compilation"
  | .QELinkerNotImplemented => "BindArguments not implemented for target"
  | .QELinkSignatureWarning => "Signature file format is invalid but may be processed"
  | .QELinkSignatureError => "Signature file format is invalid"
  | .QELinkAddressError => "Signature address is invalid"
  | .QELinkSignatureNotFound => "Signature file not found"
  | .QELinkArgumentNotFoundWarning => "Parameter in signature not found in arguments"
  | .QELinkInvalidPatchTypeError => "Invalid patch point type"
  | .QEControlSystemResourcesExceeded => "Control system resources exceeded"
  | .UncategorizedError => "Compilation failure"

def getSeverityAsString : Severity → String
  | .Info => "Info"
  | .Warning => "Warning"
  | .Error => "Error"
  | .Fatal => "Fatal"

namespace Diagnostic

def toString (d : Diagnostic) : String :=
  getSeverityAsString d.severity ++ ": " ++ getErrorCategoryAsString d.category ++ "\n" ++
    d.message

end Diagnostic

/-! ### Reading the text back -/

def Severity.all : List Severity := [.Info, .Warning, .Error, .Fatal]

def ErrorCategory.all : List ErrorCategory :=
  [.OpenQASM3ParseFailure, .QECompilerError, .QECompilerNoInputError,
    .QECompilerCommunicationFailure, .QECompilerEOFFailure, .QECompilerNonZeroStatus,
    .QECompilerSequenceTooLong, .QECompilationFailure, .QELinkerNotImplemented,
    .QELinkSignatureWarning, .QELinkSignatureError, .QELinkAddressError,
    .QELinkSignatureNotFound, .QELinkArgumentNotFoundWarning, .QELinkInvalidPatchTypeError,
    .QEControlSystemResourcesExceeded, .UncategorizedError]

namespace Diagnostic

/-- A reader of diagnostic texts, which the sources do not have: the left inverse
of `toString` that its injectivity is proved with. It takes the severity name up
to the first colon, then a blank, the category description up to the first
newline, and the message. -/
def ofString? (s : String) : Option Diagnostic :=
  match s.data.span (· != ':') with
  | (name, ':' :: ' ' :: rest) =>
    match rest.span (· != '\n') with
    | (line, '\n' :: message) => do
      let severity ← Severity.all.find? fun sev => (getSeverityAsString sev).data = name
      let category ← ErrorCategory.all.find? fun cat => (getErrorCategoryAsString cat).data = line
      pure ⟨severity, category, String.mk message⟩
    | _ => none
  | _ => none

/-- A field that does not contain its delimiter ends at the delimiter. -/
theorem span_append_delim {d : Char} {p : List Char} (h : d ∉ p) (r : List Char) :
    (p ++ d :: r).span (· != d) = (p, d :: r) := by
  induction p with
  | nil => simp [List.span_eq_take_drop]
  | cons c p ih =>
    simp only [List.mem_cons, not_or] at h
    simp_all [List.span_eq_take_drop, List.takeWhile_cons, List.dropWhile_cons, Ne.symm h.1]

theorem colon_not_mem_severity (sev : Severity) : ':' ∉ (getSeverityAsString sev).data := by
  cases sev <;> decide

theorem newline_not_mem_category (cat : ErrorCategory) :
    '\n' ∉ (getErrorCategoryAsString cat).data := by
  cases cat <;> decide

theorem find_severity (sev : Severity) :
    Severity.all.find? (fun s => (getSeverityAsString s).data = (getSeverityAsString sev).data) =
      some sev := by
  cases sev <;> decide

theorem find_category (cat : ErrorCategory) :
    ErrorCategory.all.find?
        (fun c => (getErrorCategoryAsString c).data = (getErrorCategoryAsString cat).data) =
      some cat := by
  cases cat <;> decide

theorem toString_data (d : Diagnostic) :
    d.toString.data = (getSeverityAsString d.severity).data ++
      ':' :: ' ' :: ((getErrorCategoryAsString d.category).data ++ '\n' :: d.message.data) := by
  simp [toString]

/-- The text of a diagnostic reads back as the diagnostic. -/
theorem ofString?_toString (d : Diagnostic) : ofString? d.toString = some d := by
  simp only [ofString?, toString_data, span_append_delim (colon_not_mem_severity _),
    span_append_delim (newline_not_mem_category _), find_severity, find_category]
  rfl

theorem toString_injective : Function.Injective toString := fun d₁ d₂ h => by
  simpa only [ofString?_toString, Option.some.injEq] using congrArg ofString? h

end Diagnostic

/-- The error `llvm::createStringError` builds: an error code and a message. -/
structure StringError (ErrorCode : Type) where
  ec : ErrorCode
  message : String

/-- `llvm::createStringError(EC, const Twine &S)` as LLVM 17 has it: it forwards
`S.str().c_str()` to the `const char *` overload, so the message ends at the
first NUL. -/
def createStringError {ErrorCode : Type} (ec : ErrorCode) (s : String) : StringError ErrorCode :=
  ⟨ec, String.mk (s.data.takeWhile (· != '\x00'))⟩

theorem createStringError_of_nul_free {ErrorCode : Type} (ec : ErrorCode) {s : String}
    (h : '\x00' ∉ s.data) : createStringError ec s = ⟨ec, s⟩ := by
  rw [createStringError,
    List.takeWhile_eq_self_iff.2 fun c hc => bne_iff_ne.2 (ne_of_mem_of_not_mem hc h)]

section Emit

variable {σ ErrorCode : Type}

/-- `emitDiagnostic`: the callback, when there is one, runs on the diagnostic
first; the result is the string error of its text. -/
def emitDiagnostic (onDiagnostic : Option (Diagnostic → σ → σ)) (diag : Diagnostic)
    (ec : ErrorCode) : StateM σ (StringError ErrorCode) := fun s =>
  let s := match onDiagnostic with
    | some diagnosticCallback => diagnosticCallback diag s
    | none => s
  (createStringError ec diag.toString, s)

/-- The overload that builds the diagnostic from its parts. -/
def emitDiagnostic' (onDiagnostic : Option (Diagnostic → σ → σ)) (severity : Severity)
    (category : ErrorCategory) (message : String) (ec : ErrorCode) :
    StateM σ (StringError ErrorCode) :=
  emitDiagnostic onDiagnostic ⟨severity, category, message⟩ ec

end Emit

namespace Diagnostic

theorem nul_not_mem_severity (sev : Severity) : '\x00' ∉ (getSeverityAsString sev).data := by
  cases sev <;> decide

theorem nul_not_mem_category (cat : ErrorCategory) :
    '\x00' ∉ (getErrorCategoryAsString cat).data := by
  cases cat <;> decide

/-- Only the message can bring a NUL into the text. -/
theorem toString_nul_free {d : Diagnostic} (h : '\x00' ∉ d.message.data) :
    '\x00' ∉ d.toString.data := by
  simp only [toString_data, List.mem_append, List.mem_cons, not_or]
  exact ⟨nul_not_mem_severity _, by decide, by decide, nul_not_mem_category _, by decide, h⟩

end Diagnostic

/-! ### Pickling in the Python bindings (`lib_enums.cpp`) -/

/-- The Python objects a pickled state can hold: the bound enumerations, a `str`,
the byte objects `bytes` and `bytearray` (given by the text their bytes encode),
and anything else. -/
inductive PyObject where
  | severity (s : Severity)
  | category (c : ErrorCategory)
  | str (s : String)
  | bytes (b : String)
  | bytearray (b : String)
  | other
  deriving DecidableEq, Repr

/-- What unpickling raises: the bindings' own `std::runtime_error`, or the
`cast_error` of a failed `cast`. -/
inductive UnpickleError where
  | runtimeError (what : String)
  | castError
  deriving DecidableEq, Repr

namespace PyObject

/-- `cast<T>` of an object to the type `proj` recognises. -/
def cast {α : Type} (proj : PyObject → Option α) (o : PyObject) : Except UnpickleError α :=
  match proj o with
  | some a => .ok a
  | none => .error .castError

def severity? : PyObject → Option Severity
  | .severity s => some s
  | _ => none

def category? : PyObject → Option ErrorCategory
  | .category c => some c
  | _ => none

/-- pybind11's `std::string` caster: a `str`, or the raw contents of a `bytes` or
`bytearray`. -/
def string? : PyObject → Option String
  | .str s | .bytes s | .bytearray s => some s
  | _ => none

theorem severity?_eq_some_iff {o : PyObject} {s : Severity} :
    o.severity? = some s ↔ o = .severity s := by
  cases o <;> simp [severity?]

theorem category?_eq_some_iff {o : PyObject} {c : ErrorCategory} :
    o.category? = some c ↔ o = .category c := by
  cases o <;> simp [category?]

theorem string?_eq_some_iff {o : PyObject} {m : String} :
    o.string? = some m ↔ o = .str m ∨ o = .bytes m ∨ o = .bytearray m := by
  cases o <;> simp [string?]

end PyObject

namespace Diagnostic

/-- `__getstate__`: the tuple of severity, category and message. -/
def getstate (d : Diagnostic) : List PyObject :=
  [.severity d.severity, .category d.category, .str d.message]

/-- `__setstate__`: a tuple of three, each element cast to its field's type. -/
def setstate (t : List PyObject) : Except UnpickleError Diagnostic :=
  if t.length ≠ 3 then .error (.runtimeError "invalid state for unpickling")
  else do
    let severity ← (t.getD 0 .other).cast PyObject.severity?
    let category ← (t.getD 1 .other).cast PyObject.category?
    let message ← (t.getD 2 .other).cast PyObject.string?
    pure ⟨severity, category, message⟩

theorem setstate_getstate (d : Diagnostic) : setstate (getstate d) = .ok d := rfl

/-- A tuple of three unpickles when each element casts, and fails with a cast error
otherwise. -/
theorem setstate_three (a b c : PyObject) :
    setstate [a, b, c] =
      match a.severity?, b.category?, c.string? with
      | some severity, some category, some message => .ok ⟨severity, category, message⟩
      | _, _, _ => .error .castError := by
  simp only [setstate, List.length_cons, List.length_nil, ne_eq, not_true_eq_false, if_false,
    List.getD_cons_zero, List.getD_cons_succ, PyObject.cast]
  cases a.severity? <;> cases b.category? <;> cases c.string? <;> rfl

theorem setstate_three_eq_ok (a b c : PyObject) (d : Diagnostic) :
    setstate [a, b, c] = .ok d ↔
      a.severity? = some d.severity ∧ b.category? = some d.category ∧
        c.string? = some d.message := by
  rw [setstate_three]
  cases a.severity? <;> cases b.category? <;> cases c.string? <;>
    simp only [reduceCtorEq, Except.ok.injEq, Option.some.injEq, false_and, and_false]
  constructor
  · rintro rfl; exact ⟨rfl, rfl, rfl⟩
  · rintro ⟨rfl, rfl, rfl⟩; rfl

/-- Unpickling accepts exactly the tuples of a severity, a category and a message
given as `str`, `bytes` or `bytearray`, the pickled states among them; a tuple of
another size raises the bindings' own error, and any other tuple of three a cast
error. -/
theorem setstate_spec (t : List PyObject) :
    (∀ d, setstate t = .ok d ↔
      t = getstate d ∨ t = [.severity d.severity, .category d.category, .bytes d.message] ∨
        t = [.severity d.severity, .category d.category, .bytearray d.message]) ∧
      (t.length ≠ 3 → setstate t = .error (.runtimeError "invalid state for unpickling")) ∧
      (t.length = 3 → (∀ d, setstate t ≠ .ok d) → setstate t = .error .castError) := by
  refine ⟨fun d => ?_, fun h => if_pos h, fun h hok => ?_⟩
  · match t with
    | [a, b, c] =>
      simp only [setstate_three_eq_ok, PyObject.severity?_eq_some_iff,
        PyObject.category?_eq_some_iff, PyObject.string?_eq_some_iff, getstate, List.cons.injEq,
        and_true, ← and_or_left]
    | [] | [_] | [_, _] | _ :: _ :: _ :: _ :: _ => simp [setstate, getstate]
  · match t, h with
    | [a, b, c], _ =>
      revert hok
      rw [setstate_three]
      split
      · exact fun hok => absurd rfl (hok _)
      · exact fun _ => rfl

end Diagnostic

/-- Whatever the callback, the failure carries the diagnostic's text up to its first
NUL, also from the overload that builds the diagnostic from its parts; the text
determines the diagnostic, so a failure on a message without NUL determines
severity, category and message. -/
theorem emitDiagnostic_message_determines_diagnostic {σ ErrorCode : Type}
    (onDiagnostic : Option (Diagnostic → σ → σ)) (ec : ErrorCode) :
    (∀ d s, (emitDiagnostic onDiagnostic d ec s).1 =
        ⟨ec, String.mk (d.toString.data.takeWhile (· != '\x00'))⟩) ∧
      (∀ severity category message s,
        (emitDiagnostic' onDiagnostic severity category message ec s).1 =
          ⟨ec, String.mk ((getSeverityAsString severity ++ ": " ++
            getErrorCategoryAsString category ++ "\n" ++ message).data.takeWhile
              (· != '\x00'))⟩) ∧
      Function.Injective Diagnostic.toString ∧
      ∀ d₁ d₂ s₁ s₂, '\x00' ∉ d₁.message.data → '\x00' ∉ d₂.message.data →
        (emitDiagnostic onDiagnostic d₁ ec s₁).1.message =
          (emitDiagnostic onDiagnostic d₂ ec s₂).1.message → d₁ = d₂ := by
  refine ⟨fun _ _ => rfl, fun _ _ _ _ => rfl, Diagnostic.toString_injective,
    fun d₁ d₂ _ _ h₁ h₂ h => Diagnostic.toString_injective ?_⟩
  simpa only [emitDiagnostic, createStringError_of_nul_free ec (Diagnostic.toString_nul_free h₁),
    createStringError_of_nul_free ec (Diagnostic.toString_nul_free h₂)] using h

/-- Two diagnostics whose messages differ only after a NUL fail with the same
message. -/
theorem emitDiagnostic_cuts_at_nul :
    (@emitDiagnostic Unit Unit none ⟨.Error, .QECompilerError, "a\x00b"⟩ () ()).1.message =
        (@emitDiagnostic Unit Unit none ⟨.Error, .QECompilerError, "a\x00c"⟩ () ()).1.message
      ∧ (⟨.Error, .QECompilerError, "a\x00b"⟩ : Diagnostic) ≠
        ⟨.Error, .QECompilerError, "a\x00c"⟩ :=
  ⟨rfl, by decide⟩

end QECompiler
