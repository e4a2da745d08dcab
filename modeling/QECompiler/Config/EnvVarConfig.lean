import QECompiler.Config.Overlay
import QECompiler.Support.StringRef

/-! The environment builder (`EnvVarConfig.cpp`). It reads four variables in
turn (target config path, target name, verbosity, thread cap) and writes the
configuration in place, returning at the first malformed value; a builder is an
`EStateM` computation over the configuration, whose `.error` keeps the writes
made before it. Proved: the stage succeeds exactly when the verbosity token and
the thread cap, where present, are well formed, and then lays the overlay of the
present variables over the configuration; a failure keeps every write except the
thread cap; the thread cap is the leading numeral of `QEC_MAX_THREADS` in the
radix its prefix selects, whatever follows it. -/

namespace QECompiler.Config

open StringRef

/-- The process environment, as `std::getenv` reads it. -/
structure Env where
  getenv : String → Option String

/-- The environment that holds exactly the given variables. -/
def Env.ofList (vars : List (String × String)) : Env := ⟨vars.lookup⟩

namespace EnvVarConfigBuilder

def populateConfigurationPath_ (env : Env) : EStateM String QEConfig Unit := fun config =>
  match env.getenv "QEC_TARGET_CONFIG_PATH" with
  | some configurationPath => .ok () { config with targetConfigPath := some configurationPath }
  | none => .ok () config

def populateTarget_ (env : Env) : EStateM String QEConfig Unit := fun config =>
  match env.getenv "QEC_TARGET_NAME" with
  | some targetStr => .ok () { config with targetName := some targetStr }
  | none => .ok () config

/-- `maxThreadsStr.consumeInteger<unsigned int>(0, maxThreadsInt)`; the message
shows what is left of `maxThreadsStr` after the failed parse. -/
def populateMaxThreads_ (env : Env) : EStateM String QEConfig Unit := fun config =>
  match env.getenv "QEC_MAX_THREADS" with
  | some maxThreads =>
    match consumeInteger 32 0 maxThreads.data with
    | .error () maxThreadsStr =>
      .error ("Unable to parse maximum threads from \"" ++ String.mk maxThreadsStr ++ "\"\n")
        config
    | .ok maxThreadsInt _ => .ok () { config with maxThreads := some (UInt32.ofNat maxThreadsInt) }
  | none => .ok () config

def populateVerbosity_ (env : Env) : EStateM String QEConfig Unit := fun config =>
  match env.getenv "QEC_VERBOSITY" with
  | some verbosity =>
    if verbosity = "ERROR" then .ok () (config.setVerbosityLevel .Error)
    else if verbosity = "WARN" then .ok () (config.setVerbosityLevel .Warn)
    else if verbosity = "INFO" then .ok () (config.setVerbosityLevel .Info)
    else if verbosity = "DEBUG" then .ok () (config.setVerbosityLevel .Debug)
    else
      .error ("QEC_VERBOSITY level unrecognized got (" ++ verbosity ++
        "), options are ERROR, WARN, INFO, or DEBUG\n") config
  | none => .ok () config

def populateConfig (env : Env) : EStateM String QEConfig Unit := do
  populateConfigurationPath_ env
  populateTarget_ env
  populateVerbosity_ env
  populateMaxThreads_ env

end EnvVarConfigBuilder

/-! ### What the environment says -/

/-- The closed vocabulary of `QEC_VERBOSITY`. -/
def verbosityTokens : List (String × QEVerbosity) :=
  [("ERROR", .Error), ("WARN", .Warn), ("INFO", .Info), ("DEBUG", .Debug)]

/-- The thread cap a `QEC_MAX_THREADS` value gives, when it gives one. -/
def maxThreadsOf (s : String) : Option UInt32 :=
  match leadingNumeral s.data with
  | some n => if n < 2 ^ 32 then some (UInt32.ofNat n) else none
  | none => none

/-- The overlay of the environment: every variable that is present, read as the
stage reads it. -/
def envVarOverlay (env : Env) : Overlay where
  targetConfigPath := env.getenv "QEC_TARGET_CONFIG_PATH"
  targetName := env.getenv "QEC_TARGET_NAME"
  verbosityLevel := (env.getenv "QEC_VERBOSITY").bind verbosityTokens.lookup
  maxThreads := (env.getenv "QEC_MAX_THREADS").bind maxThreadsOf

/-- The values the stage accepts: a verbosity token of the vocabulary and a thread
cap it can read, where present. -/
def EnvWellFormed (env : Env) : Prop :=
  (∀ v, env.getenv "QEC_VERBOSITY" = some v → (verbosityTokens.lookup v).isSome) ∧
    ∀ s, env.getenv "QEC_MAX_THREADS" = some s → (maxThreadsOf s).isSome

theorem maxThreadsOf_eq_some_iff {s : String} {n : UInt32} :
    maxThreadsOf s = some n ↔ ∃ m, leadingNumeral s.data = some m ∧ m < 2 ^ 32 ∧ n = UInt32.ofNat m := by
  unfold maxThreadsOf
  cases leadingNumeral s.data with
  | none => simp
  | some m => by_cases h : m < 2 ^ 32 <;> simp [h, eq_comm]

theorem maxThreadsOf_eq_none_iff {s : String} :
    maxThreadsOf s = none ↔ ∀ m, leadingNumeral s.data = some m → 2 ^ 32 ≤ m := by
  unfold maxThreadsOf
  cases leadingNumeral s.data with
  | none => simp
  | some m => by_cases h : m < 2 ^ 32 <;> simp [h]

namespace EnvVarConfigBuilder

/-! ### The helpers -/

section Helpers

variable (env : Env) (c : QEConfig)

theorem populateConfigurationPath__eq :
    populateConfigurationPath_ env c =
      .ok () { c with
        targetConfigPath := (env.getenv "QEC_TARGET_CONFIG_PATH").or c.targetConfigPath } := by
  unfold populateConfigurationPath_; split <;> simp_all

theorem populateTarget__eq :
    populateTarget_ env c =
      .ok () { c with targetName := (env.getenv "QEC_TARGET_NAME").or c.targetName } := by
  unfold populateTarget_; split <;> simp_all

/-- The `strcmp` chain is a lookup in the vocabulary. -/
theorem populateVerbosity__eq :
    populateVerbosity_ env c =
      match env.getenv "QEC_VERBOSITY" with
      | some v =>
        match verbosityTokens.lookup v with
        | some level => .ok () (c.setVerbosityLevel level)
        | none =>
          .error ("QEC_VERBOSITY level unrecognized got (" ++ v ++
            "), options are ERROR, WARN, INFO, or DEBUG\n") c
      | none => .ok () c := by
  unfold populateVerbosity_
  split
  · simp only [verbosityTokens, List.lookup_cons, List.lookup_nil, Bool.beq_eq_decide_eq]
    split_ifs <;> simp_all
  · rfl

variable {env c}

/-- The thread-cap helper on a value: its leading numeral when that fits
`unsigned int`, else a failure quoting what `consumeInteger` left of the value,
the rest after the digits when the value fits 64 bits and the rest after the
prefix otherwise. -/
theorem populateMaxThreads__of_some {s : String} (hs : env.getenv "QEC_MAX_THREADS" = some s) :
    populateMaxThreads_ env c =
      match leadingNumeral s.data with
      | none =>
        .error ("Unable to parse maximum threads from \"" ++
          String.mk (getAutoSenseRadix s.data).2 ++ "\"\n") c
      | some n =>
        if n < 2 ^ 32 then .ok () (c.setMaxThreads (UInt32.ofNat n))
        else .error ("Unable to parse maximum threads from \"" ++
          String.mk (if n < 2 ^ 64 then numeralRest s.data else (getAutoSenseRadix s.data).2) ++
          "\"\n") c := by
  simp only [populateMaxThreads_, hs, consumeInteger_eq (show 32 ≤ 64 by norm_num)]
  cases leadingNumeral s.data with
  | none => rfl
  | some n => dsimp only; split_ifs <;> rfl

theorem populateMaxThreads__ok {s : String} {n : UInt32}
    (hs : env.getenv "QEC_MAX_THREADS" = some s) (hn : maxThreadsOf s = some n) :
    populateMaxThreads_ env c = .ok () (c.setMaxThreads n) := by
  obtain ⟨m, hm, hlt, rfl⟩ := maxThreadsOf_eq_some_iff.1 hn
  simp only [populateMaxThreads__of_some hs, hm, if_pos hlt]

theorem populateMaxThreads__error {s : String} (hs : env.getenv "QEC_MAX_THREADS" = some s)
    (hn : maxThreadsOf s = none) : ∃ e, populateMaxThreads_ env c = .error e c := by
  rw [populateMaxThreads__of_some hs]
  cases hm : leadingNumeral s.data with
  | none => exact ⟨_, rfl⟩
  | some m =>
    dsimp only
    rw [if_neg (Nat.not_lt.2 (maxThreadsOf_eq_none_iff.1 hn m hm))]
    exact ⟨_, rfl⟩

theorem populateVerbosity__wellFormed
    (hv : ∀ v, env.getenv "QEC_VERBOSITY" = some v → (verbosityTokens.lookup v).isSome) :
    populateVerbosity_ env c =
      .ok () { c with
        verbosityLevel :=
          ((env.getenv "QEC_VERBOSITY").bind verbosityTokens.lookup).getD c.verbosityLevel } := by
  rw [populateVerbosity__eq]
  split
  · next v hV =>
    obtain ⟨level, hl⟩ := Option.isSome_iff_exists.1 (hv v hV)
    simp only [hV, Option.some_bind, hl, Option.getD_some]
    rfl
  · next hV => simp only [hV, Option.none_bind, Option.getD_none]

theorem populateMaxThreads__wellFormed
    (hm : ∀ s, env.getenv "QEC_MAX_THREADS" = some s → (maxThreadsOf s).isSome) :
    populateMaxThreads_ env c =
      .ok () { c with
        maxThreads := ((env.getenv "QEC_MAX_THREADS").bind maxThreadsOf).or c.maxThreads } := by
  cases hM : env.getenv "QEC_MAX_THREADS" with
  | none => simp only [populateMaxThreads_, hM, Option.none_bind, Option.none_or]
  | some s =>
    obtain ⟨n, hn⟩ := Option.isSome_iff_exists.1 (hm s hM)
    rw [populateMaxThreads__ok hM hn]
    simp only [Option.some_bind, hn, Option.or_some]
    rfl

end Helpers

/-! ### The stage -/

section Stage

variable {env : Env} {c : QEConfig}

/-- Once the verbosity is accepted, the stage is the thread-cap helper on the
configuration the first three helpers leave. -/
theorem populateConfig_of_verbosity
    (hv : ∀ v, env.getenv "QEC_VERBOSITY" = some v → (verbosityTokens.lookup v).isSome) :
    populateConfig env c =
      populateMaxThreads_ env ({ envVarOverlay env with maxThreads := none }.apply c) := by
  simp only [populateConfig, bind, EStateM.bind, populateConfigurationPath__eq, populateTarget__eq,
    populateVerbosity__wellFormed hv, envVarOverlay, Overlay.apply_scalar, Option.none_or]

/-- On a well-formed environment the stage lays the environment's overlay over the
configuration. -/
theorem populateConfig_ok (h : EnvWellFormed env) :
    populateConfig env c = .ok () ((envVarOverlay env).apply c) := by
  simp only [populateConfig, bind, EStateM.bind, populateConfigurationPath__eq, populateTarget__eq,
    populateVerbosity__wellFormed h.1, populateMaxThreads__wellFormed h.2, envVarOverlay,
    Overlay.apply_scalar]

/-- On a malformed environment the stage fails, keeping every write but the thread
cap: the malformed variable's own field is left as it was. -/
theorem populateConfig_error (h : ¬EnvWellFormed env) :
    ∃ e, populateConfig env c = .error e ({ envVarOverlay env with maxThreads := none }.apply c) := by
  by_cases hv : ∀ v, env.getenv "QEC_VERBOSITY" = some v → (verbosityTokens.lookup v).isSome
  · have hm : ¬∀ s, env.getenv "QEC_MAX_THREADS" = some s → (maxThreadsOf s).isSome :=
      fun hm => h ⟨hv, hm⟩
    push_neg at hm
    obtain ⟨s, hM, hs⟩ := hm
    rw [populateConfig_of_verbosity hv]
    exact @populateMaxThreads__error _ _ _ hM (Option.not_isSome_iff_eq_none.1 hs)
  · push_neg at hv
    obtain ⟨v, hV, hl⟩ := hv
    simp only [populateConfig, bind, EStateM.bind, populateConfigurationPath__eq, populateTarget__eq,
      populateVerbosity__eq, hV, Option.not_isSome_iff_eq_none.1 hl, envVarOverlay,
      Overlay.apply_scalar, Option.some_bind, Option.getD_none, Option.none_or]
    exact ⟨_, rfl⟩

/-- The stage succeeds exactly on a well-formed environment. -/
theorem populateConfig_eq_ok {c' : QEConfig} (h : populateConfig env c = .ok () c') :
    EnvWellFormed env ∧ c' = (envVarOverlay env).apply c := by
  by_cases hw : EnvWellFormed env
  · rw [populateConfig_ok hw] at h
    cases h
    exact ⟨hw, rfl⟩
  · obtain ⟨e, he⟩ := @populateConfig_error env c hw
    rw [he] at h
    cases h

/-- Run again on the configuration it produced, the stage succeeds and changes
nothing. -/
theorem populateConfig_idempotent {c' : QEConfig} (h : populateConfig env c = .ok () c') :
    populateConfig env c' = .ok () c' := by
  obtain ⟨hw, rfl⟩ := populateConfig_eq_ok h
  rw [populateConfig_ok hw, Overlay.apply_apply]
  simp only [Overlay.merge, envVarOverlay, Option.or_self, List.append_nil]

theorem populateConfig_idempotent_of_target :
    populateConfig (.ofList [("QEC_TARGET_NAME", "qpu")]) { targetName := some "qpu" } =
      .ok () { targetName := some "qpu" } :=
  @populateConfig_idempotent (.ofList [("QEC_TARGET_NAME", "qpu")]) {} { targetName := some "qpu" }
    rfl

/-- The thread cap is the leading numeral of the value, in the radix its prefix
selects and whatever follows it, when that numeral is below `2 ^ 32`; any other
value fails the stage, quoting what `consumeInteger` left of it. -/
theorem populateConfig_maxThreads_leadingNumeral {s : String}
    (hs : env.getenv "QEC_MAX_THREADS" = some s)
    (hv : ∀ v, env.getenv "QEC_VERBOSITY" = some v → (verbosityTokens.lookup v).isSome) :
    (∀ n : UInt32, (∃ c', populateConfig env c = .ok () c' ∧ c'.maxThreads = some n) ↔
        ∃ m, leadingNumeral s.data = some m ∧ m < 2 ^ 32 ∧ n = UInt32.ofNat m) ∧
      ((∃ e c', populateConfig env c = .error e c') ↔
        ∀ m, leadingNumeral s.data = some m → 2 ^ 32 ≤ m) ∧
      ∀ e c', populateConfig env c = .error e c' →
        e = "Unable to parse maximum threads from \"" ++
          String.mk (match leadingNumeral s.data with
            | some m => if m < 2 ^ 64 then numeralRest s.data else (getAutoSenseRadix s.data).2
            | none => (getAutoSenseRadix s.data).2) ++ "\"\n" := by
  rw [populateConfig_of_verbosity hv, populateMaxThreads__of_some hs]
  cases leadingNumeral s.data with
  | none =>
    exact ⟨fun _ => ⟨fun ⟨_, h, _⟩ => (nomatch h), fun ⟨_, h, _⟩ => (nomatch h)⟩,
      iff_of_true ⟨_, _, rfl⟩ fun _ h => (nomatch h), fun _ _ h => by cases h; rfl⟩
  | some m =>
    dsimp only
    by_cases hlt : m < 2 ^ 32
    · rw [if_pos hlt]
      refine ⟨fun n => ⟨?_, ?_⟩, ⟨fun ⟨_, _, h⟩ => (nomatch h),
        fun h => absurd (h m rfl) (Nat.not_le.2 hlt)⟩, fun _ _ h => (nomatch h)⟩
      · rintro ⟨c', hc', hn⟩
        cases hc'
        exact ⟨m, rfl, hlt, (Option.some.inj hn).symm⟩
      · rintro ⟨m', hm', -, rfl⟩
        cases hm'
        exact ⟨_, rfl, rfl⟩
    · rw [if_neg hlt]
      exact ⟨fun _ => ⟨fun ⟨_, h, _⟩ => (nomatch h),
        fun ⟨_, hm', hlt', _⟩ => absurd (Option.some.inj hm' ▸ hlt') hlt⟩,
        iff_of_true ⟨_, _, rfl⟩ fun _ hm' => Option.some.inj hm' ▸ Nat.not_lt.1 hlt,
        fun _ _ h => by cases h; rfl⟩

/-- A value in hexadecimal with a letter after its digits sets the thread cap. -/
theorem populateConfig_maxThreads_of_hex_suffix :
    (Env.ofList [("QEC_MAX_THREADS", "0x1Fz")]).getenv "QEC_MAX_THREADS" = some "0x1Fz" ∧
      ∃ c', populateConfig (.ofList [("QEC_MAX_THREADS", "0x1Fz")]) {} = .ok () c' ∧
        c'.maxThreads = some 31 :=
  ⟨rfl, ((@populateConfig_maxThreads_leadingNumeral (.ofList [("QEC_MAX_THREADS", "0x1Fz")]) {}
    "0x1Fz" rfl fun _ h =>
      by cases h.symm.trans (by decide : (Env.ofList _).getenv "QEC_VERBOSITY" = none)).1 31).2
    ⟨31, by decide, by norm_num, rfl⟩⟩

/-- A value with characters after its numeral sets the thread cap, and a value
that overflows `unsigned int` fails quoting nothing of it. -/
theorem populateConfig_maxThreads_ignores_suffix :
    populateConfig (.ofList [("QEC_MAX_THREADS", "12abc")]) {} =
        .ok () (({} : QEConfig).setMaxThreads 12) ∧
      populateConfig (.ofList [("QEC_MAX_THREADS", "4294967296")]) {} =
        .error "Unable to parse maximum threads from \"\"\n" {} :=
  ⟨rfl, rfl⟩

end Stage

end EnvVarConfigBuilder

end QECompiler.Config
