import QECompiler.Config.EnvVarConfig

/-! The resources directory (`QEC.cpp`). `getResourcesDir` keeps in a
function-local static the directory its first call computes: `QEC_RESOURCES` if it
is set, of which `_getResourcesDir` keeps a copy in a static of its own, else the
compiled-in install prefix. A process is a sequence of calls, each made under the
environment of its time. `getTargetResourcesDir` appends `targets` and the
target's resource path with LLVM's `sys::path::append`, modelled for POSIX paths,
where a component never has a root name without starting with a separator.
Proved: every call of a process returns the directory its first call computed,
whatever the environment is later; a target's resources are in the directory
`targets` of the resources directory. -/

namespace QECompiler

open Config

/-- The function-local statics of `QEC.cpp`; `none` is a static not yet
initialised. -/
structure ResourcesStatics where
  /-- The copy `_getResourcesDir` keeps of `QEC_RESOURCES`. -/
  envCopy : Option String := none
  /-- The directory `getResourcesDir` keeps. -/
  resourcesDir : Option String := none

/-- `_getResourcesDir`: `QEC_RESOURCES`, as first copied, else the install
prefix. -/
def _getResourcesDir (installPrefix : String) (env : Env) : StateM (Option String) String :=
  fun envCopy =>
    match env.getenv "QEC_RESOURCES" with
    | some value => let copy := envCopy.getD value; (copy, some copy)
    | none => (installPrefix, envCopy)

/-- `getResourcesDir`: the directory the first call computed. -/
def getResourcesDir (installPrefix : String) (env : Env) : StateM ResourcesStatics String :=
  fun s =>
    match s.resourcesDir with
    | some resourcesDir => (resourcesDir, s)
    | none =>
      let (resourcesDir, envCopy) := _getResourcesDir installPrefix env s.envCopy
      (resourcesDir, { envCopy, resourcesDir := some resourcesDir })

/-! ### A process -/

theorem getResourcesDir_of_some {s : ResourcesStatics} {resourcesDir : String}
    (h : s.resourcesDir = some resourcesDir) (installPrefix : String) (env : Env) :
    getResourcesDir installPrefix env s = (resourcesDir, s) := by
  simp only [getResourcesDir, h]

/-- Once the static holds a directory, every later call returns it and changes
nothing. -/
theorem mapM_getResourcesDir_of_some {s : ResourcesStatics} {resourcesDir : String}
    (h : s.resourcesDir = some resourcesDir) (installPrefix : String) (envs : List Env) :
    (envs.mapM (getResourcesDir installPrefix)).run s =
      (List.replicate envs.length resourcesDir, s) := by
  induction envs with
  | nil => rfl
  | cons env envs ih =>
    simp only [List.mapM_cons, StateT.run, bind, StateT.bind, getResourcesDir_of_some h] at ih ⊢
    rw [ih]
    rfl

/-- The first call of a process computes the directory from its environment. -/
theorem getResourcesDir_first (installPrefix : String) (env : Env) :
    (getResourcesDir installPrefix env {}).1 = (env.getenv "QEC_RESOURCES").getD installPrefix ∧
      (getResourcesDir installPrefix env {}).2.resourcesDir =
        some ((env.getenv "QEC_RESOURCES").getD installPrefix) := by
  simp only [getResourcesDir, _getResourcesDir]
  cases env.getenv "QEC_RESOURCES" <;> exact ⟨rfl, rfl⟩

/-- Every call of a process returns the directory of its first call: the
environment at that call decides it, and a later change to `QEC_RESOURCES` is
never seen. -/
theorem getResourcesDir_process (installPrefix : String) (env : Env) (envs : List Env) :
    (((env :: envs).mapM (getResourcesDir installPrefix)).run {}).1 =
      List.replicate (envs.length + 1) ((env.getenv "QEC_RESOURCES").getD installPrefix) := by
  obtain ⟨hdir, hstatic⟩ := getResourcesDir_first installPrefix env
  rcases h : getResourcesDir installPrefix env {} with ⟨dir, s⟩
  rw [h] at hdir hstatic
  have hrest := mapM_getResourcesDir_of_some hstatic installPrefix envs
  simp only [StateT.run] at hrest
  simp only [List.mapM_cons, StateT.run, bind, StateT.bind, h, hrest, ← hdir]
  rfl

/-! ### A target's resources -/

/-- `sys::path::append` of one component, POSIX style: after a path that ends in
a separator the component's leading separators are dropped; otherwise a separator
goes between them unless the path is empty or the component starts with one. -/
def appendComponent (path component : List Char) : List Char :=
  if path.getLast? = some '/' then path ++ component.dropWhile (· = '/')
  else if component.head? = some '/' ∨ path = [] then path ++ component
  else path ++ '/' :: component

/-- `getTargetResourcesDir`: the target's resource path in the directory
`targets` of the resources directory. -/
def getTargetResourcesDir (resourcesDir resourcePath : List Char) : List Char :=
  appendComponent (appendComponent resourcesDir "targets".data) resourcePath

theorem appendComponent_targets (path : List Char) :
    appendComponent path "targets".data =
      (if path = [] ∨ path.getLast? = some '/' then path else path ++ ['/']) ++
        "targets".data := by
  unfold appendComponent
  by_cases hl : path.getLast? = some '/'
  · simp only [hl, if_true, or_true]
    rfl
  · by_cases hp : path = []
    · simp [hp]
    · simp only [hl, hp, if_false, or_false, List.append_assoc]
      rfl

/-- A target's resources are in the directory `targets` of the resources
directory, a separator added where neither side has one. -/
theorem getTargetResourcesDir_eq (resourcesDir resourcePath : List Char) :
    getTargetResourcesDir resourcesDir resourcePath =
      (if resourcesDir = [] ∨ resourcesDir.getLast? = some '/' then resourcesDir
        else resourcesDir ++ ['/']) ++
        "targets".data ++ (if resourcePath.head? = some '/' then resourcePath
          else '/' :: resourcePath) := by
  rw [getTargetResourcesDir, appendComponent_targets]
  generalize (if resourcesDir = [] ∨ resourcesDir.getLast? = some '/' then resourcesDir
    else resourcesDir ++ ['/']) = dir
  have hlast : (dir ++ "targets".data).getLast? = some 's' := by simp [List.getLast?_append]
  have hne : dir ++ "targets".data ≠ [] := by simp
  unfold appendComponent
  split_ifs <;> simp_all

end QECompiler
