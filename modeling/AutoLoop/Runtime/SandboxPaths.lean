import AutoLoop.QueryEngine.PathConfinement
import AutoLoop.Tools.CommandSpec

/-!
# Paths in the sandbox

The sandbox policy of a manifest, and the tests of a command spec and of its working directory
against it.  The tests look for texts within texts: only a policy that denies the root keeps
every command from the paths it denies, and it does so by accepting none.
-/

namespace AutoLoop.Runtime

open Contracts Tools
open QueryEngine.Confinement (Place isAbsolute join joined lexical lexical_join pieceComponents)
open Text QueryEngine.Confinement

structure SandboxPolicy where
  filesystemAllow : List String
  filesystemDeny : List String
  cpuBudgetMs : UInt64
  memoryBudgetMb : UInt32
  deriving DecidableEq, Repr

def sandboxPolicyFor {F : Type} (maxMemoryMb : UInt32) (toolName : String)
    (manifest : ForgedMcpToolManifest F) : SandboxPolicy where
  filesystemAllow := [".", "./workspace"] ++
    (if manifest.scope = .session then ["./workspace/session"] else []) ++
    manifest.workingDirectory.toList
  filesystemDeny := ["./.git", "./deploy/secrets"] ++
    (if manifest.risk = .high ∨ contains toolName "deploy" = true then ["/"] else [])
  cpuBudgetMs := if manifest.risk = .high then 15000 else 6000
  memoryBudgetMb := if manifest.risk = .high then min maxMemoryMb 768 else min maxMemoryMb 384

/-- The path of a working directory, which is left as it is spelled. -/
def resolveWorkingDirectory (currentDir : Except String String)
    (workingDirectory : Option String) : Except String String :=
  let requested := workingDirectory.getD "."
  if isAbsolute requested then .ok requested
  else do
    let current ← currentDir
    .ok (join current requested)

def blockedExecutables : List String := ["powershell", "pwsh", "cmd", "bash", "sh"]

def endsWith (text ending : String) : Bool := decide (ending.toList <:+ text.toList)

def validateCommandSpec (spec : RenderedCommandSpec) (policy : SandboxPolicy) :
    Except String Unit :=
  let executable := toAsciiLowercase spec.executable
  if blockedExecutables.any fun blocked =>
      endsWith executable blocked || contains executable (blocked ++ ".") then
    .error ("sandbox blocked interpreter-style executable: " ++ spec.executable)
  else
    let deniedPrefixes := policy.filesystemDeny.map toAsciiLowercase
    match spec.args.find? fun argument =>
        deniedPrefixes.any fun start => contains (toAsciiLowercase argument) start with
    | some argument => .error ("sandbox blocked denied path-like argument: " ++ argument)
    | none => .ok ()

/-- `replace('\\', "/")`, then `to_ascii_lowercase`. -/
def normalizedText (path : String) : String :=
  toAsciiLowercase
    (String.ofList (path.toList.map fun char => if char = '\\' then '/' else char))

/-- `trim_start_matches("./")`. -/
def trimDotSlash : List Char → List Char
  | '.' :: '/' :: rest => trimDotSlash rest
  | text => text

/-- What is looked for of an entry. -/
def candidateText (entry : String) : String :=
  String.ofList (trimDotSlash (normalizedText entry).toList)

def enforceWorkingDirectoryPolicy (path : String) (policy : SandboxPolicy) : Except String Unit :=
  let normalized := normalizedText path
  let allowed := policy.filesystemAllow.any fun entry =>
    let candidate := candidateText entry
    candidate = "" || contains normalized candidate || endsWith normalized candidate
  if allowed = false then
    .error ("sandbox blocked working directory outside allowlist: " ++ path)
  else if policy.filesystemDeny.any fun entry => contains normalized (candidateText entry) then
    .error ("sandbox blocked working directory inside denylist: " ++ path)
  else .ok ()

/-! ## Confinement -/

/-- A path leads to an entry or to something below it, both taken from the current directory. -/
def Under (current entry path : String) : Prop :=
  (lexical (joined current path)).Inside (lexical (joined current entry))

/-- What passes both tests lies under an allowed entry and under no denied one, like everything
that its arguments denote; and an allowed directory that is under no denied entry passes. -/
structure ConfinesPaths (current : String) (policy : SandboxPolicy) (risk : CapabilityRisk) :
    Prop where
  sound : ∀ spec path, resolveWorkingDirectory (.ok current) spec.workingDirectory = .ok path →
    validateCommandSpec spec policy = .ok () →
    enforceWorkingDirectoryPolicy path policy = .ok () →
      (∃ entry ∈ policy.filesystemAllow, Under current entry path) ∧
      (∀ entry ∈ policy.filesystemDeny, ¬Under current entry path) ∧
      ∀ argument ∈ spec.args, ∀ entry ∈ policy.filesystemDeny, ¬Under current entry argument
  complete : risk = .low → ∀ directory ∈ policy.filesystemAllow,
    (∀ entry ∈ policy.filesystemDeny, ¬Under current entry directory) →
    ∀ path, resolveWorkingDirectory (.ok current) (some directory) = .ok path →
      enforceWorkingDirectoryPolicy path policy = .ok ()

section Confinement

variable {current path : String} {policy : SandboxPolicy}

theorem isAbsolute_resolved (absolute : isAbsolute current = true) {requested : Option String}
    (resolved : resolveWorkingDirectory (.ok current) requested = .ok path) :
    isAbsolute path = true := by
  rw [resolveWorkingDirectory] at resolved
  split at resolved
  · next isRoot =>
    rw [← Except.ok.inj resolved]
    exact isRoot
  · next relative =>
    rw [← Except.ok.inj resolved, isAbsolute_join (by simpa using relative)]
    exact absolute

theorem contains_slash (absolute : isAbsolute path = true) :
    contains (normalizedText path) "/" = true := by
  obtain ⟨rest, rfl⟩ := startsWith_iff_exists.mp absolute
  rw [contains, decide_eq_true_iff]
  change ['/'] <:+: _
  rw [List.singleton_infix_iff, normalizedText, toAsciiLowercase, String.toList_ofList,
    String.toList_ofList, List.map_map, String.toList_append]
  exact List.mem_map.mpr ⟨'/', List.mem_append_left _ (by decide), by decide⟩

theorem enforce_of_root (absolute : isAbsolute path = true) (denied : "/" ∈ policy.filesystemDeny) :
    enforceWorkingDirectoryPolicy path policy ≠ .ok () := by
  have found : (policy.filesystemDeny.any fun entry =>
      contains (normalizedText path) (candidateText entry)) = true :=
    List.any_eq_true.mpr ⟨"/", denied, contains_slash absolute⟩
  simp only [enforceWorkingDirectoryPolicy, found, if_true]
  split <;> simp

theorem under_root (absolute : isAbsolute current = true) : Under current "/" path := by
  have kind : isAbsolute (joined current path) = true := by
    rw [isAbsolute_joined, absolute, Bool.or_true]
  have slash : isAbsolute "/" = true := by decide
  have root : lexical "/" = ⟨true, 0, []⟩ := by decide
  have stays : joined current "/" = "/" := if_pos slash
  rw [Under, stays, root]
  exact ⟨(isAbsolute_lexical _).trans kind, ups_of_absolute kind, List.nil_prefix⟩

/-- The directory of the repository is denied by one spelling of it only. -/
theorem under_git : Under current "./.git" ".git" := by
  have relative : isAbsolute "./.git" = false := by decide
  have other : isAbsolute ".git" = false := by decide
  have pieces : pieceComponents "./.git" = pieceComponents ".git" := by decide
  have same : lexical (joined current "./.git") = lexical (joined current ".git") := by
    rw [joined, if_neg (by simp [relative]), joined, if_neg (by simp [other]),
      lexical_join relative, lexical_join other, pieces]
  rw [Under, same]
  exact ⟨rfl, rfl, List.prefix_refl _⟩

/-- A command that names the directory of the repository, in a directory whose path has a dot. -/
def gitCommand : RenderedCommandSpec := ⟨"ls", [".git"], "ls .git", some "/."⟩

theorem gitCommand_accepted {allow : List String} {cpu : UInt64} {memory : UInt32} :
    resolveWorkingDirectory (.ok current) gitCommand.workingDirectory = .ok "/." ∧
      validateCommandSpec gitCommand
        ⟨"." :: allow, ["./.git", "./deploy/secrets"], cpu, memory⟩ = .ok () ∧
      enforceWorkingDirectoryPolicy "/."
        ⟨"." :: allow, ["./.git", "./deploy/secrets"], cpu, memory⟩ = .ok () := by
  have dot : (candidateText "." = "" || contains (normalizedText "/.") (candidateText ".") ||
      endsWith (normalizedText "/.") (candidateText ".")) = true := by decide
  have apart : (["./.git", "./deploy/secrets"].any fun entry =>
      contains (normalizedText "/.") (candidateText entry)) = false := by decide
  have executable : (blockedExecutables.any fun blocked =>
      endsWith (toAsciiLowercase gitCommand.executable) blocked ||
        contains (toAsciiLowercase gitCommand.executable) (blocked ++ ".")) = false := by
    decide
  have arguments : (gitCommand.args.find? fun argument =>
      (["./.git", "./deploy/secrets"].map toAsciiLowercase).any fun start =>
        contains (toAsciiLowercase argument) start) = none := by
    decide
  have allowed : (("." :: allow).any fun entry =>
      candidateText entry = "" || contains (normalizedText "/.") (candidateText entry) ||
        endsWith (normalizedText "/.") (candidateText entry)) = true := by
    rw [List.any_cons, dot, Bool.true_or]
  refine ⟨rfl, ?_, ?_⟩
  · simp only [validateCommandSpec, executable, arguments, Bool.false_eq_true, if_false]
  · simp only [enforceWorkingDirectoryPolicy, allowed, apart, Bool.true_eq_false,
      Bool.false_eq_true, if_false]

variable {F : Type} {maxMemoryMb : UInt32} {toolName : String}
  {manifest : ForgedMcpToolManifest F}

theorem confines_of_root (absolute : isAbsolute current = true)
    (denied : "/" ∈ policy.filesystemDeny) (risk : CapabilityRisk) :
    ConfinesPaths current policy risk where
  sound _ _ resolved _ accepted :=
    absurd accepted (enforce_of_root (isAbsolute_resolved absolute resolved) denied)
  complete _ _ _ clear := absurd (under_root absolute) (clear "/" denied)

/-- Exactly the policies that deny the root confine every command. -/
theorem confines_paths_iff (absolute : isAbsolute current = true) :
    ConfinesPaths current (sandboxPolicyFor maxMemoryMb toolName manifest) manifest.risk ↔
      manifest.risk = .high ∨ contains toolName "deploy" = true := by
  constructor
  · intro confines
    by_contra unguarded
    rw [sandboxPolicyFor, if_neg unguarded] at confines
    obtain ⟨resolved, valid, accepted⟩ := gitCommand_accepted
    obtain ⟨-, -, argumentsClear⟩ := confines.sound gitCommand "/." resolved valid accepted
    exact argumentsClear ".git" List.mem_cons_self "./.git" List.mem_cons_self under_git
  · intro guarded
    refine confines_of_root absolute ?_ manifest.risk
    rw [sandboxPolicyFor, if_pos guarded]
    simp

end Confinement

/-- A manifest of low risk. -/
def themeManifest (toolName : String) : ForgedMcpToolManifest ℚ :=
  unsignedManifest (fun _ => 0) toolName "local-mcp" themeRequest 0

/-- The policy of a deploying tool over the directory of an application. -/
theorem deploy_confined :
    ConfinesPaths "/srv/app" (sandboxPolicyFor 512 "mcp::local-mcp::deploy"
      (themeManifest "mcp::local-mcp::deploy")) (themeManifest "mcp::local-mcp::deploy").risk :=
  (confines_paths_iff (by decide)).mpr (Or.inr (by decide +kernel))

/-- A file of the repository is named without being denied. -/
theorem git_directory_reached :
    ¬ConfinesPaths "/srv/app" (sandboxPolicyFor 512 "mcp::local-mcp::theme"
      (themeManifest "mcp::local-mcp::theme")) (themeManifest "mcp::local-mcp::theme").risk := by
  intro confines
  obtain ⟨resolved, valid, accepted⟩ := gitCommand_accepted
  obtain ⟨-, -, argumentsClear⟩ := confines.sound gitCommand "/." resolved valid accepted
  exact argumentsClear ".git" List.mem_cons_self "./.git" List.mem_cons_self under_git

end AutoLoop.Runtime
