import AutoLoop.Foundation.Component
import AutoLoop.Foundation.Connectivity
import AutoLoop.Foundation.Table
import AutoLoop.GitmemoryCore.MarkdownCompiler

/-!
# Incremental rebuilds

`rebuild_changed` compiles the changed files again and all files that refer to them, directly or
through others, and keeps what each file refers to.  A repository of files is written, removed
and rebuilt in any order; what is kept of a file is what a full compilation would give, unless
the file changed since it was last compiled.
-/

namespace AutoLoop.GitmemoryCore.IncrementalCompiler

open List

structure DependencyGraph where
  edges : Table String (List String)

/-- `reverse.entry(dep).or_default().insert(source)`. -/
def refer (source : String) (reverse : String → Finset String) (dep : String) :
    String → Finset String :=
  Function.update reverse dep (insert source (reverse dep))

def buildReverseGraph (graph : DependencyGraph) : String → Finset String :=
  graph.edges.rows.foldl (fun reverse row => row.2.foldl (refer row.1) reverse) fun _ => ∅

/-- The files that a search can reach. -/
def DependencyGraph.filesWith (graph : DependencyGraph) (changedFiles : List String) :
    Finset String :=
  changedFiles.toFinset ∪ (graph.edges.rows.map (·.1)).toFinset

/-- New files wait at the end of the queue. -/
def expandInvalidations (files : Finset String) (changedFiles : List String)
    (reverse : String → Finset String) : Option (List String) := do
  let found ← search (fun new queue => queue ++ new) reverse
    (searchFuel reverse files changedFiles) changedFiles ∅ []
  return ascending found.2

structure CompiledFileRecord where
  sourceFile : String
  compiled : CompileOutcome
  invalidatedDependents : List String
  deriving DecidableEq, Repr

structure Rebuild where
  graph : DependencyGraph
  compiledFiles : List CompiledFileRecord
  skippedMissingFiles : List String
  failedFiles : List String

/-- A file that cannot be compiled keeps what it referred to; `none` is a panic. -/
def rebuildFile (files : Table String String) (reverse : String → Finset String)
    (rebuild : Rebuild) (file : String) : Option Rebuild :=
  match files.get file with
  | none => some { rebuild with
      graph := ⟨rebuild.graph.edges.erase file⟩
      skippedMissingFiles := rebuild.skippedMissingFiles ++ [file] }
  | some content => do
    let compiled ← compileWithRetry file content
    if compiled.fatalErrors ≠ [] then
      return { rebuild with failedFiles := rebuild.failedFiles ++ [file] }
    else
      return { rebuild with
        graph := ⟨rebuild.graph.edges.insert file compiled.dependencies⟩
        compiledFiles := rebuild.compiledFiles ++ [⟨file, compiled, ascending (reverse file)⟩] }

def rebuildChanged (files : Table String String) (graph : DependencyGraph)
    (changedFiles : List String) : Option (List String × Rebuild) := do
  let reverse := buildReverseGraph graph
  let targets ← expandInvalidations (graph.filesWith changedFiles) changedFiles reverse
  let rebuild ← targets.foldlM (rebuildFile files reverse) ⟨graph, [], [], []⟩
  return (targets, rebuild)

/-! ## Invalidation -/

def DependencyGraph.RefersTo (graph : DependencyGraph) (source dep : String) : Prop :=
  ∃ deps, graph.edges.get source = some deps ∧ dep ∈ deps

variable {graph : DependencyGraph}

theorem mem_refer {source dep file other : String} {reverse : String → Finset String} :
    file ∈ refer source reverse dep other ↔
      file ∈ reverse other ∨ (file = source ∧ other = dep) := by
  rw [refer, Function.update_apply]
  split
  · next same =>
    subst same
    rw [Finset.mem_insert]
    tauto
  · tauto

theorem mem_buildReverseGraph {source dep : String} :
    source ∈ buildReverseGraph graph dep ↔ graph.RefersTo source dep := by
  have ofRow (row : String × List String) (reverse : String → Finset String) :
      source ∈ row.2.foldl (refer row.1) reverse dep ↔
        source ∈ reverse dep ∨ (source = row.1 ∧ dep ∈ row.2) := by
    induction row.2 generalizing reverse with
    | nil => simp
    | cons first rest ih =>
      rw [foldl_cons, ih, mem_refer, mem_cons]
      tauto
  have ofRows (rows : List (String × List String)) (reverse : String → Finset String) :
      source ∈ rows.foldl (fun reverse row => row.2.foldl (refer row.1) reverse) reverse dep ↔
        source ∈ reverse dep ∨ ∃ deps, (source, deps) ∈ rows ∧ dep ∈ deps := by
    induction rows generalizing reverse with
    | nil => simp
    | cons row rest ih =>
      obtain ⟨name, deps⟩ := row
      rw [foldl_cons, ih, ofRow]
      simp only [mem_cons, Prod.mk.injEq, or_and_right, exists_or, or_assoc]
      refine or_congr_right (or_congr_left ?_)
      constructor
      · rintro ⟨rfl, isDep⟩
        exact ⟨deps, ⟨rfl, rfl⟩, isDep⟩
      · rintro ⟨_, ⟨rfl, rfl⟩, isDep⟩
        exact ⟨rfl, isDep⟩
  rw [buildReverseGraph, ofRows, DependencyGraph.RefersTo]
  simp [Table.mem_rows_iff]

/-- The targets are the changed files and what refers to them, directly or through others. -/
theorem expandInvalidations_eq (graph : DependencyGraph) (changedFiles : List String) :
    ∃ targets, expandInvalidations (graph.filesWith changedFiles) changedFiles
        (buildReverseGraph graph) = some targets ∧
      targets.Pairwise (· < ·) ∧ ∀ file, file ∈ targets ↔
        ∃ changed ∈ changedFiles, Relation.ReflTransGen graph.RefersTo file changed := by
  have places : ∀ new queue : List String, queue ++ new ~ new ++ queue :=
    fun _ _ => perm_append_comm
  have closed : ∀ file ∈ graph.filesWith changedFiles,
      buildReverseGraph graph file ⊆ graph.filesWith changedFiles := by
    intro file _ source isSource
    obtain ⟨deps, isRow, -⟩ := mem_buildReverseGraph.mp isSource
    exact Finset.mem_union_right _ (mem_toFinset.mpr
      (mem_map_of_mem (Table.mem_rows_iff.mpr isRow)))
  obtain ⟨⟨component, visited⟩, ran⟩ := search_isSome places closed []
    (fun file isChanged => Finset.mem_union_left _ (mem_toFinset.mpr isChanged))
    (Nat.add_le_add_left (Finset.sum_le_sum_of_subset (Finset.sdiff_subset (t := ∅))) _)
  have searched := Searched.run places (Searched.start changedFiles ∅) ran
  refine ⟨ascending visited, by rw [expandInvalidations, searchFuel, ran]; rfl,
    pairwise_ascending _, ?_⟩
  intro file
  rw [mem_ascending, searched.visited_iff, searched.mem_iff (by simp) (by simp)]
  simp only [Finset.notMem_empty, false_or]
  refine exists_congr fun changed => and_congr_right fun _ => ?_
  rw [Connected, ← Relation.reflTransGen_swap]
  refine iff_of_eq (congrArg (Relation.ReflTransGen · file changed) ?_)
  funext source dep
  exact propext mem_buildReverseGraph

/-! ## One rebuild -/

/-- What is kept of a file is what a compilation of its content gives, where there is no fatal
error in it. -/
def UpToDate (files : Table String String) (graph : DependencyGraph) (file : String) : Prop :=
  match files.get file with
  | none => graph.edges.get file = none
  | some content => ∀ compiled, compileWithRetry file content = some compiled →
      compiled.fatalErrors = [] → graph.edges.get file = some compiled.dependencies

def Rebuild.reported (rebuild : Rebuild) : List String :=
  rebuild.compiledFiles.map (·.sourceFile) ++ rebuild.skippedMissingFiles ++ rebuild.failedFiles

variable {files later : Table String String} {reverse : String → Finset String}

theorem UpToDate.congr {other : DependencyGraph} {file : String}
    (upToDate : UpToDate files graph file) (content : later.get file = files.get file)
    (kept : other.edges.get file = graph.edges.get file) : UpToDate later other file := by
  unfold UpToDate at upToDate ⊢
  rwa [content, kept]

/-- What a rebuild of some files does. -/
structure Rebuilt (files : Table String String) (targets : List String)
    (before after : Rebuild) : Prop where
  upToDate : ∀ file ∈ targets, UpToDate files after.graph file
  kept : ∀ file, file ∉ targets → after.graph.edges.get file = before.graph.edges.get file
  reported : after.reported ~ before.reported ++ targets

theorem rebuilt_file {before after : Rebuild} {file : String}
    (ran : rebuildFile files reverse before file = some after) :
    Rebuilt files [file] before after := by
  rw [rebuildFile] at ran
  split at ran
  · next missing =>
    cases ran
    refine ⟨?_, ?_, ?_⟩
    · rintro other isFile
      rw [mem_singleton.mp isFile, UpToDate, missing]
      simp [Table.get_erase]
    · intro other isOther
      rw [Table.get_erase, if_neg (by simpa using isOther)]
    · simp only [Rebuild.reported]
      grind
  · next content found =>
    obtain ⟨compiled, isCompiled, rest⟩ := Option.bind_eq_some_iff.mp ran
    split at rest
    · next fatal =>
      cases rest
      refine ⟨?_, fun _ _ => rfl, by simp [Rebuild.reported]⟩
      intro other isFile
      rw [mem_singleton.mp isFile, UpToDate, found]
      intro again isAgain sound
      cases isCompiled.symm.trans isAgain
      exact absurd sound fatal
    · cases rest
      refine ⟨?_, ?_, ?_⟩
      · intro other isFile
        rw [mem_singleton.mp isFile, UpToDate, found]
        intro again isAgain _
        cases isCompiled.symm.trans isAgain
        exact Table.get_insert_self _ _ _
      · intro other isOther
        rw [Table.get_insert, if_neg (by simpa using isOther)]
      · simp only [Rebuild.reported]
        grind

theorem rebuilt_files {targets : List String} {before after : Rebuild}
    (ran : targets.foldlM (rebuildFile files reverse) before = some after) :
    Rebuilt files targets before after := by
  induction targets generalizing before with
  | nil =>
    cases ran
    exact ⟨nofun, fun _ _ => rfl, by simp⟩
  | cons file rest ih =>
    rw [foldlM_cons] at ran
    obtain ⟨middle, ranFile, ranRest⟩ := Option.bind_eq_some_iff.mp ran
    have first := rebuilt_file ranFile
    have others := ih ranRest
    refine ⟨?_, ?_, ?_⟩
    · intro other isTarget
      by_cases inRest : other ∈ rest
      · exact others.upToDate other inRest
      · have isFile := (mem_cons.mp isTarget).resolve_right inRest
        exact (first.upToDate other (mem_singleton.mpr isFile)).congr rfl
          (others.kept other inRest)
    · intro other isOther
      obtain ⟨isNotFile, notInRest⟩ := not_or.mp (mem_cons.not.mp isOther)
      exact (others.kept other notInRest).trans (first.kept other (by simpa using isNotFile))
    · refine others.reported.trans ((first.reported.append_right rest).trans ?_)
      rw [append_assoc]
      rfl

theorem rebuilt_changed {changedFiles targets : List String} {after : Rebuild}
    (ran : rebuildChanged files graph changedFiles = some (targets, after)) :
    expandInvalidations (graph.filesWith changedFiles) changedFiles (buildReverseGraph graph) =
      some targets ∧ Rebuilt files targets ⟨graph, [], [], []⟩ after := by
  obtain ⟨found, isFound, rest⟩ := Option.bind_eq_some_iff.mp ran
  obtain ⟨rebuilt, isRebuilt, same⟩ := Option.bind_eq_some_iff.mp rest
  cases same
  exact ⟨isFound, rebuilt_files isRebuilt⟩

/-- The files and what is kept of them, with those that changed since they were compiled. -/
structure Repo where
  files : Table String String
  graph : DependencyGraph
  pending : Finset String

inductive RepoOp where
  | write (file content : String)
  | remove (file : String)
  | rebuild (changedFiles : List String)

/-- A rebuild that panics stores nothing. -/
def repo : Component Repo RepoOp Unit where
  initial := ⟨.empty, ⟨.empty⟩, ∅⟩
  step repo
    | .write file content =>
      ((), { repo with
        files := repo.files.insert file content, pending := insert file repo.pending })
    | .remove file =>
      ((), { repo with files := repo.files.erase file, pending := insert file repo.pending })
    | .rebuild changedFiles =>
      match rebuildChanged repo.files repo.graph changedFiles with
      | none => ((), repo)
      | some (targets, after) =>
        ((), { repo with graph := after.graph, pending := repo.pending.filter (· ∉ targets) })

def Repo.Current (state : Repo) : Prop :=
  ∀ file, file ∈ state.pending ∨ UpToDate state.files state.graph file

theorem current_step {state : Repo} (current : state.Current) (op : RepoOp) :
    (repo.step state op).2.Current := by
  intro file
  cases op with
  | write changed content =>
    by_cases isFile : file = changed
    · exact Or.inl (isFile ▸ Finset.mem_insert_self _ _)
    · refine (current file).imp Finset.mem_insert_of_mem fun upToDate => ?_
      exact upToDate.congr (Table.get_insert_of_ne _ _ isFile) rfl
  | remove changed =>
    by_cases isFile : file = changed
    · exact Or.inl (isFile ▸ Finset.mem_insert_self _ _)
    · refine (current file).imp Finset.mem_insert_of_mem fun upToDate => ?_
      exact upToDate.congr ((Table.get_erase _ _ _).trans (if_neg isFile)) rfl
  | rebuild changedFiles =>
    simp only [repo]
    split
    · exact current file
    · next targets after ran =>
      obtain ⟨-, rebuilt⟩ := rebuilt_changed ran
      by_cases isTarget : file ∈ targets
      · exact Or.inr (rebuilt.upToDate file isTarget)
      · refine (current file).imp (fun isPending => ?_) fun upToDate => ?_
        · exact Finset.mem_filter.mpr ⟨isPending, isTarget⟩
        · exact upToDate.congr rfl (rebuilt.kept file isTarget)

end AutoLoop.GitmemoryCore.IncrementalCompiler
