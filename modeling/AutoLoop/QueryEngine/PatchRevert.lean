import AutoLoop.QueryEngine.PatchRollback

/-!
# The snapshots of a patch

Every step of a committed patch stores one snapshot under the prefix of its trace, with
the content that its target had at the start.  Evidence is written elsewhere.
-/

namespace AutoLoop.QueryEngine

open AutoLoop.Runtime StateAdapter
open FileSystem (SameFiles)
open StateStore (isEvidence)
open StateStore Text EvidenceLedgerWriter

open List

namespace DiffPatchEngine

variable {engine : DiffPatchEngine} {sessionId traceId : String}

/-! ## Keys -/

section
variable (sessionId traceId : String) (now : UInt64) (idx : Nat)

def snapshotKey : String :=
  snapshotPrefix sessionId traceId ++ now.toNat.repr ++ ":" ++ idx.repr

def diffKey : String :=
  "harness:diff:" ++ sessionId ++ ":" ++ traceId ++ ":" ++ now.toNat.repr ++ ":" ++ idx.repr

end

variable (now : UInt64) (idx : Nat)

theorem startsWith_snapshotKey :
    startsWith (snapshotKey sessionId traceId now idx) (snapshotPrefix sessionId traceId) =
      true := by
  rw [startsWith_iff_exists]
  exact ⟨now.toNat.repr ++ ":" ++ idx.repr, by rw [snapshotKey]; simp only [String.append_assoc]⟩

theorem idx_of_snapshotKey {first second : UInt64} {idx other : Nat}
    (same : snapshotKey sessionId traceId first idx = snapshotKey sessionId traceId second other) :
    idx = other := by
  have lists := congrArg String.toList same
  simp only [snapshotKey, String.toList_append] at lists
  have numbers := after_last_separator lists (not_mem_repr (by decide) idx)
    (not_mem_repr (by decide) other)
  exact repr_inj.mp (String.toList_inj.mp numbers)

/-- The differences are stored elsewhere. -/
theorem not_startsWith_diffKey :
    startsWith (diffKey sessionId traceId now idx) (snapshotPrefix sessionId traceId) =
      false := by
  rw [Bool.eq_false_iff, ne_eq, startsWith_iff]
  unfold snapshotPrefix diffKey
  intro isPrefix
  simp only [String.toList_append] at isPrefix
  have patch : "harness:patch:snapshot:".toList <+: "harness:patch:snapshot:".toList ++
      (sessionId.toList ++ (":".toList ++ (traceId.toList ++ ":".toList))) := prefix_append _ _
  simp only [append_assoc] at isPrefix
  have whole := patch.trans isPrefix
  have split : "harness:diff:".toList = "harness:".toList ++ 'd' :: "iff:".toList := by decide
  have patchSplit : "harness:patch:snapshot:".toList =
      "harness:".toList ++ 'p' :: "atch:snapshot:".toList := by decide
  rw [split, patchSplit, append_assoc, prefix_append_right_inj, cons_append,
    cons_prefix_cons] at whole
  exact absurd whole.1 (by decide)

/-- A text that starts with `harness:` is not under the write-once rule. -/
theorem plain_of_harness {key rest : String} (shape : key = "harness:" ++ rest) :
    isEvidence key = false := by
  have harness : "harness:".toList = 'h' :: "arness:".toList := by decide
  have evidence : "evidence:".toList = 'e' :: "vidence:".toList := by decide
  rw [Bool.eq_false_iff, ne_eq, isEvidence, startsWith_iff, shape, String.toList_append,
    harness, evidence, cons_append, cons_prefix_cons]
  exact fun same => absurd same.1 (by decide)

theorem plain_diffKey :
    isEvidence (diffKey sessionId traceId now idx) = false := by
  have shape : "harness:diff:" = "harness:" ++ "diff:" := by decide
  apply plain_of_harness
  unfold diffKey
  rw [shape]
  simp only [String.append_assoc]
  rfl

theorem plain_of_snapshotPrefix {key : String}
    (under : startsWith key (snapshotPrefix sessionId traceId) = true) :
    isEvidence key = false := by
  have shape : "harness:patch:snapshot:" = "harness:" ++ "patch:snapshot:" := by decide
  obtain ⟨rest, rfl⟩ := startsWith_iff_exists.mp under
  apply plain_of_harness
  unfold snapshotPrefix
  rw [shape]
  simp only [String.append_assoc]
  rfl

theorem plain_snapshotKey :
    isEvidence (snapshotKey sessionId traceId now idx) = false :=
  plain_of_snapshotPrefix (startsWith_snapshotKey now idx)

/-! ## What is stored -/

/-- The snapshot of an operation that replaced some content. -/
def snapshotOf (op : PatchOp) (idx : Nat) (contentBefore : Option Content) (now : UInt64) :
    PatchSnapshotRecord where
  opId := normalizeOpId op idx
  path := op.path
  existedBefore := contentBefore.isSome
  contentBefore
  createdAtMs := now

section Unmirrored

variable (unmirrored : engine.ledger.store.mirror = none)
include unmirrored

theorem run_upsertJson_plain {key : String} (plain : isEvidence key = false)
    (value source : String) (shared : Shared) :
    ∃ row later, (engine.ledger.store.upsertJsonKnowledge key (.ok value) source).run shared =
        (.ok row, later) ∧
      later.repo.knowledge = shared.repo.knowledge.put row ∧ row.key = key ∧ row.value = value := by
  obtain ⟨id, nextId, ran⟩ :=
    run_upsertKnowledge_plain unmirrored plain value source shared
  exact ⟨_, _, ran, rfl, rfl, rfl⟩

theorem run_storeStep (sessionId traceId : String) (idx : Nat) (op : PatchOp) (previousBytes : Option Content)
    (beforeHash afterHash : Option String) (shared : Shared) :
    ∃ (diff shot : KnowledgeRecord) (now : UInt64) (later : Shared),
      (engine.storeStep sessionId traceId idx op previousBytes beforeHash afterHash).run shared =
        (.ok (diffKey sessionId traceId now idx), later) ∧
      later.repo.knowledge = (shared.repo.knowledge.put diff).put shot ∧
      diff.key = diffKey sessionId traceId now idx ∧
      shot.key = snapshotKey sessionId traceId now idx ∧
      shot.value = engine.snapshotForm.encode (snapshotOf op idx previousBytes now) := by
  have readsClock : nowMs.run shared = (.ok shared.moment.nowMs, shared.after 1) := rfl
  have plainDiff : isEvidence (diffKey sessionId traceId shared.moment.nowMs idx) = false :=
    plain_diffKey _ _
  have plainShot : isEvidence (snapshotKey sessionId traceId shared.moment.nowMs idx) = false :=
    plain_snapshotKey _ _
  obtain ⟨diff, middle, ranDiff, putDiff, isDiff, -⟩ := run_upsertJson_plain unmirrored plainDiff
    (diffPayload op idx beforeHash afterHash shared.moment.nowMs) "diff-patch-engine"
    (shared.after 1)
  obtain ⟨shot, later, ranShot, putShot, isShot, isValue⟩ :=
    run_upsertJson_plain unmirrored plainShot
      (engine.snapshotForm.encode (snapshotOf op idx previousBytes shared.moment.nowMs))
      "diff-patch-engine" middle
  refine ⟨diff, shot, shared.moment.nowMs, later, ?_, ?_, isDiff, isShot, isValue⟩
  · unfold storeStep
    apply (Future.run_bind_of_ok readsClock).trans
    apply (Future.run_bind_of_ok ranDiff).trans
    exact Future.run_bind_of_ok ranShot
  · rw [putShot, putDiff]
    rfl

/-- The rows outside the write-once rule stay as they are. -/
def SamePlain (before after : Shared) : Prop :=
  ∀ key, isEvidence key = false → after.repo.knowledge.get key = before.repo.knowledge.get key

omit unmirrored in
theorem SamePlain.trans (first second third : Shared) (same : SamePlain first second)
    (also : SamePlain second third) : SamePlain first third :=
  fun key plain => (also key plain).trans (same key plain)

omit unmirrored in
theorem samePlain_bind {α β : Type} {first : StoreCall α} {next : α → StoreCall β}
    (kept : Effect.Keeps SamePlain first.run)
    (keptNext : ∀ value, Effect.Keeps SamePlain (next value).run) :
    Effect.Keeps SamePlain (first >>= next).run := by
  rw [Future.run_bind]
  exact kept.bind SamePlain.trans keptNext

/-- A write under the write-once rule leaves the other rows alone. -/
theorem samePlain_upsertKnowledge {key : String} (evidence : isEvidence key = true)
    (value source : String) :
    Effect.Keeps SamePlain (engine.ledger.store.upsertKnowledge key value source).run := by
  apply samePlain_bind
  · rw [enforceEvidenceWormWrite, evidence]
    apply samePlain_bind
    · exact fun shared key plain => rfl
    · intro found
      cases found with
      | some existing => exact fun shared key plain => rfl
      | none =>
        rw [unmirrored]
        exact fun shared key plain => rfl
  · intro written shared other plain
    rw [writeKnowledge, unmirrored]
    obtain ⟨id, nextId, ran, -⟩ :=
      InMemory.upsertKnowledge_apply key value source shared.repo
    have put : ((repoUpsert key value source).run shared).2.repo.knowledge =
        shared.repo.knowledge.put ⟨id, key, value, source⟩ := by
      rw [repoUpsert, Future.run_call, Shared.onRepo_apply, ran]
    rw [put, Knowledge.get_put_of_ne]
    rintro rfl
    rw [plain] at evidence
    cases evidence

theorem samePlain_appendStage (stage : EvidenceStage) (payload : String) :
    Effect.Keeps SamePlain
      (engine.ledger.appendStage sessionId traceId stage payload none).run := by
  unfold appendStage appendRecord
  apply samePlain_bind
  · apply samePlain_bind
    · exact fun shared key plain => rfl
    · intro createdAtMs
      apply samePlain_bind
      · apply samePlain_bind
        · apply samePlain_bind
          · intro shared key plain
            rw [run_listKnowledgeByPrefix_unmirrored unmirrored]
          · exact fun rows shared key plain => rfl
        · exact fun records shared key plain => rfl
      · intro latest
        apply samePlain_bind
        · exact fun shared key plain => rfl
        · intro passed
          apply samePlain_bind
          · exact fun shared key plain => rfl
          · intro seq
            apply samePlain_bind
            · exact samePlain_upsertKnowledge unmirrored
                (isEvidence_stageKey _ _ _ _ _) _ _
            · exact fun written shared key plain => rfl
  · exact fun written shared key plain => rfl

end Unmirrored

end DiffPatchEngine

end AutoLoop.QueryEngine

/-!
## Reverting a committed patch

While a patch is applied, its snapshots are those of the operations done so far, each
with the content of its target at the start, and only the targets of these operations
have changed.  Reverting puts the content of every snapshot back.
-/

namespace AutoLoop.QueryEngine

open AutoLoop.Runtime StateAdapter
open FileSystem (SameFiles)
open StateStore (isEvidence)
open Knowledge Effect List

namespace DiffPatchEngine

variable {engine : DiffPatchEngine} {sessionId traceId : String} {ops rest : List PatchOp}

/-! ## Targets -/

/-- No two operations have one target. -/
def TargetsApart (engine : DiffPatchEngine) (ops : List PatchOp) : Prop :=
  ∀ (idx other : Nat) op otherOp target, idx ≠ other → ops[idx]? = some op →
    ops[other]? = some otherOp → engine.resolvePath op.path = .ok target →
      engine.resolvePath otherOp.path ≠ .ok target

theorem scanMove_spec {scan next : ConflictScan} {opId : String} {op : PatchOp} {target : Path}
    (scanned : engine.scanMove scan opId op target = .ok next) :
    next.targetWriters = scan.targetWriters ∧
      (next.conflicts = [] → scan.conflicts = []) := by
  rw [scanMove] at scanned
  split at scanned
  · next source isMove isSource =>
    cases resolved : engine.resolvePath source with
    | error error =>
      rw [resolved] at scanned
      cases scanned
    | ok src =>
      rw [resolved] at scanned
      cases scanned
      cases scan.moveSources.get src <;> by_cases same : src = target <;>
        simp [ConflictScan.add, same]
  · cases scanned
    exact ⟨rfl, id⟩

theorem scanOp_spec {scan next : ConflictScan} {idx : Nat} {op : PatchOp}
    (scanned : engine.scanOp scan idx op = .ok next) (clear : next.conflicts = []) :
    scan.conflicts = [] ∧ ∃ target opId, engine.resolvePath op.path = .ok target ∧
      scan.targetWriters.get target = none ∧
        next.targetWriters = scan.targetWriters.insert target opId := by
  rw [scanOp] at scanned
  cases resolved : engine.resolvePath op.path with
  | error error =>
    rw [resolved] at scanned
    cases scanned
  | ok target =>
    rw [resolved] at scanned
    obtain ⟨writers, conflicts⟩ := scanMove_spec scanned
    have earlier := conflicts clear
    by_cases seen : normalizeOpId op idx ∈ scan.seenIds <;>
      cases previous : scan.targetWriters.get target <;>
        simp_all [ConflictScan.add]

theorem scanOps_spec {scan final : ConflictScan} {idx : Nat}
    (scanned : engine.scanOps scan idx ops = .ok final) (clear : final.conflicts = []) :
    scan.conflicts = [] ∧ TargetsApart engine ops ∧
      ∀ op ∈ ops, ∀ target, engine.resolvePath op.path = .ok target →
        scan.targetWriters.get target = none := by
  induction ops generalizing scan idx with
  | nil =>
    cases scanned
    refine ⟨clear, ?_, fun _ membership => absurd membership not_mem_nil⟩
    intro first second firstOp secondOp place different isFirst
    rw [getElem?_nil] at isFirst
    cases isFirst
  | cons op rest ih =>
    rw [scanOps] at scanned
    cases one : engine.scanOp scan idx op with
    | error error =>
      rw [one] at scanned
      cases scanned
    | ok next =>
      rw [one] at scanned
      obtain ⟨nextClear, apart, free⟩ := ih scanned
      obtain ⟨scanClear, target, opId, resolved, vacant, writers⟩ := scanOp_spec one nextClear
      have others : ∀ other ∈ rest, ∀ place, engine.resolvePath other.path = .ok place →
          place ≠ target ∧ scan.targetWriters.get place = none := by
        intro other membership place isPlace
        have isFree := free other membership place isPlace
        rw [writers, Table.get_insert] at isFree
        split at isFree
        · cases isFree
        · next different => exact ⟨different, isFree⟩
      refine ⟨scanClear, ?_, ?_⟩
      · intro first second firstOp secondOp place different isFirst isSecond isPlace otherPlace
        cases first with
        | zero =>
          cases second with
          | zero => exact different rfl
          | succ second =>
            cases isFirst
            have distinct := (others secondOp (mem_of_getElem? isSecond) place otherPlace).1
            rw [resolved] at isPlace
            exact distinct (Except.ok.inj isPlace).symm
        | succ first =>
          cases second with
          | zero =>
            cases isSecond
            have distinct := (others firstOp (mem_of_getElem? isFirst) place isPlace).1
            rw [resolved] at otherPlace
            exact distinct (Except.ok.inj otherPlace).symm
          | succ second =>
            exact apart first second firstOp secondOp place (by omega) isFirst isSecond
              isPlace otherPlace
      · intro other membership place isPlace
        rcases mem_cons.mp membership with rfl | later
        · rw [resolved] at isPlace
          cases isPlace
          exact vacant
        · exact (others other later place isPlace).2

theorem targetsApart_of_detected (detected : engine.detectConflicts ops = .ok []) :
    TargetsApart engine ops := by
  rw [detectConflicts] at detected
  cases scanned : engine.scanOps {} 0 ops with
  | error error =>
    rw [scanned] at detected
    cases detected
  | ok final =>
    rw [scanned] at detected
    have none := Except.ok.inj detected
    exact (scanOps_spec scanned (append_eq_nil_iff.mp none).1).2.1

/-! ## While a patch is applied -/

structure Recorded (engine : DiffPatchEngine) (sessionId traceId : String)
    (start : FileSystem Content) (ops : List PatchOp) (count : Nat) (knowledge : Knowledge) :
    Prop where
  sound : ∀ key row, knowledge.get key = some row →
    Text.startsWith key (snapshotPrefix sessionId traceId) = true →
      ∃ (idx : Nat) (op : PatchOp) (target : Path) (now : UInt64), idx < count ∧
        ops[idx]? = some op ∧ engine.resolvePath op.path = .ok target ∧
        key = snapshotKey sessionId traceId now idx ∧
        row.value = engine.snapshotForm.encode (snapshotOf op idx (start.content target) now)
  complete : ∀ (idx : Nat) (op : PatchOp) (target : Path), idx < count → ops[idx]? = some op →
    engine.resolvePath op.path = .ok target → ∃ (now : UInt64) (row : KnowledgeRecord),
      knowledge.get (snapshotKey sessionId traceId now idx) = some row ∧
      row.value = engine.snapshotForm.encode (snapshotOf op idx (start.content target) now)

/-- Only the targets of the first operations have changed. -/
def Confined (engine : DiffPatchEngine) (start : FileSystem Content) (ops : List PatchOp)
    (count : Nat) (files : FileSystem Content) : Prop :=
  ∀ path, (∀ (idx : Nat) (op : PatchOp), idx < count → ops[idx]? = some op →
    engine.resolvePath op.path ≠ .ok path) → files.content path = start.content path

section Applying

variable {start : FileSystem Content} {count : Nat} {knowledge : Knowledge}

theorem Recorded.put {op : PatchOp} {target : Path} {diff shot : KnowledgeRecord}
    {now : UInt64} (recorded : Recorded engine sessionId traceId start ops count knowledge)
    (isOp : ops[count]? = some op) (resolved : engine.resolvePath op.path = .ok target)
    (isDiff : diff.key = diffKey sessionId traceId now count)
    (isShot : shot.key = snapshotKey sessionId traceId now count)
    (isValue : shot.value =
      engine.snapshotForm.encode (snapshotOf op count (start.content target) now)) :
    Recorded engine sessionId traceId start ops (count + 1) ((knowledge.put diff).put shot) where
  sound := by
    intro key row found under
    rw [get_put, get_put] at found
    split at found
    · next isKey =>
      cases found
      exact ⟨count, op, target, now, Nat.lt_succ_self _, isOp, resolved, isKey.trans isShot,
        isValue⟩
    · split at found
      · next isKey =>
        rw [isKey, isDiff, not_startsWith_diffKey] at under
        cases under
      · obtain ⟨idx, other, place, time, below, rest⟩ := recorded.sound key row found under
        exact ⟨idx, other, place, time, Nat.lt_succ_of_lt below, rest⟩
  complete := by
    intro idx other place below isOther isPlace
    rcases Nat.lt_succ_iff_lt_or_eq.mp below with earlier | rfl
    · obtain ⟨time, row, found, value⟩ := recorded.complete idx other place earlier isOther isPlace
      refine ⟨time, row, ?_, value⟩
      rw [get_put_of_ne, get_put_of_ne, found]
      · rw [isDiff]
        intro same
        have under : Text.startsWith (snapshotKey sessionId traceId time idx)
            (snapshotPrefix sessionId traceId) = true := startsWith_snapshotKey time idx
        rw [same, not_startsWith_diffKey] at under
        cases under
      · rw [isShot]
        intro same
        have sameIdx := idx_of_snapshotKey same
        omega
    · rw [isOp] at isOther
      cases isOther
      rw [resolved] at isPlace
      cases isPlace
      refine ⟨now, shot, ?_, isValue⟩
      rw [← isShot, get_put_self]

/-- Rows outside the write-once rule are all that snapshots depend on. -/
theorem Recorded.samePlain {before after : Shared}
    (recorded : Recorded engine sessionId traceId start ops count before.repo.knowledge)
    (same : SamePlain before after) :
    Recorded engine sessionId traceId start ops count after.repo.knowledge where
  sound := by
    intro key row found under
    rw [same key (plain_of_snapshotPrefix under)] at found
    exact recorded.sound key row found under
  complete := by
    intro idx op target below isOp resolved
    obtain ⟨now, row, found, value⟩ := recorded.complete idx op target below isOp resolved
    exact ⟨now, row, (same _ (plain_snapshotKey now idx)).trans found, value⟩

theorem Recorded.whole (recorded : Recorded engine sessionId traceId start ops count knowledge)
    (done : ops.length ≤ count) :
    Recorded engine sessionId traceId start ops ops.length knowledge where
  sound := by
    intro key row found under
    obtain ⟨idx, op, target, now, -, isOp, rest⟩ := recorded.sound key row found under
    obtain ⟨inRange, -⟩ := List.getElem?_eq_some_iff.mp isOp
    exact ⟨idx, op, target, now, inRange, isOp, rest⟩
  complete := by
    intro idx op target below
    exact recorded.complete idx op target (by omega)

theorem Confined.whole {files : FileSystem Content} (confined : Confined engine start ops count files) :
    Confined engine start ops ops.length files := by
  intro path apart
  apply confined path
  intro idx op _ isOp
  obtain ⟨inRange, -⟩ := List.getElem?_eq_some_iff.mp isOp
  exact apart idx op inRange isOp

theorem Confined.content_next {files : FileSystem Content} {op : PatchOp} {target : Path}
    (confined : Confined engine start ops count files) (apart : TargetsApart engine ops)
    (isOp : ops[count]? = some op) (resolved : engine.resolvePath op.path = .ok target) :
    files.content target = start.content target := by
  apply confined target
  intro idx other below isOther same
  exact apart idx count other op target (by omega) isOther isOp same resolved

theorem Confined.acted {files after : FileSystem Content} {op : PatchOp} {target : Path}
    (confined : Confined engine start ops count files) (isOp : ops[count]? = some op)
    (resolved : engine.resolvePath op.path = .ok target) (stays : op.kind ≠ .moveFile)
    (acted : Acted engine op target files after) :
    Confined engine start ops (count + 1) after := by
  intro path apart
  have different : path ≠ target := by
    rintro rfl
    exact apart count op (Nat.lt_succ_self _) isOp resolved
  have before : files.content path = start.content path :=
    confined path fun idx other below => apart idx other (Nat.lt_succ_of_lt below)
  cases acted with
  | create isKind missing content isPatch wrote => rw [wrote, if_neg different, before]
  | update isKind present content isPatch wrote => rw [wrote, if_neg different, before]
  | delete isKind present removed => rw [removed, if_neg different, before]
  | move isKind => exact absurd isKind stays

end Applying

def Succeeded : Except String PatchExecutionReport → Prop
  | .ok report => report.success = true
  | .error _ => False

instance : ∀ answer, Decidable (Succeeded answer)
  | .ok report => inferInstanceAs (Decidable (report.success = true))
  | .error _ => .isFalse id

theorem abandon_fails (steps : List PatchStepRecord) (undo : List UndoAction)
    (world : PatchWorld) : ¬Succeeded (engine.abandon sessionId traceId steps undo world).1 := by
  rw [abandon, bind_apply]
  split
  · next taken final ran =>
    rintro ⟨⟩
  · exact id

theorem refuse_fails (conflicts : List PatchConflict) (world : PatchWorld) :
    ¬Succeeded (engine.refuse sessionId traceId conflicts world).1 := by
  rintro ⟨⟩

section Committing

variable {start : FileSystem Content} (unmirrored : engine.ledger.store.mirror = none)
include unmirrored

theorem samePlain_appendEvidence (sessionId traceId : String) (members : List (String × String)) (world : PatchWorld) :
    (engine.appendEvidence sessionId traceId members world).2.files = world.files ∧
      SamePlain world.shared (engine.appendEvidence sessionId traceId members world).2.shared :=
  ⟨rfl, samePlain_appendStage unmirrored .execution (Json.object members) world.shared⟩

theorem applyOps_recorded {count : Nat} {steps : List PatchStepRecord} {undo : List UndoAction}
    {world : PatchWorld} (apart : TargetsApart engine ops)
    (stays : ∀ op ∈ ops, op.kind ≠ .moveFile) (isRest : rest = ops.drop count)
    (recorded : Recorded engine sessionId traceId start ops count world.shared.repo.knowledge)
    (confined : Confined engine start ops count world.files)
    (succeeded : Succeeded (engine.applyOps sessionId traceId count rest steps undo world).1) :
    Recorded engine sessionId traceId start ops ops.length
        (engine.applyOps sessionId traceId count rest steps undo world).2.shared.repo.knowledge ∧
      Confined engine start ops ops.length
        (engine.applyOps sessionId traceId count rest steps undo world).2.files := by
  induction rest generalizing count steps undo world with
  | nil =>
    have done : ops.length ≤ count := drop_eq_nil_iff.mp isRest.symm
    obtain ⟨-, same⟩ := samePlain_appendEvidence unmirrored sessionId traceId
      [("replay_fp", Json.quote (engine.buildReportReplayFp traceId steps false)),
        ("stage", Json.quote "diff_patch_engine"), ("status", Json.quote "applied"),
        ("step_count", steps.length.repr)] world
    exact ⟨(recorded.samePlain same).whole done, confined.whole⟩
  | cons op rest ih =>
    have isOp : ops[count]? = some op := by
      have head := congrArg List.head? isRest
      rw [head?_cons, head?_drop] at head
      exact head.symm
    have isTail : rest = ops.drop (count + 1) := by
      have tail := congrArg List.tail isRest
      rw [tail_cons, tail_drop] at tail
      exact tail
    rw [applyOps, bind_apply, attempt_apply] at succeeded ⊢
    cases applied : engine.applyOne sessionId traceId count op world with
    | mk answer later =>
      rw [applied] at succeeded
      cases answer with
      | error error => exact absurd succeeded (abandon_fails _ _ _)
      | ok done =>
        obtain ⟨record, action⟩ := done
        cases ended_applyOne applied with
        | @applied _ _ _ target resolved previous undo acted stored =>
          obtain ⟨beforeHash, afterHash, diffRef, ran⟩ := stored
          rw [confined.content_next apart isOp resolved] at ran
          obtain ⟨diff, shot, now, shared, ranToo, put, isDiff, isShot, isValue⟩ :=
            run_storeStep unmirrored sessionId traceId count op
              (start.content target) beforeHash afterHash world.shared
          rw [ranToo] at ran
          obtain ⟨-, rfl⟩ := Prod.mk.inj ran
          apply ih isTail _ _ succeeded
          · rw [put]
            exact recorded.put isOp resolved isDiff isShot isValue
          · exact confined.acted isOp resolved
              (stays op (mem_of_getElem? isOp)) acted

end Committing

/-! ## Reverting -/

/-- A file was put back without an error of the file system. -/
def Obeyed : Except String (Except String Unit) → Prop
  | .ok (.ok _) => True
  | _ => False

instance : ∀ answer, Decidable (Obeyed answer)
  | .ok (.ok _) => .isTrue trivial
  | .ok (.error _) => .isFalse id
  | .error _ => .isFalse id

/-- The file system obeys while the snapshots are put back. -/
def RevertsCleanly (engine : DiffPatchEngine) :
    List PatchSnapshotRecord → FileSystem Content → Prop
  | [], _ => True
  | snapshot :: rest, files =>
    match engine.resolvePath snapshot.path with
    | .error _ => True
    | .ok target =>
      Obeyed (revertFile snapshot target files).1 ∧
        RevertsCleanly engine rest (revertFile snapshot target files).2

instance decidableRevertsCleanly (engine : DiffPatchEngine) :
    ∀ snapshots files, Decidable (RevertsCleanly engine snapshots files)
  | [], _ => .isTrue trivial
  | snapshot :: rest, files =>
    match resolved : engine.resolvePath snapshot.path with
    | .error _ => .isTrue (by rw [RevertsCleanly, resolved]; trivial)
    | .ok target =>
      have := decidableRevertsCleanly engine rest (revertFile snapshot target files).2
      decidable_of_iff
        (Obeyed (revertFile snapshot target files).1 ∧
          RevertsCleanly engine rest (revertFile snapshot target files).2)
        (by rw [RevertsCleanly, resolved])

def Holds (engine : DiffPatchEngine) (start : FileSystem Content)
    (snapshot : PatchSnapshotRecord) : Prop :=
  ∃ target, engine.resolvePath snapshot.path = .ok target ∧
    snapshot.contentBefore = start.content target ∧
    snapshot.existedBefore = (start.content target).isSome

section Reverting

variable {start files : FileSystem Content} {snapshot : PatchSnapshotRecord} {target : Path}
variable {snapshots : List PatchSnapshotRecord}

theorem obeyed_attempt {message : String} {call : FileSystem Content → Option (FileSystem Content)}
    (obeyed : Obeyed (Effect.attempt (fileCall message call) files).1) :
    call files = some (Effect.attempt (fileCall message call) files).2 := by
  rw [attempt_apply] at obeyed ⊢
  cases ran : fileCall message call files with
  | mk answer after =>
    rw [ran] at obeyed
    cases answer with
    | error error => exact obeyed.elim
    | ok value => exact fileCall_eq_ok ran

theorem content_revertFile (isBefore : snapshot.contentBefore = start.content target)
    (existed : snapshot.existedBefore = (start.content target).isSome)
    (obeyed : Obeyed (revertFile snapshot target files).1) (path : Path) :
    (revertFile snapshot target files).2.content path =
      if path = target then start.content target else files.content path := by
  rw [revertFile] at obeyed ⊢
  cases before : start.content target with
  | some content =>
    rw [before] at isBefore existed
    rw [isBefore, if_pos (by rw [existed]; rfl)] at obeyed ⊢
    cases created : createParent "create parent directories for revert" target files with
    | mk answer parents =>
      obtain ⟨same, -⟩ := createParent_files created
      cases answer with
      | error error =>
        rw [bind_of_error created] at obeyed
        exact obeyed.elim
      | ok value =>
        rw [bind_of_ok created] at obeyed ⊢
        rw [FileSystem.content_write (obeyed_attempt obeyed), same]
        rfl
  | none =>
    rw [before] at existed
    rw [if_neg (by rw [existed]; exact Bool.false_ne_true)] at obeyed ⊢
    split at obeyed
    · next isThere =>
      rw [if_pos isThere]
      exact FileSystem.content_removeFile (obeyed_attempt obeyed) path
    · next missing =>
      rw [if_neg missing]
      change files.content path = _
      split
      · next isTarget =>
        rw [isTarget]
        exact FileSystem.content_of_missing (Bool.not_eq_true _ ▸ missing)
      · rfl

theorem run_revertOne (resolved : engine.resolvePath snapshot.path = .ok target)
    (obeyed : Obeyed (revertFile snapshot target files).1) :
    ∃ step, engine.revertOne snapshot files =
        (.ok step, (revertFile snapshot target files).2) ∧ step.status = .reverted := by
  cases ran : revertFile snapshot target files with
  | mk answer after =>
    rw [ran] at obeyed
    have looked : (Effect.ofExcept (engine.resolvePath snapshot.path) :
        Effect (FileSystem Content) Path) files = (.ok target, files) := by
      rw [ofExcept_apply, resolved]
    cases answer with
    | error error => exact obeyed.elim
    | ok result =>
      cases result with
      | error error => exact obeyed.elim
      | ok value =>
        rw [revertOne, bind_of_ok looked, bind_of_ok ran]
        exact ⟨_, rfl, rfl⟩

theorem run_revertAll (holds : ∀ snapshot ∈ snapshots, Holds engine start snapshot)
    (clean : RevertsCleanly engine snapshots files) :
    ∃ steps final, engine.revertAll snapshots files = (.ok steps, final) ∧
      (∀ step ∈ steps, step.status = .reverted) ∧
      (∀ snapshot ∈ snapshots, ∀ target, engine.resolvePath snapshot.path = .ok target →
        final.content target = start.content target) ∧
      ∀ path, (∀ snapshot ∈ snapshots, engine.resolvePath snapshot.path ≠ .ok path) →
        final.content path = files.content path := by
  induction snapshots generalizing files with
  | nil =>
    refine ⟨[], files, rfl, ?_, ?_, fun _ _ => rfl⟩
    · exact fun _ membership => absurd membership not_mem_nil
    · exact fun _ membership => absurd membership not_mem_nil
  | cons snapshot rest ih =>
    obtain ⟨target, resolved, isBefore, existed⟩ := holds snapshot mem_cons_self
    rw [RevertsCleanly, resolved] at clean
    obtain ⟨obeyed, cleanRest⟩ := clean
    obtain ⟨step, ranOne, isReverted⟩ := run_revertOne resolved obeyed
    obtain ⟨steps, final, ranRest, areReverted, restored, others⟩ :=
      ih (fun later membership => holds later (mem_cons_of_mem _ membership)) cleanRest
    have own := content_revertFile isBefore existed obeyed
    have atTarget : final.content target = start.content target := by
      by_cases again : ∃ later ∈ rest, engine.resolvePath later.path = .ok target
      · obtain ⟨later, membership, isTarget⟩ := again
        exact restored later membership target isTarget
      · rw [others target fun later membership same => again ⟨later, membership, same⟩, own,
          if_pos rfl]
    refine ⟨step :: steps, final, ?_, ?_, ?_, ?_⟩
    · rw [revertAll, bind_of_ok ranOne, bind_of_ok ranRest]
      rfl
    · intro other membership
      rcases mem_cons.mp membership with rfl | later
      · exact isReverted
      · exact areReverted other later
    · intro other membership place isPlace
      rcases mem_cons.mp membership with rfl | later
      · rw [resolved] at isPlace
        cases isPlace
        exact atTarget
      · exact restored other later place isPlace
    · intro path apart
      rw [others path fun later membership => apart later (mem_cons_of_mem _ membership),
        own, if_neg]
      rintro rfl
      exact apart snapshot mem_cons_self resolved

end Reverting

/-! ## The patch and its revert -/

section Whole

variable (unmirrored : engine.ledger.store.mirror = none)
include unmirrored

theorem run_listSnapshots (sessionId traceId : String) (shared : Shared) :
    ∃ snapshots later, (engine.listSnapshots sessionId traceId).run shared =
        (.ok snapshots, later) ∧
      ∀ snapshot, snapshot ∈ snapshots ↔ ∃ row, shared.repo.knowledge.get row.key = some row ∧
        Text.startsWith row.key (snapshotPrefix sessionId traceId) = true ∧
        engine.snapshotForm.decode row.value = some snapshot := by
  refine ⟨sortByKey (fun snapshot => snapshot.createdAtMs.toNat)
    ((shared.repo.knowledge.select (Text.startsWith · (snapshotPrefix sessionId traceId))).filterMap
      fun record => engine.snapshotForm.decode record.value),
    { shared with tick := shared.tick + 1 }, ?_, ?_⟩
  · unfold listSnapshots
    exact Future.run_bind_of_ok
      (StateStore.run_listKnowledgeByPrefix_unmirrored unmirrored _ shared)
  · intro snapshot
    rw [mem_sortByKey, mem_filterMap]
    constructor
    · rintro ⟨row, membership, decoded⟩
      obtain ⟨found, under⟩ := mem_select_iff.mp membership
      exact ⟨row, found, under, decoded⟩
    · rintro ⟨row, found, under, decoded⟩
      exact ⟨row, mem_select_iff.mpr ⟨found, under⟩, decoded⟩

end Whole

/-- Nothing is stored under the prefix of the trace. -/
def FreshTrace (sessionId traceId : String) (knowledge : Knowledge) : Prop :=
  ∀ key row, knowledge.get key = some row →
    Text.startsWith key (snapshotPrefix sessionId traceId) = false

/-- The file system obeys while the listed snapshots are put back. -/
def CleanRevert (engine : DiffPatchEngine) (sessionId traceId : String) (world : PatchWorld) :
    Prop :=
  match ((engine.listSnapshots sessionId traceId).run world.shared).1 with
  | .ok snapshots => RevertsCleanly engine snapshots.reverse world.files
  | .error _ => True

instance (engine : DiffPatchEngine) (sessionId traceId : String) (world : PatchWorld) :
    Decidable (CleanRevert engine sessionId traceId world) :=
  match listed : ((engine.listSnapshots sessionId traceId).run world.shared).1 with
  | .ok snapshots =>
    decidable_of_iff (RevertsCleanly engine snapshots.reverse world.files)
      (by rw [CleanRevert, listed])
  | .error _ => .isTrue (by rw [CleanRevert, listed]; trivial)

/-- The revert reports success and leads back to the files of the start. -/
def RevertsTo (engine : DiffPatchEngine) (sessionId traceId : String)
    (start : FileSystem Content) (world : PatchWorld) : Prop :=
  Succeeded (engine.revertFromTrace sessionId traceId world).1 ∧
    (engine.revertFromTrace sessionId traceId world).2.files.SameFiles start

section Whole

variable {start : FileSystem Content} {world : PatchWorld}
variable (unmirrored : engine.ledger.store.mirror = none)
include unmirrored

omit unmirrored in
theorem revertsTo_of_reverted {snapshots : List PatchSnapshotRecord} {shared : Shared}
    {steps : List PatchStepRecord} {final : FileSystem Content}
    (listed : (engine.listSnapshots sessionId traceId).run world.shared = (.ok snapshots, shared))
    (reverted : engine.revertAll snapshots.reverse world.files = (.ok steps, final))
    (areReverted : ∀ step ∈ steps, step.status = .reverted) (same : final.SameFiles start) :
    RevertsTo engine sessionId traceId start world := by
  have onStoreRan : onStore (engine.listSnapshots sessionId traceId) world =
      (.ok snapshots, { world with shared }) := by
    rw [onStore_apply, listed]
  have onFilesRan : onFiles (engine.revertAll snapshots.reverse) { world with shared } =
      (.ok steps, { files := final, shared }) := by
    rw [onFiles_apply, reverted]
  have success : (steps.all fun step => step.status ≠ .failed) = true := by
    rw [all_eq_true]
    intro step membership
    rw [areReverted step membership]
    rfl
  rw [RevertsTo, revertFromTrace, bind_of_ok onStoreRan, bind_of_ok onFilesRan]
  exact ⟨success, same⟩

theorem revertsTo_of_recorded
    (recorded : Recorded engine sessionId traceId start ops ops.length world.shared.repo.knowledge)
    (confined : Confined engine start ops ops.length world.files)
    (clean : CleanRevert engine sessionId traceId world) :
    RevertsTo engine sessionId traceId start world := by
  obtain ⟨snapshots, shared, listed, members⟩ :=
    run_listSnapshots unmirrored sessionId traceId world.shared
  rw [CleanRevert, listed] at clean
  have holds : ∀ snapshot ∈ snapshots.reverse, Holds engine start snapshot := by
    intro snapshot membership
    obtain ⟨row, found, under, decoded⟩ := (members snapshot).mp (mem_reverse.mp membership)
    obtain ⟨idx, op, target, now, -, -, resolved, -, value⟩ :=
      recorded.sound row.key row found under
    rw [value, engine.snapshotForm.decode_encode] at decoded
    cases decoded
    exact ⟨target, resolved, rfl, rfl⟩
  obtain ⟨steps, final, reverted, areReverted, restored, others⟩ := run_revertAll holds clean
  apply revertsTo_of_reverted listed reverted areReverted
  intro path
  by_cases isTarget : ∃ (idx : Nat) (op : PatchOp), ops[idx]? = some op ∧
      engine.resolvePath op.path = .ok path
  · obtain ⟨idx, op, isOp, resolved⟩ := isTarget
    obtain ⟨inRange, -⟩ := List.getElem?_eq_some_iff.mp isOp
    obtain ⟨now, row, found, value⟩ := recorded.complete idx op path inRange isOp resolved
    have isKey := key_of_get found
    have isListed : snapshotOf op idx (start.content path) now ∈ snapshots := by
      apply (members _).mpr
      refine ⟨row, ?_, ?_, ?_⟩
      · rw [isKey]
        exact found
      · rw [isKey]
        exact startsWith_snapshotKey now idx
      · rw [value, engine.snapshotForm.decode_encode]
    exact restored _ (mem_reverse.mpr isListed) path resolved
  · have apart : ∀ snapshot ∈ snapshots.reverse, engine.resolvePath snapshot.path ≠ .ok path := by
      intro snapshot membership same
      obtain ⟨row, found, under, decoded⟩ :=
        (members snapshot).mp (mem_reverse.mp membership)
      obtain ⟨idx, op, target, now, -, isOp, -, -, value⟩ :=
        recorded.sound row.key row found under
      rw [value, engine.snapshotForm.decode_encode] at decoded
      cases decoded
      exact isTarget ⟨idx, op, isOp, same⟩
    rw [others path apart]
    apply confined path
    intro idx op _ isOp resolved
    exact isTarget ⟨idx, op, isOp, resolved⟩

end Whole

end DiffPatchEngine

open DiffPatchEngine

theorem freshTrace_empty (sessionId traceId : String) :
    FreshTrace sessionId traceId Shared.empty.repo.knowledge := by
  intro key row found
  cases found

def updateAndCreate : List PatchOp :=
  [{ opId := "a", kind := .updateFile, path := "f", patch := some "b" },
    { opId := "b", kind := .createFile, path := "g", patch := some "c" }]

/-- A file that goes to another name. -/
def moved : List PatchOp :=
  [{ opId := "a", kind := .moveFile, path := "g", fromPath := some "f" }]

end AutoLoop.QueryEngine
