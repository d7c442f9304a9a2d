import AutoLoop.StateAdapter.IdentityAndBilling

/-!
# Outlines of concurrent writes

Any number of writes of one store run concurrently, over any mirror, failures of
Postgres and rollback windows.  For one evidence key: a write of another key stands
by, and a write of the key relies on its checks staying valid and changes a row only
after them, where there was none.
-/

namespace AutoLoop.StateAdapter

open StateStore Postgres Shared Outline.Conforms Knowledge

/-- The writes of a store. -/
inductive WriteCall where
  | knowledge (key value source : String)
  | json (key : String) (value : Except String String) (source : String)
  | typed (write : TypedWrite)
  deriving DecidableEq

def TypedWrite.request (store : StateStore) (forms : JsonForms) : TypedWrite → StoreCall Unit
  | .tenant record => do let _ ← store.upsertTenant forms record
  | .principal record => do let _ ← store.upsertPrincipal forms record
  | .roleBinding record => do let _ ← store.upsertRoleBinding forms record
  | .policyBinding record => do let _ ← store.upsertPolicyBinding forms record
  | .sessionLease record => do let _ ← store.upsertSessionLease forms record
  | .budgetAccount record => do let _ ← store.upsertBudgetAccount forms record
  | .spendLedger entry => do let _ ← store.appendSpendLedger forms entry
  | .quotaWindow record => do let _ ← store.upsertQuotaWindow forms record
  | .costAttribution record => do let _ ← store.upsertCostAttribution forms record

namespace WriteCall

def request (store : StateStore) (forms : JsonForms) : WriteCall → StoreCall Unit
  | .knowledge key value source => do let _ ← store.upsertKnowledge key value source
  | .json key value source => do let _ ← store.upsertJsonKnowledge key value source
  | .typed write => write.request store forms

def writing (key : String) : WriteCall → Option (String × String)
  | .knowledge other value source => if other = key then some (value, source) else none
  | .json other (.ok value) source => if other = key then some (value, source) else none
  | .json _ (.error _) _ => none
  | .typed _ => none

end WriteCall

/-! ## The accesses of a write -/

section Accesses

variable (store : StateStore) (key value source : String)

section
variable (past : List StoreAccess)

/-- The repository was found without the key. -/
def Checked : Prop := .repoGet key ∈ past

def Probed : Prop := ∃ outcome, .postgresGet key outcome ∈ past

/-- Postgres is still to be asked for the key. -/
def Unprobed : Prop := store.mirror.isSome = true ∧ ¬Probed key past

end

def Landing : Place → StoreAccess → Prop
  | .repository, access => access = .repoUpsert key
  | .postgres, access => ∃ outcome, access = .postgresUpsert key outcome ∧
      outcome ≠ .failed ∧ Storable [key, value, source]

def Landed (place : Place) (past : List StoreAccess) : Prop :=
  ∃ access ∈ past, Landing key value source place access

end Accesses

/-! ## Outlines of writes -/

/-- A call that does not write the key leaves its rows alone. -/
def bystander (key : String) : Outline Shared StoreAccess where
  rely _ _ _ := True
  during _ _ := True
  allowed _ _ _ := True
  guarantee _ _ before after := ∀ place, after.row key place = before.row key place

/-- What a write under way has found and done. -/
structure Clear (store : StateStore) (key value source : String) (past : List StoreAccess)
    (shared : Shared) : Prop where
  order : Probed key past → Checked key past
  checked : Checked key past →
    (shared.row key .repository = none ∧ (Probed key past → shared.row key .postgres = none ∨
        Landed key value source .postgres past)) ∨
    (Unprobed store key past ∧ (shared.row key .postgres).isSome = true)
  inPostgres : Landed key value source .postgres past →
    store.mirror.isSome = true ∧ (shared.row key .postgres).isSome = true
  unlanded : ¬Landed key value source .repository past

section
variable (store : StateStore) (key value source : String)

/-- A write of the key relies on rows that stay, and on its checks staying valid; it
changes a row only by landing, after its checks and where there was none. -/
def writer : Outline Shared StoreAccess where
  rely past before after :=
    (∀ place, (before.row key place).isSome = true → after.row key place = before.row key place) ∧
    (Checked key past → after.row key .repository = before.row key .repository ∨
      Unprobed store key past ∧ (after.row key .postgres).isSome = true) ∧
    (Probed key past → after.row key .postgres = before.row key .postgres)
  during := Clear store key value source
  allowed _ access shared := ∀ outcome, access = .postgresGet key outcome →
    (shared.row key .postgres).isSome = true →
      outcome = .completed ∧ Storable [key]
  guarantee past access before after := ∀ place,
    (¬Landing key value source place access → after.row key place = before.row key place) ∧
    (Landing key value source place access →
      before.row key place = none ∧ (after.row key place).isSome = true ∧
        Checked key past ∧ ¬Unprobed store key past ∧
        (place = .postgres → store.mirror.isSome = true))

/-- A write that succeeded has landed, and where a write has landed there is a row. -/
def Ended (past : List StoreAccess)
    (answer : Except String Unit) (shared : Shared) : Prop :=
  (answer.isOk = true → ∃ place, Landed key value source place past) ∧
    ∀ place, Landed key value source place past →
      (shared.row key place).isSome = true ∧
        (place = .postgres → store.mirror.isSome = true)

end

/-! ## What accesses leave alone -/

def Leaves {α : Type} (key : String) (action : Effect Shared α) : Prop :=
  ∀ shared place, (action shared).2.row key place = shared.row key place

namespace Leaves

variable {α : Type} {key other : String}

theorem onHost (read : Moment → α) : Leaves key (Shared.onHost read) := by
  intro shared place
  cases place <;> rfl

theorem onRepo {action : Effect InMemory α}
    (left : ∀ memory, (action memory).2.knowledge.get key = memory.knowledge.get key) :
    Leaves key (Shared.onRepo action) := by
  intro shared place
  cases place with
  | repository => exact left shared.repo
  | postgres => rfl

theorem onPostgres {action : Effect Postgres α}
    (left : ∀ postgres, (action postgres).2.kvRecords.get key = postgres.kvRecords.get key) :
    Leaves key (Shared.onPostgres action) := by
  intro shared place
  obtain ⟨changes, sameRepo⟩ := onPostgres_postgres action shared
  cases place with
  | repository => rw [row, row, sameRepo]
  | postgres =>
    rw [row, row]
    cases changes with
    | inl unchanged => rw [unchanged]
    | inr acted => rw [acted, left]

theorem statement (texts : List String) {body : Unit → Effect Postgres α}
    (left : ∀ postgres, (body () postgres).2.kvRecords.get key = postgres.kvRecords.get key) :
    Leaves key (Shared.onPostgres (bindTexts texts >>= body)) := by
  apply onPostgres
  intro postgres
  by_cases storable : Storable texts
  · rw [Effect.bind_of_ok (bindTexts_of_storable storable postgres)]
    exact left postgres
  · rw [bindTexts_of_not_storable storable]

theorem upsertRepo (different : key ≠ other) (value source : String) :
    Leaves key (Shared.onRepo (InMemory.upsertKnowledge other value source)) := by
  apply onRepo
  intro memory
  obtain ⟨id, nextId, ran, -⟩ := InMemory.upsertKnowledge_apply other value source memory
  rw [ran]
  exact get_put_of_ne different

theorem upsertPostgres (different : key ≠ other) (value source : String) :
    Leaves key (Shared.onPostgres (Postgres.upsertKnowledge other value source)) :=
  statement _ fun _ => get_put_of_ne different

theorem upsertTyped (table : String) (columns : List String) (payload : String) :
    Leaves key (Shared.onPostgres (Postgres.upsertTyped table columns payload)) :=
  statement _ fun _ => rfl

theorem insertTyped (table : String) (columns : List String) (payload conflict : String) :
    Leaves key (Shared.onPostgres (Postgres.insertTyped table columns payload conflict)) := by
  apply statement
  intro postgres
  change (if _ then _ else _ : Except String Unit × Postgres).2.kvRecords.get key = _
  split
  · rfl
  · rfl

end Leaves

/-! ## Writes of other keys -/

section Bystanders

variable {α : Type} {store : StateStore} {key : String} {past : List StoreAccess}
variable {shared : Shared}

/-- The computation leaves the rows of the key alone, whatever else happens. -/
def StandsBy (key : String) (call : StoreCall α) : Prop :=
  ∀ past shared, (bystander key).Conforms (fun _ _ _ => True) past call shared

namespace StandsBy

theorem done (answer : Except String α) : StandsBy key (Future.done answer : StoreCall α) :=
  fun _ _ => trivial

theorem call {observe : Shared → StoreAccess} {action : Effect Shared α}
    (leaves : Leaves key action) : StandsBy key (Future.call observe action) := by
  intro past shared
  apply of_call
  intro later _
  exact ⟨trivial, fun _ => ⟨leaves later, trivial⟩⟩

theorem bind {β : Type} {first : StoreCall α} {next : α → StoreCall β}
    (firstStands : StandsBy key first) (nextStands : ∀ value, StandsBy key (next value)) :
    StandsBy key (first >>= next) := by
  intro past shared
  apply (firstStands past shared).bind
  · intro past value shared _
    exact nextStands value past shared
  · intro _ _ _ _
    trivial

theorem attempt {call : StoreCall α} (stands : StandsBy key call) :
    StandsBy key (Future.attempt call) := by
  intro past shared
  apply (stands past shared).attempt
  intro _ _ _ _
  trivial

theorem parseControlledRollbackWindow :
    StandsBy key StateStore.parseControlledRollbackWindow :=
  call (Leaves.onHost _)

theorem repoGet (other : String) : StandsBy key (StateStore.repoGet other) :=
  call (Leaves.onRepo fun _ => rfl)

theorem postgresGet (other : String) : StandsBy key (StateStore.postgresGet other) :=
  call (Leaves.statement _ fun _ => rfl)

section
variable {other : String} (different : key ≠ other) (value source : String)
include different

theorem repoUpsert :
    StandsBy key (StateStore.repoUpsert other value source) :=
  call (Leaves.upsertRepo different value source)

theorem postgresUpsert :
    StandsBy key (StateStore.postgresUpsert other value source) :=
  call (Leaves.upsertPostgres different value source)

end

theorem enforceEvidenceWormWrite (store : StateStore) (other value : String) :
    StandsBy key (store.enforceEvidenceWormWrite other value) := by
  rw [StateStore.enforceEvidenceWormWrite]
  split
  · exact done _
  · apply bind (repoGet other)
    intro inRepository
    cases inRepository with
    | some existing => exact done _
    | none =>
      cases store.mirror with
      | none => exact done _
      | some mirror =>
        apply bind (attempt (postgresGet other))
        intro inPostgres
        split
        · exact done _
        · exact done _

theorem getKnowledge (store : StateStore) (other : String) :
    StandsBy key (store.getKnowledge other) := by
  apply bind (repoGet other)
  intro primary
  cases store.mirror with
  | none => exact done _
  | some mirror =>
    dsimp only
    split
    · exact done _
    · apply bind (attempt (postgresGet other))
      intro inPostgres
      split
      · exact done _
      · exact done _
      · split
        · exact done _
        · exact done _

section Evidence

variable (evidence : isEvidence key = true)
include evidence

theorem fallBack (domain operation target error : String) :
    StandsBy key (StateStore.fallBack domain operation target error) := by
  apply bind parseControlledRollbackWindow
  intro window
  split
  · exact done _
  · apply bind parseControlledRollbackWindow
    intro window
    cases window with
    | none => exact done _
    | some window =>
      apply bind (call (Leaves.onHost _))
      intro atMs
      have different : key ≠ rollbackEventKey domain operation target atMs := by
        rintro rfl
        rw [isEvidence_rollbackEventKey] at evidence
        cases evidence
      apply bind (attempt (repoUpsert different _ _))
      intro _
      exact done _

section
variable (store : StateStore) {other : String} (different : key ≠ other) (value source : String)
include different

theorem writeKnowledge : StandsBy key (store.writeKnowledge other value source) := by
  rw [StateStore.writeKnowledge]
  cases store.mirror with
  | none => exact repoUpsert different value source
  | some mirror =>
    apply bind (attempt (postgresUpsert different value source))
    intro answer
    cases answer with
    | ok written => exact done _
    | error message =>
      apply bind (fallBack evidence _ _ _ _)
      intro _
      exact repoUpsert different value source

theorem upsertKnowledge : StandsBy key (store.upsertKnowledge other value source) := by
  apply bind (enforceEvidenceWormWrite store other value)
  intro _
  exact writeKnowledge evidence store different value source

end

variable {Record : Type} (table : TypedTable Record)

theorem upsertFallback (store : StateStore) (record : Record) :
    StandsBy key (table.upsertFallback store record) := by
  have different : key ≠ table.key (table.columns record) := by
    rintro rfl
    rw [table.isEvidence_key] at evidence
    cases evidence
  apply bind (upsertKnowledge evidence store different _ _)
  intro _
  exact done _

theorem upsert (store : StateStore) (record : Record) :
    StandsBy key (table.upsert store record) := by
  rw [TypedTable.upsert]
  cases store.mirror with
  | none => exact upsertFallback evidence table store record
  | some mirror =>
    apply bind (attempt (call (Leaves.upsertTyped _ _ _)))
    intro answer
    cases answer with
    | ok written => exact done _
    | error message =>
      apply bind (fallBack evidence _ _ _ _)
      intro _
      exact upsertFallback evidence table store record

theorem append (describe : Record → String) (store : StateStore) (record : Record) :
    StandsBy key (table.append describe store record) := by
  have appendFallback :
      StandsBy key (TypedTable.append.appendFallback table describe store record) := by
    apply bind (getKnowledge store _)
    intro found
    split
    · exact done _
    · exact upsertFallback evidence table store record
  rw [TypedTable.append]
  cases store.mirror with
  | none => exact appendFallback
  | some mirror =>
    apply bind (attempt (call (Leaves.insertTyped _ _ _ _)))
    intro answer
    cases answer with
    | ok written => exact done _
    | error message =>
      apply bind (fallBack evidence _ _ _ _)
      intro _
      exact appendFallback

theorem typed (store : StateStore) (forms : JsonForms) (write : TypedWrite) :
    StandsBy key (write.request store forms) := by
  cases write with
  | spendLedger entry => exact bind (append evidence _ _ store entry) fun _ => done _
  | _ record => exact bind (upsert evidence _ store record) fun _ => done _

theorem request (store : StateStore) (forms : JsonForms) {call : WriteCall}
    (idle : call.writing key = none) : StandsBy key (call.request store forms) := by
  cases call with
  | typed write => exact typed evidence store forms write
  | knowledge other value source =>
    have isOther : key ≠ other := by
      rintro rfl
      simp [WriteCall.writing] at idle
    exact bind (upsertKnowledge evidence store isOther value source) fun _ => done _
  | json other value source =>
    cases value with
    | error message => exact bind (done _) fun _ => done _
    | ok text =>
      have isOther : key ≠ other := by
        rintro rfl
        simp [WriteCall.writing] at idle
      exact bind (upsertKnowledge evidence store isOther text source) fun _ => done _

end Evidence

end StandsBy

end Bystanders

/-! ## Writes of the key -/

section Writers

variable {store : StateStore} {key value source : String} {past : List StoreAccess}
variable {shared later : Shared} {access : StoreAccess}

theorem landed_append {place : Place} :
    Landed key value source place (past ++ [access]) ↔
      Landed key value source place past ∨ Landing key value source place access := by
  simp only [Landed, List.mem_append, List.mem_singleton, or_and_right, exists_or,
    exists_eq_left]

theorem checked_append (checked : Checked key past) : Checked key (past ++ [access]) :=
  List.mem_append_left _ checked

theorem probed_append :
    Probed key (past ++ [access]) ↔
      Probed key past ∨ ∃ outcome, access = .postgresGet key outcome := by
  simp only [Probed, List.mem_append, List.mem_singleton, exists_or, eq_comm]

/-- The write has passed its checks. -/
structure Ready (store : StateStore) (key value source : String) (past : List StoreAccess)
    (shared : Shared) : Prop where
  checked : Checked key past
  probed : ¬Unprobed store key past
  repository : shared.row key .repository = none
  postgres : Probed key past →
    shared.row key .postgres = none ∨ Landed key value source .postgres past
  inPostgres : Landed key value source .postgres past →
    store.mirror.isSome = true ∧ (shared.row key .postgres).isSome = true
  unlanded : ¬Landed key value source .repository past

theorem Ready.clear (ready : Ready store key value source past shared) :
    Clear store key value source past shared where
  order := fun _ => ready.checked
  checked := fun _ => Or.inl ⟨ready.repository, ready.postgres⟩
  inPostgres := ready.inPostgres
  unlanded := ready.unlanded

theorem Ready.of_rely (ready : Ready store key value source past shared)
    (relied : (writer store key value source).rely past shared later) :
    Ready store key value source past later := by
  obtain ⟨stays, repository, postgres⟩ := relied
  refine ⟨ready.checked, ready.probed, ?_, ?_, ?_, ready.unlanded⟩
  · cases repository ready.checked with
    | inl same => rw [same, ready.repository]
    | inr unprobed => exact absurd unprobed.1 ready.probed
  · intro probed
    rw [postgres probed]
    exact ready.postgres probed
  · intro landed
    obtain ⟨mirrored, held⟩ := ready.inPostgres landed
    rw [stays .postgres held]
    exact ⟨mirrored, held⟩

/-- An access that is neither a check nor a landing. -/
def Neutral (key value source : String) (access : StoreAccess) : Prop :=
  (∀ place, ¬Landing key value source place access) ∧
    ∀ outcome, access ≠ .postgresGet key outcome

theorem Ready.append (ready : Ready store key value source past shared)
    (neutral : Neutral key value source access)
    (same : ∀ place, later.row key place = shared.row key place) :
    Ready store key value source (past ++ [access]) later := by
  have sameLanded : ∀ place, Landed key value source place (past ++ [access]) ↔
      Landed key value source place past := by
    intro place
    rw [landed_append, or_iff_left (neutral.1 place)]
  have sameProbed : Probed key (past ++ [access]) ↔ Probed key past := by
    rw [probed_append, or_iff_left]
    rintro ⟨outcome, isProbe⟩
    exact neutral.2 outcome isProbe
  refine ⟨checked_append ready.checked, ?_, ?_, ?_, ?_, ?_⟩
  · rw [Unprobed, sameProbed]
    exact ready.probed
  · rw [same, ready.repository]
  · rw [sameProbed, sameLanded, same]
    exact ready.postgres
  · rw [sameLanded, same]
    exact ready.inPostgres
  · rw [sameLanded]
    exact ready.unlanded

theorem Ready.call {α : Type} (ready : Ready store key value source past shared)
    {observe : Shared → StoreAccess} {action : Effect Shared α}
    (neutral : ∀ shared, Neutral key value source (observe shared)) (leaves : Leaves key action) :
    (writer store key value source).Conforms
      (fun past _ shared => Ready store key value source past shared) past
      (Future.call observe action) shared := by
  apply of_call
  intro later relied
  have stillReady := ready.of_rely relied
  refine ⟨stillReady.clear, fun _ => ⟨?_, ?_⟩⟩
  · intro place
    exact ⟨fun _ => leaves later place, fun landing => absurd landing ((neutral later).1 place)⟩
  · exact stillReady.append (neutral later) (leaves later)

theorem neutral_of_other {access : StoreAccess} (notRepository : access ≠ .repoUpsert key)
    (notPostgres : ∀ outcome, access ≠ .postgresUpsert key outcome)
    (notProbe : ∀ outcome, access ≠ .postgresGet key outcome) :
    Neutral key value source access := by
  refine ⟨?_, notProbe⟩
  intro place landing
  cases place with
  | repository => exact notRepository landing
  | postgres =>
    obtain ⟨outcome, isUpsert, -⟩ := landing
    exact notPostgres outcome isUpsert

section
variable (ready : Ready store key value source past shared)
include ready

theorem Ready.parseControlledRollbackWindow :
    (writer store key value source).Conforms
      (fun past _ shared => Ready store key value source past shared) past
      StateStore.parseControlledRollbackWindow shared :=
  ready.call (fun _ => neutral_of_other nofun nofun nofun) (Leaves.onHost _)

theorem Ready.nowMs :
    (writer store key value source).Conforms
      (fun past _ shared => Ready store key value source past shared) past
      StateStore.nowMs shared :=
  ready.call (fun _ => neutral_of_other nofun nofun nofun) (Leaves.onHost _)

section
variable {other : String} (different : key ≠ other) (text origin : String)
include different

theorem Ready.repoUpsert_of_ne :
    (writer store key value source).Conforms
      (fun past _ shared => Ready store key value source past shared) past
      (StateStore.repoUpsert other text origin) shared := by
  have neutral : Neutral key value source (.repoUpsert other) :=
    neutral_of_other (fun same => different (StoreAccess.repoUpsert.inj same).symm) nofun nofun
  exact ready.call (fun _ => neutral) (Leaves.upsertRepo different text origin)

theorem Ready.attempt_repoUpsert_of_ne :
    (writer store key value source).Conforms
      (fun past _ shared => Ready store key value source past shared) past
      (Future.attempt (StateStore.repoUpsert other text origin)) shared :=
  (ready.repoUpsert_of_ne different text origin).attempt fun _ _ _ ready => ready

end

end

theorem Ready.fallBack (evidence : isEvidence key = true)
    (ready : Ready store key value source past shared) (domain operation target error : String) :
    (writer store key value source).Conforms
      (fun past _ shared => Ready store key value source past shared) past
      (StateStore.fallBack domain operation target error) shared := by
  apply ready.parseControlledRollbackWindow.bind ?_ fun _ _ _ ready => ready
  intro past window shared ready
  split
  · exact ready
  · apply ready.parseControlledRollbackWindow.bind ?_ fun _ _ _ ready => ready
    intro past window shared ready
    cases window with
    | none => exact ready
    | some window =>
      apply ready.nowMs.bind ?_ fun _ _ _ ready => ready
      intro past atMs shared ready
      have different : key ≠ rollbackEventKey domain operation target atMs := by
        rintro rfl
        rw [isEvidence_rollbackEventKey] at evidence
        cases evidence
      apply (ready.attempt_repoUpsert_of_ne different _ _).bind ?_ fun _ _ _ ready => ready
      intro past _ shared ready
      exact ready

/-- The last access of a write that goes to the repository. -/
theorem Ready.repoUpsert (ready : Ready store key value source past shared) :
    (writer store key value source).Conforms
      (fun past answer shared =>
        Ended store key value source past (answer.map fun _ => ()) shared) past
      (StateStore.repoUpsert key value source) shared := by
  apply of_call
  intro later relied
  have stillReady := ready.of_rely relied
  obtain ⟨id, nextId, ran, -⟩ := InMemory.upsertKnowledge_apply key value source later.repo
  have landing : Landing key value source .repository (.repoUpsert key) := rfl
  have notPostgres : ¬Landing key value source .postgres (.repoUpsert key) := by
    rintro ⟨outcome, isUpsert, -⟩
    cases isUpsert
  have inRepository : ((Shared.onRepo (InMemory.upsertKnowledge key value source) later).2.row
      key .repository).isSome = true := by
    rw [onRepo_apply, ran]
    simp [row, get_put]
  refine ⟨stillReady.clear, fun _ => ⟨?_, ?_, ?_⟩⟩
  · intro place
    cases place with
    | repository =>
      exact ⟨fun notLanding => absurd landing notLanding, fun _ =>
        ⟨stillReady.repository, inRepository, stillReady.checked, stillReady.probed, nofun⟩⟩
    | postgres => exact ⟨fun _ => rfl, fun isLanding => absurd isLanding notPostgres⟩
  · intro _
    exact ⟨.repository, landed_append.mpr (Or.inr landing)⟩
  · intro place landed
    cases place with
    | repository => exact ⟨inRepository, nofun⟩
    | postgres =>
      obtain ⟨mirrored, held⟩ :=
        stillReady.inPostgres ((landed_append.mp landed).resolve_right notPostgres)
      exact ⟨held, fun _ => mirrored⟩

theorem onPostgres_upsertKnowledge (key value source : String) (shared : Shared) :
    let ran := Shared.onPostgres (Postgres.upsertKnowledge key value source) shared
    let lands := Landing key value source .postgres (.postgresUpsert key shared.moment.outcome)
    (¬lands → ran.2.row key .postgres = shared.row key .postgres) ∧
      (lands → (ran.2.row key .postgres).isSome = true) ∧ (ran.1.isOk = true → lands) := by
  intro ran lands
  have landsIff : lands ↔ shared.moment.outcome ≠ .failed ∧
      Storable [key, value, source] := by
    constructor
    · rintro ⟨outcome, same, notFailed, storable⟩
      rw [(StoreAccess.postgresUpsert.inj same).2]
      exact ⟨notFailed, storable⟩
    · rintro ⟨notFailed, storable⟩
      exact ⟨_, rfl, notFailed, storable⟩
  rw [landsIff]
  have storedRow : ∀ postgres, Storable [key, value, source] →
      (((Postgres.upsertKnowledge key value source) postgres).2.kvRecords.get key).isSome
        = true := by
    intro postgres storable
    rw [Postgres.upsertKnowledge, Effect.bind_of_ok (bindTexts_of_storable storable _)]
    exact Option.isSome_iff_exists.mpr ⟨_, get_put_self _ ⟨0, key, value, source⟩⟩
  by_cases storable : Storable [key, value, source]
  · simp only [storable, and_true]
    cases outcome : shared.moment.outcome with
    | failed =>
      have isRan : ran = _ := onPostgres_of_failed _ outcome
      rw [isRan]
      exact ⟨fun _ => rfl, fun notFailed => absurd rfl notFailed,
        fun succeeded => absurd succeeded Bool.false_ne_true⟩
    | completed =>
      have isRan : ran = _ := onPostgres_of_completed _ outcome
      have notFailed : PostgresOutcome.completed ≠ .failed := by decide
      rw [isRan]
      exact ⟨fun failed => absurd notFailed failed, fun _ => storedRow _ storable,
        fun _ => notFailed⟩
    | unacknowledged =>
      have isRan : ran.2.postgres =
          ((Postgres.upsertKnowledge key value source) shared.postgres).2 := by
        simp only [ran, Shared.onPostgres, outcome]
      have notFailed : PostgresOutcome.unacknowledged ≠ .failed := by decide
      refine ⟨fun failed => absurd notFailed failed, fun _ => ?_, fun _ => notFailed⟩
      rw [row, isRan]
      exact storedRow _ storable
  · have rejected : Postgres.upsertKnowledge key value source shared.postgres =
        (.error _, shared.postgres) := bindTexts_of_not_storable storable _ _
    refine ⟨fun _ => ?_, fun lands => absurd lands.2 storable, fun succeeded => ?_⟩
    · cases (onPostgres_postgres (Postgres.upsertKnowledge key value source) shared).1 with
      | inl unchanged => rw [row, unchanged, row]
      | inr acted => rw [row, acted, rejected, row]
    · cases answered : ran.1 with
      | error message =>
        rw [answered] at succeeded
        cases succeeded
      | ok record =>
        have accepted := (onPostgres_eq_ok answered).1
        rw [rejected] at accepted
        cases accepted

theorem Ready.postgresUpsert (ready : Ready store key value source past shared)
    (mirrored : store.mirror.isSome = true) (fresh : ¬Landed key value source .postgres past) :
    (writer store key value source).Conforms
      (fun past answer shared => Ready store key value source past shared ∧
        (answer.isOk = true → Landed key value source .postgres past)) past
      (StateStore.postgresUpsert key value source) shared := by
  apply of_call
  intro later relied
  have stillReady := ready.of_rely relied
  have probed : Probed key past := by
    by_contra notProbed
    exact ready.probed ⟨mirrored, notProbed⟩
  have absent : later.row key .postgres = none :=
    (stillReady.postgres probed).resolve_right fresh
  obtain ⟨unchanged, lands, landed⟩ := onPostgres_upsertKnowledge key value source later
  have sameRepo : (Shared.onPostgres (Postgres.upsertKnowledge key value source) later).2.row
      key .repository = later.row key .repository := by
    rw [row, (onPostgres_postgres _ later).2, row]
  refine ⟨stillReady.clear, fun _ => ⟨?_, ?_, ?_⟩⟩
  · intro place
    cases place with
    | repository => exact ⟨fun _ => sameRepo, nofun⟩
    | postgres =>
      exact ⟨unchanged, fun landing =>
        ⟨absent, lands landing, stillReady.checked, stillReady.probed, fun _ => mirrored⟩⟩
  · refine ⟨checked_append ready.checked, ?_, ?_, ?_, ?_, ?_⟩
    · rintro ⟨-, notProbed⟩
      exact notProbed (probed_append.mpr (Or.inl probed))
    · rw [sameRepo, stillReady.repository]
    · intro _
      by_cases landing : Landing key value source .postgres
          (.postgresUpsert key later.moment.outcome)
      · exact Or.inr (landed_append.mpr (Or.inr landing))
      · rw [unchanged landing]
        exact Or.inl absent
    · intro isLanded
      exact ⟨mirrored, lands ((landed_append.mp isLanded).resolve_left fresh)⟩
    · rw [landed_append, not_or]
      exact ⟨ready.unlanded, nofun⟩
  · intro succeeded
    exact landed_append.mpr (Or.inr (landed succeeded))

theorem Ready.ended (ready : Ready store key value source past shared) {answer : Except String Unit}
    (landed : answer.isOk = true → Landed key value source .postgres past) :
    Ended store key value source past answer shared := by
  refine ⟨fun succeeded => ⟨.postgres, landed succeeded⟩, ?_⟩
  intro place isLanded
  cases place with
  | repository => exact absurd isLanded ready.unlanded
  | postgres =>
    obtain ⟨mirrored, held⟩ := ready.inPostgres isLanded
    exact ⟨held, fun _ => mirrored⟩

theorem Ready.writeKnowledge (evidence : isEvidence key = true)
    (ready : Ready store key value source past shared)
    (fresh : ¬Landed key value source .postgres past) :
    (writer store key value source).Conforms
      (fun past answer shared =>
        Ended store key value source past (answer.map fun _ => ()) shared) past
      (store.writeKnowledge key value source) shared := by
  rw [StateStore.writeKnowledge]
  cases mirrored : store.mirror with
  | none => exact ready.repoUpsert
  | some mirror =>
    have requested : (writer store key value source).Conforms
        (fun past answer shared => ∃ written, answer = .ok written ∧
          Ready store key value source past shared ∧
          (written.isOk = true → Landed key value source .postgres past)) past
        (Future.attempt (StateStore.postgresUpsert key value source)) shared :=
      (ready.postgresUpsert (by rw [mirrored]; rfl) fresh).attempt
        fun _ answer _ holds => ⟨answer, rfl, holds⟩
    apply requested.bind
    · intro past written shared holds
      obtain ⟨_, ⟨⟩, ready, landed⟩ := holds
      cases written with
      | ok record => exact ready.ended fun _ => landed rfl
      | error message =>
        apply (ready.fallBack evidence _ _ _ message).bind
        · intro past _ shared ready
          exact ready.repoUpsert
        · intro past message shared ready
          exact ready.ended fun succeeded => absurd succeeded Bool.false_ne_true
    · rintro past message shared ⟨_, ⟨⟩, -⟩

variable (place : Place)

theorem not_landed_nil : ¬Landed key value source place [] := by
  rintro ⟨access, ⟨⟩, -⟩

theorem not_landing_repoGet :
    ¬Landing key value source place (.repoGet key) := by
  intro landing
  cases place with
  | repository => cases landing
  | postgres =>
    obtain ⟨outcome, ⟨⟩, -⟩ := landing

theorem not_landing_postgresGet (outcome : PostgresOutcome) :
    ¬Landing key value source place (.postgresGet key outcome) := by
  intro landing
  cases place with
  | repository => cases landing
  | postgres =>
    obtain ⟨other, ⟨⟩, -⟩ := landing

theorem not_landed_checked :
    ¬Landed key value source place [.repoGet key] := by
  rw [← List.nil_append [_], landed_append, not_or]
  exact ⟨not_landed_nil place, not_landing_repoGet place⟩

theorem not_probed_checked : ¬Probed key [.repoGet key] := by
  rintro ⟨outcome, isProbe⟩
  simp at isProbe

theorem conforms_repoGet :
    (writer store key value source).Conforms
      (fun past answer shared => past = [.repoGet key] ∧
        answer = .ok (shared.row key .repository)) []
      (repoGet key) shared := by
  apply of_call
  intro later _
  refine ⟨?_, fun _ => ⟨?_, rfl, rfl⟩⟩
  · refine ⟨?_, ?_, ?_, not_landed_nil _⟩
    · rintro ⟨outcome, ⟨⟩⟩
    · intro checked
      cases checked
    · intro landed
      exact absurd landed (not_landed_nil _)
  · intro place
    exact ⟨fun _ => Leaves.onRepo (fun _ => rfl) later place,
      fun landing => absurd landing (not_landing_repoGet place)⟩

theorem conforms_postgresGet (mirrored : store.mirror.isSome = true)
    (absent : shared.row key .repository = none) :
    (writer store key value source).Conforms
      (fun past answer shared => ∃ outcome, past = [.repoGet key, .postgresGet key outcome] ∧
        ((∀ found, answer = .ok found → found = none) →
          shared.row key .repository = none ∧ shared.row key .postgres = none))
      [.repoGet key] (postgresGet key) shared := by
  apply of_call
  intro later relied
  have leaves : ∀ place, ((Shared.onPostgres (Postgres.getKnowledge key)) later).2.row key place =
      later.row key place := Leaves.statement _ (fun _ => rfl) later
  have found : later.row key .repository = none ∨
      (later.row key .postgres).isSome = true := by
    cases relied.2.1 (List.mem_singleton_self _) with
    | inl same => exact Or.inl (same.trans absent)
    | inr held => exact Or.inr held.2
  refine ⟨⟨?_, ?_, ?_, not_landed_checked _⟩, fun allowed => ⟨?_, _, rfl, ?_⟩⟩
  · intro probed
    exact absurd probed not_probed_checked
  · intro _
    cases found with
    | inl absentLater => exact Or.inl ⟨absentLater, fun probed => absurd probed not_probed_checked⟩
    | inr held => exact Or.inr ⟨⟨mirrored, not_probed_checked⟩, held⟩
  · intro landed
    exact absurd landed (not_landed_checked _)
  · intro place
    exact ⟨fun _ => leaves place, fun landing => absurd landing (not_landing_postgresGet place _)⟩
  · intro none_found
    rw [leaves, leaves]
    have notInPostgres : later.row key .postgres = none := by
      cases held : later.row key .postgres with
      | none => rfl
      | some record =>
        obtain ⟨completed, storable⟩ := allowed _ rfl (by rw [held]; rfl)
        have answered : (Shared.onPostgres (Postgres.getKnowledge key) later).1 =
            .ok (later.row key .postgres) := by
          rw [onPostgres_of_completed _ completed, getKnowledge_of_storable storable, row]
        rw [held] at answered
        exact none_found _ answered
    refine ⟨found.resolve_right ?_, notInPostgres⟩
    rw [notInPostgres]
    nofun

section
variable (evidence : isEvidence key = true)
include evidence

theorem conforms_enforceEvidenceWormWrite :
    (writer store key value source).Conforms
      (fun past answer shared => (∀ place, ¬Landed key value source place past) ∧
        (answer.isOk = true → Ready store key value source past shared)) []
      (store.enforceEvidenceWormWrite key value) shared := by
  rw [StateStore.enforceEvidenceWormWrite, evidence]
  apply conforms_repoGet.bind
  · rintro past found shared ⟨rfl, answered⟩
    have isRow := Except.ok.inj answered
    cases found with
    | some existing =>
      exact ⟨not_landed_checked, fun succeeded => absurd succeeded Bool.false_ne_true⟩
    | none =>
      cases mirrored : store.mirror with
      | none =>
        refine ⟨not_landed_checked, fun _ =>
          ⟨List.mem_singleton_self _, ?_, isRow.symm, ?_, ?_, not_landed_checked _⟩⟩
        · rintro ⟨isMirrored, -⟩
          rw [mirrored] at isMirrored
          cases isMirrored
        · intro probed
          exact absurd probed not_probed_checked
        · intro landed
          exact absurd landed (not_landed_checked _)
      | some mirror =>
        have isMirrored : store.mirror.isSome = true := by
          rw [mirrored]
          rfl
        have probed : (writer store key value source).Conforms
            (fun past answer shared => ∃ probed outcome, answer = .ok probed ∧
              past = [.repoGet key, .postgresGet key outcome] ∧
              ((∀ found, probed = .ok found → found = none) →
                shared.row key .repository = none ∧ shared.row key .postgres = none))
            [.repoGet key] (Future.attempt (postgresGet key)) shared := by
          apply (conforms_postgresGet isMirrored isRow.symm).attempt
          intro _ probed _ holds
          obtain ⟨outcome, isPast, absent⟩ := holds
          exact ⟨probed, outcome, rfl, isPast, absent⟩
        apply probed.bind
        · rintro past answer shared ⟨_, outcome, ⟨⟩, rfl, absent⟩
          have unlanded : ∀ place, ¬Landed key value source place
              [.repoGet key, .postgresGet key outcome] := by
            intro place
            rw [← List.singleton_append, landed_append, not_or]
            exact ⟨not_landed_checked place, not_landing_postgresGet place outcome⟩
          split
          · exact ⟨unlanded, fun succeeded => absurd succeeded Bool.false_ne_true⟩
          · next notFound =>
            obtain ⟨inRepository, inPostgres⟩ := absent (by
              rintro found rfl
              cases found with
              | none => rfl
              | some existing => exact absurd rfl (notFound existing))
            refine ⟨unlanded, fun _ => ⟨List.mem_cons_self, ?_, inRepository,
              fun _ => Or.inl inPostgres, ?_, unlanded _⟩⟩
            · rintro ⟨-, notProbed⟩
              exact notProbed ⟨outcome, by simp⟩
            · intro landed
              exact absurd landed (unlanded _)
        · rintro past message shared ⟨_, _, ⟨⟩, -⟩
  · rintro past message shared ⟨-, ⟨⟩⟩

theorem conforms_upsertKnowledge :
    (writer store key value source).Conforms
      (fun past answer shared =>
        Ended store key value source past (answer.map fun _ => ()) shared) []
      (store.upsertKnowledge key value source) shared := by
  apply (conforms_enforceEvidenceWormWrite evidence).bind
  · rintro past _ shared ⟨unlanded, ready⟩
    exact (ready rfl).writeKnowledge evidence (unlanded _)
  · rintro past message shared ⟨unlanded, -⟩
    exact ⟨nofun, fun place landed => absurd landed (unlanded place)⟩

theorem conforms_request (forms : JsonForms)
    {call : WriteCall} (isWrite : call.writing key = some (value, source)) :
    (writer store key value source).Conforms (Ended store key value source) []
      (call.request store forms) shared := by
  have upserts : (writer store key value source).Conforms (Ended store key value source) []
      (do let _ ← store.upsertKnowledge key value source : StoreCall Unit) shared := by
    apply (conforms_upsertKnowledge evidence).bind
    · intro past _ shared ended
      exact ended
    · intro past message shared ended
      exact ended
  cases call with
  | typed write => cases isWrite
  | knowledge other text origin =>
    rw [WriteCall.writing] at isWrite
    split at isWrite
    · next same =>
      cases isWrite
      subst same
      exact upserts
    · cases isWrite
  | json other text origin =>
    cases text with
    | error message => cases isWrite
    | ok text =>
      rw [WriteCall.writing] at isWrite
      split at isWrite
      · next same =>
        cases isWrite
        subst same
        exact upserts
      · cases isWrite

end

end Writers

end AutoLoop.StateAdapter
