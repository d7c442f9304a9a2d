import AutoLoop.Foundation.Numbering
import AutoLoop.StateAdapter.WriteOutlines

/-!
# Write-once keys

Writes of one store, interleaved in any order.  As long as no write lands between
the check of another one and its end, and no check of Postgres goes unanswered where
Postgres holds the key, at most one write of an evidence key lands, and its rows stay
as they are.
-/

namespace AutoLoop.StateAdapter

open StateStore WriteCall

/-- All writes under way and ended. -/
abbrev WritePool : Type := Pool Shared StoreAccess WriteCall Unit

/-- Writes of one store, interleaved at their accesses. -/
def writes (store : StateStore) (forms : JsonForms) (shared : Shared) :
    Component WritePool (PoolEvent WriteCall) Unit :=
  Pool.component (request store forms) ⟨shared, []⟩

namespace WritePool

section
variable (pool : WritePool) (key : String) (index : Nat)

def Lands (place : Place) : Prop :=
  ∃ job value source access, pool.jobs[index]? = some job ∧
    job.call.writing key = some (value, source) ∧ pool.nextAccess index = some access ∧
    Landing key value source place access

def HasLanded (place : Place) : Prop :=
  ∃ job value source, pool.jobs[index]? = some job ∧
    job.call.writing key = some (value, source) ∧ Landed key value source place job.past

/-- A write of the key has returned successfully. -/
def Written : Prop :=
  ∃ job, pool.jobs[index]? = some job ∧ (job.call.writing key).isSome = true ∧
    job.rest = .done (.ok ())

end

/-- No value lands behind a check of another call, and Postgres answers whether it
holds the key when it does. -/
structure GuardedAt (store : StateStore) (key : String) (pool : WritePool) (index : Nat) :
    Prop where
  repository : pool.Lands key index .repository → ∀ (other : Nat) job, other ≠ index →
    pool.jobs[other]? = some job → job.rest.isDone = false → Checked key job.past →
      Unprobed store key job.past ∧ (pool.world.row key .postgres).isSome = true
  postgres : pool.Lands key index .postgres → ∀ (other : Nat) job, other ≠ index →
    pool.jobs[other]? = some job → job.rest.isDone = false → ¬Probed key job.past
  answered : ∀ outcome, pool.nextAccess index = some (.postgresGet key outcome) →
    (pool.world.row key .postgres).isSome = true →
      outcome = .completed ∧ Postgres.Storable [key]

def Guarded (store : StateStore) (key : String) (pool : WritePool) :
    PoolEvent WriteCall → Prop
  | .start _ => True
  | .advance index => pool.GuardedAt store key index

def Exclusive (key : String) (pool : WritePool) : Prop :=
  ∀ first second place other, first ≠ second →
    pool.HasLanded key first place → ¬pool.HasLanded key second other

/-! ## Soundness of a pool -/

section
variable (store : StateStore) (key : String) (call : WriteCall)

def outline :
    Outline Shared StoreAccess :=
  match call.writing key with
  | some (value, source) => writer store key value source
  | none => bystander key

def ended :
    List StoreAccess → Except String Unit → Shared → Prop :=
  match call.writing key with
  | some (value, source) => Ended store key value source
  | none => fun _ _ _ => True

end

abbrev Sound (store : StateStore) (key : String) (pool : WritePool) : Prop :=
  Pool.Sound (fun _ => True) (outline store key) (ended store key) pool

variable {store : StateStore} {forms : JsonForms} {key : String} {pool : WritePool}
variable {index : Nat}

theorem Sound.start (evidence : isEvidence key = true) (sound : Sound store key pool)
    (call : WriteCall) :
    Sound store key (Pool.step (request store forms) pool (.start call)) := by
  apply Pool.Sound.start sound
  rw [outline, ended]
  cases isWrite : call.writing key with
  | none => exact StandsBy.request evidence store forms isWrite [] pool.world
  | some content => exact conforms_request evidence forms isWrite

theorem outline_rely_trans (call : WriteCall) (past : List StoreAccess)
    (first second third : Shared) (relied : (outline store key call).rely past first second)
    (later : (outline store key call).rely past second third) :
    (outline store key call).rely past first third := by
  revert relied later
  rw [outline]
  cases call.writing key with
  | none => exact fun _ _ => trivial
  | some content =>
    rintro ⟨stays, repository, postgres⟩ ⟨staysLater, repositoryLater, postgresLater⟩
    refine ⟨?_, ?_, ?_⟩
    · intro place held
      have same := stays place held
      rw [staysLater place (by rw [same]; exact held), same]
    · intro checked
      cases repositoryLater checked with
      | inr guarded => exact Or.inr guarded
      | inl sameLater =>
        cases repository checked with
        | inl same => exact Or.inl (sameLater.trans same)
        | inr guarded =>
          refine Or.inr ⟨guarded.1, ?_⟩
          rw [staysLater .postgres guarded.2]
          exact guarded.2
    · intro probed
      rw [postgresLater probed, postgres probed]

theorem outline_rely_refl (call : WriteCall) (past : List StoreAccess) (shared : Shared) :
    (outline store key call).rely past shared shared := by
  rw [outline]
  cases call.writing key with
  | none => trivial
  | some content => exact ⟨fun _ _ => rfl, fun _ => Or.inl rfl, fun _ => rfl⟩

theorem row_of_guarantee {job : Job Shared StoreAccess WriteCall Unit} {access : StoreAccess}
    {later : Shared} (found : pool.jobs[index]? = some job)
    (isNext : pool.nextAccess index = some access)
    (guaranteed : (outline store key job.call).guarantee job.past access pool.world later)
    (place : Place) :
    later.row key place = pool.world.row key place ∨
      (pool.Lands key index place ∧ pool.world.row key place = none) := by
  rw [outline] at guaranteed
  cases isWrite : job.call.writing key with
  | none =>
    rw [isWrite] at guaranteed
    exact Or.inl (guaranteed place)
  | some content =>
    obtain ⟨value, source⟩ := content
    rw [isWrite] at guaranteed
    by_cases landing : Landing key value source place access
    · exact Or.inr ⟨⟨job, value, source, access, found, isWrite, isNext, landing⟩,
        ((guaranteed place).2 landing).1⟩
    · exact Or.inl ((guaranteed place).1 landing)

theorem Sound.advance (sound : Sound store key pool) (guarded : pool.GuardedAt store key index) :
    Sound store key (Pool.step (request store forms) pool (.advance index)) := by
  apply Pool.Sound.advance sound outline_rely_trans outline_rely_refl
  · intro job access found isNext
    rw [outline]
    cases job.call.writing key with
    | none => trivial
    | some content =>
      rintro outcome rfl held
      exact guarded.answered outcome isNext held
  · intro _ _ _ _ _ _
    trivial
  · intro job access later found isNext guaranteed other otherJob different otherFound
    have rows := row_of_guarantee found isNext guaranteed
    have stays : ∀ place, (pool.world.row key place).isSome = true →
        later.row key place = pool.world.row key place := by
      intro place held
      apply (rows place).resolve_right
      rintro ⟨-, absent⟩
      rw [absent] at held
      cases held
    rw [outline, ended]
    cases otherJob.call.writing key with
    | none => exact ⟨fun _ => trivial, fun _ _ _ => trivial⟩
    | some content =>
      refine ⟨fun underWay => ⟨stays, ?_, ?_⟩, ?_⟩
      · intro checked
        cases rows .repository with
        | inl same => exact Or.inl same
        | inr landing =>
          obtain ⟨unprobed, held⟩ := guarded.repository landing.1 other otherJob different
            otherFound underWay checked
          rw [← stays .postgres held] at held
          exact Or.inr ⟨unprobed, held⟩
      · intro probed
        apply (rows .postgres).resolve_right
        rintro ⟨landing, -⟩
        exact guarded.postgres landing other otherJob different otherFound underWay probed
      · rintro answer _ ⟨landed, held⟩
        refine ⟨landed, fun place isLanded => ?_⟩
        rw [stays place (held place isLanded).1]
        exact held place isLanded

theorem Sound.row_of_landed (sound : Sound store key pool) {place : Place}
    (landed : pool.HasLanded key index place) :
    (pool.world.row key place).isSome = true ∧
      (place = .postgres → store.mirror.isSome = true) := by
  obtain ⟨job, value, source, found, isWrite, inPast⟩ := landed
  have conforms := sound.jobs index job found
  rw [outline, ended, isWrite] at conforms
  cases shape : job.rest with
  | done answer =>
    rw [shape] at conforms
    exact conforms.2 place inPast
  | access observe change next =>
    rw [shape] at conforms
    obtain ⟨clear, -⟩ := conforms pool.world ⟨fun _ _ => rfl, fun _ => Or.inl rfl, fun _ => rfl⟩
    cases place with
    | repository => exact absurd inPast clear.unlanded
    | postgres =>
      obtain ⟨mirrored, held⟩ := clear.inPostgres inPast
      exact ⟨held, fun _ => mirrored⟩

theorem Sound.not_landed_of_lands (sound : Sound store key pool)
    (guarded : pool.GuardedAt store key index) {place : Place} (lands : pool.Lands key index place)
    (notYet : ∀ place, ¬pool.HasLanded key index place) (other : Nat) (otherPlace : Place) :
    ¬pool.HasLanded key other otherPlace := by
  intro landed
  obtain ⟨held, mirrored⟩ := sound.row_of_landed landed
  obtain ⟨job, value, source, access, found, isWrite, isNext, landing⟩ := lands
  have conforms := sound.jobs index job found
  rw [outline, ended, isWrite] at conforms
  obtain ⟨call, past, rest⟩ := job
  rw [Pool.nextAccess, found] at isNext
  cases rest with
  | done answer => cases isNext
  | access observe change next =>
    obtain ⟨clear, performed⟩ :=
      conforms pool.world ⟨fun _ _ => rfl, fun _ => Or.inl rfl, fun _ => rfl⟩
    have isAccess : observe pool.world = access := Option.some.inj isNext
    obtain ⟨guaranteed, -⟩ := performed (by
      rintro outcome isProbe present
      apply guarded.answered outcome ?_ present
      rw [Pool.nextAccess, found]
      exact congrArg some isProbe)
    rw [isAccess] at guaranteed
    obtain ⟨-, -, checked, probed, -⟩ := (guaranteed place).2 landing
    obtain ⟨absent, notInPostgres⟩ := (clear.checked checked).resolve_right
      fun unprobed => probed unprobed.1
    cases otherPlace with
    | repository =>
      rw [absent] at held
      cases held
    | postgres =>
      have isProbed : Probed key past := by
        by_contra notProbed
        exact probed ⟨mirrored rfl, notProbed⟩
      cases notInPostgres isProbed with
      | inl absentThere =>
        rw [absentThere] at held
        cases held
      | inr inPast => exact notYet .postgres ⟨_, value, source, found, isWrite, inPast⟩

theorem hasLanded_advance {other : Nat} {place : Place}
    (landed : HasLanded (Pool.step (request store forms) pool (.advance index)) key other place) :
    pool.HasLanded key other place ∨ (other = index ∧ pool.Lands key index place) := by
  cases Pool.advance_cases (request store forms) pool index with
  | inl unchanged =>
    rw [unchanged] at landed
    exact Or.inl landed
  | inr performed =>
    obtain ⟨job, observe, change, next, found, shape, isNext, isStep⟩ := performed
    rw [isStep] at landed
    obtain ⟨otherJob, value, source, otherFound, isWrite, inPast⟩ := landed
    simp only at otherFound
    rw [List.getElem?_set] at otherFound
    split at otherFound
    · next same =>
      subst same
      split at otherFound
      · cases otherFound
        cases landed_append.mp inPast with
        | inl before => exact Or.inl ⟨job, value, source, found, isWrite, before⟩
        | inr lands =>
          exact Or.inr ⟨rfl, job, value, source, _, found, isWrite, isNext, lands⟩
      · cases otherFound
    · exact Or.inl ⟨otherJob, value, source, otherFound, isWrite, inPast⟩

theorem Exclusive.advance (exclusive : pool.Exclusive key) (sound : Sound store key pool)
    (guarded : pool.GuardedAt store key index) :
    Exclusive key (Pool.step (request store forms) pool (.advance index)) := by
  have newcomer : ∀ {first second : Nat} {place other : Place}, first ≠ second →
      first = index ∧ pool.Lands key index place → ¬pool.HasLanded key second other := by
    rintro first second place other different ⟨rfl, lands⟩ landed
    have before : ∃ place, pool.HasLanded key first place := by
      by_contra never
      exact sound.not_landed_of_lands guarded lands (not_exists.mp never) second other landed
    obtain ⟨earlier, landedBefore⟩ := before
    exact exclusive first second earlier other different landedBefore landed
  intro first second place other different firstLanded secondLanded
  cases hasLanded_advance firstLanded with
  | inl firstBefore =>
    cases hasLanded_advance secondLanded with
    | inl secondBefore => exact exclusive _ _ _ _ different firstBefore secondBefore
    | inr secondLands => exact newcomer different.symm secondLands firstBefore
  | inr firstLands =>
    cases hasLanded_advance secondLanded with
    | inl secondBefore => exact newcomer different firstLands secondBefore
    | inr secondLands => exact different (firstLands.1.trans secondLands.1.symm)

theorem hasLanded_start {call : WriteCall} {other : Nat} {place : Place}
    (landed : HasLanded (Pool.step (request store forms) pool (.start call))
      key other place) : pool.HasLanded key other place := by
  obtain ⟨job, value, source, found, isWrite, inPast⟩ := landed
  simp only [Pool.step] at found
  rw [List.getElem?_append] at found
  split at found
  · exact ⟨job, value, source, found, isWrite, inPast⟩
  · cases position : other - pool.jobs.length with
    | zero =>
      rw [position] at found
      cases found
      exact absurd inPast (not_landed_nil place)
    | succ beyond =>
      rw [position] at found
      cases found

theorem Sound.row_advance (sound : Sound store key pool)
    (guarded : pool.GuardedAt store key index) (place : Place) :
    (Pool.step (request store forms) pool (.advance index)).world.row key place =
        pool.world.row key place ∨ pool.Lands key index place := by
  cases Pool.advance_cases (request store forms) pool index with
  | inl unchanged =>
    rw [unchanged]
    exact Or.inl rfl
  | inr performed =>
    obtain ⟨job, observe, change, next, found, shape, isNext, isStep⟩ := performed
    have conforms := sound.jobs index job found
    rw [shape] at conforms
    obtain ⟨-, performed⟩ := conforms pool.world (outline_rely_refl _ _ _)
    obtain ⟨guaranteed, -⟩ := performed (by
      rw [outline]
      cases job.call.writing key with
      | none => trivial
      | some content =>
        intro outcome isProbe
        exact guarded.answered outcome (isNext.trans (congrArg some isProbe)))
    rw [isStep]
    exact (row_of_guarantee found isNext guaranteed place).imp_right And.left

theorem Sound.landed_of_written (sound : Sound store key pool)
    (written : pool.Written key index) : ∃ place, pool.HasLanded key index place := by
  obtain ⟨job, found, isWrite, finished⟩ := written
  obtain ⟨content, isWrite⟩ := Option.isSome_iff_exists.mp isWrite
  have conforms := sound.jobs index job found
  rw [outline, ended, isWrite, finished] at conforms
  obtain ⟨place, inPast⟩ := conforms.1 rfl
  exact ⟨place, job, content.1, content.2, found, isWrite, inPast⟩

/-- What holds of a pool whose events are guarded. -/
structure Safe (store : StateStore) (key : String) (pool : WritePool) : Prop where
  sound : Sound store key pool
  exclusive : pool.Exclusive key

theorem safe_initial (store : StateStore) (key : String) (shared : Shared) :
    Safe store key ⟨shared, []⟩ where
  sound := ⟨trivial, by simp⟩
  exclusive := by
    rintro first second place other - ⟨job, value, source, found, -⟩
    simp at found

theorem Safe.step (evidence : isEvidence key = true) (safe : Safe store key pool)
    {event : PoolEvent WriteCall} (guarded : pool.Guarded store key event) :
    Safe store key (Pool.step (request store forms) pool event) := by
  cases event with
  | start call =>
    refine ⟨safe.sound.start evidence call, ?_⟩
    intro first second place other different firstLanded secondLanded
    exact safe.exclusive first second place other different (hasLanded_start firstLanded)
      (hasLanded_start secondLanded)
  | advance index =>
    exact ⟨safe.sound.advance guarded, safe.exclusive.advance safe.sound guarded⟩

theorem Written.step (written : pool.Written key index) (event : PoolEvent WriteCall) :
    Written (Pool.step (request store forms) pool event) key index := by
  obtain ⟨job, found, isWrite, finished⟩ := written
  refine ⟨job, ?_, isWrite, finished⟩
  cases event with
  | start call =>
    obtain ⟨inRange, -⟩ := List.getElem?_eq_some_iff.mp found
    simp only [Pool.step]
    rw [List.getElem?_append_left inRange, found]
  | advance other =>
    cases Pool.advance_cases (request store forms) pool other with
    | inl unchanged => rw [unchanged, found]
    | inr performed =>
      obtain ⟨otherJob, observe, change, next, otherFound, shape, -, isStep⟩ := performed
      have different : other ≠ index := by
        rintro rfl
        rw [found] at otherFound
        cases otherFound
        rw [finished] at shape
        cases shape
      rw [isStep, List.getElem?_set_ne different, found]

theorem Safe.row_step (safe : Safe store key pool) (written : pool.Written key index)
    {event : PoolEvent WriteCall} (guarded : pool.Guarded store key event) (place : Place) :
    (Pool.step (request store forms) pool event).world.row key place =
      pool.world.row key place := by
  cases event with
  | start call => rfl
  | advance other =>
    have changes : (Pool.step (request store forms) pool (.advance other)).world.row
        key place = pool.world.row key place ∨ pool.Lands key other place :=
      safe.sound.row_advance guarded place
    cases changes with
    | inl same => exact same
    | inr lands =>
      obtain ⟨earlier, landed⟩ := safe.sound.landed_of_written written
      by_cases same : other = index
      · subst same
        obtain ⟨⟨call, past, rest⟩, found, -, finished⟩ := written
        obtain ⟨job, value, source, access, sameFound, isWrite, isNext, landing⟩ := lands
        cases finished
        rw [Pool.nextAccess, found] at isNext
        cases isNext
      · exact absurd landed (safe.sound.not_landed_of_lands guarded lands
          (fun place otherLanded => safe.exclusive index other earlier place
            (Ne.symm same) landed otherLanded) index earlier)

structure Settled (store : StateStore) (key : String) (index : Nat) (earlier pool : WritePool) :
    Prop where
  safe : Safe store key pool
  written : pool.Written key index
  rows : ∀ place, pool.world.row key place = earlier.world.row key place

theorem Settled.step {earlier : WritePool} (evidence : isEvidence key = true)
    (settled : Settled store key index earlier pool) {event : PoolEvent WriteCall}
    (guarded : pool.Guarded store key event) :
    Settled store key index earlier
      (Pool.step (request store forms) pool event) where
  safe := settled.safe.step evidence guarded
  written := settled.written.step event
  rows := fun place =>
    (settled.safe.row_step settled.written guarded place).trans (settled.rows place)

end WritePool

/-- In a guarded run of interleaved writes, once a write of an evidence key has returned
successfully, the rows of the key stay as they are and no other write of the key
ever returns successfully. -/
theorem evidence_written_once (store : StateStore) (forms : JsonForms) (shared : Shared)
    {key : String} (evidence : isEvidence key = true)
    (earlier later : List (PoolEvent WriteCall))
    (guarded : (writes store forms shared).EachStep
      (fun pool event => WritePool.Guarded store key pool event) ⟨shared, []⟩ (earlier ++ later))
    {index : Nat}
    (written : WritePool.Written ((writes store forms shared).run ⟨shared, []⟩ earlier).2
      key index) :
    (∀ place, ((writes store forms shared).run ⟨shared, []⟩ (earlier ++ later)).2.world.row
        key place =
      ((writes store forms shared).run ⟨shared, []⟩ earlier).2.world.row key place) ∧
    ∀ other, other ≠ index → ¬WritePool.Written
      ((writes store forms shared).run ⟨shared, []⟩ (earlier ++ later)).2 key other := by
  obtain ⟨guardedEarlier, guardedLater⟩ := Component.eachStep_append.mp guarded
  rw [Component.run_append]
  have safe : WritePool.Safe store key ((writes store forms shared).run ⟨shared, []⟩ earlier).2 :=
    guardedEarlier.run_invariant (WritePool.safe_initial store key shared)
      fun pool event safe guarded => safe.step evidence guarded
  have settled : WritePool.Settled store key index _ _ :=
    guardedLater.run_invariant ⟨safe, written, fun _ => rfl⟩
      fun pool event settled guarded => settled.step evidence guarded
  refine ⟨settled.rows, fun other different otherWritten => ?_⟩
  obtain ⟨place, landed⟩ := settled.safe.sound.landed_of_written settled.written
  obtain ⟨otherPlace, otherLanded⟩ := settled.safe.sound.landed_of_written otherWritten
  exact settled.safe.exclusive index other place otherPlace different.symm landed otherLanded

theorem WritePool.guardedAt_of_alone {store : StateStore} {key : String} {pool : WritePool}
    {index : Nat}
    (alone : ∀ (other : Nat) job, other ≠ index → pool.jobs[other]? = some job →
      job.rest.isDone = true)
    (answered : ∀ outcome, pool.nextAccess index ≠ some (.postgresGet key outcome)) :
    pool.GuardedAt store key index where
  repository := by
    intro _ other job different found underWay
    rw [alone other job different found] at underWay
    cases underWay
  postgres := by
    intro _ other job different found underWay
    rw [alone other job different found] at underWay
    cases underWay
  answered := fun outcome isNext => absurd isNext (answered outcome)

/-! ## A form for each record -/

section Numbered

deriving instance Encodable for PermissionAction, SpendLedgerKind, Tenant, Principal,
  RoleBinding, PolicyBinding, SessionLease, BudgetAccount, SpendLedger, QuotaWindow,
  CostAttribution

/-- A form with the law of the real one, for records that can be numbered. -/
def JsonForm.numbered {Record : Type} [Encodable Record] : JsonForm Record where
  encode := numberText
  decode := ofNumberText
  decode_encode := ofNumberText_numberText

def numberedForms : JsonForms :=
  ⟨.numbered, .numbered, .numbered, .numbered, .numbered, .numbered, .numbered, .numbered,
    .numbered⟩

end Numbered

/-- A store without a mirror. -/
def plainStore : StateStore := ⟨none, fun _ => 0⟩

/-- A write after another one, with its check and its refusal. -/
theorem sequential_write_settled :
    (∀ place, ((writes plainStore numberedForms .empty).run ⟨.empty, []⟩
        ([.start (.knowledge "evidence:k" "a" ""), .advance 0, .advance 0] ++
          [.start (.knowledge "evidence:k" "b" ""), .advance 1])).2.world.row
            "evidence:k" place =
      ((writes plainStore numberedForms .empty).run ⟨.empty, []⟩
        [.start (.knowledge "evidence:k" "a" ""), .advance 0, .advance 0]).2.world.row
          "evidence:k" place) ∧
    ∀ other, other ≠ 0 → ¬WritePool.Written
      ((writes plainStore numberedForms .empty).run ⟨.empty, []⟩
        ([.start (.knowledge "evidence:k" "a" ""), .advance 0, .advance 0] ++
          [.start (.knowledge "evidence:k" "b" ""), .advance 1])).2 "evidence:k" other := by
  have alone : ∀ {jobs : List (Job Shared StoreAccess WriteCall Unit)} {index : Nat},
      (∀ other < jobs.length, other ≠ index → (jobs[other]?.map (·.rest.isDone)) = some true) →
      ∀ (other : Nat) job, other ≠ index → jobs[other]? = some job → job.rest.isDone = true := by
    intro jobs index finished other job different found
    obtain ⟨inRange, -⟩ := List.getElem?_eq_some_iff.mp found
    have isDone := finished other inRange different
    rw [found] at isDone
    exact Option.some.inj isDone
  apply evidence_written_once plainStore numberedForms Shared.empty (by decide)
  · refine ⟨trivial, ?_, ?_, trivial, ?_, trivial⟩
    · exact WritePool.guardedAt_of_alone (alone (by decide)) nofun
    · exact WritePool.guardedAt_of_alone (alone (by decide)) nofun
    · exact WritePool.guardedAt_of_alone (alone (by decide)) nofun
  · exact ⟨_, rfl, by decide, rfl⟩

/-- Two writes of one key that both check before either lands. -/
def interleavedWrites : List (PoolEvent WriteCall) :=
  [.start (.knowledge "evidence:k" "a" ""), .start (.knowledge "evidence:k" "b" ""),
    .advance 0, .advance 1, .advance 0]

theorem interleaved_writes_both_succeed :
    ¬∀ (store : StateStore) (forms : JsonForms) (shared : Shared) (key : String)
        (earlier later : List (PoolEvent WriteCall)) (index : Nat), isEvidence key = true →
      WritePool.Written ((writes store forms shared).run ⟨shared, []⟩ earlier).2 key index →
        (∀ place, ((writes store forms shared).run ⟨shared, []⟩ (earlier ++ later)).2.world.row
            key place =
          ((writes store forms shared).run ⟨shared, []⟩ earlier).2.world.row key place) ∧
        ∀ other, other ≠ index → ¬WritePool.Written
          ((writes store forms shared).run ⟨shared, []⟩ (earlier ++ later)).2 key other := by
  intro always
  obtain ⟨-, unique⟩ := always plainStore numberedForms Shared.empty "evidence:k"
    interleavedWrites [.advance 1] 0 (by decide) ⟨_, rfl, by decide, rfl⟩
  exact unique 1 (by decide) ⟨_, rfl, by decide, rfl⟩

end AutoLoop.StateAdapter
