import Mathlib.Tactic
import ZFBaseFramework.Foundation.SqliteCalls

/-!
# Batch atomicity

`executeSqls:uid:` drops the results of `begin` and `commit`. With a transaction the
batch takes effect as a whole or not at all, but the answer is YES whether or not the
commit succeeded; without one its statements take effect one by one. `progress` runs
the statements one after another up to the first that fails, and the loop on a file is
compared with it inside a transaction and outside.
-/

namespace ZFBaseFramework

variable {Database Double : Type}

/-- The effect of a text outside a transaction. -/
def Engine.effect (engine : Engine Database Double) (text : String) (database : Database) :
    Option Database :=
  (engine.run text ⟨database, none⟩).map SqliteFile.stored

/-- The text controls no transaction, and its effect does not depend on one. -/
def Engine.Plain (engine : Engine Database Double) (text : String) : Prop :=
  ∀ file, engine.run text file = (engine.effect text file.visible).map file.write

namespace ZFSqliteTool

/-- The effect of one statement of a batch, if it succeeds. -/
def statement (engine : Engine Database Double) (io : SqliteIO) (position : ℕ) (sql : String)
    (database : Database) : Option Database :=
  match io.executes position with
  | .success => engine.effect (UTF8String sql) database
  | .failure _ => none

/-- The statements one after another up to the first that fails, and whether none does. -/
def progress (engine : Engine Database Double) (io : SqliteIO) :
    List String → ℕ → Database → Database × Bool
  | [], _, database => (database, true)
  | sql :: rest, position, database =>
      match statement engine io position sql database with
      | none => (database, false)
      | some after => progress engine io rest (position + 1) after

section Executing

variable {engine : Engine Database Double} {io : SqliteIO} {position : ℕ} {sql : String}
  {stored database after : Database} {file : SqliteFile Database} {outcome : SqliteOutcome}

theorem execute_failed {text : String} (failed : (engine.execute text outcome file).2 = false) :
    (engine.execute text outcome file).1.stored = file.stored := by
  cases outcome with
  | failure endsTransaction => cases endsTransaction <;> rfl
  | success =>
      rw [Engine.execute] at failed ⊢
      split
      · rfl
      · rename_i run
        simp [run] at failed

theorem execute_rollback :
    (engine.execute "rollback transaction" outcome file).1.stored = file.stored := by
  cases outcome with
  | failure endsTransaction => cases endsTransaction <;> rfl
  | success =>
      rw [Engine.execute, engine.run_rollback, SqliteFile.rollbackTransaction]
      cases file.pending <;> rfl

theorem execute_commit : (engine.execute "commit transaction" outcome file).1.stored =
    if outcome = .success then file.pending.getD file.stored else file.stored := by
  cases outcome with
  | failure endsTransaction => cases endsTransaction <;> rfl
  | success =>
      rw [if_pos rfl, Engine.execute, engine.run_commit, SqliteFile.commitTransaction]
      cases file.pending <;> rfl

theorem execute_begin :
    (engine.execute "begin transaction" outcome ⟨stored, none⟩).1 =
      ⟨stored, if outcome = .success then some stored else none⟩ := by
  cases outcome with
  | failure endsTransaction => cases endsTransaction <;> rfl
  | success =>
      rw [if_pos rfl, Engine.execute, engine.run_begin]
      rfl

theorem execute_statement (plain : engine.Plain (UTF8String sql))
    (succeeds : statement engine io position sql file.visible = some after) :
    engine.execute (UTF8String sql) (io.executes position) file = (file.write after, true) := by
  rw [statement] at succeeds
  split at succeeds
  · rename_i success
    rw [success, Engine.execute, plain file, succeeds]
    rfl
  · cases succeeds

theorem execute_statement_failed (plain : engine.Plain (UTF8String sql))
    (fails : statement engine io position sql file.visible = none) :
    (engine.execute (UTF8String sql) (io.executes position) file).2 = false := by
  rw [statement] at fails
  split at fails
  · rename_i success
    rw [success, Engine.execute, plain file, fails]
    rfl
  · rename_i endsTransaction failure
    rw [failure, Engine.execute]

/-- Outside a transaction the statements of a batch take effect one by one. -/
theorem batch_outside {sqls : List String} (plain : ∀ sql ∈ sqls, engine.Plain (UTF8String sql)) :
    batch engine io sqls position ⟨stored, none⟩ = progress engine io sqls position stored := by
  induction sqls generalizing position stored with
  | nil =>
      rw [batch, execute_commit]
      simp [progress]
  | cons sql rest ih =>
      have first := plain sql List.mem_cons_self
      have later := fun sql present => plain sql (List.mem_cons_of_mem _ present)
      rw [batch, progress]
      cases outcome : statement engine io position sql stored with
      | none =>
          have failed : (engine.execute (UTF8String sql) (io.executes position)
              ⟨stored, none⟩).2 = false := execute_statement_failed first outcome
          simp [failed, execute_rollback, execute_failed failed]
      | some after =>
          have executed : engine.execute (UTF8String sql) (io.executes position)
              ⟨stored, none⟩ = (⟨after, none⟩, true) := execute_statement first outcome
          simp only [executed, if_true]
          exact ih later

/-- Inside a transaction a batch takes effect as a whole, and only with its commit. -/
theorem batch_inside {sqls : List String} (plain : ∀ sql ∈ sqls, engine.Plain (UTF8String sql)) :
    batch engine io sqls position ⟨stored, some database⟩ =
      if (progress engine io sqls position database).2 then
        (if io.commits = .success then (progress engine io sqls position database).1 else stored,
          true)
      else (stored, false) := by
  induction sqls generalizing position database with
  | nil =>
      rw [batch, execute_commit]
      simp [progress]
  | cons sql rest ih =>
      have first := plain sql List.mem_cons_self
      have later := fun sql present => plain sql (List.mem_cons_of_mem _ present)
      rw [batch, progress]
      cases outcome : statement engine io position sql database with
      | none =>
          have failed : (engine.execute (UTF8String sql) (io.executes position)
              ⟨stored, some database⟩).2 = false := execute_statement_failed first outcome
          simp [failed, execute_rollback, execute_failed failed]
      | some after =>
          have executed : engine.execute (UTF8String sql) (io.executes position)
              ⟨stored, some database⟩ = (⟨stored, some after⟩, true) :=
            execute_statement first outcome
          simp only [executed, if_true]
          exact ih later

end Executing

/-- The statements one after another, each in a call of its own that nothing disturbs. -/
def executeEach (engine : Engine Database Double) (world : SqliteWorld Database)
    (sqls : List String) (uid : Option String) : SqliteWorld Database :=
  sqls.foldl (fun world sql => (executeSql engine world sql uid {}).1) world

/-- The batch took effect as a whole with the answer YES, or not at all with the answer NO. -/
structure BatchAtomic (engine : Engine Database Double) (world : SqliteWorld Database)
    (sqls : List String) (uid : Option String) (io : SqliteIO) : Prop where
  answer : (executeSqls engine world sqls uid io).2 = true ↔
    io.opens = true ∧ io.begins = .success ∧
      (progress engine io sqls 0 (world.stored (dbPath uid))).2 = true ∧ io.commits = .success
  applied : (executeSqls engine world sqls uid io).2 = true →
    (executeSqls engine world sqls uid io).1.stored = (executeEach engine world sqls uid).stored
  unchanged : (executeSqls engine world sqls uid io).2 = false →
    (executeSqls engine world sqls uid io).1.stored = world.stored

/-- The database does not open, or the transaction begins and either commits or has a statement
that fails, or it does not begin and the statements before the first that fails change nothing. -/
def BatchHolds (engine : Engine Database Double) (sqls : List String) (io : SqliteIO)
    (database : Database) : Prop :=
  io.opens = false ∨
    (io.begins = .success ∧
      (io.commits = .success ∨ (progress engine io sqls 0 database).2 = false)) ∨
    (io.begins ≠ .success ∧ (progress engine io sqls 0 database).2 = false ∧
      (progress engine io sqls 0 database).1 = database)

section Batches

variable {engine : Engine Database Double} {world : SqliteWorld Database} {sqls : List String}
  {uid : Option String} {io : SqliteIO}

variable (engine world uid) in
/-- What a batch of plain statements leaves and answers, if its database opens. -/
theorem executeSqls_plain (plain : ∀ sql ∈ sqls, engine.Plain (UTF8String sql))
    (opens : io.opens = true) :
    executeSqls engine world sqls uid io =
      let stored := world.stored (dbPath uid)
      let reached := progress engine io sqls 0 stored
      let database :=
        if io.begins = .success then
          if reached.2 = true ∧ io.commits = .success then reached.1 else stored
        else reached.1
      (world.closed (dbPath uid) database 0 [], reached.2) := by
  rw [executeSqls_opened engine world uid io sqls opens]
  simp only [openedFile, execute_begin]
  by_cases begins : io.begins = .success
  · simp only [begins, if_true, batch_inside plain]
    cases reached : (progress engine io sqls 0 (world.stored (dbPath uid))).2 <;> simp
  · simp only [begins, if_false, batch_outside plain]

variable (engine world uid) in
theorem stored_executeSql (sql : String) :
    (executeSql engine world sql uid {}).1.stored = Function.update world.stored (dbPath uid)
      ((engine.effect (UTF8String sql) (world.stored (dbPath uid))).getD
        (world.stored (dbPath uid))) := by
  rw [executeSql_opened engine world uid {} sql rfl]
  rw [SqliteWorld.closed, openedFile, Engine.execute, Engine.effect]
  cases engine.run (UTF8String sql) ⟨world.stored (dbPath uid), none⟩ <;> rfl

theorem stored_executeEach {position : ℕ}
    (succeed : (progress engine io sqls position (world.stored (dbPath uid))).2 = true) :
    (executeEach engine world sqls uid).stored = Function.update world.stored (dbPath uid)
      (progress engine io sqls position (world.stored (dbPath uid))).1 := by
  induction sqls generalizing position world with
  | nil => simp [executeEach, progress]
  | cons sql rest ih =>
      rw [progress] at succeed ⊢
      cases outcome : statement engine io position sql (world.stored (dbPath uid)) with
      | none => simp [outcome] at succeed
      | some after =>
          have effect :
              engine.effect (UTF8String sql) (world.stored (dbPath uid)) = some after := by
            rw [statement] at outcome
            split at outcome
            · exact outcome
            · cases outcome
          have first : (executeSql engine world sql uid {}).1.stored =
              Function.update world.stored (dbPath uid) after := by
            rw [stored_executeSql, effect, Option.getD_some]
          have visible : (executeSql engine world sql uid {}).1.stored (dbPath uid) = after := by
            rw [first, Function.update_self]
          simp only [outcome] at succeed
          rw [← visible] at succeed
          have later := ih succeed
          rw [visible, first, Function.update_idem] at later
          exact later

theorem batchAtomic_closed (shut : io.opens = false) : BatchAtomic engine world sqls uid io := by
  have refused : executeSqls engine world sqls uid io =
      (world.session (dbPath uid) (openedFile world uid), false) := by
    rw [executeSqls, openDB_eq]
    simp [shut]
  refine ⟨?_, ?_, ?_⟩
  · simp [refused, shut]
  · simp [refused]
  · intro _
    simp [refused, SqliteWorld.session, openedFile]

/-- With a transaction a batch is atomic unless its commit fails. -/
theorem batchAtomic_inside_iff (plain : ∀ sql ∈ sqls, engine.Plain (UTF8String sql))
    (opens : io.opens = true) (begins : io.begins = .success) :
    BatchAtomic engine world sqls uid io ↔
      io.commits = .success ∨
        (progress engine io sqls 0 (world.stored (dbPath uid))).2 = false := by
  have done := executeSqls_plain engine world uid plain opens
  simp only [begins, if_true] at done
  constructor
  · intro atomic
    have answer := atomic.answer
    rw [done] at answer
    cases reached : (progress engine io sqls 0 (world.stored (dbPath uid))).2 with
    | false => exact Or.inr rfl
    | true => exact Or.inl (answer.mp reached).2.2.2
  · intro met
    refine ⟨?_, ?_, ?_⟩
    · rw [done]
      constructor
      · intro succeeded
        have commits := met.resolve_right (by simpa using succeeded)
        exact ⟨opens, begins, succeeded, commits⟩
      · exact fun answered => answered.2.2.1
    · rw [done]
      intro (succeeded : (progress engine io sqls 0 (world.stored (dbPath uid))).2 = true)
      have commits := met.resolve_right (by simpa using succeeded)
      rw [stored_executeEach succeeded]
      simp [SqliteWorld.closed, succeeded, commits]
    · rw [done]
      intro (failed : (progress engine io sqls 0 (world.stored (dbPath uid))).2 = false)
      simp [SqliteWorld.closed, failed]

/-- Without a transaction a batch is atomic only where it fails before it changes anything. -/
theorem batchAtomic_outside_iff (plain : ∀ sql ∈ sqls, engine.Plain (UTF8String sql))
    (opens : io.opens = true) (fails : io.begins ≠ .success) :
    BatchAtomic engine world sqls uid io ↔
      (progress engine io sqls 0 (world.stored (dbPath uid))).2 = false ∧
        (progress engine io sqls 0 (world.stored (dbPath uid))).1 =
          world.stored (dbPath uid) := by
  have done := executeSqls_plain engine world uid plain opens
  simp only [fails, if_false] at done
  constructor
  · intro atomic
    have answer := atomic.answer
    rw [done] at answer
    have failed : (progress engine io sqls 0 (world.stored (dbPath uid))).2 = false := by
      by_contra succeeded
      rw [Bool.not_eq_false] at succeeded
      exact fails (answer.mp succeeded).2.1
    refine ⟨failed, ?_⟩
    have unchanged := congrFun (atomic.unchanged (by rw [done]; exact failed)) (dbPath uid)
    rw [done] at unchanged
    simpa [SqliteWorld.closed] using unchanged
  · rintro ⟨failed, same⟩
    refine ⟨?_, ?_, ?_⟩
    · simp [done, failed, fails]
    · simp [done, failed]
    · intro _
      simp [done, same, SqliteWorld.closed]

theorem batchAtomic_iff (plain : ∀ sql ∈ sqls, engine.Plain (UTF8String sql)) :
    BatchAtomic engine world sqls uid io ↔
      BatchHolds engine sqls io (world.stored (dbPath uid)) := by
  cases opens : io.opens with
  | false => exact iff_of_true (batchAtomic_closed opens) (Or.inl opens)
  | true =>
      by_cases begins : io.begins = .success
      · rw [batchAtomic_inside_iff plain opens begins]
        simp [BatchHolds, opens, begins]
      · rw [batchAtomic_outside_iff plain opens begins]
        simp [BatchHolds, opens, begins]

end Batches

/-- There is no table of the name `missing`. -/
def notes : Engine (List String) Float :=
  .journal (· ≠ "insert into missing values ('zf')") fun _ => ⟨[], [], nofun⟩

theorem plain_insert : notes.Plain "insert into notes values ('zf')" := fun _ => rfl

theorem plain_missing : notes.Plain "insert into missing values ('zf')" := fun _ => rfl

theorem batchAtomic_missingTable : BatchAtomic notes (.start fun _ => [])
    ["insert into notes values ('zf')", "insert into missing values ('zf')"] (some "zf") {} := by
  have plain : ∀ sql ∈ ["insert into notes values ('zf')", "insert into missing values ('zf')"],
      notes.Plain (UTF8String sql) := by
    simp only [List.forall_mem_cons]
    exact ⟨plain_insert, plain_missing, by simp⟩
  exact (batchAtomic_iff plain).mpr (Or.inr (Or.inl ⟨rfl, Or.inl rfl⟩))

/-- The answer is YES though the commit failed and nothing was stored. -/
theorem uncommitted_not_batchAtomic : ¬BatchAtomic notes (.start fun _ => [])
    ["insert into notes values ('zf')"] (some "zf") { commits := .failure false } := by
  intro atomic
  have answered := atomic.answer.mp rfl
  cases answered.2.2.2

end ZFSqliteTool

end ZFBaseFramework
