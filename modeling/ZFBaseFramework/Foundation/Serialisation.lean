import Mathlib.Tactic
import ZFBaseFramework.Foundation.UidSeparation

/-!
# The statements that took effect

Whatever SQLite calls fail in a run, its databases are those of executing, one after
another and without a failure, the statements that took effect. Which ones these are is
decided call by call: `effective` says it, for a batch with a transaction, one without,
and one whose commit fails.
-/

namespace ZFBaseFramework

variable {Database Double : Type}

open ZFSqliteTool

/-- The statements of a batch before the first that fails. -/
def ZFSqliteTool.successful (engine : Engine Database Double) (io : SqliteIO) :
    List String → ℕ → Database → List String
  | [], _, _ => []
  | sql :: rest, position, database =>
      match statement engine io position sql database with
      | none => []
      | some after => sql :: successful engine io rest (position + 1) after

namespace SqliteCall

variable (engine : Engine Database Double)

/-- The statements of a call that take effect. -/
def effective (database : Database) : SqliteCall → List String
  | .executeSql sql _ io => if io.opens then successful engine io [sql] 0 database else []
  | .executeSqls sqls _ io =>
      if io.opens then
        -- With a transaction all of them take effect or none, and the commit decides.
        if io.begins = .success then
          if (progress engine io sqls 0 database).2 = true ∧ io.commits = .success then sqls
          else []
        else successful engine io sqls 0 database
      else []
  | .querySql _ _ _ => []

/-- A call of its own for each statement, in which nothing fails. -/
def each (uid : Option String) (sqls : List String) : List SqliteCall :=
  sqls.map fun sql => .executeSql sql uid {}

/-- What a call asks for, one by one. -/
def asked : SqliteCall → List SqliteCall
  | .executeSql sql uid _ => each uid [sql]
  | .executeSqls sqls uid _ => each uid sqls
  | .querySql _ _ _ => []

/-- What a call does, one by one. -/
def done (world : SqliteWorld Database) (call : SqliteCall) : List SqliteCall :=
  each call.uid (call.effective engine (world.stored (dbPath call.uid)))

/-- Batches control no transactions and queries change nothing. -/
def Ordinary : SqliteCall → Prop
  | .executeSql _ _ _ => True
  | .executeSqls sqls _ _ => ∀ sql ∈ sqls, engine.Plain (UTF8String sql)
  | .querySql sql _ _ => ∀ database table after,
      engine.select (UTF8String sql) database = .statement table after → after = database

end SqliteCall

/-- The calls that answer YES. -/
def succeedingSystem (engine : Engine Database Double) :
    ActionSystem (SqliteWorld Database) SqliteCall :=
  (sqliteSystem engine).restrict fun world call =>
    world.reply engine call = some (.executed true)

section Journal

variable {engine : Engine Database Double} {world : SqliteWorld Database} {call : SqliteCall}
  {uid : Option String} {io : SqliteIO} {sqls : List String} {position : ℕ} {database : Database}

theorem successful_sublist (engine : Engine Database Double) (io : SqliteIO) (sqls : List String)
    (position : ℕ) (database : Database) :
    (successful engine io sqls position database).Sublist sqls := by
  induction sqls generalizing position database with
  | nil => exact List.Sublist.slnil
  | cons sql rest ih =>
      rw [successful]
      split
      · exact List.nil_sublist _
      · exact (ih _ _).cons_cons sql

theorem successful_of_progress (succeed : (progress engine io sqls position database).2 = true) :
    successful engine io sqls position database = sqls := by
  induction sqls generalizing position database with
  | nil => rfl
  | cons sql rest ih =>
      rw [progress] at succeed
      rw [successful]
      cases outcome : statement engine io position sql database with
      | none => simp [outcome] at succeed
      | some after =>
          rw [outcome] at succeed
          exact congrArg (sql :: ·) (ih succeed)

theorem effective_sublist (engine : Engine Database Double) (database : Database)
    (call : SqliteCall) :
    (SqliteCall.each call.uid (call.effective engine database)).Sublist call.asked := by
  cases call with
  | executeSql sql uid io =>
      apply List.Sublist.map
      rw [SqliteCall.effective]
      split
      · exact successful_sublist engine io [sql] 0 database
      · exact List.nil_sublist _
  | executeSqls sqls uid io =>
      apply List.Sublist.map
      rw [SqliteCall.effective]
      split
      · split
        · split
          · exact List.Sublist.refl _
          · exact List.nil_sublist _
        · exact successful_sublist engine io sqls 0 database
      · exact List.nil_sublist _
  | querySql sql uid io => exact List.Sublist.slnil

/-- A statement with an effect, in a call in which nothing fails. -/
theorem executeSql_effect {sql : String} {after : Database}
    (effect : engine.effect (UTF8String sql) (world.stored (dbPath uid)) = some after) :
    (succeedingSystem engine).Admits world (.executeSql sql uid {}) ∧
      ((succeedingSystem engine).perform world (.executeSql sql uid {})).stored =
        Function.update world.stored (dbPath uid) after := by
  have acts := @executeSql_onDatabase _ _ engine world sql uid {} rfl
  have outcome : SqliteCall.onDatabase engine (world.stored (dbPath uid)) (.executeSql sql uid {}) =
      (after, some (.executed true)) := by
    rw [SqliteCall.onDatabase]
    have given : statement engine {} 0 sql (world.stored (dbPath uid)) = some after := effect
    rw [given]
  have reply := acts.reply
  have stored := acts.stored
  rw [SqliteCall.uid, outcome] at reply stored
  exact ⟨⟨rfl, reply⟩, stored⟩

/-- The successful statements one by one lead where the batch leads without a transaction. -/
theorem runs_successful (engine : Engine Database Double) (world : SqliteWorld Database)
    (uid : Option String) (io : SqliteIO) (sqls : List String) (position : ℕ) :
    let calls := SqliteCall.each uid
      (successful engine io sqls position (world.stored (dbPath uid)))
    (succeedingSystem engine).Runs world calls ∧
      ((succeedingSystem engine).exec world calls).stored =
        Function.update world.stored (dbPath uid)
          (progress engine io sqls position (world.stored (dbPath uid))).1 := by
  induction sqls generalizing position world with
  | nil => exact ⟨trivial, (Function.update_eq_self _ _).symm⟩
  | cons sql rest ih =>
      rw [successful, progress]
      cases outcome : statement engine io position sql (world.stored (dbPath uid)) with
      | none => exact ⟨trivial, (Function.update_eq_self _ _).symm⟩
      | some after =>
          have effect :
              engine.effect (UTF8String sql) (world.stored (dbPath uid)) = some after := by
            rw [statement] at outcome
            split at outcome
            · exact outcome
            · cases outcome
          rcases executeSql_effect effect with ⟨admitted, stored⟩
          have later := ih ((succeedingSystem engine).perform world (.executeSql sql uid {}))
            (position + 1)
          rw [stored, Function.update_self, Function.update_idem] at later
          exact ⟨⟨admitted, later.1⟩, later.2⟩

theorem stored_refused (shut : call.io.opens = false) :
    ((sqliteSystem engine).perform world call).stored = world.stored := by
  rw [perform_refused shut]
  exact Function.update_eq_self _ _

theorem onDatabase_executeSql (engine : Engine Database Double) (sql : String)
    (uid : Option String) (io : SqliteIO) (database : Database) :
    (SqliteCall.onDatabase engine database (.executeSql sql uid io)).1 =
      (progress engine io [sql] 0 database).1 := by
  rw [SqliteCall.onDatabase, progress]
  cases statement engine io 0 sql database <;> rfl

/-- What a batch leaves behind, with a transaction or without. -/
theorem stored_executeSqls (plain : ∀ sql ∈ sqls, engine.Plain (UTF8String sql))
    (opens : io.opens = true) :
    ((sqliteSystem engine).perform world (.executeSqls sqls uid io)).stored =
      Function.update world.stored (dbPath uid)
        (if io.begins = .success then
          if (progress engine io sqls 0 (world.stored (dbPath uid))).2 = true ∧
              io.commits = .success then
            (progress engine io sqls 0 (world.stored (dbPath uid))).1
          else world.stored (dbPath uid)
        else (progress engine io sqls 0 (world.stored (dbPath uid))).1) :=
  congrArg (fun done => done.1.stored) (executeSqls_plain engine world uid plain opens)

theorem stored_querySql {sql : String} (ordinary : (SqliteCall.querySql sql uid io).Ordinary engine)
    (opens : io.opens = true)
    (returns : (sqliteSystem engine).Admits world (.querySql sql uid io)) :
    ((sqliteSystem engine).perform world (.querySql sql uid io)).stored = world.stored := by
  rw [(querySql_onDatabase opens returns).stored]
  have unchanged : (SqliteCall.onDatabase engine (world.stored (dbPath uid))
      (.querySql sql uid io)).1 = world.stored (dbPath uid) := by
    rw [SqliteCall.onDatabase]
    split
    · rfl
    · rfl
    · rename_i table after selected
      split at selected
      · rw [ordinary _ _ _ selected, ite_self]
      · cases selected
  rw [SqliteCall.uid, unchanged]
  exact Function.update_eq_self _ _

/-- What a call leaves behind is what its effective statements leave, one by one. -/
theorem perform_done {follower : SqliteWorld Database} (same : follower.stored = world.stored)
    (ordinary : call.Ordinary engine) (returns : (sqliteSystem engine).Admits world call) :
    (succeedingSystem engine).Runs follower (call.done engine world) ∧
      ((succeedingSystem engine).exec follower (call.done engine world)).stored =
        ((sqliteSystem engine).perform world call).stored := by
  cases opens : call.io.opens with
  | false =>
      have idle : call.done engine world = [] := by
        cases call with
        | executeSql sql uid io =>
            have shut : io.opens = false := opens
            simp [SqliteCall.done, SqliteCall.effective, SqliteCall.each, shut]
        | executeSqls sqls uid io =>
            have shut : io.opens = false := opens
            simp [SqliteCall.done, SqliteCall.effective, SqliteCall.each, shut]
        | querySql sql uid io => rfl
      rw [idle, stored_refused opens]
      exact ⟨trivial, same⟩
  | true =>
      cases call with
      | executeSql sql uid io =>
          have opened : io.opens = true := opens
          have followed := runs_successful engine follower uid io [sql] 0
          rw [same] at followed
          rw [SqliteCall.done, SqliteCall.effective, if_pos opened,
            (executeSql_onDatabase opened).stored, SqliteCall.uid, onDatabase_executeSql]
          exact followed
      | executeSqls sqls uid io =>
          have opened : io.opens = true := opens
          have followed := runs_successful engine follower uid io sqls 0
          rw [same] at followed
          rw [stored_executeSqls ordinary opened, SqliteCall.done, SqliteCall.effective,
            if_pos opened, SqliteCall.uid]
          split
          · split
            · rename_i settled
              rw [successful_of_progress settled.1] at followed
              exact followed
            · rw [Function.update_eq_self]
              exact ⟨trivial, same⟩
          · exact followed
      | querySql sql uid io =>
          rw [stored_querySql ordinary opens returns]
          exact ⟨trivial, same⟩

end Journal

/-- A batch that begins no transaction, one that is not committed, and a query. -/
def unsettled : List SqliteCall :=
  [.executeSqls ["insert into notes values ('zf')", "insert into missing values ('zf')"] (some "zf")
      { begins := .failure false },
    .executeSqls ["insert into notes values ('zf')"] (some "zf") { commits := .failure true },
    .querySql "select * from notes" (some "zf") {}]

end ZFBaseFramework
