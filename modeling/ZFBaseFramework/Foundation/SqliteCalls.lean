import Mathlib.Tactic
import ZFBaseFramework.Foundation.SqliteTool

/-!
# What a call of the SQLite tool does

A call works on one new connection, so its effect is a function on the file of that
connection. `session` is the world within a call and `closed` the world after it; every
call that opens its database ends in such a world, and the later proofs cite that
instead of unfolding the calls.
-/

namespace ZFBaseFramework

variable {Database Double : Type}

namespace SqliteWorld

/-- The world while the new connection is open. -/
def session (world : SqliteWorld Database) (path : Path) (file : SqliteFile Database) :
    SqliteWorld Database where
  stored := Function.update world.stored path file.stored
  connections := Function.update world.connections world.connectionCount
    (some { path, pending := file.pending })
  connectionCount := world.connectionCount + 1
  statementCount := world.statementCount
  db := some world.connectionCount
  log := .opened world.connectionCount :: world.log

/-- The world after a call that prepared some statements and closed its connection. -/
def closed (world : SqliteWorld Database) (path : Path) (database : Database)
    (statements : ℕ) (events : List SqliteEvent) : SqliteWorld Database where
  stored := Function.update world.stored path database
  connections := Function.update world.connections world.connectionCount none
  connectionCount := world.connectionCount + 1
  statementCount := world.statementCount + statements
  db := some world.connectionCount
  log := .closed world.connectionCount :: (events ++ .opened world.connectionCount :: world.log)

variable (world : SqliteWorld Database) (path : Path) (file : SqliteFile Database)

theorem connection_session : (world.session path file).connection =
    some { path, pending := file.pending } := by
  simp [session, connection]

theorem sqlite3_exec_session (engine : Engine Database Double) (text : String)
    (outcome : SqliteOutcome) :
    (world.session path file).sqlite3_exec engine text outcome =
      (world.session path (engine.execute text outcome file).1,
        (engine.execute text outcome file).2) := by
  rw [sqlite3_exec, connection_session]
  simp [session, setConnection]

theorem sqlite3_close_session :
    (world.session path file).sqlite3_close = world.closed path file.stored 0 [] := by
  simp [session, closed, sqlite3_close]

end SqliteWorld

namespace ZFSqliteTool

variable (engine : Engine Database Double) (world : SqliteWorld Database)
  (uid : Option String) (io : SqliteIO)

/-- The file of a user when its database is opened. -/
def openedFile (world : SqliteWorld Database) (uid : Option String) : SqliteFile Database :=
  ⟨world.stored (dbPath uid), none⟩

theorem openDB_eq :
    openDB world uid io = (world.session (dbPath uid) (openedFile world uid), io.opens) := by
  simp [openDB, SqliteWorld.sqlite3_open, SqliteWorld.session, openedFile]

theorem executeSql_opened (sql : String) (opens : io.opens = true) :
    executeSql engine world sql uid io =
      (world.closed (dbPath uid)
        (engine.execute (UTF8String sql) (io.executes 0) (openedFile world uid)).1.stored 0 [],
        (engine.execute (UTF8String sql) (io.executes 0) (openedFile world uid)).2) := by
  rw [executeSql, openDB_eq]
  simp only [opens, if_true, SqliteWorld.sqlite3_exec_session, closeDB,
    SqliteWorld.sqlite3_close_session]

/-- The loop of `executeSqls:uid:` on a file: the database it leaves, and the result. -/
def batch (io : SqliteIO) : List String → ℕ → SqliteFile Database → Database × Bool
  | [], _, file => ((engine.execute "commit transaction" io.commits file).1.stored, true)
  | sql :: rest, position, file =>
      let executed := engine.execute (UTF8String sql) (io.executes position) file
      if executed.2 then batch io rest (position + 1) executed.1
      else ((engine.execute "rollback transaction" io.rollsBack executed.1).1.stored, false)

theorem executeStatements_session (path : Path) (sqls : List String) (position : ℕ)
    (file : SqliteFile Database) :
    executeStatements engine io sqls position (world.session path file) =
      (world.closed path (batch engine io sqls position file).1 0 [],
        (batch engine io sqls position file).2) := by
  induction sqls generalizing position file with
  | nil =>
      simp only [executeStatements, batch, commitTransaction, SqliteWorld.sqlite3_exec_session,
        closeDB, SqliteWorld.sqlite3_close_session]
  | cons sql rest ih =>
      simp only [executeStatements, batch, rollBackTransaction,
        SqliteWorld.sqlite3_exec_session, closeDB]
      split
      · exact ih (position + 1) _
      · rw [SqliteWorld.sqlite3_close_session]

theorem executeSqls_opened (sqls : List String) (opens : io.opens = true) :
    executeSqls engine world sqls uid io =
      let begun := (engine.execute "begin transaction" io.begins (openedFile world uid)).1
      (world.closed (dbPath uid) (batch engine io sqls 0 begun).1 0 [],
        (batch engine io sqls 0 begun).2) := by
  rw [executeSqls, openDB_eq]
  simp only [opens, if_true, beginTransaction, SqliteWorld.sqlite3_exec_session,
    executeStatements_session]

/-- What is prepared for a query. -/
def selected (sql : String) : Preparation Database Double :=
  if io.prepares then engine.select (UTF8String sql) (world.stored (dbPath uid)) else .error

/-- The database after a query. -/
def queried (table : ResultTable Double) (database : Database) : Database :=
  if StepsToEnd table io then database else world.stored (dbPath uid)

theorem prepare_session (sql : String) :
    prepare engine (world.session (dbPath uid) (openedFile world uid)) sql io =
      selected engine world uid io sql := by
  rw [prepare, SqliteWorld.connection_session, selected]
  simp [SqliteWorld.session, openedFile]

theorem querySql_unprepared (sql : String) (opens : io.opens = true)
    (unprepared : selected engine world uid io sql = .error) :
    querySql engine world sql uid io =
      some (world.closed (dbPath uid) (world.stored (dbPath uid)) 0 [], none) := by
  rw [querySql, openDB_eq]
  simp only [opens, if_true, prepare_session, unprepared, SqliteWorld.sqlite3_finalize, closeDB,
    SqliteWorld.sqlite3_close_session]
  rfl

theorem querySql_nothing (sql : String) (opens : io.opens = true)
    (nothing : selected engine world uid io sql = .nothing) :
    querySql engine world sql uid io =
      some (world.closed (dbPath uid) (world.stored (dbPath uid)) 0 [], some []) := by
  rw [querySql, openDB_eq]
  simp only [opens, if_true, prepare_session, nothing, SqliteWorld.sqlite3_finalize, closeDB,
    SqliteWorld.sqlite3_close_session]
  rfl

/-- The world of a query while its statement is there. -/
theorem sqlite3_finalize_statement (stepped : Bool) (database : Database) :
    closeDB ((if stepped then
        complete (world.session (dbPath uid) (openedFile world uid)).addStatement database
      else (world.session (dbPath uid) (openedFile world uid)).addStatement).sqlite3_finalize
        (some world.statementCount)) =
      world.closed (dbPath uid) (if stepped then database else world.stored (dbPath uid)) 1
        [.finalized world.statementCount,
          .prepared world.statementCount world.connectionCount] := by
  cases stepped with
  | false =>
      simp [SqliteWorld.addStatement, SqliteWorld.connection, SqliteWorld.session,
        SqliteWorld.setConnection, SqliteWorld.sqlite3_finalize, closeDB,
        SqliteWorld.sqlite3_close, SqliteWorld.closed, openedFile]
  | true =>
      simp [SqliteWorld.addStatement, SqliteWorld.connection, SqliteWorld.session,
        SqliteWorld.setConnection, SqliteWorld.sqlite3_finalize, closeDB, complete,
        SqliteWorld.sqlite3_close, SqliteWorld.closed, openedFile]

theorem querySql_prepared (sql : String) (opens : io.opens = true) {table : ResultTable Double}
    {database : Database}
    (prepared : selected engine world uid io sql = .statement table database) :
    querySql engine world sql uid io =
      (readRows table.columnNames (steppedRows table io)).map fun resultArray =>
        (world.closed (dbPath uid) (queried world uid io table database) 1
          [.finalized world.statementCount,
            .prepared world.statementCount world.connectionCount], some resultArray) := by
  have ended := sqlite3_finalize_statement world uid (decide (StepsToEnd table io)) database
  simp only [decide_eq_true_eq] at ended
  rw [querySql, openDB_eq]
  simp only [opens, if_true, prepare_session, prepared, queried]
  rw [← ended]
  rfl

end ZFSqliteTool

open ZFSqliteTool

/-- Calls one after another, as long as they return. -/
def sqliteSystem (engine : Engine Database Double) :
    ActionSystem (SqliteWorld Database) SqliteCall where
  Admits world call := (world.call engine call).isSome
  perform world call := ((world.call engine call).map Prod.fst).getD world

section Calls

variable {engine : Engine Database Double} {world : SqliteWorld Database} {call : SqliteCall}

theorem perform_refused (shut : call.io.opens = false) :
    (sqliteSystem engine).perform world call =
      world.session (dbPath call.uid) (openedFile world call.uid) := by
  cases call with
  | executeSql sql uid io =>
      have refused : io.opens = false := shut
      simp [sqliteSystem, SqliteWorld.call, executeSql, openDB_eq, refused, SqliteCall.uid]
  | executeSqls sqls uid io =>
      have refused : io.opens = false := shut
      simp [sqliteSystem, SqliteWorld.call, executeSqls, openDB_eq, refused, SqliteCall.uid]
  | querySql sql uid io =>
      have refused : io.opens = false := shut
      simp [sqliteSystem, SqliteWorld.call, querySql, openDB_eq, refused, SqliteCall.uid]

theorem perform_querySql {sql : String} {uid : Option String} {io : SqliteIO}
    {after : SqliteWorld Database} {result : Option (List (RowDictionary Double))}
    (returned : querySql engine world sql uid io = some (after, result)) :
    (sqliteSystem engine).perform world (.querySql sql uid io) = after := by
  simp [sqliteSystem, SqliteWorld.call, returned]

/-- Any other call that returns closes its connection and has finalized its statement. -/
theorem perform_closed (returns : (sqliteSystem engine).Admits world call)
    (opens : call.io.opens = true) :
    ∃ database statements events,
      (sqliteSystem engine).perform world call =
        world.closed (dbPath call.uid) database statements events ∧
      (events = [] ∨ events = [.finalized world.statementCount,
        .prepared world.statementCount world.connectionCount]) := by
  cases call with
  | executeSql sql uid io =>
      have done := executeSql_opened engine world uid io sql opens
      exact ⟨_, 0, [], congrArg Prod.fst done, Or.inl rfl⟩
  | executeSqls sqls uid io =>
      have done := executeSqls_opened engine world uid io sqls opens
      exact ⟨_, 0, [], congrArg Prod.fst done, Or.inl rfl⟩
  | querySql sql uid io =>
      cases prepared : selected engine world uid io sql with
      | error =>
          have done := querySql_unprepared engine world uid io sql opens prepared
          exact ⟨_, 0, [], perform_querySql done, Or.inl rfl⟩
      | nothing =>
          have done := querySql_nothing engine world uid io sql opens prepared
          exact ⟨_, 0, [], perform_querySql done, Or.inl rfl⟩
      | statement table database =>
          have done := querySql_prepared engine world uid io sql opens prepared
          cases rows : readRows table.columnNames (steppedRows table io) with
          | none => simp [sqliteSystem, SqliteWorld.call, done, rows] at returns
          | some resultArray =>
              rw [rows, Option.map_some] at done
              exact ⟨_, 1, _, perform_querySql done, Or.inr rfl⟩

end Calls

end ZFBaseFramework
