import Mathlib.Data.Finmap
import Mathlib.Logic.Function.Basic
import ZFBaseFramework.Foundation.FileManagerTool

/-!
# SQLite as documented

The part of SQLite's interface that `ZFSqliteTool` calls. What SQL texts mean is a
parameter, an `Engine`; that `begin`, `commit` and `rollback` open and close a
transaction belongs to it. A connection works on its database file, or on the working
copy of its open transaction, which is dropped when it is closed. Every call may fail
besides, and a call that fails has no effect; it may end the open transaction.
-/

namespace ZFBaseFramework

/-- A database file with the working copy of an open transaction. -/
structure SqliteFile (Database : Type) where
  stored : Database
  pending : Option Database
  deriving DecidableEq, Repr

namespace SqliteFile

variable {Database : Type}

/-- The database that statements see. -/
def visible (file : SqliteFile Database) : Database := file.pending.getD file.stored

/-- The effect of a statement, inside a transaction or outside. -/
def write (file : SqliteFile Database) (database : Database) : SqliteFile Database :=
  match file.pending with
  | none => { file with stored := database }
  | some _ => { file with pending := some database }

def beginTransaction (file : SqliteFile Database) : Option (SqliteFile Database) :=
  match file.pending with
  | none => some { file with pending := some file.stored }
  | some _ => none

def commitTransaction (file : SqliteFile Database) : Option (SqliteFile Database) :=
  file.pending.map fun database => ⟨database, none⟩

def rollbackTransaction (file : SqliteFile Database) : Option (SqliteFile Database) :=
  file.pending.map fun _ => ⟨file.stored, none⟩

end SqliteFile

/-- A value of a result, by its storage class. A text is what `sqlite3_column_text` points to,
which nothing keeps to valid UTF-8. -/
inductive Cell (Double : Type) where
  | integer (value : Int64)
  | float (value : Double)
  | text (bytes : List UInt8)
  | blob (bytes : List UInt8)
  | null
  deriving DecidableEq

/-- The cell of a text in UTF-8. -/
def Cell.ofString {Double : Type} (text : String) : Cell Double :=
  .text text.toByteArray.data.toList

/-- What a query yields when it is stepped through. -/
structure ResultTable (Double : Type) where
  columnNames : List String
  rows : List (List (Cell Double))
  aligned : ∀ row ∈ rows, row.length = columnNames.length

/-- What `sqlite3_prepare` makes of a text. -/
inductive Preparation (Database Double : Type) where
  | error
  /-- The text is empty or a comment: `SQLITE_OK` with a null statement. -/
  | nothing
  /-- A statement, with its result and the database once it was stepped to the end. -/
  | statement (table : ResultTable Double) (database : Database)

/-- The meaning of SQL texts. -/
structure Engine (Database Double : Type) where
  /-- A text that is executed, or `none` for an error. -/
  run : String → SqliteFile Database → Option (SqliteFile Database)
  /-- A text that is prepared. -/
  select : String → Database → Preparation Database Double
  run_begin : ∀ file, run "begin transaction" file = file.beginTransaction
  run_commit : ∀ file, run "commit transaction" file = file.commitTransaction
  run_rollback : ∀ file, run "rollback transaction" file = file.rollbackTransaction

/-- How a call ends, as far as this does not depend on its text. -/
inductive SqliteOutcome where
  | success
  | failure (endsTransaction : Bool)
  deriving DecidableEq, Repr

/-- `sqlite3_exec` on the file of a connection, with its result code. -/
def Engine.execute {Database Double : Type} (engine : Engine Database Double) (text : String)
    (outcome : SqliteOutcome) (file : SqliteFile Database) : SqliteFile Database × Bool :=
  match outcome with
  | .success =>
      match engine.run text file with
      | none => (file, false)
      | some after => (after, true)
  | .failure endsTransaction =>
      (if endsTransaction then { file with pending := none } else file, false)

/-- The engine whose database is the list of the texts that took effect. -/
def Engine.journal {Double : Type} (accepts : String → Bool)
    (tables : List String → ResultTable Double) : Engine (List String) Double where
  run text file :=
    if text = "begin transaction" then file.beginTransaction
    else if text = "commit transaction" then file.commitTransaction
    else if text = "rollback transaction" then file.rollbackTransaction
    else if accepts text then some (file.write (file.visible ++ [text]))
    else none
  select text database := if accepts text then .statement (tables database) database else .error
  run_begin _ := rfl
  run_commit _ := rfl
  run_rollback _ := rfl

/-- A connection that was handed out and not closed. -/
structure Connection (Database : Type) where
  path : Path
  pending : Option Database := none
  /-- The prepared statements that are not finalized. -/
  statements : List ℕ := []
  deriving DecidableEq

/-- What is done with connections and statements. -/
inductive SqliteEvent where
  | opened (connection : ℕ)
  | prepared (statement connection : ℕ)
  | finalized (statement : ℕ)
  | closed (connection : ℕ)
  deriving DecidableEq, Repr

/-- The databases, the connections, the variable `db`, and the events, newest first. -/
structure SqliteWorld (Database : Type) where
  stored : Path → Database
  connections : ℕ → Option (Connection Database)
  connectionCount : ℕ
  statementCount : ℕ
  db : Option ℕ
  log : List SqliteEvent

namespace SqliteWorld

variable {Database Double : Type}

/-- No connection was opened yet. -/
def start (stored : Path → Database) : SqliteWorld Database :=
  ⟨stored, fun _ => none, 0, 0, none, []⟩

/-- The connection in `db`, if it is open. -/
def connection (world : SqliteWorld Database) : Option (Connection Database) :=
  world.db.bind world.connections

/-- The open connection in `db` becomes another. -/
def setConnection (world : SqliteWorld Database) (connection : Connection Database) :
    SqliteWorld Database :=
  match world.db with
  | none => world
  | some handle =>
      { world with connections := Function.update world.connections handle (some connection) }

/-- `sqlite3_open` hands out a connection whether it succeeds or not. -/
def sqlite3_open (world : SqliteWorld Database) (path : Path) (opens : Bool) :
    SqliteWorld Database × Bool :=
  ({ world with
      connections := Function.update world.connections world.connectionCount (some { path })
      connectionCount := world.connectionCount + 1
      db := some world.connectionCount
      log := .opened world.connectionCount :: world.log }, opens)

/-- `sqlite3_exec` on the connection in `db`. -/
def sqlite3_exec (engine : Engine Database Double) (world : SqliteWorld Database)
    (text : String) (outcome : SqliteOutcome) : SqliteWorld Database × Bool :=
  match world.connection with
  | none => (world, false)
  | some connection =>
      let executed := engine.execute text outcome ⟨world.stored connection.path, connection.pending⟩
      ({ world with
          stored := Function.update world.stored connection.path executed.1.stored }.setConnection
        { connection with pending := executed.1.pending }, executed.2)

/-- A prepared statement on the connection in `db`. -/
def addStatement (world : SqliteWorld Database) : SqliteWorld Database :=
  match world.db, world.connection with
  | some handle, some connection =>
      { world.setConnection
          { connection with statements := world.statementCount :: connection.statements } with
        statementCount := world.statementCount + 1
        log := .prepared world.statementCount handle :: world.log }
  | _, _ => world

/-- `sqlite3_finalize`, which does nothing for a null statement. -/
def sqlite3_finalize (world : SqliteWorld Database) (statement : Option ℕ) :
    SqliteWorld Database :=
  match statement, world.connection with
  | some statement, some connection =>
      { world.setConnection
          { connection with statements := connection.statements.erase statement } with
        log := .finalized statement :: world.log }
  | _, _ => world

/-- `sqlite3_close`, which refuses a connection with unfinalized statements. -/
def sqlite3_close (world : SqliteWorld Database) : SqliteWorld Database :=
  match world.db with
  | none => world
  | some handle =>
      match world.connections handle with
      | none => { world with log := .closed handle :: world.log }
      | some connection =>
          if connection.statements = [] then
            { world with
              connections := Function.update world.connections handle none
              log := .closed handle :: world.log }
          else world

end SqliteWorld

end ZFBaseFramework
