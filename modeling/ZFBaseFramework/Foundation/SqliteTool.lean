import Mathlib.Tactic
import ZFBaseFramework.Foundation.Sqlite
import ZFBaseFramework.Library.ActionSystem

/-!
# The SQLite tool

`ZFSqliteTool`. Each of its three calls opens the database of a user, works on the
connection in the static variable `db` and closes it. `SqliteIO` says how the calls of
SQLite end within one call of the tool. A blob that is not empty is read by taking a
pointer to bytes for an object, and what happens then is undefined: `querySql:uid:`
gives `none` for it.
-/

namespace ZFBaseFramework

/-- `UTF8String` as a C string: it ends at the first zero character. -/
def UTF8String (text : String) : String :=
  String.ofList (text.toList.takeWhile (· ≠ Char.ofNat 0))

/-- How the calls of SQLite end within one call of the tool. -/
structure SqliteIO where
  opens : Bool := true
  begins : SqliteOutcome := .success
  /-- The outcome of the statement at a position. -/
  executes : ℕ → SqliteOutcome := fun _ => .success
  commits : SqliteOutcome := .success
  rollsBack : SqliteOutcome := .success
  prepares : Bool := true
  /-- The row at which stepping ends with an error, if it does. -/
  breaksAt : Option ℕ := none

/-- An object that a row's dictionary holds; numbers have the type that `objCType` gives. -/
inductive ColumnValue (Double : Type) where
  /-- `@(int)` -/
  | intNumber (value : Int32)
  /-- `@(double)` -/
  | doubleNumber (value : Double)
  | string (value : String)
  deriving DecidableEq

/-- `NSDictionary` -/
abbrev RowDictionary (Double : Type) := Finmap fun _ : String => ColumnValue Double

namespace ZFSqliteTool

variable {Database Double : Type}

/-- An object under the format `%@`. -/
def formatObject : Option String → String
  | none => "(null)"
  | some text => text

/-- The file name in `openDB:`; a length is never below 0. -/
def dbName (uid : Option String) : String :=
  let uid := if (uid.elim 0 String.length) < 0 then some "common" else uid
  formatObject uid ++ ".db"

/-- The path in `openDB:`, as the C string that SQLite gets. -/
def dbPath (uid : Option String) : Path :=
  let path := ZFFileManagerTool.cachePath.appendingPathComponent (dbName uid)
  { path with components := path.components.map UTF8String }

/-- `openDB:` -/
def openDB (world : SqliteWorld Database) (uid : Option String) (io : SqliteIO) :
    SqliteWorld Database × Bool :=
  world.sqlite3_open (dbPath uid) io.opens

/-- `closeDB` -/
def closeDB (world : SqliteWorld Database) : SqliteWorld Database := world.sqlite3_close

section Executing

variable (engine : Engine Database Double)

/-- `beginTransaction`, whose result is dropped. -/
def beginTransaction (world : SqliteWorld Database) (io : SqliteIO) : SqliteWorld Database :=
  (world.sqlite3_exec engine "begin transaction" io.begins).1

/-- `commitTransaction`, whose result is dropped. -/
def commitTransaction (world : SqliteWorld Database) (io : SqliteIO) : SqliteWorld Database :=
  (world.sqlite3_exec engine "commit transaction" io.commits).1

/-- `rollBackTransaction`, whose result is dropped. -/
def rollBackTransaction (world : SqliteWorld Database) (io : SqliteIO) : SqliteWorld Database :=
  (world.sqlite3_exec engine "rollback transaction" io.rollsBack).1

/-- `executeSql:uid:` -/
def executeSql (world : SqliteWorld Database) (sql : String) (uid : Option String)
    (io : SqliteIO) : SqliteWorld Database × Bool :=
  let opened := openDB world uid io
  if opened.2 then
    let executed := opened.1.sqlite3_exec engine (UTF8String sql) (io.executes 0)
    (closeDB executed.1, executed.2)
  else (opened.1, false)

/-- The loop of `executeSqls:uid:` from a position on, with what follows it. -/
def executeStatements (io : SqliteIO) :
    List String → ℕ → SqliteWorld Database → SqliteWorld Database × Bool
  | [], _, world => (closeDB (commitTransaction engine world io), true)
  | sql :: rest, position, world =>
      let executed := world.sqlite3_exec engine (UTF8String sql) (io.executes position)
      if executed.2 then executeStatements io rest (position + 1) executed.1
      else (closeDB (rollBackTransaction engine executed.1 io), false)

/-- `executeSqls:uid:` -/
def executeSqls (world : SqliteWorld Database) (sqls : List String) (uid : Option String)
    (io : SqliteIO) : SqliteWorld Database × Bool :=
  let opened := openDB world uid io
  if opened.2 then executeStatements engine io sqls 0 (beginTransaction engine opened.1 io)
  else (opened.1, false)

end Executing

/-- `initWithUTF8String:`, which is nil for bytes that are not valid UTF-8. -/
def initWithUTF8String (bytes : List UInt8) : Option String :=
  String.fromUTF8? (bytes.takeWhile (· ≠ 0)).toByteArray

/-- The object made of a cell: `some none` is nil, `none` is undefined. -/
def columnValue : Cell Double → Option (Option (ColumnValue Double))
  | .integer value => some (some (.intNumber value.toInt32))
  | .float value => some (some (.doubleNumber value))
  | .blob [] => some none
  | .blob (_ :: _) => none
  | .null => some (some (.string ""))
  | .text bytes => some ((initWithUTF8String bytes).map .string)

/-- `setValue:forKey:`; nil removes the key. -/
def setValue (dictionary : RowDictionary Double) (name : String) :
    Option (ColumnValue Double) → RowDictionary Double
  | none => dictionary.erase name
  | some value => dictionary.insert name value

/-- The loop over the columns of a row. -/
def readColumns : List (String × Cell Double) → RowDictionary Double →
    Option (RowDictionary Double)
  | [], dictionary => some dictionary
  | (name, cell) :: rest, dictionary =>
      (columnValue cell).bind fun value => readColumns rest (setValue dictionary name value)

/-- The loop over the rows that are stepped through. -/
def readRows (columnNames : List String) :
    List (List (Cell Double)) → Option (List (RowDictionary Double))
  | [] => some []
  | row :: rest =>
      (readColumns (columnNames.zip row) ∅).bind fun dictionary =>
        (readRows columnNames rest).map (dictionary :: ·)

/-- The rows that `sqlite3_step` returns. -/
def steppedRows (table : ResultTable Double) (io : SqliteIO) : List (List (Cell Double)) :=
  match io.breaksAt with
  | none => table.rows
  | some position => table.rows.take position

/-- `sqlite3_step` returned `SQLITE_DONE` in the end. -/
def StepsToEnd (table : ResultTable Double) (io : SqliteIO) : Prop :=
  ∀ position, io.breaksAt = some position → table.rows.length < position

instance decidableStepsToEnd (table : ResultTable Double) (io : SqliteIO) :
    Decidable (StepsToEnd table io) :=
  match breaks : io.breaksAt with
  | none => isTrue fun position same => by simp [breaks] at same
  | some position =>
      if short : table.rows.length < position then
        isTrue fun other same => by
          rw [breaks, Option.some.injEq] at same
          exact same ▸ short
      else isFalse fun ends => short (ends position breaks)

/-- `sqlite3_prepare` on the connection in `db`. -/
def prepare (engine : Engine Database Double) (world : SqliteWorld Database) (sql : String)
    (io : SqliteIO) : Preparation Database Double :=
  match world.connection with
  | none => .error
  | some connection =>
      if io.prepares then
        engine.select (UTF8String sql) (connection.pending.getD (world.stored connection.path))
      else .error

/-- The effect of a query that was stepped to the end. -/
def complete (world : SqliteWorld Database) (database : Database) : SqliteWorld Database :=
  match world.connection with
  | none => world
  | some connection =>
      { world with stored := Function.update world.stored connection.path database }

/-- `querySql:uid:` -/
def querySql (engine : Engine Database Double) (world : SqliteWorld Database) (sql : String)
    (uid : Option String) (io : SqliteIO) :
    Option (SqliteWorld Database × Option (List (RowDictionary Double))) :=
  let opened := openDB world uid io
  if opened.2 then
    match prepare engine opened.1 sql io with
    | .error => some (closeDB (opened.1.sqlite3_finalize none), none)
    -- `sqlite3_step` of a null statement is `SQLITE_MISUSE`
    | .nothing => some (closeDB (opened.1.sqlite3_finalize none), some [])
    | .statement table database =>
        let stmt := opened.1.statementCount
        let prepared := opened.1.addStatement
        let stepped := if StepsToEnd table io then complete prepared database else prepared
        (readRows table.columnNames (steppedRows table io)).map fun resultArray =>
          (closeDB (stepped.sqlite3_finalize (some stmt)), some resultArray)
  else some (opened.1, none)

end ZFSqliteTool

/-- A call of the tool, with how SQLite behaves in it. -/
inductive SqliteCall where
  | executeSql (sql : String) (uid : Option String) (io : SqliteIO)
  | executeSqls (sqls : List String) (uid : Option String) (io : SqliteIO)
  | querySql (sql : String) (uid : Option String) (io : SqliteIO)

namespace SqliteCall

def uid : SqliteCall → Option String
  | .executeSql _ uid _ => uid
  | .executeSqls _ uid _ => uid
  | .querySql _ uid _ => uid

def io : SqliteCall → SqliteIO
  | .executeSql _ _ io => io
  | .executeSqls _ _ io => io
  | .querySql _ _ io => io

end SqliteCall

/-- What a call returns. -/
inductive SqliteReply (Double : Type) where
  | executed (result : Bool)
  | queried (result : Option (List (RowDictionary Double)))

/-- The effect and the reply of a call, where it is defined. -/
def SqliteWorld.call {Database Double : Type} (engine : Engine Database Double)
    (world : SqliteWorld Database) :
    SqliteCall → Option (SqliteWorld Database × SqliteReply Double)
  | .executeSql sql uid io =>
      let done := ZFSqliteTool.executeSql engine world sql uid io
      some (done.1, .executed done.2)
  | .executeSqls sqls uid io =>
      let done := ZFSqliteTool.executeSqls engine world sqls uid io
      some (done.1, .executed done.2)
  | .querySql sql uid io =>
      (ZFSqliteTool.querySql engine world sql uid io).map fun done => (done.1, .queried done.2)

end ZFBaseFramework
