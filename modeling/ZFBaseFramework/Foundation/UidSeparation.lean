import Mathlib.Tactic
import ZFBaseFramework.Foundation.BatchAtomicity

/-!
# Separation by uid

Abstractly the tool is a map from users to databases, where nil, the empty text and
`common` are one user. The test for a missing uid in `openDB:` never succeeds, so these
three have a file each, nil shares its file with `(null)`, and a name ends at its first
zero character. As long as a run uses no two uids that this confuses, and its batches
are atomic, the replies of the tool are those of the map.
-/

namespace ZFBaseFramework

variable {Database Double : Type}

namespace ZFSqliteTool

/-- The user that a uid means. -/
def user : Option String → String
  | none => "common"
  | some uid => if uid = "" then "common" else uid

/-- The name of the file of a uid, as the C string that SQLite gets. -/
def fileName (uid : Option String) : String := UTF8String (formatObject uid ++ ".db")

/-- The uids contain no `/`, and different ones have different file names and users. -/
structure UidsApart (uids : List (Option String)) : Prop where
  slashless : ∀ uid ∈ uids, ∀ text, uid = some text → '/' ∉ text.toList
  names : ∀ first ∈ uids, ∀ second ∈ uids, first ≠ second → fileName first ≠ fileName second
  users : ∀ first ∈ uids, ∀ second ∈ uids, first ≠ second → user first ≠ user second

theorem dbPath_eq (uid : Option String) : dbPath uid = ⟨.caches, [fileName uid]⟩ := by
  have name : dbName uid = formatObject uid ++ ".db" := by
    rw [dbName, if_neg (Nat.not_lt_zero _)]
  have component : ¬(dbName uid = "" ∨ dbName uid = "/") := by
    have last : (dbName uid).toList.getLast? = some 'b' := by
      rw [name, String.toList_append, List.getLast?_append]
      rfl
    rintro (empty | slash)
    · rw [empty] at last
      cases last
    · rw [slash] at last
      cases last
  rw [dbPath, Path.appendingPathComponent, if_neg component, fileName, ← name]
  rfl

theorem UidsApart.dbPath_eq_iff {uids : List (Option String)} (apart : UidsApart uids)
    {first second : Option String} (firstUsed : first ∈ uids) (secondUsed : second ∈ uids) :
    dbPath first = dbPath second ↔ user first = user second := by
  by_cases same : first = second
  · simp [same]
  · have names := apart.names first firstUsed second secondUsed same
    have users := apart.users first firstUsed second secondUsed same
    rw [dbPath_eq, dbPath_eq]
    exact iff_of_false (by simpa using names) users

end ZFSqliteTool

open ZFSqliteTool

namespace SqliteCall

/-- What a call on the database of its user means: the database after it, and the reply. -/
def onDatabase (engine : Engine Database Double) (database : Database) :
    SqliteCall → Database × Option (SqliteReply Double)
  | .executeSql sql _ io =>
      match statement engine io 0 sql database with
      | none => (database, some (.executed false))
      | some after => (after, some (.executed true))
  | .executeSqls sqls _ io =>
      if io.begins = .success ∧ (progress engine io sqls 0 database).2 = true ∧
          io.commits = .success then
        ((progress engine io sqls 0 database).1, some (.executed true))
      else (database, some (.executed false))
  | .querySql sql _ io =>
      match if io.prepares then engine.select (UTF8String sql) database else .error with
      | .error => (database, some (.queried none))
      | .nothing => (database, some (.queried (some [])))
      | .statement table after =>
          (if StepsToEnd table io then after else database,
            (readRows table.columnNames (steppedRows table io)).map fun resultArray =>
              .queried (some resultArray))

/-- A batch has plain statements and meets the condition for being atomic. -/
def BatchSettled (engine : Engine Database Double) (database : Database) : SqliteCall → Prop
  | .executeSqls sqls _ io =>
      (∀ sql ∈ sqls, engine.Plain (UTF8String sql)) ∧ BatchHolds engine sqls io database
  | .executeSql _ _ _ => True
  | .querySql _ _ _ => True

end SqliteCall

/-- One database for each user. -/
def userSystem (engine : Engine Database Double) :
    ActionSystem (String → Database) SqliteCall where
  Admits _ _ := True
  perform databases call := Function.update databases (user call.uid)
    (call.onDatabase engine (databases (user call.uid))).1

/-- The reply of the tool. -/
def SqliteWorld.reply (engine : Engine Database Double) (world : SqliteWorld Database)
    (call : SqliteCall) : Option (SqliteReply Double) :=
  (world.call engine call).map Prod.snd

/-- The reply of the map. -/
def userReply (engine : Engine Database Double) (databases : String → Database)
    (call : SqliteCall) : Option (SqliteReply Double) :=
  (call.onDatabase engine (databases (user call.uid))).2

/-- The call acts on the database of its user and replies as `onDatabase` says. -/
structure ActsOnDatabase (engine : Engine Database Double) (world : SqliteWorld Database)
    (call : SqliteCall) : Prop where
  stored : ((sqliteSystem engine).perform world call).stored =
    Function.update world.stored (dbPath call.uid)
      (call.onDatabase engine (world.stored (dbPath call.uid))).1
  reply : world.reply engine call = (call.onDatabase engine (world.stored (dbPath call.uid))).2

section Refinement

variable {engine : Engine Database Double} {world : SqliteWorld Database} {call : SqliteCall}

theorem execute_alone (engine : Engine Database Double) (io : SqliteIO) (sql : String)
    (database : Database) :
    let executed := engine.execute (UTF8String sql) (io.executes 0) ⟨database, none⟩
    match statement engine io 0 sql database with
      | none => executed.1.stored = database ∧ executed.2 = false
      | some after => executed.1.stored = after ∧ executed.2 = true := by
  cases outcome : io.executes 0 with
  | failure endsTransaction => cases endsTransaction <;> simp [statement, outcome, Engine.execute]
  | success =>
      cases run : engine.run (UTF8String sql) ⟨database, none⟩ <;>
        simp [statement, outcome, Engine.execute, Engine.effect, run]

theorem executeSql_onDatabase {sql : String} {uid : Option String} {io : SqliteIO}
    (opens : io.opens = true) : ActsOnDatabase engine world (.executeSql sql uid io) := by
  have done := executeSql_opened engine world uid io sql opens
  have alone := execute_alone engine io sql (world.stored (dbPath uid))
  cases outcome : statement engine io 0 sql (world.stored (dbPath uid)) with
  | none =>
      rw [outcome] at alone
      constructor <;>
        simp [sqliteSystem, SqliteWorld.reply, SqliteWorld.call, SqliteCall.uid,
          SqliteCall.onDatabase, done, outcome, SqliteWorld.closed, openedFile, alone]
  | some after =>
      rw [outcome] at alone
      constructor <;>
        simp [sqliteSystem, SqliteWorld.reply, SqliteWorld.call, SqliteCall.uid,
          SqliteCall.onDatabase, done, outcome, SqliteWorld.closed, openedFile, alone]

theorem executeSqls_onDatabase {sqls : List String} {uid : Option String} {io : SqliteIO}
    (opens : io.opens = true)
    (settled : SqliteCall.BatchSettled engine (world.stored (dbPath uid))
      (.executeSqls sqls uid io)) : ActsOnDatabase engine world (.executeSqls sqls uid io) := by
  rcases settled with ⟨plain, holds⟩
  have done := executeSqls_plain engine world uid plain opens
  rcases holds with shut | ⟨begins, rest⟩ | ⟨unbegun, failed, same⟩
  · rw [opens] at shut
    cases shut
  · cases reached : (progress engine io sqls 0 (world.stored (dbPath uid))).2 with
    | false =>
        constructor <;>
          simp [sqliteSystem, SqliteWorld.reply, SqliteWorld.call, SqliteCall.uid,
            SqliteCall.onDatabase, done, SqliteWorld.closed, begins, reached]
    | true =>
        have commits : io.commits = .success := by simpa [reached] using rest
        constructor <;>
          simp [sqliteSystem, SqliteWorld.reply, SqliteWorld.call, SqliteCall.uid,
            SqliteCall.onDatabase, done, SqliteWorld.closed, begins, reached, commits]
  · constructor <;>
      simp [sqliteSystem, SqliteWorld.reply, SqliteWorld.call, SqliteCall.uid,
        SqliteCall.onDatabase, done, SqliteWorld.closed, unbegun, failed, same]

theorem querySql_onDatabase {sql : String} {uid : Option String} {io : SqliteIO}
    (opens : io.opens = true)
    (returns : (sqliteSystem engine).Admits world (.querySql sql uid io)) :
    ActsOnDatabase engine world (.querySql sql uid io) := by
  cases prepared : selected engine world uid io sql with
  | error =>
      have done := querySql_unprepared engine world uid io sql opens prepared
      rw [selected] at prepared
      constructor <;>
        simp [sqliteSystem, SqliteWorld.reply, SqliteWorld.call, SqliteCall.uid,
          SqliteCall.onDatabase, done, prepared, SqliteWorld.closed]
  | nothing =>
      have done := querySql_nothing engine world uid io sql opens prepared
      rw [selected] at prepared
      constructor <;>
        simp [sqliteSystem, SqliteWorld.reply, SqliteWorld.call, SqliteCall.uid,
          SqliteCall.onDatabase, done, prepared, SqliteWorld.closed]
  | statement table database =>
      have done := querySql_prepared engine world uid io sql opens prepared
      rw [selected] at prepared
      cases rows : readRows table.columnNames (steppedRows table io) with
      | none => simp [sqliteSystem, SqliteWorld.call, done, rows] at returns
      | some resultArray =>
          constructor <;>
            simp [sqliteSystem, SqliteWorld.reply, SqliteWorld.call, SqliteCall.uid,
              SqliteCall.onDatabase, done, rows, prepared, SqliteWorld.closed, queried]

theorem call_onDatabase (opens : call.io.opens = true)
    (returns : (sqliteSystem engine).Admits world call)
    (settled : call.BatchSettled engine (world.stored (dbPath call.uid))) :
    ActsOnDatabase engine world call := by
  cases call with
  | executeSql sql uid io => exact executeSql_onDatabase opens
  | executeSqls sqls uid io => exact executeSqls_onDatabase opens settled
  | querySql sql uid io => exact querySql_onDatabase opens returns

/-- The files of the uids in use hold the databases of their users. -/
def FilesAgree (uids : List (Option String)) (world : SqliteWorld Database)
    (databases : String → Database) : Prop :=
  ∀ uid ∈ uids, world.stored (dbPath uid) = databases (user uid)

theorem FilesAgree.perform {uids : List (Option String)} {databases : String → Database}
    (apart : UidsApart uids) (agree : FilesAgree uids world databases) (used : call.uid ∈ uids)
    (opens : call.io.opens = true) (returns : (sqliteSystem engine).Admits world call)
    (settled : call.BatchSettled engine (world.stored (dbPath call.uid))) :
    world.reply engine call = userReply engine databases call ∧
      FilesAgree uids ((sqliteSystem engine).perform world call)
        ((userSystem engine).perform databases call) := by
  rcases call_onDatabase opens returns settled with ⟨stored, reply⟩
  rw [agree call.uid used] at stored reply
  refine ⟨reply, ?_⟩
  intro uid present
  change _ = Function.update databases (user call.uid) _ (user uid)
  rw [stored]
  have names := apart.dbPath_eq_iff present used
  by_cases same : user uid = user call.uid
  · rw [same, names.mpr same, Function.update_self, Function.update_self]
  · have different : dbPath uid ≠ dbPath call.uid := fun equal => same (names.mp equal)
    rw [Function.update_of_ne same, Function.update_of_ne different]
    exact agree uid present

end Refinement

/-- A query yields the numbers of the texts that took effect. -/
def statements : Engine (List String) Float :=
  .journal (fun _ => true) fun texts =>
    ⟨["Id_P"], (List.range texts.length).map fun number => [.integer (.ofNat number)], by simp⟩

theorem uidsApart_persons : UidsApart [some "Persons", none, some "Persons"] := by
  refine ⟨?_, by decide, by decide⟩
  intro uid present text same
  subst same
  simp only [List.mem_cons, Option.some.injEq, reduceCtorEq, List.not_mem_nil, or_false,
    false_or, or_self] at present
  subst present
  decide

end ZFBaseFramework
