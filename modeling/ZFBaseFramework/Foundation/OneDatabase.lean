import Mathlib.Tactic
import ZFBaseFramework.Foundation.UidSeparation
import ZFBaseFramework.Library.Projection

/-!
# One database on its own

All calls of the tool share the variable `db`, and a call that cannot open its database
leaves a connection in it. Nothing of this reaches another call: what becomes of one
database, and what the callers that use it are told, depends on their calls and on what
the database held at the start.
-/

namespace ZFBaseFramework

variable {Database Double : Type}

open ZFSqliteTool

/-- A call of the tool when nothing was done before: the database it leaves, and the reply. -/
def SqliteCall.onFile (engine : Engine Database Double) (database : Database)
    (call : SqliteCall) : Option (Database × SqliteReply Double) :=
  ((SqliteWorld.start fun _ => database).call engine call).map fun done =>
    (done.1.stored (dbPath call.uid), done.2)

/-- A tool that serves one database. -/
def fileSystem (engine : Engine Database Double) : ActionSystem Database SqliteCall where
  Admits database call := (call.onFile engine database).isSome
  perform database call := ((call.onFile engine database).map Prod.fst).getD database

/-- The call uses the database at the path. -/
def SqliteCall.Uses (path : Path) (call : SqliteCall) : Prop := dbPath call.uid = path

instance (path : Path) (call : SqliteCall) : Decidable (call.Uses path) :=
  inferInstanceAs (Decidable (_ = _))

/-- What a caller that uses the database at the path is told. -/
def SqliteWorld.told (engine : Engine Database Double) (path : Path)
    (world : SqliteWorld Database) (call : SqliteCall) : List (Option (SqliteReply Double)) :=
  if call.Uses path then [world.reply engine call] else []

section Files

variable {engine : Engine Database Double} {world : SqliteWorld Database} {call : SqliteCall}
  {path : Path}

theorem selected_eq (engine : Engine Database Double) (world : SqliteWorld Database)
    (uid : Option String) (io : SqliteIO) (sql : String) :
    selected engine world uid io sql =
      selected engine (.start fun _ => world.stored (dbPath uid)) uid io sql := rfl

/-- The effect and the reply of a call come from the database it uses alone. -/
theorem call_eq_onFile (engine : Engine Database Double) (world : SqliteWorld Database)
    (call : SqliteCall) :
    (world.call engine call).map (fun done => (done.1.stored, done.2)) =
      (call.onFile engine (world.stored (dbPath call.uid))).map fun done =>
        (Function.update world.stored (dbPath call.uid) done.1, done.2) := by
  cases call with
  | executeSql sql uid io =>
      cases opens : io.opens with
      | false =>
          simp [SqliteWorld.call, SqliteCall.onFile, SqliteCall.uid, executeSql, openDB_eq, opens,
            SqliteWorld.session, openedFile, SqliteWorld.start]
      | true =>
          simp [SqliteWorld.call, SqliteCall.onFile, SqliteCall.uid, executeSql_opened, opens,
            SqliteWorld.closed, openedFile, SqliteWorld.start]
  | executeSqls sqls uid io =>
      cases opens : io.opens with
      | false =>
          simp [SqliteWorld.call, SqliteCall.onFile, SqliteCall.uid, executeSqls, openDB_eq, opens,
            SqliteWorld.session, openedFile, SqliteWorld.start]
      | true =>
          simp [SqliteWorld.call, SqliteCall.onFile, SqliteCall.uid, executeSqls_opened, opens,
            SqliteWorld.closed, openedFile, SqliteWorld.start]
  | querySql sql uid io =>
      cases opens : io.opens with
      | false =>
          simp [SqliteWorld.call, SqliteCall.onFile, SqliteCall.uid, querySql, openDB_eq, opens,
            SqliteWorld.session, openedFile, SqliteWorld.start]
      | true =>
          have alone := selected_eq engine world uid io sql
          cases prepared : selected engine world uid io sql with
          | error =>
              rw [prepared] at alone
              have here := querySql_unprepared engine world uid io sql opens prepared
              have there := querySql_unprepared engine _ uid io sql opens alone.symm
              simp [SqliteWorld.call, SqliteCall.onFile, SqliteCall.uid, here, there,
                SqliteWorld.closed]
              rfl
          | nothing =>
              rw [prepared] at alone
              have here := querySql_nothing engine world uid io sql opens prepared
              have there := querySql_nothing engine _ uid io sql opens alone.symm
              simp [SqliteWorld.call, SqliteCall.onFile, SqliteCall.uid, here, there,
                SqliteWorld.closed]
              rfl
          | statement table database =>
              rw [prepared] at alone
              have here := querySql_prepared engine world uid io sql opens prepared
              have there := querySql_prepared engine _ uid io sql opens alone.symm
              rw [SqliteWorld.call, SqliteCall.onFile, SqliteCall.uid, SqliteWorld.call, here,
                there]
              cases readRows table.columnNames (steppedRows table io) with
              | none => rfl
              | some resultArray =>
                  simp [SqliteWorld.closed, queried]
                  rfl

/-- A call that returns, as a call on its database. -/
theorem exists_onFile (returns : (sqliteSystem engine).Admits world call) :
    ∃ after reply, call.onFile engine (world.stored (dbPath call.uid)) = some (after, reply) ∧
      ((sqliteSystem engine).perform world call).stored =
        Function.update world.stored (dbPath call.uid) after ∧
      world.reply engine call = some reply := by
  rcases Option.isSome_iff_exists.mp returns with ⟨done, returned⟩
  have effect := call_eq_onFile engine world call
  rw [returned, Option.map_some] at effect
  rcases Option.map_eq_some_iff.mp effect.symm with ⟨⟨after, reply⟩, alone, same⟩
  rw [Prod.mk.injEq] at same
  refine ⟨after, reply, alone, ?_, ?_⟩
  · have performed : (sqliteSystem engine).perform world call = done.1 := by
      simp [sqliteSystem, returned]
    rw [performed, same.1]
  · rw [SqliteWorld.reply, returned]
    exact congrArg some same.2.symm

theorem projects_fileSystem (engine : Engine Database Double) (path : Path) :
    (sqliteSystem engine).Projects (fileSystem engine) (fun _ => True)
      (fun world => world.stored path)
      (fun _ call => if call.Uses path then some call else none)
      (SqliteWorld.told engine path)
      (fun database call => [(call.onFile engine database).map Prod.snd]) where
  kept _ _ := trivial
  unseen := by
    rintro world call - returns unseen
    have away : ¬call.Uses path := by
      intro uses
      rw [if_pos uses] at unseen
      cases unseen
    rcases exists_onFile returns with ⟨after, reply, -, stored, -⟩
    rw [stored, Function.update_of_ne (Ne.symm away), SqliteWorld.told, if_neg away]
    exact ⟨rfl, rfl⟩
  shown := by
    rintro world call sight - returns seen
    have uses : call.Uses path := by
      by_contra away
      rw [if_neg away] at seen
      cases seen
    rw [if_pos uses, Option.some.injEq] at seen
    subst seen
    rcases exists_onFile returns with ⟨after, reply, alone, stored, told⟩
    rw [show dbPath call.uid = path from uses] at alone stored
    refine ⟨?_, ?_, ?_⟩
    · simp [fileSystem, alone]
    · simp [fileSystem, alone, stored]
    · simp [SqliteWorld.told, uses, told, alone]

end Files

end ZFBaseFramework
