import Mathlib.Tactic
import ZFBaseFramework.Foundation.QueryResult

/-!
# Results of partial reads

The loop of `querySql:uid:` ends at every result of `sqlite3_step` but `SQLITE_ROW`, and
what was read so far is returned. So a call returns all rows or nil exactly if its
database opens and its text is refused or makes a statement that is stepped through to
the end. A text without a statement returns an empty array after `SQLITE_MISUSE`.
-/

namespace ZFBaseFramework

variable {Database Double : Type}

namespace ZFSqliteTool

/-- The loop over the rows makes one dictionary of each. -/
theorem readRows_eq_some_iff {columnNames : List String} {rows : List (List (Cell Double))}
    {resultArray : List (RowDictionary Double)} :
    readRows columnNames rows = some resultArray ↔
      List.Forall₂ (fun row stepDic => readColumns (columnNames.zip row) ∅ = some stepDic) rows
        resultArray := by
  induction rows generalizing resultArray with
  | nil => simp [readRows, eq_comm]
  | cons row rest ih =>
      rw [readRows, List.forall₂_cons_left_iff]
      simp only [Option.bind_eq_some_iff, Option.map_eq_some_iff, ih]
      constructor
      · rintro ⟨stepDic, read, others, later, rfl⟩
        exact ⟨stepDic, others, read, later, rfl⟩
      · rintro ⟨stepDic, others, read, later, rfl⟩
        exact ⟨stepDic, read, others, later, rfl⟩

end ZFSqliteTool

namespace SqliteWorld

/-- A call opened one connection and closed it in the end, after it had finalized what it had
prepared. -/
structure Settled (world after : SqliteWorld Database) : Prop where
  connections : after.connections world.connectionCount = none
  events : ∃ events, after.log = .closed world.connectionCount ::
      (events ++ .opened world.connectionCount :: world.log) ∧
    ∀ statement connection, .prepared statement connection ∈ events →
      .finalized statement ∈ events

variable {world : SqliteWorld Database} {path : Path} {database : Database} {statements : ℕ}

theorem settled_closed {events : List SqliteEvent}
    (shape : events = [] ∨ events = [.finalized world.statementCount,
      .prepared world.statementCount world.connectionCount]) :
    world.Settled (world.closed path database statements events) := by
  refine ⟨Function.update_self _ _ _, events, rfl, ?_⟩
  rcases shape with rfl | rfl
  · intro statement connection present
    cases present
  · intro statement connection present
    simp only [List.mem_cons, reduceCtorEq, SqliteEvent.prepared.injEq, false_or,
      List.not_mem_nil, or_false] at present
    simp [present.1]

theorem not_settled_session (file : SqliteFile Database) :
    ¬world.Settled (world.session path file) := by
  intro settled
  have held : (world.session path file).connections world.connectionCount =
      some { path, pending := file.pending } := Function.update_self _ _ _
  cases held.symm.trans settled.connections

end SqliteWorld

namespace Query

open ZFSqliteTool

/-- The call returns an array only once it has stepped through the table to its end, and then the
array has a dictionary for every row; it leaves no statement and no connection. -/
structure WholeOrNothing (query : Query Database Double) (after : SqliteWorld Database)
    (result : Option (List (RowDictionary Double))) : Prop where
  whole : ∀ resultArray, result = some resultArray → ∃ table, query.Steps table ∧
    List.Forall₂ (fun row stepDic => readColumns (table.columnNames.zip row) ∅ = some stepDic)
      table.rows resultArray
  settled : query.world.Settled after

/-- The database opens, and the text is refused or is a statement that is stepped through to the
end. -/
def Completes (query : Query Database Double) : Prop :=
  query.io.opens = true ∧
    match selected query.engine query.world query.uid query.io query.sql with
    | .error => True
    | .nothing => False
    | .statement table _ => StepsToEnd table query.io

section Returned

variable {query : Query Database Double} {after : SqliteWorld Database}
  {result : Option (List (RowDictionary Double))}

theorem opens_of_settled
    (returned : querySql query.engine query.world query.sql query.uid query.io =
      some (after, result))
    (settled : query.world.Settled after) : query.io.opens = true := by
  by_contra shut
  rw [Bool.not_eq_true] at shut
  rw [querySql, openDB_eq] at returned
  simp only [shut, Bool.false_eq_true, if_false, Option.some.injEq, Prod.mk.injEq] at returned
  rw [← returned.1] at settled
  exact SqliteWorld.not_settled_session _ settled

/-- A call that returns gives all rows or nil exactly if it completes. -/
theorem querySql_wholeOrNothing_iff
    (returned : querySql query.engine query.world query.sql query.uid query.io =
      some (after, result)) :
    query.WholeOrNothing after result ↔ query.Completes := by
  constructor
  · intro holds
    have opens := opens_of_settled returned holds.settled
    refine ⟨opens, ?_⟩
    cases prepared : selected query.engine query.world query.uid query.io query.sql with
    | error => trivial
    | nothing =>
        rw [querySql_nothing _ _ _ _ _ opens prepared] at returned
        rcases holds.whole [] (congrArg Prod.snd (Option.some.inj returned)).symm with
          ⟨table, steps, _⟩
        rcases steps.prepares with ⟨database, again⟩
        cases prepared.symm.trans again
    | statement table database =>
        rw [querySql_prepared _ _ _ _ _ opens prepared, Option.map_eq_some_iff] at returned
        rcases returned with ⟨resultArray, _, same⟩
        rcases holds.whole resultArray (congrArg Prod.snd same).symm with ⟨other, steps, _⟩
        rcases steps.prepares with ⟨_, again⟩
        cases prepared.symm.trans again
        exact steps.ends
  · rintro ⟨opens, ends⟩
    cases prepared : selected query.engine query.world query.uid query.io query.sql with
    | error =>
        rw [querySql_unprepared _ _ _ _ _ opens prepared] at returned
        cases returned
        exact ⟨nofun, SqliteWorld.settled_closed (Or.inl rfl)⟩
    | nothing =>
        rw [prepared] at ends
        exact ends.elim
    | statement table database =>
        rw [prepared] at ends
        have steps : query.Steps table := ⟨opens, ⟨database, prepared⟩, ends⟩
        have rows : query.resultArray = readRows table.columnNames table.rows := steps.resultArray
        have array : query.resultArray = result := by
          rw [Query.resultArray, returned]
          rfl
        rw [querySql_prepared _ _ _ _ _ opens prepared, Option.map_eq_some_iff] at returned
        rcases returned with ⟨_, _, same⟩
        cases same
        refine ⟨?_, SqliteWorld.settled_closed (Or.inr rfl)⟩
        intro resultArray present
        exact ⟨table, steps, readRows_eq_some_iff.mp (rows.symm.trans (array.trans present))⟩

end Returned

theorem querySql_wholeOrNothing_persons :
    ∃ after result, querySql (ofTable persons).engine (ofTable persons).world (ofTable persons).sql
        (ofTable persons).uid (ofTable persons).io = some (after, result) ∧
      (ofTable persons).WholeOrNothing after result := by
  refine ⟨_, _, rfl, (querySql_wholeOrNothing_iff rfl).mpr ⟨rfl, ?_⟩⟩
  intro position breaks
  cases breaks

/-- Stepping breaks off behind the first of the two rows. -/
def interrupted : Query (List String) Float :=
  { ofTable persons with io := { breaksAt := some 1 } }

/-- The one row that was read is returned as if it were all. -/
theorem interrupted_not_wholeOrNothing :
    ∃ after stepDic, querySql interrupted.engine interrupted.world interrupted.sql
        interrupted.uid interrupted.io = some (after, some [stepDic]) ∧
      ¬interrupted.WholeOrNothing after (some [stepDic]) := by
  refine ⟨_, _, rfl, ?_⟩
  intro holds
  rcases holds.whole _ rfl with ⟨table, steps, rows⟩
  rcases steps.prepares with ⟨database, prepared⟩
  cases prepared
  exact absurd rows.length_eq (by decide)

end Query

end ZFBaseFramework
