import Mathlib.Tactic
import ZFBaseFramework.Foundation.SqliteCalls

/-!
# Connections are closed

`sqlite3_open` hands out a connection also when it fails. The three calls return at
once then, so that connection stays open: the connections of a run are balanced exactly
if every call of the run opens its database.
-/

namespace ZFBaseFramework

variable {Database Double : Type}

namespace SqliteEvent

def isOpened : SqliteEvent → Bool
  | .opened _ => true
  | _ => false

def isClosed : SqliteEvent → Bool
  | .closed _ => true
  | _ => false

end SqliteEvent

namespace SqliteWorld

/-- Every connection was closed exactly once, and its statements were finalized before. -/
structure ConnectionBalanced (world : SqliteWorld Database) : Prop where
  counts : world.log.countP SqliteEvent.isClosed = world.log.countP SqliteEvent.isOpened
  once : ∀ connection, .opened connection ∈ world.log →
    world.log.count (.closed connection) = 1
  finalized : ∀ statement connection, .prepared statement connection ∈ world.log →
    [.closed connection, .finalized statement].Sublist world.log

/-- The next connection was not closed yet. -/
def ConnectionsCounted (world : SqliteWorld Database) : Prop :=
  ∀ connection, .opened connection ∈ world.log ∨ .closed connection ∈ world.log →
    connection < world.connectionCount

variable {world : SqliteWorld Database} {path : Path} {database : Database} {statements : ℕ}
  {events : List SqliteEvent}

theorem connectionBalanced_start (stored : Path → Database) :
    (start stored).ConnectionBalanced where
  counts := rfl
  once connection present := by simp [start] at present
  finalized statement connection present := by simp [start] at present

/-- A connection that is not closed is one too many. -/
theorem not_connectionBalanced_session (file : SqliteFile Database)
    (balanced : world.ConnectionBalanced) : ¬(world.session path file).ConnectionBalanced := by
  intro after
  have counts := after.counts
  have before := balanced.counts
  simp only [session, List.countP_cons, SqliteEvent.isClosed, SqliteEvent.isOpened] at counts
  simp at counts
  omega

theorem connectionsCounted_session (file : SqliteFile Database)
    (counted : world.ConnectionsCounted) : (world.session path file).ConnectionsCounted := by
  intro connection present
  simp only [session, List.mem_cons, SqliteEvent.opened.injEq, reduceCtorEq, false_or] at present ⊢
  rcases present with (rfl | present) | present
  · omega
  · have := counted connection (Or.inl present)
    omega
  · have := counted connection (Or.inr present)
    omega

section Closed

variable (shape : events = [] ∨ events = [.finalized world.statementCount,
  .prepared world.statementCount world.connectionCount])

include shape

theorem connectionsCounted_closed (counted : world.ConnectionsCounted) :
    (world.closed path database statements events).ConnectionsCounted := by
  intro connection present
  have known : connection = world.connectionCount ∨ .opened connection ∈ world.log ∨
      .closed connection ∈ world.log := by
    rcases shape with rfl | rfl
    · simp [closed] at present
      tauto
    · simp [closed] at present
      tauto
  change connection < world.connectionCount + 1
  rcases known with rfl | known
  · omega
  · have := counted connection known
    omega

theorem connectionBalanced_closed (counted : world.ConnectionsCounted)
    (balanced : world.ConnectionBalanced) :
    (world.closed path database statements events).ConnectionBalanced := by
  have fresh : .closed world.connectionCount ∉ world.log := fun present =>
    absurd (counted _ (Or.inr present)) (lt_irrefl _)
  constructor
  · have before := balanced.counts
    rcases shape with rfl | rfl
    · simp [closed, List.countP_cons, SqliteEvent.isClosed, SqliteEvent.isOpened, before]
    · simp [closed, List.countP_cons, SqliteEvent.isClosed, SqliteEvent.isOpened, before]
  · intro connection present
    by_cases new : connection = world.connectionCount
    · subst new
      rcases shape with rfl | rfl
      · simp [closed, List.count_eq_zero.mpr fresh]
      · simp [closed, List.count_eq_zero.mpr fresh]
    · have before := balanced.once connection
      rcases shape with rfl | rfl
      · simp [closed, new, Ne.symm new] at present ⊢
        exact before present
      · simp [closed, new, Ne.symm new] at present ⊢
        exact before present
  · intro statement connection present
    have later : .prepared statement connection ∈ world.log →
        [.closed connection, .finalized statement].Sublist
          (world.closed path database statements events).log := by
      intro old
      have before := balanced.finalized statement connection old
      exact ((before.cons _).trans (List.sublist_append_right _ _)).cons _
    rcases shape with rfl | rfl
    · simp only [closed, List.nil_append, List.mem_cons, reduceCtorEq, false_or] at present
      exact later present
    · simp only [closed, List.cons_append, List.nil_append, List.mem_cons, reduceCtorEq,
        false_or, SqliteEvent.prepared.injEq] at present
      rcases present with ⟨rfl, rfl⟩ | old
      · exact ((List.nil_sublist _).cons_cons _).cons_cons _
      · exact later old

end Closed

end SqliteWorld

section Runs

variable {engine : Engine Database Double}

theorem connectionsCounted_perform {world : SqliteWorld Database} {call : SqliteCall}
    (counted : world.ConnectionsCounted) (returns : (sqliteSystem engine).Admits world call) :
    ((sqliteSystem engine).perform world call).ConnectionsCounted := by
  cases opens : call.io.opens with
  | false =>
      rw [perform_refused opens]
      exact SqliteWorld.connectionsCounted_session _ counted
  | true =>
      rcases perform_closed returns opens with ⟨database, statements, events, done, shape⟩
      rw [done]
      exact SqliteWorld.connectionsCounted_closed shape counted

theorem connectionBalanced_perform_iff {world : SqliteWorld Database} {call : SqliteCall}
    (counted : world.ConnectionsCounted) (balanced : world.ConnectionBalanced)
    (returns : (sqliteSystem engine).Admits world call) :
    ((sqliteSystem engine).perform world call).ConnectionBalanced ↔ call.io.opens = true := by
  cases opens : call.io.opens with
  | false =>
      rw [perform_refused opens]
      exact iff_of_false (SqliteWorld.not_connectionBalanced_session _ balanced) (by simp)
  | true =>
      rcases perform_closed returns opens with ⟨database, statements, events, done, shape⟩
      rw [done]
      exact iff_of_true (SqliteWorld.connectionBalanced_closed shape counted balanced) rfl

/-- The connections are balanced after every call exactly if every call opens its database. -/
theorem run_connectionBalanced_iff {stored : Path → Database} {calls : List SqliteCall}
    (runs : (sqliteSystem engine).Runs (.start stored) calls) :
    (sqliteSystem engine).Throughout SqliteWorld.ConnectionBalanced (.start stored) calls ↔
      ∀ call ∈ calls, call.io.opens = true := by
  have counted : (SqliteWorld.start stored).ConnectionsCounted := by
    intro connection present
    simp [SqliteWorld.start] at present
  rw [← (sqliteSystem engine).along_iff_forall (fun call => call.io.opens = true) (.start stored)]
  refine ActionSystem.throughout_iff_along ?_ ?_ counted
    (SqliteWorld.connectionBalanced_start stored) runs
  · intro world call counted _ returns
    exact connectionsCounted_perform counted returns
  · intro world call counted balanced returns
    exact connectionBalanced_perform_iff counted balanced returns

end Runs

/-- The query yields two persons. -/
def persons : Engine (List String) Float :=
  .journal (fun _ => true) fun _ =>
    ⟨["LastName"], [[.ofString "Gates"], [.ofString "Yang"]], by simp⟩

theorem run_connectionBalanced_queried :
    (sqliteSystem persons).Throughout SqliteWorld.ConnectionBalanced (.start fun _ => [])
      [.executeSql "INSERT INTO Person VALUES ('Gates')" (some "Persons") {},
        .querySql "SELECT * FROM Person" (some "Persons") {}] := by
  refine (run_connectionBalanced_iff ?_).mpr ?_
  · exact ⟨rfl, rfl, trivial⟩
  · simp [SqliteCall.io]

/-- The database does not open, and the connection stays open. -/
theorem refused_not_connectionBalanced :
    ¬(sqliteSystem persons).Throughout SqliteWorld.ConnectionBalanced (.start fun _ => [])
      [.executeSql "INSERT INTO Person VALUES ('Gates')" (some "Persons") { opens := false }] := by
  rintro ⟨_, balanced⟩
  have counts := balanced.counts
  cases counts

end ZFBaseFramework
