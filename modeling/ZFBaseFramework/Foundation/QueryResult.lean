import Mathlib.Data.List.TakeWhile
import Mathlib.Tactic
import ZFBaseFramework.Foundation.SqliteCalls

/-!
# What a query result keeps

A row becomes a dictionary under the column names, so of a repeated name only the last
cell is there, and NULL becomes the empty text. Integers are read as 32-bit numbers and
texts up to their first zero byte, so nothing is said about the cells that these change;
blobs are read through a cast, and of a text that is not valid UTF-8 there is no object,
so nothing is said about tables with these.
-/

namespace ZFBaseFramework

variable {Database Double : Type}

namespace Cell

/-- The readers for integers and texts keep the cell. -/
def Kept : Cell Double → Prop
  | .integer value => -2 ^ 31 ≤ value.toInt ∧ value.toInt < 2 ^ 31
  | .text bytes => 0 ∉ bytes
  | .blob _ => False
  | .float _ => True
  | .null => True

/-- There is an object of the cell: no blob, and a text only in UTF-8. -/
def Readable : Cell Double → Prop
  | .text bytes => (ZFSqliteTool.initWithUTF8String bytes).isSome
  | .blob _ => False
  | .integer _ => True
  | .float _ => True
  | .null => True

/-- The cell with the empty text for NULL. -/
def withoutNull : Cell Double → Cell Double
  | .null => .text []
  | cell => cell

end Cell

/-- The cell that an object stands for. -/
def ColumnValue.cell : ColumnValue Double → Cell Double
  | .intNumber value => .integer value.toInt64
  | .doubleNumber value => .float value
  | .string value => .ofString value

/-- There is an object of every cell of the table. -/
def ResultTable.Readable (table : ResultTable Double) : Prop :=
  ∀ row ∈ table.rows, ∀ cell ∈ row, cell.Readable

namespace ZFSqliteTool

theorem takeWhile_nonzero {bytes : List UInt8} (kept : 0 ∉ bytes) :
    bytes.takeWhile (· ≠ 0) = bytes := by
  rw [List.takeWhile_eq_self_iff]
  intro byte present
  have different : byte ≠ 0 := fun same => kept (same ▸ present)
  simpa using different

/-- The object of a text without a zero byte has the bytes of the text. -/
theorem toByteArray_initWithUTF8String {bytes : List UInt8} {text : String} (kept : 0 ∉ bytes)
    (read : initWithUTF8String bytes = some text) : text.toByteArray.data.toList = bytes := by
  rw [initWithUTF8String, takeWhile_nonzero kept, String.fromUTF8?] at read
  split at read
  · cases read
    exact List.toList_data_toByteArray
  · cases read

/-- A text of UTF-8 without a zero byte is read as what it was. -/
theorem initWithUTF8String_toByteArray {text : String} (kept : 0 ∉ text.toByteArray.data.toList) :
    initWithUTF8String text.toByteArray.data.toList = some text := by
  have whole : text.toByteArray.data.toList.toByteArray = text.toByteArray := by
    apply ByteArray.ext
    simp
  rw [initWithUTF8String, takeWhile_nonzero kept, whole, String.fromUTF8?,
    dif_pos text.isValidUTF8]
  rfl

theorem columnValue_readable {cell : Cell Double} (readable : cell.Readable) :
    ∃ value, columnValue cell = some (some value) ∧
      (cell.Kept → value.cell = cell.withoutNull) := by
  cases cell with
  | integer value =>
      refine ⟨_, rfl, ?_⟩
      rintro ⟨low, high⟩
      have same : value.toInt32.toInt64 = value := by
        rw [← Int64.toInt_inj, Int32.toInt_toInt64, Int64.toInt_toInt32]
        exact Int.bmod_eq_of_le (by omega) (by omega)
      exact congrArg _ same
  | float value => exact ⟨_, rfl, fun _ => rfl⟩
  | text bytes =>
      rcases Option.isSome_iff_exists.mp readable with ⟨value, read⟩
      refine ⟨.string value, by rw [columnValue, read, Option.map_some], ?_⟩
      intro kept
      exact congrArg _ (toByteArray_initWithUTF8String kept read)
  | blob bytes => exact readable.elim
  | null => exact ⟨_, rfl, fun _ => rfl⟩

/-- The last cell under a name. -/
def lastCell (name : String) : List (String × Cell Double) → Option (Cell Double)
  | [] => none
  | (other, cell) :: rest => (lastCell name rest).or (if other = name then some cell else none)

theorem isSome_lastCell {name : String} {columnNames : List String} {row : List (Cell Double)}
    (aligned : row.length = columnNames.length) :
    (lastCell name (columnNames.zip row)).isSome ↔ name ∈ columnNames := by
  induction columnNames generalizing row with
  | nil => simp [lastCell]
  | cons other names ih =>
      cases row with
      | nil => simp at aligned
      | cons cell cells =>
          have shorter : cells.length = names.length := by simpa using aligned
          have later := ih shorter
          rw [List.zip_cons_cons, lastCell, Option.isSome_or, List.mem_cons, ← later]
          by_cases same : other = name
          · simp [same]
          · have different : ¬name = other := Ne.symm same
            simp [same, different]

/-- The object of a name after the columns were read. -/
theorem readColumns_readable {columns : List (String × Cell Double)}
    (dictionary : RowDictionary Double)
    (readable : ∀ column ∈ columns, column.2.Readable) :
    ∃ stepDic, readColumns columns dictionary = some stepDic ∧
      ∀ name, match lastCell name columns with
        | none => stepDic.lookup name = dictionary.lookup name
        | some cell => ∃ value, stepDic.lookup name = some value ∧
            (cell.Kept → value.cell = cell.withoutNull) := by
  induction columns generalizing dictionary with
  | nil => exact ⟨dictionary, rfl, fun _ => rfl⟩
  | cons column rest ih =>
      rcases column with ⟨other, cell⟩
      rcases columnValue_readable (readable (other, cell) List.mem_cons_self) with
        ⟨value, read, held⟩
      have later : ∀ column ∈ rest, column.2.Readable :=
        fun column present => readable column (List.mem_cons_of_mem _ present)
      rcases ih (dictionary.insert other value) later with ⟨stepDic, done, found⟩
      refine ⟨stepDic, by simpa [readColumns, read, setValue] using done, ?_⟩
      intro name
      have foundName := found name
      rw [lastCell]
      cases last : lastCell name rest with
      | some lastCell => simpa [last] using foundName
      | none =>
          rw [last] at foundName
          by_cases same : other = name
          · subst same
            simp only [if_true, Option.none_or]
            exact ⟨value, foundName.trans (Finmap.lookup_insert _), held⟩
          · simp only [same, if_false, Option.none_or]
            exact foundName.trans (Finmap.lookup_insert_of_ne _ (Ne.symm same))

/-- The dictionary of a row has the column names as its keys and the last cell of each. -/
structure Keeps (columnNames : List String) (row : List (Cell Double))
    (dictionary : RowDictionary Double) : Prop where
  keys : ∀ name, name ∈ dictionary ↔ name ∈ columnNames
  values : ∀ name cell, lastCell name (columnNames.zip row) = some cell → cell.Kept →
    ∃ value, dictionary.lookup name = some value ∧ value.cell = cell.withoutNull

/-- The last cells of each name are the same, where they are kept and but for NULL. -/
def Agree (columnNames : List String) (first second : List (Cell Double)) : Prop :=
  ∀ name cell other, lastCell name (columnNames.zip first) = some cell →
    lastCell name (columnNames.zip second) = some other → cell.Kept → other.Kept →
    cell.withoutNull = other.withoutNull

theorem Keeps.agree {columnNames : List String} {first second : List (Cell Double)}
    {dictionary : RowDictionary Double} (firstKept : Keeps columnNames first dictionary)
    (secondKept : Keeps columnNames second dictionary) : Agree columnNames first second := by
  intro name cell other inFirst inSecond kept otherKept
  rcases firstKept.values name cell inFirst kept with ⟨value, found, held⟩
  rcases secondKept.values name other inSecond otherKept with ⟨same, otherFound, otherHeld⟩
  have equal : value = same := Option.some.inj (found.symm.trans otherFound)
  subst equal
  exact held.symm.trans otherHeld

theorem agree_of_keeps {columnNames : List String} {first second : List (List (Cell Double))}
    {resultArray : List (RowDictionary Double)}
    (firstKept : List.Forall₂ (Keeps columnNames) first resultArray)
    (secondKept : List.Forall₂ (Keeps columnNames) second resultArray) :
    List.Forall₂ (Agree columnNames) first second := by
  induction firstKept generalizing second with
  | nil =>
      cases secondKept
      exact .nil
  | cons kept _ ih =>
      cases secondKept with
      | cons otherKept otherRest => exact .cons (kept.agree otherKept) (ih otherRest)

theorem readRows_readable {columnNames : List String} {rows : List (List (Cell Double))}
    (aligned : ∀ row ∈ rows, row.length = columnNames.length)
    (readable : ∀ row ∈ rows, ∀ cell ∈ row, cell.Readable) :
    ∃ resultArray, readRows columnNames rows = some resultArray ∧
      List.Forall₂ (Keeps columnNames) rows resultArray := by
  induction rows with
  | nil => exact ⟨[], rfl, .nil⟩
  | cons row rest ih =>
      have columns : ∀ column ∈ columnNames.zip row, column.2.Readable :=
        fun column present => readable row List.mem_cons_self column.2
          (List.of_mem_zip present).2
      rcases readColumns_readable ∅ columns with ⟨stepDic, done, found⟩
      rcases ih (fun row present => aligned row (List.mem_cons_of_mem _ present))
        (fun row present => readable row (List.mem_cons_of_mem _ present)) with
        ⟨resultArray, rows, kept⟩
      have first : Keeps columnNames row stepDic := by
        constructor
        · intro name
          have foundName := found name
          rw [← isSome_lastCell (aligned row List.mem_cons_self), ← Finmap.lookup_isSome]
          cases last : lastCell name (columnNames.zip row) with
          | none =>
              rw [last] at foundName
              simp [foundName]
          | some cell =>
              rw [last] at foundName
              rcases foundName with ⟨value, same, _⟩
              simp [same]
        · intro name cell last keeps
          have foundName := found name
          rw [last] at foundName
          rcases foundName with ⟨value, same, held⟩
          exact ⟨value, same, held keeps⟩
      exact ⟨stepDic :: resultArray, by simp [readRows, done, rows], .cons first kept⟩

end ZFSqliteTool

/-- A call of `querySql:uid:`. -/
structure Query (Database Double : Type) where
  engine : Engine Database Double
  world : SqliteWorld Database
  sql : String
  uid : Option String
  io : SqliteIO

namespace Query

open ZFSqliteTool

/-- What the call returns, if that is not nil. -/
def resultArray (query : Query Database Double) : Option (List (RowDictionary Double)) :=
  (querySql query.engine query.world query.sql query.uid query.io).bind Prod.snd

/-- The call steps through the table to its end. -/
structure Steps (query : Query Database Double) (table : ResultTable Double) : Prop where
  opens : query.io.opens = true
  prepares : ∃ database,
    selected query.engine query.world query.uid query.io query.sql = .statement table database
  ends : StepsToEnd table query.io

theorem Steps.resultArray {query : Query Database Double} {table : ResultTable Double}
    (steps : query.Steps table) :
    query.resultArray = readRows table.columnNames table.rows := by
  rcases steps with ⟨opens, ⟨database, prepared⟩, ends⟩
  have rows : steppedRows table query.io = table.rows := by
    rw [steppedRows]
    split
    · rfl
    · rename_i position breaks
      exact List.take_of_length_le (ends position breaks).le
  rw [Query.resultArray, querySql_prepared _ _ _ _ _ opens prepared, rows]
  cases readRows table.columnNames table.rows <;> rfl

/-- A query of a table. -/
def ofTable (table : ResultTable Float) : Query (List String) Float where
  engine := .journal (fun _ => true) fun _ => table
  world := .start fun _ => []
  sql := "SELECT * FROM Person"
  uid := some "Persons"
  io := {}

theorem steps_ofTable (table : ResultTable Float) : (ofTable table).Steps table where
  opens := rfl
  prepares := ⟨[], rfl⟩
  ends := by
    intro position breaks
    cases breaks

def persons : ResultTable Float where
  columnNames := ["Id_P", "LastName"]
  rows := [[.integer 1, .ofString "Gates"], [.integer 2, .null]]
  aligned := by simp

theorem readable_persons : persons.Readable := by
  have gates : initWithUTF8String "Gates".toByteArray.data.toList = some "Gates" :=
    initWithUTF8String_toByteArray (by decide)
  simp [ResultTable.Readable, persons, Cell.Readable, Cell.ofString, gates]

/-- A table of one row. -/
def oneRow (columnNames : List String) (row : List (Cell Float))
    (aligned : row.length = columnNames.length) : ResultTable Float where
  columnNames
  rows := [row]
  aligned := by simp [aligned]

/-- Tables with the same columns and different rows give the same result. -/
structure Confused (first second : ResultTable Float) : Prop where
  firstSteps : (ofTable first).Steps first
  secondSteps : (ofTable second).Steps second
  sameColumns : first.columnNames = second.columnNames
  differentRows : first.rows ≠ second.rows
  returned : (ofTable first).resultArray.isSome
  sameResults : (ofTable first).resultArray = (ofTable second).resultArray

end Query

end ZFBaseFramework
