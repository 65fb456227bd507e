import Mathlib.Logic.Function.Basic
import Mathlib.Tactic.Common

/-!
# A file system of nodes and paths

A path links to a node and a node holds an item, so that a writer which has
opened a file keeps writing to the same node while the path is moved or removed.
No node has two paths, and nodes are never reused; both facts are fields of the
file system, which the operations maintain.
-/

namespace ZFBaseFramework

universe u

/-- What a node holds: the bytes of a regular file, or a directory of a reported size. -/
inductive Item where
  | file (bytes : List UInt8)
  | directory (size : ℕ)
  deriving DecidableEq

namespace Item

/-- The size the file system reports for an item. -/
def size : Item → ℕ
  | .file bytes => bytes.length
  | .directory size => size

/-- A regular file grows at its end; a directory takes no bytes. -/
def extend (bytes : List UInt8) : Item → Item
  | .file old => .file (old ++ bytes)
  | .directory size => .directory size

/-- A regular file. -/
def IsFile : Item → Prop
  | .file _ => True
  | .directory _ => False

@[simp]
theorem extend_file (old bytes : List UInt8) :
    (Item.file old).extend bytes = .file (old ++ bytes) := rfl

@[simp]
theorem extend_nil (item : Item) : item.extend [] = item := by
  cases item <;> simp [extend]

@[simp]
theorem size_file (bytes : List UInt8) : (Item.file bytes).size = bytes.length := rfl

@[simp]
theorem isFile_file (bytes : List UInt8) : (Item.file bytes).IsFile := trivial

@[simp]
theorem isFile_extend (bytes : List UInt8) (item : Item) :
    (item.extend bytes).IsFile ↔ item.IsFile := by
  cases item <;> rfl

end Item

/-- A finite history of nodes with the paths that link to them. -/
structure FileSystem (Path : Type u) where
  /-- The node a path links to. -/
  node : Path → Option ℕ
  /-- What a node holds. -/
  item : ℕ → Item
  /-- The next unused node. -/
  fresh : ℕ
  /-- Only used nodes are linked. -/
  node_lt : ∀ {path : Path} {n : ℕ}, node path = some n → n < fresh
  /-- A node has at most one path. -/
  node_inj : ∀ {first second : Path} {n : ℕ},
    node first = some n → node second = some n → first = second

namespace FileSystem

variable {Path : Type u}

/-- A file system without any item. -/
def empty : FileSystem Path where
  node _ := none
  item _ := .file []
  fresh := 0
  node_lt := by simp
  node_inj := by simp

/-- The item at a path. -/
def lookup (files : FileSystem Path) (path : Path) : Option Item :=
  (files.node path).map files.item

/-- Some item is at the path. -/
def Occupied (files : FileSystem Path) (path : Path) : Prop :=
  (files.lookup path).isSome = true

instance (files : FileSystem Path) (path : Path) : Decidable (files.Occupied path) :=
  inferInstanceAs (Decidable ((files.lookup path).isSome = true))

/-- Add bytes at the end of a node. -/
def append (files : FileSystem Path) (n : ℕ) (bytes : List UInt8) : FileSystem Path where
  node := files.node
  item := Function.update files.item n ((files.item n).extend bytes)
  fresh := files.fresh
  node_lt := files.node_lt
  node_inj := files.node_inj

/-- The bytes of the regular file at a path. -/
def bytesAt (files : FileSystem Path) (path : Path) : List UInt8 :=
  match files.lookup path with
  | some (.file bytes) => bytes
  | _ => []

variable [DecidableEq Path]

/-- Link a path to a new node that holds the item. -/
def put (files : FileSystem Path) (path : Path) (item : Item) : FileSystem Path where
  node := Function.update files.node path (some files.fresh)
  item := Function.update files.item files.fresh item
  fresh := files.fresh + 1
  node_lt := by
    intro other n linked
    by_cases same : other = path
    · subst same
      simp only [Function.update_self, Option.some.injEq] at linked
      omega
    · rw [Function.update_of_ne same] at linked
      have := files.node_lt linked
      omega
  node_inj := by
    intro first second n firstLinked secondLinked
    by_cases firstSame : first = path <;> by_cases secondSame : second = path
    · rw [firstSame, secondSame]
    · subst firstSame
      rw [Function.update_of_ne secondSame] at secondLinked
      simp only [Function.update_self, Option.some.injEq] at firstLinked
      have := files.node_lt secondLinked
      omega
    · subst secondSame
      rw [Function.update_of_ne firstSame] at firstLinked
      simp only [Function.update_self, Option.some.injEq] at secondLinked
      have := files.node_lt firstLinked
      omega
    · rw [Function.update_of_ne firstSame] at firstLinked
      rw [Function.update_of_ne secondSame] at secondLinked
      exact files.node_inj firstLinked secondLinked

/-- Create an empty regular file at a free path; an occupied path stays as it is. -/
def touch (files : FileSystem Path) (path : Path) : FileSystem Path :=
  if files.Occupied path then files else files.put path (.file [])

/-- The node a writer gets when it opens the path. -/
def writable (files : FileSystem Path) (path : Path) : Option ℕ :=
  match files.lookup path with
  | some (.file _) => files.node path
  | _ => none

/-- Unlink a path. -/
def remove (files : FileSystem Path) (path : Path) : FileSystem Path where
  node := Function.update files.node path none
  item := files.item
  fresh := files.fresh
  node_lt := by
    intro other n linked
    by_cases same : other = path
    · subst same
      simp at linked
    · rw [Function.update_of_ne same] at linked
      exact files.node_lt linked
  node_inj := by
    intro first second n firstLinked secondLinked
    by_cases firstSame : first = path
    · subst firstSame
      simp at firstLinked
    · by_cases secondSame : second = path
      · subst secondSame
        simp at secondLinked
      · rw [Function.update_of_ne firstSame] at firstLinked
        rw [Function.update_of_ne secondSame] at secondLinked
        exact files.node_inj firstLinked secondLinked

/-- A move needs an item to move and a free destination. -/
def Movable (files : FileSystem Path) (source target : Path) : Prop :=
  files.Occupied source ∧ ¬files.Occupied target

instance (files : FileSystem Path) (source target : Path) :
    Decidable (files.Movable source target) :=
  inferInstanceAs (Decidable (_ ∧ _))

/-- Link a free path to the node of another path, which is unlinked. -/
def move (files : FileSystem Path) (source target : Path) : FileSystem Path where
  node := Function.update (Function.update files.node source none) target (files.node source)
  item := files.item
  fresh := files.fresh
  node_lt := by
    intro path n linked
    by_cases atTarget : path = target
    · subst atTarget
      rw [Function.update_self] at linked
      exact files.node_lt linked
    · rw [Function.update_of_ne atTarget] at linked
      by_cases atSource : path = source
      · subst atSource
        simp at linked
      · rw [Function.update_of_ne atSource] at linked
        exact files.node_lt linked
  node_inj := by
    have origin : ∀ {path : Path} {n : ℕ},
        Function.update (Function.update files.node source none) target
          (files.node source) path = some n →
        (path = target ∧ files.node source = some n) ∨
          (path ≠ target ∧ path ≠ source ∧ files.node path = some n) := by
      intro path n linked
      by_cases atTarget : path = target
      · subst atTarget
        rw [Function.update_self] at linked
        exact Or.inl ⟨rfl, linked⟩
      · rw [Function.update_of_ne atTarget] at linked
        by_cases atSource : path = source
        · subst atSource
          simp at linked
        · rw [Function.update_of_ne atSource] at linked
          exact Or.inr ⟨atTarget, atSource, linked⟩
    intro first second n firstLinked secondLinked
    rcases origin firstLinked with ⟨firstEq, firstNode⟩ | ⟨_, firstNe, firstNode⟩
    · rcases origin secondLinked with ⟨secondEq, _⟩ | ⟨_, secondNe, secondNode⟩
      · rw [firstEq, secondEq]
      · exact absurd (files.node_inj secondNode firstNode) secondNe
    · rcases origin secondLinked with ⟨_, secondNode⟩ | ⟨_, _, secondNode⟩
      · exact absurd (files.node_inj firstNode secondNode) firstNe
      · exact files.node_inj firstNode secondNode

/-- Put a list of items, the first one first. -/
def ofList (items : List (Path × Item)) : FileSystem Path :=
  items.foldl (fun files entry => files.put entry.1 entry.2) empty

omit [DecidableEq Path] in
@[simp]
theorem lookup_empty (path : Path) : (empty : FileSystem Path).lookup path = none := rfl

omit [DecidableEq Path] in
@[simp]
theorem occupied_iff {files : FileSystem Path} {path : Path} :
    files.Occupied path ↔ ∃ item, files.lookup path = some item :=
  Option.isSome_iff_exists

omit [DecidableEq Path] in
theorem lookup_eq_of_node {files : FileSystem Path} {path : Path} {n : ℕ}
    (linked : files.node path = some n) : files.lookup path = some (files.item n) := by
  simp [lookup, linked]

omit [DecidableEq Path] in
theorem node_of_lookup {files : FileSystem Path} {path : Path} {item : Item}
    (found : files.lookup path = some item) :
    ∃ n, files.node path = some n ∧ files.item n = item := by
  simpa [lookup] using found

omit [DecidableEq Path] in
theorem not_occupied_iff {files : FileSystem Path} {path : Path} :
    ¬files.Occupied path ↔ files.lookup path = none := by
  simp [Occupied]

theorem lookup_put (files : FileSystem Path) (path other : Path) (item : Item) :
    (files.put path item).lookup other =
      if other = path then some item else files.lookup other := by
  by_cases same : other = path
  · subst same
    simp [lookup, put]
  · rw [if_neg same]
    simp only [lookup, put, Function.update_of_ne same]
    cases linked : files.node other with
    | none => rfl
    | some n =>
        have used := files.node_lt linked
        simp [Function.update_of_ne (show n ≠ files.fresh by omega)]

theorem lookup_touch (files : FileSystem Path) (path other : Path) :
    (files.touch path).lookup other =
      if other = path then some ((files.lookup path).getD (.file [])) else files.lookup other := by
  unfold touch
  split
  case isTrue occupied =>
    rcases occupied_iff.mp occupied with ⟨item, found⟩
    split
    case isTrue same =>
      subst same
      simp [found]
    case isFalse => rfl
  case isFalse free =>
    rw [lookup_put, not_occupied_iff.mp free]
    rfl

/-- Touching a path is noticed unless there is an item already. -/
theorem touch_eq_self_iff {files : FileSystem Path} {path : Path} :
    files.touch path = files ↔ files.Occupied path := by
  constructor
  · intro same
    have touched := lookup_touch files path path
    rw [same, if_pos rfl] at touched
    rw [Occupied, touched]
    rfl
  · intro occupied
    exact if_pos occupied

omit [DecidableEq Path] in
/-- Only the path linked to the written node sees the bytes. -/
theorem lookup_append (files : FileSystem Path) (n : ℕ) (bytes : List UInt8)
    (other : Path) :
    (files.append n bytes).lookup other =
      if files.node other = some n then (files.lookup other).map (Item.extend bytes)
      else files.lookup other := by
  simp only [lookup, append]
  cases linked : files.node other with
  | none => simp
  | some m =>
      by_cases same : m = n
      · subst same
        simp
      · simp [same]

omit [DecidableEq Path] in
@[simp]
theorem node_append (files : FileSystem Path) (n : ℕ) (bytes : List UInt8) :
    (files.append n bytes).node = files.node := rfl

omit [DecidableEq Path] in
@[simp]
theorem append_nil (files : FileSystem Path) (n : ℕ) : files.append n [] = files := by
  simp [append]

theorem lookup_remove (files : FileSystem Path) (path other : Path) :
    (files.remove path).lookup other = if other = path then none else files.lookup other := by
  simp only [lookup, remove, Function.update_apply]
  split <;> rfl

theorem lookup_move (files : FileSystem Path) (source target other : Path) :
    (files.move source target).lookup other =
      if other = target then files.lookup source
      else if other = source then none else files.lookup other := by
  simp only [lookup, move, Function.update_apply]
  split
  · rfl
  · split <;> rfl

omit [DecidableEq Path] in
/-- An opened regular file is written through the node its path links to. -/
theorem writable_eq_some_iff {files : FileSystem Path} {path : Path} {n : ℕ} :
    files.writable path = some n ↔ files.node path = some n ∧ (files.item n).IsFile := by
  unfold writable lookup
  cases linked : files.node path with
  | none => simp
  | some m =>
      cases kind : files.item m with
      | file bytes =>
          simp only [Option.map_some, kind, Option.some.injEq]
          constructor
          · rintro rfl
            simp [kind]
          · exact And.left
      | directory size =>
          simp only [Option.map_some, kind, Option.some.injEq]
          constructor
          · simp
          · rintro ⟨rfl, isFile⟩
            simp [kind, Item.IsFile] at isFile

theorem node_touch_of_ne {files : FileSystem Path} {path other : Path} (ne : other ≠ path) :
    (files.touch path).node other = files.node other := by
  unfold touch
  split
  · rfl
  · simp [put, Function.update_of_ne ne]

theorem node_move_of_ne {files : FileSystem Path} {source target other : Path}
    (notSource : other ≠ source) (notTarget : other ≠ target) :
    (files.move source target).node other = files.node other := by
  simp [move, Function.update_of_ne notSource, Function.update_of_ne notTarget]

section Outside

variable {inside : Path → Prop} {files after last : FileSystem Path} {path source target : Path}
  {n : ℕ}

/-- Nothing but these paths has changed. -/
def SameOutside (inside : Path → Prop) (files after : FileSystem Path) : Prop :=
  ∀ path, ¬inside path → after.lookup path = files.lookup path ∧ after.node path = files.node path

/-- No other path links to the node. -/
def HeldInside (inside : Path → Prop) (files : FileSystem Path) (n : ℕ) : Prop :=
  ∀ path, files.node path = some n → inside path

omit [DecidableEq Path] in
theorem SameOutside.refl (inside : Path → Prop) (files : FileSystem Path) :
    files.SameOutside inside files :=
  fun _ _ => ⟨rfl, rfl⟩

omit [DecidableEq Path] in
theorem SameOutside.trans (first : files.SameOutside inside after)
    (second : after.SameOutside inside last) : files.SameOutside inside last :=
  fun path outside => ⟨(second path outside).1.trans (first path outside).1,
    (second path outside).2.trans (first path outside).2⟩

omit [DecidableEq Path] in
theorem SameOutside.heldInside (same : files.SameOutside inside after)
    (held : files.HeldInside inside n) : after.HeldInside inside n := by
  intro path linked
  by_contra outside
  rw [(same path outside).2] at linked
  exact outside (held path linked)

omit [DecidableEq Path] in
theorem heldInside_of_linked (within : inside path) (linked : files.node path = some n) :
    files.HeldInside inside n := by
  intro other otherLinked
  rw [files.node_inj otherLinked linked]
  exact within

theorem sameOutside_touch (within : inside path) : files.SameOutside inside (files.touch path) := by
  intro other outside
  have different : other ≠ path := by
    rintro rfl
    exact outside within
  rw [lookup_touch, if_neg different]
  exact ⟨rfl, node_touch_of_ne different⟩

theorem sameOutside_remove (within : inside path) :
    files.SameOutside inside (files.remove path) := by
  intro other outside
  have different : other ≠ path := by
    rintro rfl
    exact outside within
  rw [lookup_remove, if_neg different]
  exact ⟨rfl, Function.update_of_ne different _ _⟩

theorem sameOutside_move (fromWithin : inside source) (toWithin : inside target) :
    files.SameOutside inside (files.move source target) := by
  intro other outside
  have notSource : other ≠ source := by
    rintro rfl
    exact outside fromWithin
  have notTarget : other ≠ target := by
    rintro rfl
    exact outside toWithin
  rw [lookup_move, if_neg notTarget, if_neg notSource]
  exact ⟨rfl, node_move_of_ne notSource notTarget⟩

omit [DecidableEq Path] in
theorem sameOutside_append (held : files.HeldInside inside n) (bytes : List UInt8) :
    files.SameOutside inside (files.append n bytes) := by
  intro other outside
  rw [lookup_append, if_neg (fun linked => outside (held other linked)), node_append]
  exact ⟨rfl, rfl⟩

end Outside

section BytesAt

variable {files after : FileSystem Path} {path source target : Path} {bytes : List UInt8}

omit [DecidableEq Path] in
theorem bytesAt_congr (same : after.lookup path = files.lookup path) :
    after.bytesAt path = files.bytesAt path := by
  rw [bytesAt, bytesAt, same]

omit [DecidableEq Path] in
theorem bytesAt_of_lookup (found : files.lookup path = some (.file bytes)) :
    files.bytesAt path = bytes := by
  rw [bytesAt, found]

omit [DecidableEq Path] in
theorem bytesAt_of_free (free : ¬files.Occupied path) : files.bytesAt path = [] := by
  rw [bytesAt, not_occupied_iff.mp free]

@[simp]
theorem bytesAt_touch (files : FileSystem Path) (path other : Path) :
    (files.touch path).bytesAt other = files.bytesAt other := by
  by_cases same : other = path
  · rw [bytesAt, bytesAt, lookup_touch, if_pos same, same]
    cases files.lookup path <;> rfl
  · rw [bytesAt, bytesAt, lookup_touch, if_neg same]

omit [DecidableEq Path] in
theorem bytesAt_append {n : ℕ} (linked : files.node path = some n)
    (isFile : (files.item n).IsFile) :
    (files.append n bytes).bytesAt path = files.bytesAt path ++ bytes := by
  cases held : files.item n with
  | file old =>
      have present : files.lookup path = some (.file old) := by
        rw [lookup_eq_of_node linked, held]
      rw [bytesAt_of_lookup present]
      apply bytesAt_of_lookup
      rw [lookup_append, if_pos linked, present]
      rfl
  | directory size =>
      rw [held] at isFile
      exact isFile.elim

/-- A move hands the bytes of its source over to its target. -/
theorem bytesAt_move (movable : files.Movable source target) (different : source ≠ target) :
    (files.move source target).bytesAt source = [] ∧
      (files.move source target).bytesAt target = files.bytesAt source ∧
      files.bytesAt target = [] := by
  refine ⟨?_, ?_, bytesAt_of_free movable.2⟩
  · rw [bytesAt, lookup_move, if_neg different, if_pos rfl]
  · rw [bytesAt, lookup_move, if_pos rfl, bytesAt]

end BytesAt

end FileSystem

end ZFBaseFramework
