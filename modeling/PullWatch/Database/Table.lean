/-!
# Tables

A table keeps its rows in the order of their insertion, each under an id that it hands out itself:
ids count up from 1 and none is handed out twice.

## Main definitions

* `Table`, `Table.insert`, `Table.modify?`, `Table.get?`, `Table.select`.
-/

namespace PullWatch

/-- Rows with the ids that the table handed out. -/
structure Table (ρ : Type) where
  rows : List (Int × ρ) := []
  /-- The id handed out last. -/
  lastId : Nat := 0

namespace Table

variable {ρ : Type}

/-- Adds a row at the end; also tells its id. -/
def insert (t : Table ρ) (row : ρ) : Int × Table ρ :=
  let id := t.lastId + 1
  (id, { rows := t.rows ++ [((id : Int), row)], lastId := id })

/-- The row of an id. -/
def get? (t : Table ρ) (id : Int) : Option ρ := (t.rows.find? fun r => r.1 = id).map (·.2)

/-- Changes the row of an id; absent when there is no such row. -/
def modify? (t : Table ρ) (id : Int) (change : ρ → ρ) : Option (Table ρ) :=
  if t.rows.any fun r => r.1 = id then
    some { t with rows := t.rows.map fun r => if r.1 = id then (r.1, change r.2) else r }
  else none

/-- The rows that satisfy a condition, with their ids, in order of insertion. -/
def select (t : Table ρ) (condition : ρ → Bool) : List (Int × ρ) :=
  t.rows.filter fun r => condition r.2

/-- The first row that satisfies a condition, with its id. -/
def find? (t : Table ρ) (condition : ρ → Bool) : Option (Int × ρ) :=
  t.rows.find? fun r => condition r.2

/-- Some row satisfies a condition. -/
def any (t : Table ρ) (condition : ρ → Bool) : Bool := t.rows.any fun r => condition r.2

/-- There is a row of this id. -/
def hasId (t : Table ρ) (id : Int) : Bool := t.rows.any fun r => r.1 = id

/-- The number of rows. -/
def size (t : Table ρ) : Nat := t.rows.length

end Table

end PullWatch
