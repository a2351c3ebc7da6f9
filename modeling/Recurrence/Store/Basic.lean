/-
**Stored drafts and the sessions that edit them.**

The table holds one row per draft, numbered from 1 in order of creation. A session remembers each
row that it has read, until it saves, fails to save, or is told to forget; what it remembers it does
not read again, even if another session has changed the row. So an edit compares the version it
expects with the remembered one first and with the stored one when it saves.

* `Store.row?_put`: after a row is written, that row is found there and every other row as before.
-/
import Recurrence.Store.Record

namespace Recurrence

/-- A table of drafts and what its sessions remember of it. -/
structure Store where
  rows : List Record
  /-- The records that a session remembers, by their numbers. -/
  remembered : (session : Text) → (id : Int) → Option Record

namespace Store

/-- A table with some rows that no session has read. -/
def ofRows (rows : List Record) : Store := ⟨rows, fun _ _ => none⟩

/-- The empty table. -/
def empty : Store := ofRows []

/-- The row with a number. -/
def row? (store : Store) (id : Int) : Option Record := store.rows.find? (·.id = id)

/-- The store with a row written in place of the one with its number. -/
def put (store : Store) (record : Record) : Store :=
  { store with rows := store.rows.map fun row => if row.id = record.id then record else row }

/-- The store with a row more. -/
def insert (store : Store) (record : Record) : Store :=
  { store with rows := store.rows ++ [record] }

/-- The number of the next draft. -/
def nextId (store : Store) : Int := store.rows.length + 1

/-- A session remembers a record. -/
def remember (store : Store) (session : Text) (record : Record) : Store :=
  { store with remembered := fun other id =>
      if other = session ∧ id = record.id then some record else store.remembered other id }

/-- A session forgets what it has read. -/
def forget (store : Store) (session : Text) : Store :=
  { store with remembered := fun other id =>
      if other = session then none else store.remembered other id }

/-- After a row is written, that row is found there and every other row as before. -/
theorem row?_put (store : Store) (record : Record) (id : Int) :
    (store.put record).row? id =
      if id = record.id then (store.row? id).map fun _ => record else store.row? id := by
  obtain ⟨rows, remembered⟩ := store
  simp only [row?, put]
  induction rows with
  | nil => simp
  | cons row rows ih =>
    by_cases own : row.id = record.id <;> by_cases asked : id = record.id
    · subst asked
      simp [own]
    · have other : ¬ row.id = id := fun same => asked (same.symm.trans own)
      have kept : ¬ record.id = id := fun same => asked same.symm
      simpa [own, asked, other, kept] using ih
    · subst asked
      simpa [own] using ih
    · by_cases here : row.id = id
      · simp [asked, here]
      · simpa [own, asked, here] using ih

end Store

end Recurrence
