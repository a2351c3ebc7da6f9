/-
**What sessions remember of stored drafts.**

A session may remember a row that another session has changed since. Still, what it remembers is an
earlier state of that row, and of the same version only if it is the same record: the version of a
row goes up with every change. This holds in every store that steps lead to (`Store.Sound`), and
reading keeps it.

* `Record.Precedes`: an earlier state of a draft;
* `Store.Sound`: rows are numbered through, and sessions remember earlier states of them;
* `Store.seen`: what a session is shown of a row;
* `Store.Refreshes`: a session forgets or reads rows, and nothing else happens;
* `Store.Sound.put`, `Store.Sound.insert`: rows may be replaced by later states, and appended.
-/
import Recurrence.Store.Step

namespace Recurrence

/-! ### States of a draft -/

/-- The record is a state of the same draft as another, and an earlier one unless they are equal. -/
structure Record.Precedes (earlier later : Record) : Prop where
  id : earlier.id = later.id
  name : earlier.name = later.name
  version : earlier.version ≤ later.version
  same : earlier.version = later.version → earlier = later

namespace Record.Precedes

theorem refl (record : Record) : record.Precedes record :=
  ⟨rfl, rfl, Int.le_refl _, fun _ => rfl⟩

theorem trans {first second third : Record} (before : first.Precedes second)
    (after : second.Precedes third) : first.Precedes third where
  id := before.id.trans after.id
  name := before.name.trans after.name
  version := Int.le_trans before.version after.version
  same equal := by
    have order := before.version
    have order' := after.version
    exact (before.same (by omega)).trans (after.same (by omega))

end Record.Precedes

namespace Store

/-! ### Numbered rows -/

/-- The rows are numbered from 1 on in their order. -/
def Numbered (store : Store) : Prop :=
  ∀ (index : Nat) (row : Record), store.rows[index]? = some row → row.id = index + 1

/-- Rows of one number are one row. -/
theorem Numbered.unique {store : Store} (numbered : store.Numbered) {first second : Record}
    (inside : first ∈ store.rows) (inside' : second ∈ store.rows) (same : first.id = second.id) :
    first = second := by
  obtain ⟨index, found⟩ := List.mem_iff_getElem?.mp inside
  obtain ⟨index', found'⟩ := List.mem_iff_getElem?.mp inside'
  have number := numbered index first found
  have number' := numbered index' second found'
  have place : index = index' := by omega
  rw [place, found'] at found
  exact (Option.some_inj.mp found).symm

theorem id_of_row? {store : Store} {id : Int} {row : Record} (stored : store.row? id = some row) :
    row.id = id := by
  simpa using List.find?_some stored

theorem mem_of_row? {store : Store} {id : Int} {row : Record} (stored : store.row? id = some row) :
    row ∈ store.rows :=
  List.mem_of_find?_eq_some stored

/-- **The row with a number is found under that number.** -/
theorem Numbered.row?_of_mem {store : Store} (numbered : store.Numbered) {row : Record}
    (inside : row ∈ store.rows) : store.row? row.id = some row := by
  cases search : store.row? row.id with
  | none =>
    have missing := List.find?_eq_none.mp search row inside
    simp at missing
  | some found =>
    rw [numbered.unique (mem_of_row? search) inside (id_of_row? search)]

theorem numbered_put {store : Store} (numbered : store.Numbered) (record : Record) :
    (store.put record).Numbered := by
  intro index row found
  simp only [put, List.getElem?_map, Option.map_eq_some_iff] at found
  obtain ⟨former, place, rfl⟩ := found
  have number := numbered index former place
  split
  · omega
  · exact number

theorem numbered_insert {store : Store} (numbered : store.Numbered) {record : Record}
    (next : record.id = store.nextId) : (store.insert record).Numbered := by
  intro index row found
  simp only [insert] at found
  by_cases former : index < store.rows.length
  · rw [List.getElem?_append_left former] at found
    exact numbered index row found
  · rw [List.getElem?_append_right (Nat.not_lt.mp former)] at found
    obtain ⟨here, rfl⟩ : index - store.rows.length = 0 ∧ record = row := by
      simpa [List.getElem?_singleton] using found
    rw [next, nextId]
    omega

/-- After a row is appended, the rows before are found as they were. -/
theorem row?_insert {store : Store} {record : Record} (id : Int) :
    (store.insert record).row? id =
      (store.row? id).or (if record.id = id then some record else none) := by
  simp only [row?, insert, List.find?_append, List.find?_singleton, decide_eq_true_eq]

/-- No row has the next number yet. -/
theorem Numbered.row?_nextId {store : Store} (numbered : store.Numbered) :
    store.row? store.nextId = none := by
  cases search : store.row? store.nextId with
  | none => rfl
  | some row =>
    obtain ⟨index, found⟩ := List.mem_iff_getElem?.mp (mem_of_row? search)
    have number := numbered index row found
    have next := id_of_row? search
    have inside := (List.getElem?_eq_some_iff.mp found).1
    unfold nextId at next
    omega

/-- A row that is appended under the next number is found there. -/
theorem Numbered.row?_insert_self {store : Store} (numbered : store.Numbered) {record : Record}
    (next : record.id = store.nextId) : (store.insert record).row? record.id = some record := by
  rw [row?_insert, if_pos rfl, next, numbered.row?_nextId, Option.none_or]

/-! ### Copies of rows -/

/-- The rows are numbered through, and what a session remembers under a number is an earlier state
of the row with that number. -/
structure Sound (store : Store) : Prop where
  numbered : store.Numbered
  copies : ∀ (session : Text) (id : Int) (copy : Record),
    store.remembered session id = some copy →
      ∃ row, store.row? id = some row ∧ copy.Precedes row

theorem sound_empty : empty.Sound where
  numbered _ _ found := by simp [empty, ofRows] at found
  copies _ _ _ known := by simp [empty, ofRows] at known

namespace Sound

variable {store : Store}

/-- **A row may be replaced by a later state of it.** -/
theorem put (sound : store.Sound) {row written : Record} (stored : store.row? row.id = some row)
    (later : row.Precedes written) : (store.put written).Sound where
  numbered := numbered_put sound.numbered written
  copies session id copy known := by
    obtain ⟨former, found, before⟩ := sound.copies session id copy known
    rw [row?_put, found]
    by_cases own : id = written.id
    · rw [own, ← later.id, stored] at found
      rw [if_pos own]
      refine ⟨written, rfl, before.trans ?_⟩
      rw [← Option.some_inj.mp found]
      exact later
    · rw [if_neg own]
      exact ⟨former, rfl, before⟩

/-- **A row may be appended under the next number.** -/
theorem insert (sound : store.Sound) {record : Record} (next : record.id = store.nextId) :
    (store.insert record).Sound where
  numbered := numbered_insert sound.numbered next
  copies session id copy known := by
    obtain ⟨row, found, before⟩ := sound.copies session id copy known
    refine ⟨row, ?_, before⟩
    rw [row?_insert, found]
    rfl

end Sound

/-! ### What a session is shown -/

/-- What a session is shown under a number: what it remembers, or else the row. -/
def seen (store : Store) (session : Text) (id : Int) : Option Record :=
  (store.remembered session id).or (store.row? id)

theorem seen_of_remembered {store : Store} {session : Text} {id : Int} {copy : Record}
    (known : store.remembered session id = some copy) : store.seen session id = some copy := by
  rw [seen, known, Option.some_or]

theorem seen_of_unknown {store : Store} {session : Text} {id : Int}
    (unknown : store.remembered session id = none) : store.seen session id = store.row? id := by
  rw [seen, unknown, Option.none_or]

/-- **What a session is shown is an earlier state of a row.** -/
theorem Sound.precedes_of_seen {store : Store} (sound : store.Sound) {session : Text} {id : Int}
    {record : Record} (shown : store.seen session id = some record) :
    ∃ row, store.row? id = some row ∧ record.Precedes row := by
  cases known : store.remembered session id with
  | none =>
    rw [seen_of_unknown known] at shown
    exact ⟨record, shown, .refl record⟩
  | some copy =>
    rw [seen_of_remembered known] at shown
    rw [← Option.some_inj.mp shown]
    exact sound.copies session id copy known

theorem Sound.id_of_seen {store : Store} (sound : store.Sound) {session : Text} {id : Int}
    {record : Record} (shown : store.seen session id = some record) : record.id = id := by
  obtain ⟨row, stored, before⟩ := sound.precedes_of_seen shown
  exact before.id.trans (id_of_row? stored)

/-! ### Reading and forgetting -/

/-- A session reads rows as they are stored, or forgets some. The rows and what other sessions
remember stay. -/
structure Refreshes (session : Text) (before after : Store) : Prop where
  rows : after.rows = before.rows
  others : ∀ (other : Text) (id : Int), other ≠ session →
    after.remembered other id = before.remembered other id
  own : ∀ (id : Int) (copy : Record), after.remembered session id = some copy →
    before.remembered session id = some copy ∨ before.row? id = some copy

namespace Refreshes

variable {session : Text} {before between after : Store}

theorem refl (session : Text) (store : Store) : Refreshes session store store :=
  ⟨rfl, fun _ _ _ => rfl, fun _ _ known => Or.inl known⟩

theorem row?_eq (refreshes : Refreshes session before after) (id : Int) :
    after.row? id = before.row? id := by
  unfold row?
  rw [refreshes.rows]

theorem trans (first : Refreshes session before between)
    (second : Refreshes session between after) : Refreshes session before after where
  rows := second.rows.trans first.rows
  others other id different :=
    (second.others other id different).trans (first.others other id different)
  own id copy known := by
    rcases second.own id copy known with kept | read
    · exact first.own id copy kept
    · rw [first.row?_eq] at read
      exact Or.inr read

theorem forget (refreshes : Refreshes session before after) :
    Refreshes session before (after.forget session) where
  rows := refreshes.rows
  others other id different := by
    simp only [Store.forget, if_neg different]
    exact refreshes.others other id different
  own id copy known := by
    simp [Store.forget] at known

/-- Once it has forgotten, a session goes on as if it had not read before. -/
theorem forget_eq (refreshes : Refreshes session before after) :
    after.forget session = before.forget session := by
  unfold Store.forget
  rw [refreshes.rows]
  congr 1
  funext other id
  split
  · rfl
  · exact refreshes.others other id ‹_›

/-- A session may remember what it did before, or what is stored. -/
theorem remember (refreshes : Refreshes session before after) {record : Record}
    (known : before.remembered session record.id = some record ∨
      before.row? record.id = some record) :
    Refreshes session before (after.remember session record) where
  rows := refreshes.rows
  others other id different := by
    simp only [Store.remember, different, false_and, if_false]
    exact refreshes.others other id different
  own id copy found := by
    simp only [Store.remember, true_and] at found
    by_cases here : id = record.id
    · rw [if_pos here] at found
      rw [here, ← Option.some_inj.mp found]
      exact known
    · rw [if_neg here] at found
      exact refreshes.own id copy found

/-- **Reading and forgetting keeps a store sound.** -/
theorem sound (refreshes : Refreshes session before after) (sound : before.Sound) :
    after.Sound where
  numbered index row found := by
    rw [refreshes.rows] at found
    exact sound.numbered index row found
  copies other id copy known := by
    rw [refreshes.row?_eq]
    by_cases own : other = session
    · rw [own] at known
      rcases refreshes.own id copy known with kept | read
      · exact sound.copies session id copy kept
      · exact ⟨copy, read, .refl copy⟩
    · rw [refreshes.others other id own] at known
      exact sound.copies other id copy known

end Refreshes

end Store

end Recurrence
