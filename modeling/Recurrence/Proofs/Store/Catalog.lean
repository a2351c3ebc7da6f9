/-
**A catalogue of drafts.**

Whoever is not interrupted need not know of rows, columns and memories: the store is a list of named
rules with versions, numbered from 1 on. Here is what each step does to such a list. A step that
writes either changes one entry, or it fails and changes nothing (`Catalog.commit`). What is wrong
with an edit is reported in this order: the number, the new rule, the expected version, the
interval; and the version goes up by one exactly when the new rule is another one (`Entry.revise`).

* `Entry.edit_int_cases`: what an edit comes to;
* `Catalog.step`, `Catalog.run`: the steps, without sessions;
* `Catalog.getElem?_records`, `Store.Numbered.row?_records`: the records of a catalogue by number;
* `Catalog.records_put`, `Catalog.records_put_new`: how the records change with an entry.
-/
import Recurrence.Proofs.Store.Editing

namespace Recurrence

/-! ### Entries -/

/-- A named rule at a version. -/
structure Entry where
  name : String
  version : Int
  rule : Rule
deriving DecidableEq

namespace Entry

/-- The record of an entry under a number. -/
def record (entry : Entry) (id : Int) : Record where
  id := id
  name := entry.name
  version := entry.version
  columns := .ofRule entry.rule

@[simp]
theorem record_version (entry : Entry) (id : Int) : (entry.record id).version = entry.version :=
  rfl

@[simp]
theorem record_columns (entry : Entry) (id : Int) :
    (entry.record id).columns = .ofRule entry.rule :=
  rfl

/-- The entry for a new draft. -/
def ofDraft (name : Value) (draft : Draft) : Except Error Entry := do
  let rule ← draft.toRule
  let name ← Store.storedName name
  if Fits64 rule.interval then return { name, version := 1, rule }
  else throw (.store .numberTooWide)

/-- The entry with a rule in place of its own, at the next version if the rule is another one. -/
def revise (entry : Entry) (rule : Rule) : Entry :=
  if rule = entry.rule then entry else { entry with version := entry.version + 1, rule }

theorem revise_self (entry : Entry) : entry.revise entry.rule = entry :=
  if_pos rfl

theorem record_revise {entry : Entry} {rule : Rule} (changed : rule ≠ entry.rule) (id : Int) :
    (entry.revise rule).record id = (entry.record id).revise rule := by
  unfold revise
  rw [if_neg changed]
  rfl

/-- The entry under a number after an edit that expects a version of it. -/
def edit (entry : Entry) (id : Int) (expected : Value) (rule : Rule) : Except Error Entry :=
  if ¬ (Value.int entry.version).equivalent expected then
    .error (.stale id entry.version expected)
  else if ¬ Fits64 rule.interval then .error (.store .numberTooWide)
  else .ok (entry.revise rule)

/-- An edit expects another version, or has a rule that cannot be stored, or revises the entry. -/
theorem edit_int_cases (entry : Entry) (id expected : Int) (rule : Rule) :
    (entry.version ≠ expected ∧ entry.edit id (.int expected) rule =
        .error (.stale id entry.version (.int expected))) ∨
      (entry.version = expected ∧ ¬ Fits64 rule.interval ∧
        entry.edit id (.int expected) rule = .error (.store .numberTooWide)) ∨
      entry.version = expected ∧ Fits64 rule.interval ∧
        entry.edit id (.int expected) rule = .ok (entry.revise rule) := by
  unfold edit
  by_cases version : entry.version = expected
  · rw [if_neg (not_not_intro (Value.equivalent_int.mpr version))]
    by_cases fits : Fits64 rule.interval
    · rw [if_neg (not_not_intro fits)]
      exact Or.inr (Or.inr ⟨version, fits, rfl⟩)
    · rw [if_pos fits]
      exact Or.inr (Or.inl ⟨version, fits, rfl⟩)
  · have other : ¬ (Value.int entry.version).equivalent (.int expected) = true :=
      fun same => version (Value.equivalent_int.mp same)
    rw [if_pos other]
    exact Or.inl ⟨version, rfl⟩

end Entry

/-! ### Catalogues -/

/-- Entries that are numbered from 1 on. -/
abbrev Catalog := List Entry

namespace Catalog

/-- The entry with a number, and the number. -/
def entry? (catalog : Catalog) (id : Int) : Option (Int × Entry) :=
  if 1 ≤ id then catalog[(id - 1).toNat]?.map fun entry => (id, entry) else none

/-- All records in order. -/
def records (catalog : Catalog) : List Record :=
  catalog.mapIdx fun index entry => entry.record (index + 1)

/-- The entry that a value asks for, and its number. -/
def find (catalog : Catalog) (id : Value) : Except Error (Int × Entry) :=
  Store.lookup catalog.entry? id

/-- The catalogue with an entry under a number, which is the next one if it is new. -/
def put (catalog : Catalog) (id : Int) (entry : Entry) : Catalog :=
  if id ≤ catalog.length then catalog.set (id - 1).toNat entry else catalog ++ [entry]

/-- Writes an entry under a number and answers with its record, unless there is a failure. -/
def commit (catalog : Catalog) (change : Except Error (Int × Entry)) :
    Except Error Outcome × Catalog :=
  match change with
  | .ok (id, entry) => (.ok (.record (entry.record id)), catalog.put id entry)
  | .error cause => (.error cause, catalog)

/-- An entry after an edit by a rule that is made of the entry, and its number. -/
def edited (catalog : Catalog) (id expected : Value) (ruleOf : Entry → Except Error Rule) :
    Except Error (Int × Entry) := do
  let (number, entry) ← catalog.find id
  let rule ← ruleOf entry
  return (number, ← entry.edit number expected rule)

/-- The draft that entries of a form make. -/
def filled (entries : List (Text × Value)) : Except Error Draft :=
  (Form.draft.fill entries).mapError .form

/-- Answers one step. -/
def step (catalog : Catalog) : Step → Except Error Outcome × Catalog
  | .create name entries => catalog.commit do
    return (catalog.length + 1, ← Entry.ofDraft name (← filled entries))
  | .get id => (do
      let (number, entry) ← catalog.find id
      return .record (entry.record number), catalog)
  | .list => (.ok (.records catalog.records), catalog)
  | .update id expected entries => catalog.commit do
    let draft ← filled entries
    catalog.edited id expected fun _ => draft.toRule
  | .switchKind id expected kind anchor => catalog.commit <|
    catalog.edited id expected fun entry => do
      ((← (Draft.ofRule entry.rule).switchKind kind anchor).toRule)
  | .rule id => (do
      let (_, entry) ← catalog.find id
      return .rule entry.rule, catalog)
  | .dates id bound => (do
      let (_, entry) ← catalog.find id
      return .dates (← entry.rule.dates (← Bound.ofEntries bound)), catalog)
  | .expire => (.ok .done, catalog)

/-- Answers steps, one after the other. -/
def run (catalog : Catalog) : List Step → List (Except Error Outcome) × Catalog
  | [] => ([], catalog)
  | step :: steps =>
    let (answer, catalog) := catalog.step step
    let (answers, catalog) := catalog.run steps
    (answer :: answers, catalog)

/-! ### Records of a catalogue -/

variable {catalog : Catalog}

@[simp]
theorem length_records (catalog : Catalog) : catalog.records.length = catalog.length :=
  List.length_mapIdx

theorem getElem?_records (catalog : Catalog) (index : Nat) :
    catalog.records[index]? = catalog[index]?.map fun entry => entry.record (index + 1) :=
  List.getElem?_mapIdx

theorem entry?_eq_some {id number : Int} {entry : Entry} :
    catalog.entry? id = some (number, entry) ↔
      number = id ∧ 1 ≤ id ∧ catalog[(id - 1).toNat]? = some entry := by
  unfold entry?
  by_cases positive : 1 ≤ id
  · rw [if_pos positive, Option.map_eq_some_iff]
    constructor
    · rintro ⟨other, found, same⟩
      cases same
      exact ⟨rfl, positive, found⟩
    · rintro ⟨rfl, _, found⟩
      exact ⟨entry, found, rfl⟩
  · rw [if_neg positive]
    exact ⟨nofun, fun ⟨_, first, _⟩ => absurd first positive⟩

/-- The records are those of the entries under their numbers. -/
theorem mem_records {row : Record} :
    row ∈ catalog.records ↔
      ∃ id entry, catalog.entry? id = some (id, entry) ∧ row = entry.record id := by
  rw [List.mem_iff_getElem?]
  constructor
  · rintro ⟨index, found⟩
    rw [getElem?_records, Option.map_eq_some_iff] at found
    obtain ⟨entry, there, same⟩ := found
    refine ⟨index + 1, entry, entry?_eq_some.mpr ⟨rfl, by omega, ?_⟩, same.symm⟩
    simpa using there
  · rintro ⟨id, entry, found, rfl⟩
    obtain ⟨_, first, there⟩ := entry?_eq_some.mp found
    refine ⟨(id - 1).toNat, ?_⟩
    have place : (((id - 1).toNat : Nat) : Int) + 1 = id := by omega
    rw [getElem?_records, there, Option.map_some, place]

/-- An entry that is written again as it is changes nothing. -/
theorem put_self {id : Int} {entry : Entry} (first : 1 ≤ id)
    (found : catalog[(id - 1).toNat]? = some entry) : catalog.put id entry = catalog := by
  obtain ⟨inside, rfl⟩ := List.getElem?_eq_some_iff.mp found
  unfold put
  rw [if_pos (by omega), List.set_getElem_self]

/-- An entry is found under the number that it is put under. -/
theorem entry?_put {id : Int} (first : 1 ≤ id) (inside : id ≤ catalog.length + 1)
    (entry : Entry) : Catalog.entry? (catalog.put id entry) id = some (id, entry) := by
  refine entry?_eq_some.mpr ⟨rfl, first, ?_⟩
  unfold put
  by_cases former : id ≤ catalog.length
  · rw [if_pos former, List.getElem?_set_self (by omega)]
  · have last : (id - 1).toNat = catalog.length := by omega
    rw [if_neg former, last, List.getElem?_concat_length]

/-- **A new entry is one record more.** -/
theorem records_put_new (catalog : Catalog) (entry : Entry) :
    (catalog.put (catalog.length + 1) entry).records =
      catalog.records ++ [entry.record (catalog.length + 1)] := by
  unfold put records
  rw [if_neg (by omega), List.mapIdx_concat]

/-- **An entry that is written again is written into its record.** -/
theorem records_put {id : Int} {former : Entry} (first : 1 ≤ id)
    (found : catalog[(id - 1).toNat]? = some former) (entry : Entry) :
    (catalog.put id entry).records =
      catalog.records.map fun row => if row.id = id then entry.record id else row := by
  have inside := (List.getElem?_eq_some_iff.mp found).1
  unfold put
  rw [if_pos (by omega)]
  refine List.ext_getElem? fun index => ?_
  rw [getElem?_records, List.getElem?_set, List.getElem?_map, getElem?_records]
  by_cases here : (id - 1).toNat = index
  · subst here
    have number : (((id - 1).toNat : Nat) : Int) + 1 = id := by omega
    rw [if_pos rfl, if_pos inside, found, number]
    simp only [Option.map_some, Entry.record, if_true]
  · rw [if_neg here]
    cases catalog[index]? with
    | none => rfl
    | some other =>
      have different : ¬ (index : Int) + 1 = id := by omega
      simp only [Option.map_some, Entry.record, if_neg different]

end Catalog

namespace Store

variable {store : Store} {catalog : Catalog}

/-- A row is found under a number at the place of that number. -/
theorem Numbered.row?_eq_some_iff (numbered : store.Numbered) {id : Int} {row : Record} :
    store.row? id = some row ↔ 1 ≤ id ∧ store.rows[(id - 1).toNat]? = some row := by
  constructor
  · intro stored
    obtain ⟨index, found⟩ := List.mem_iff_getElem?.mp (mem_of_row? stored)
    have number := numbered index row found
    rw [id_of_row? stored] at number
    have place : (id - 1).toNat = index := by omega
    rw [place]
    exact ⟨by omega, found⟩
  · rintro ⟨first, found⟩
    have number := numbered _ row found
    have same : row.id = id := by omega
    rw [← same]
    exact numbered.row?_of_mem (List.mem_of_getElem? found)

/-- **The rows of a catalogue are found under the numbers of its entries.** -/
theorem Numbered.row?_records (numbered : store.Numbered) (rows : store.rows = catalog.records)
    (id : Int) :
    store.row? id = (catalog.entry? id).map fun found => found.2.record found.1 := by
  refine Option.ext fun row => ?_
  rw [numbered.row?_eq_some_iff, rows, Catalog.getElem?_records, Option.map_eq_some_iff,
    Option.map_eq_some_iff]
  constructor
  · rintro ⟨first, entry, found, rfl⟩
    have number : (((id - 1).toNat : Nat) : Int) + 1 = id := by omega
    rw [number]
    exact ⟨(id, entry), Catalog.entry?_eq_some.mpr ⟨rfl, first, found⟩, rfl⟩
  · rintro ⟨⟨number, entry⟩, found, rfl⟩
    obtain ⟨rfl, first, found⟩ := Catalog.entry?_eq_some.mp found
    have place : (((number - 1).toNat : Nat) : Int) + 1 = number := by omega
    exact ⟨first, entry, found, by rw [place]⟩

end Store

end Recurrence
