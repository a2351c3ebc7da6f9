/-
**The names of stored drafts.**

A name is stored without the blanks around it, and it never changes afterwards. So the names of the
rows are those that the requests for drafts came with, without blanks, and storing one of them again
would change nothing about it.

* `Text.trim_trim`: what has been trimmed stays as it is;
* `IsName`: a name as it is stored, and `isName_of_storedName` that names are stored so;
* `Call.name_cases`: where the names come from that a call leaves;
* `Reached.isName`: the names of the rows, after any requests.
-/
import Mathlib.Data.List.DropRight
import Recurrence.Proofs.Service.Reached

namespace Recurrence

/-! ### Trimming -/

namespace Text

variable {α : Type} (within : α → Bool) (items : List α)

/-- The end is trimmed after the beginning. -/
theorem trim_eq : trim within items = (items.dropWhile within).rdropWhile within :=
  rfl

/-- **What has been trimmed stays as it is.** -/
theorem trim_trim : trim within (trim within items) = trim within items := by
  -- The beginning is that of the items once they are trimmed there.
  have begins : (trim within items).dropWhile within = trim within items := by
    rw [List.dropWhile_eq_self_iff]
    intro filled
    have start := List.rdropWhile_prefix within (items.dropWhile within)
    rw [trim_eq] at filled
    show ¬ within ((List.rdropWhile within (items.dropWhile within))[0]) = true
    rw [start.getElem filled]
    exact List.dropWhile_get_zero_not within items (filled.trans_le start.length_le)
  rw [trim_eq, begins]
  exact List.rdropWhile_idempotent within _

theorem length_trim_le : (trim within items).length ≤ items.length := by
  calc (trim within items).length
      ≤ (items.dropWhile within).length := (List.rdropWhile_prefix within _).length_le
    _ ≤ items.length := (List.dropWhile_suffix within).length_le

end Text

/-! ### Names -/

/-- A name as it is stored: without blanks around it, and of at most 255 characters. -/
structure IsName (name : String) : Prop where
  trimmed : Text.trim Text.isBlank name.toList = name.toList
  short : (Text.ofString name).length ≤ 255

namespace IsName

variable {name : String}

/-- **A stored name is stored again as it is.** -/
theorem storedName (own : IsName name) : Store.storedName (.text name) = .ok name := by
  rw [Text.ofString, Store.storedName_ofChars, own.trimmed, String.ofList_toList]

end IsName

/-- **Names are stored so.** -/
theorem isName_of_storedName {given : Text} {name : String}
    (characters : given.chars?.isSome = true) (short : given.length ≤ 255)
    (stored : Store.storedName (.text given) = .ok name) : IsName name := by
  obtain ⟨chars, read⟩ := Option.isSome_iff_exists.mp characters
  rw [Text.chars?_eq_some_iff.mp read] at stored short
  rw [Store.storedName_ofChars] at stored
  cases stored
  constructor
  · rw [String.toList_ofList, Text.trim_trim]
  · have trimmed := Text.length_trim_le Text.isBlank chars
    simp only [Text.length, Text.ofString, Text.ofChars, String.toList_ofList,
      List.length_map] at short ⊢
    omega

/-! ### Where names come from -/

theorem Entry.name_edit {entry edited : Entry} {id : Int} {expected : Value} {rule : Rule}
    (made : entry.edit id expected rule = .ok edited) : edited.name = entry.name := by
  unfold Entry.edit at made
  split at made
  · cases made
  · split at made
    · cases made
    · cases made
      unfold revise
      split <;> rfl

namespace Catalog

variable {catalog : Catalog} {change : Except Error (Int × Entry)} {row : Record}

/-- An edit keeps the names. -/
theorem name_edited {id expected : Value} {ruleOf : Entry → Except Error Rule}
    (inside : row ∈ (catalog.outcome (catalog.edited id expected ruleOf)).2) :
    ∃ former ∈ catalog.records, former.name = row.name := by
  cases made : catalog.edited id expected ruleOf with
  | error cause =>
    rw [made] at inside
    exact ⟨row, inside, rfl⟩
  | ok changed =>
    obtain ⟨number, edited⟩ := changed
    rw [made] at inside
    unfold Catalog.edited at made
    obtain ⟨⟨number, former⟩, found, made⟩ := bind_eq_ok_iff.mp made
    obtain ⟨rule, _, made⟩ := bind_eq_ok_iff.mp made
    obtain ⟨edited, made, same⟩ := bind_eq_ok_iff.mp made
    cases same
    obtain ⟨asked, _, _, there⟩ := Store.lookup_eq_ok.mp found
    obtain ⟨rfl, first, place⟩ := entry?_eq_some.mp there
    have written : row ∈ (catalog.put number edited).records := inside
    rw [records_put first place] at written
    obtain ⟨other, before, same⟩ := List.mem_map.mp written
    split at same
    · rw [← same]
      exact ⟨former.record number, mem_records.mpr ⟨number, former, there, rfl⟩,
        (Entry.name_edit made).symm⟩
    · rw [← same]
      exact ⟨other, before, rfl⟩

/-- A new draft is the only one with a new name. -/
theorem name_created {name : Text} {draft : Draft}
    (inside : row ∈ (catalog.outcome
      ((Entry.ofDraft (.text name) draft).map (Prod.mk (catalog.length + 1)))).2) :
    row ∈ catalog.records ∨ Store.storedName (.text name) = .ok row.name := by
  cases made : Entry.ofDraft (.text name) draft with
  | error cause =>
    rw [made] at inside
    exact Or.inl inside
  | ok entry =>
    rw [made] at inside
    have written : row ∈ (catalog.put (catalog.length + 1) entry).records := inside
    rw [records_put_new, List.mem_append, List.mem_singleton] at written
    refine written.imp_right ?_
    rintro rfl
    unfold Entry.ofDraft at made
    obtain ⟨rule, _, made⟩ := bind_eq_ok_iff.mp made
    obtain ⟨stored, named, made⟩ := bind_eq_ok_iff.mp made
    split at made
    · cases made
      exact named
    · cases made

end Catalog

namespace Service

/-- **A call leaves the names that were there, and that of the draft that it creates.** -/
theorem Call.name_cases {catalog : Catalog} (stored : catalog.IsStored) (settings : Settings)
    (today : Date) {call : Call} {row : Record}
    (inside : row ∈ (call.answer settings today catalog.records).2.store.rows) :
    (∃ former ∈ catalog.records, former.name = row.name) ∨
      ∃ name form, call = createDraft name form ∧
        Store.storedName (.text name) = .ok row.name := by
  by_cases writes : call.Writes
  · cases call with
    | createDraft name form =>
      rw [(commits_create stored settings today name form).rows] at inside
      rcases Catalog.name_created inside with before | named
      · exact Or.inl ⟨row, before, rfl⟩
      · exact Or.inr ⟨name, form, rfl, named⟩
    | updateDraft id expected form =>
      rw [(commits_update stored settings today id expected form).rows] at inside
      exact Or.inl (Catalog.name_edited inside)
    | switchDraft id expected kind anchor =>
      rw [(commits_switch stored settings today id expected kind anchor).rows] at inside
      exact Or.inl (Catalog.name_edited inside)
    | _ => exact writes.elim
  · rw [Call.answer_eq, Call.keepsRows writes settings today _] at inside
    exact Or.inl ⟨row, inside, rfl⟩

/-- **Rows have names as they are stored, after any requests.** -/
theorem Reached.isName {settings : Settings} {rows : List Record}
    (reached : Reached settings rows) : ∀ row ∈ rows, IsName row.name := by
  induction reached with
  | start => exact List.forall_mem_nil _
  | @answered rows reached today request ih =>
    intro row inside
    rcases makes_or_respond_rows settings today rows request with ⟨call, made⟩ | kept
    · obtain ⟨catalog, stored, rfl⟩ := reached.exists_catalog
      rw [respond_of_makes made] at inside
      rcases call.name_cases stored settings today inside with
        ⟨former, before, same⟩ | ⟨name, form, rfl, named⟩
      · exact same ▸ ih former before
      · obtain ⟨characters, _, short⟩ := made.isInRange
        exact isName_of_storedName characters short named
    · exact ih row (kept ▸ inside)

end Service

end Recurrence
