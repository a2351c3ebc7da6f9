/-
**Editing a rule time after time.**

An edit changes some of a rule's fields and makes every check again, just as if the changes had been
made on the rule's form. What a rule keeps of an edit is read from its form like what the edit
said, weekdays in another order included. So an edit after an edit is one edit with the entries of
both, the later ones laid over the earlier ones, and so is a whole history of edits, of which those
that fail leave no trace.

* `entryNamed?_overlay`: of two entries with one name the later one stays;
* `Draft.get_setAll`: a field holds what it was last set to;
* `Form.changes_eq_ok_iff`: the entries that a form takes are those of its fields;
* `Rule.edit_edit`: an edit after an edit is one edit;
* `Rule.lastEdited`, `Rule.acceptedEntries`: what a history of edits leaves, and its entries;
* `Rule.edit_acceptedEntries`: a history of edits is one edit;
* `Rule.edits_merge`: edits agree with drafts, and a history of them is one edit.
-/
import Recurrence.Proofs.Rule.CheckOrder

namespace Recurrence

/-! ### Entries laid over others -/

section Overlay

variable {κ α : Type} [DecidableEq κ]

/-- Entries with later ones laid over them: of two entries with one name the later one stays. -/
def overlay (earlier later : List (κ × α)) : List (κ × α) :=
  earlier.filter (fun entry => (later.lookup entry.1).isNone) ++ later

theorem lookup_filter (keep : κ → Bool) (entries : List (κ × α)) (name : κ) :
    (entries.filter fun entry => keep entry.1).lookup name =
      if keep name then entries.lookup name else none := by
  induction entries with
  | nil => simp
  | cons entry entries ih =>
    obtain ⟨other, content⟩ := entry
    by_cases same : name = other
    · subst same
      cases kept : keep name <;> simp [kept, ih]
    · have differ : (name == other) = false := beq_eq_false_iff_ne.mpr same
      cases kept : keep other <;> simp [List.lookup_cons, kept, differ, ih]

theorem lookup_reverse_eq_none_iff {entries : List (κ × α)} {name : κ} :
    entries.reverse.lookup name = none ↔ entries.lookup name = none := by
  simp only [List.lookup_eq_none_iff, List.mem_reverse]

end Overlay

/-- **An entry is the later one of its name, or else the earlier one.** -/
theorem entryNamed?_overlay {α : Type} (name : String) (earlier later : List (Text × α)) :
    entryNamed? name (overlay earlier later) =
      (entryNamed? name later).or (entryNamed? name earlier) := by
  unfold entryNamed? overlay
  rw [List.lookup_append, lookup_filter fun name => (later.lookup name).isNone]
  cases later.lookup (Text.ofString name) with
  | some content => simp
  | none => simp

/-! ### Changes of a draft -/

namespace Field

/-- Fields are told apart by their names. -/
theorem name_inj {field other : Field} : field.name = other.name ↔ field = other :=
  ⟨fun same => Option.some_inj.mp (by rw [← find?_name, ← find?_name, same]), congrArg name⟩

/-- A field is found by its own name among some fields, if it is one of them. -/
theorem find?_eq_some_iff {fields : List Field} {text : String} {field : Field} :
    find? fields text = some field ↔ field ∈ fields ∧ text = field.name := by
  unfold find?
  constructor
  · intro found
    have named := List.find?_some found
    exact ⟨List.mem_of_find?_eq_some found, (eq_of_beq named).symm⟩
  · rintro ⟨member, rfl⟩
    cases found : fields.find? (·.name == field.name) with
    | none =>
      have missed := List.find?_eq_none.mp found field member
      simp at missed
    | some other =>
      have named := List.find?_some found
      rw [name_inj.mp (eq_of_beq named)]

/-- Changes of fields as named entries. -/
def entries (changes : List (Field × Value)) : List (Text × Value) :=
  changes.map fun change => (Text.ofString change.1.name, change.2)

theorem lookup_entries (changes : List (Field × Value)) (field : Field) :
    (entries changes).lookup (Text.ofString field.name) = changes.lookup field := by
  induction changes with
  | nil => rfl
  | cons change changes ih =>
    obtain ⟨other, value⟩ := change
    unfold entries at ih ⊢
    have same : (Text.ofString field.name == Text.ofString other.name) = (field == other) := by
      rw [Bool.eq_iff_iff, beq_iff_eq, beq_iff_eq, Text.ofString_inj, name_inj]
    simp only [List.map_cons, List.lookup_cons, same, ih]

/-- Named entries of fields that are kept by name are the entries of the fields kept. -/
theorem filter_entries (keep : Text → Bool) (changes : List (Field × Value)) :
    (entries changes).filter (fun entry => keep entry.1) =
      entries (changes.filter fun change => keep (Text.ofString change.1.name)) := by
  unfold entries
  rw [List.filter_map]
  rfl

/-- Changes laid over changes are named entries laid over named entries. -/
theorem overlay_entries (earlier later : List (Field × Value)) :
    overlay (entries earlier) (entries later) = entries (overlay earlier later) := by
  unfold overlay
  rw [filter_entries fun name => ((entries later).lookup name).isNone]
  simp only [lookup_entries]
  unfold entries
  rw [List.map_append]

/-- No field has the name that a rule goes by in its edits. -/
theorem entryNamed?_rule_entries (changes : List (Field × Value)) :
    entryNamed? "rule" (entries changes) = none := by
  refine List.lookup_eq_none_iff.mpr fun entry member => ?_
  obtain ⟨⟨field, value⟩, _, rfl⟩ := List.mem_map.mp member
  refine bne_iff_ne.mpr fun same => ?_
  have named : "rule" = field.name := Text.ofString_inj.mp same
  cases field <;> exact absurd named (by decide)

end Field

namespace Draft

variable (draft : Draft)

/-- **A field holds what it was last set to.** -/
theorem get_setAll (changes : List (Field × Value)) (field : Field) :
    (draft.setAll changes).get field = (changes.reverse.lookup field).getD (draft.get field) := by
  unfold setAll
  induction changes generalizing draft with
  | nil => rfl
  | cons change changes ih =>
    obtain ⟨other, value⟩ := change
    rw [List.foldl_cons, ih, List.reverse_cons, List.lookup_append]
    cases changes.reverse.lookup field with
    | some content => rfl
    | none =>
      by_cases same : field = other
      · subst same
        simp
      · have differ : (field == other) = false := beq_eq_false_iff_ne.mpr same
        simp [List.lookup_cons, differ, get_set_of_ne draft value same]

/-- Changes laid over changes are made after them. -/
theorem setAll_overlay (earlier later : List (Field × Value)) :
    draft.setAll (overlay earlier later) = (draft.setAll earlier).setAll later := by
  refine ext_get fun field => ?_
  unfold overlay
  simp only [get_setAll, List.reverse_append, List.lookup_append, ← List.filter_reverse]
  rw [lookup_filter fun field => (later.lookup field).isNone]
  cases found : later.reverse.lookup field with
  | some content => simp
  | none => simp [lookup_reverse_eq_none_iff.mp found]

end Draft

/-- Changes make no difference to fields that are read alike. -/
theorem Draft.ReadsAlike.setAll {kind : Kind} {draft other : Draft}
    (alike : draft.ReadsAlike kind other) (changes : List (Field × Value)) :
    (draft.setAll changes).ReadsAlike kind (other.setAll changes) := by
  intro field own
  rw [get_setAll, get_setAll]
  cases changes.reverse.lookup field with
  | some value => exact .refl field value
  | none => exact alike field own

/-- **A form takes named entries of its own fields.** -/
theorem Form.changes_eq_ok_iff {form : Form} {entries : List (Text × Value)}
    {changes : List (Field × Value)} :
    form.changes entries = .ok changes ↔
      entries = Field.entries changes ∧ ∀ change ∈ changes, change.1 ∈ form.fields := by
  unfold Form.changes
  constructor
  · intro taken
    induction entries generalizing changes with
    | nil =>
      cases taken
      exact ⟨rfl, nofun⟩
    | cons entry entries ih =>
      obtain ⟨name, value⟩ := entry
      rw [List.mapM_cons] at taken
      obtain ⟨change, known, taken⟩ := bind_eq_ok_iff.mp taken
      obtain ⟨others, later, taken⟩ := bind_eq_ok_iff.mp taken
      cases taken
      obtain ⟨rfl, own⟩ := ih later
      simp only [] at known
      split at known
      · rename_i field found
        cases known
        obtain ⟨text, written, found⟩ := Option.bind_eq_some_iff.mp found
        obtain ⟨member, rfl⟩ := Field.find?_eq_some_iff.mp found
        obtain rfl := Text.string?_eq_some_iff.mp written
        exact ⟨rfl, List.forall_mem_cons.mpr ⟨member, own⟩⟩
      · cases known
  · rintro ⟨rfl, own⟩
    refine mapM_map_ok fun change member => ?_
    simp only [Text.string?_ofString, Option.bind_some,
      Field.find?_eq_some_iff.mpr ⟨own change member, rfl⟩]

theorem Form.changes_append (form : Form) (first second : List (Text × Value)) :
    form.changes (first ++ second) =
      (do return (← form.changes first) ++ (← form.changes second)) :=
  List.mapM_append

/-! ### Edits -/

namespace Rule

variable {rule : Rule}

/-- An edit of some of the rule's fields makes the checks of its kind on its changed form. -/
theorem edit_entries {changes : List (Field × Value)}
    (own : ∀ change ∈ changes, change.1 ∈ rule.kind.form.fields) :
    rule.edit (Field.entries changes) =
      ofDraft rule.kind ((Draft.ofRule rule).setAll changes) := by
  unfold edit
  rw [Field.entryNamed?_rule_entries, Form.changes_eq_ok_iff.mpr ⟨rfl, own⟩]
  rfl

/-- An edit that succeeds changes some of the rule's fields. -/
theorem exists_changes_of_edit {entries : List (Text × Value)} {edited : Rule}
    (made : rule.edit entries = .ok edited) :
    ∃ changes, entries = Field.entries changes ∧
      (∀ change ∈ changes, change.1 ∈ rule.kind.form.fields) ∧
      ofDraft rule.kind ((Draft.ofRule rule).setAll changes) = .ok edited := by
  have checked := made
  unfold edit at made
  split at made
  · cases made
  · obtain ⟨changes, taken, _⟩ := bind_eq_ok_iff.mp made
    obtain ⟨rfl, own⟩ := Form.changes_eq_ok_iff.mp (mapError_eq_ok_iff.mp taken)
    rw [edit_entries own] at checked
    exact ⟨changes, rfl, own, checked⟩

/-- **An edit after an edit is one edit with the entries of both,** the later ones laid over the
earlier ones. If the second edit fails, so does that one, for the same cause. -/
theorem edit_edit {middle : Rule} {first : List (Text × Value)}
    (edited : rule.edit first = .ok middle) (second : List (Text × Value)) :
    middle.edit second = rule.edit (overlay first second) := by
  obtain ⟨earlier, rfl, own, made⟩ := exists_changes_of_edit edited
  obtain ⟨sameKind, alike⟩ := readsAlike_ofRule made
  cases taken : rule.kind.form.changes second with
  | ok later =>
    obtain ⟨rfl, own'⟩ := Form.changes_eq_ok_iff.mp taken
    have own'' : ∀ change ∈ overlay earlier later, change.1 ∈ rule.kind.form.fields := by
      intro change member
      rcases List.mem_append.mp member with kept | member
      · exact own change (List.mem_filter.mp kept).1
      · exact own' change member
    rw [Field.overlay_entries, edit_entries own'', Draft.setAll_overlay,
      edit_entries (sameKind.symm ▸ own'), sameKind]
    exact (alike.setAll later).ofDraft_eq
  | error cause =>
    -- What cannot be filled in is reported by both, since all earlier entries can be.
    have refused : rule.kind.form.changes (overlay (Field.entries earlier) second) =
        .error cause := by
      unfold overlay
      rw [Form.changes_append, Field.filter_entries fun name => (second.lookup name).isNone,
        Form.changes_eq_ok_iff.mpr ⟨rfl, fun change kept => own change (List.mem_filter.mp kept).1⟩,
        taken]
      rfl
    unfold edit
    rw [entryNamed?_overlay, Field.entryNamed?_rule_entries, Option.or_none, sameKind, taken,
      refused]
    rfl

/-- **An edit agrees with the draft that its changes are made on,** if it lists the weekdays that it
changes. -/
theorem edit_eq_toRule {changes : List (Field × Value)}
    (own : ∀ change ∈ changes, change.1 ∈ rule.kind.form.fields)
    (listed : ∀ value, (Field.daysOfWeek, value) ∈ changes → ∃ items, value = .list items) :
    rule.edit (Field.entries changes) = ((Draft.ofRule rule).setAll changes).toRule := by
  have kind : ((Draft.ofRule rule).setAll changes).recurrenceType = .text rule.kind.name := by
    have kept : changes.reverse.lookup .recurrenceType = none := by
      refine List.lookup_eq_none_iff.mpr fun change member => bne_iff_ne.mpr fun same => ?_
      have other := own change (List.mem_reverse.mp member)
      rw [← same] at other
      cases shape : rule.kind <;> rw [shape] at other <;> exact absurd other (by decide)
    have field := (Draft.ofRule rule).get_setAll changes .recurrenceType
    rw [kept] at field
    exact field.trans (Draft.ofRule_recurrenceType rule)
  obtain ⟨items, days⟩ : ∃ items, ((Draft.ofRule rule).setAll changes).daysOfWeek =
      .list items := by
    have field := (Draft.ofRule rule).get_setAll changes .daysOfWeek
    cases found : changes.reverse.lookup .daysOfWeek with
    | some value =>
      obtain ⟨items, rfl⟩ := listed value (List.mem_reverse.mp (mem_of_lookup found))
      rw [found] at field
      exact ⟨items, field⟩
    | none =>
      rw [found] at field
      exact ⟨_, field.trans (Draft.ofRule_daysOfWeek rule)⟩
  rw [edit_entries own, Draft.toRule_of_named kind fun _ => days]

/-- An edit without entries changes nothing. -/
theorem edit_nil (rule : Rule) : rule.edit [] = .ok rule := by
  have own : ∀ change ∈ ([] : List (Field × Value)), change.1 ∈ rule.kind.form.fields := nofun
  exact (edit_entries own).trans (ofDraft_ofRule rule)

/-! ### Histories of edits -/

/-- What a history of edits leaves. An edit that fails leaves the rule as it was. -/
def lastEdited (rule : Rule) : List (List (Text × Value)) → Rule
  | [] => rule
  | entries :: later =>
    match rule.edit entries with
    | .ok edited => edited.lastEdited later
    | .error _ => rule.lastEdited later

/-- The entries of the edits that succeed, those of later edits laid over those of earlier ones. -/
def acceptedEntries (rule : Rule) : List (List (Text × Value)) → List (Text × Value)
  | [] => []
  | entries :: later =>
    match rule.edit entries with
    | .ok edited => overlay entries (edited.acceptedEntries later)
    | .error _ => rule.acceptedEntries later

/-- **A history of edits is one edit.** The induction is on the history: what follows an edit that
succeeds is one edit of the edited rule, and so one of the rule itself. -/
theorem edit_acceptedEntries (history : List (List (Text × Value))) :
    rule.edit (rule.acceptedEntries history) = .ok (rule.lastEdited history) := by
  induction history generalizing rule with
  | nil => exact rule.edit_nil
  | cons entries later ih =>
    unfold acceptedEntries lastEdited
    cases outcome : rule.edit entries with
    | error cause => exact ih
    | ok edited =>
      show rule.edit (overlay entries (edited.acceptedEntries later)) = _
      rw [← edit_edit outcome]
      exact ih

/-- **Each edit of a history is made on what the edits before it leave.** -/
theorem getElem?_edits (history : List (List (Text × Value))) (place : Nat) :
    (rule.edits history)[place]? =
      history[place]?.map (rule.lastEdited (history.take place)).edit := by
  induction history generalizing rule place with
  | nil => rfl
  | cons entries later ih =>
    cases place with
    | zero => rfl
    | succ place =>
      unfold edits
      rw [List.take_succ_cons, lastEdited, List.getElem?_cons_succ, List.getElem?_cons_succ, ih]
      cases rule.edit entries with
      | error cause => rfl
      | ok edited => rfl

/-- **Edits agree with drafts, and a history of edits is one edit.** An edit of some of the rule's
fields, with the weekdays listed if they are among them, comes to what the draft with these changes
comes to, be it a rule or a refusal. And whatever the edits of a history are, and however many of
them fail, the entries of those that succeed lead at once to what the history leaves; each edit is
made on what those before it leave. -/
theorem edits_merge (rule : Rule) :
    (∀ changes : List (Field × Value), (∀ change ∈ changes, change.1 ∈ rule.kind.form.fields) →
      (∀ value, (Field.daysOfWeek, value) ∈ changes → ∃ items, value = .list items) →
      rule.edit (Field.entries changes) = ((Draft.ofRule rule).setAll changes).toRule) ∧
    ∀ history : List (List (Text × Value)),
      rule.edit (rule.acceptedEntries history) = .ok (rule.lastEdited history) ∧
        ∀ place, (rule.edits history)[place]? =
          history[place]?.map (rule.lastEdited (history.take place)).edit :=
  ⟨fun _ own listed => edit_eq_toRule own listed, fun history =>
    ⟨edit_acceptedEntries history, getElem?_edits history⟩⟩

/-- A rule for Mondays and Fridays gets an interval and weekdays in another order. -/
theorem edits_merge_weekdays :
    Draft.tidied.edit (Field.entries
        [(.interval, .int 3), (.daysOfWeek, .list [.int 3, .int 1, .int 3])]) =
      ((Draft.ofRule Draft.tidied).setAll
        [(.interval, .int 3), (.daysOfWeek, .list [.int 3, .int 1, .int 3])]).toRule := by
  refine (edits_merge Draft.tidied).1 _ (by decide) fun value member => ?_
  simp only [List.mem_cons, Prod.mk.injEq, reduceCtorEq, false_and, true_and, List.not_mem_nil,
    or_false, false_or] at member
  exact ⟨_, member⟩

end Rule

end Recurrence
