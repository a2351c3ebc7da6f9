/-
**What a session has been shown it goes on with.**

A record in an answer is what the session is shown from then on, until it forgets: it is remembered,
or it is the row itself. So what a session is shown changes only by edits of the row, and when the
session forgets, and then to a later version.

* `Outcome.shown`: the records in an answer;
* `Store.step_shows`: a session goes on with the records in its answers;
* `Store.Effect.remembered`: what is remembered after a step was so before, or is stored;
* `Store.Effect.row?_precedes`: a row is replaced by later states of it only;
* `Store.Effect.seen_le`: no step leads any session back to an earlier version.
-/
import Recurrence.Proofs.Store.Effect

namespace Recurrence

/-- The records that an answer shows. -/
def Outcome.shown : Outcome → List Record
  | record only => [only]
  | records all => all
  | rule _ | dates _ | done => []

theorem Outcome.mem_shown_record {record only : Record} :
    record ∈ (Outcome.record only).shown ↔ record = only :=
  List.mem_singleton

namespace Store

variable {store : Store} {session : Text}

/-! ### Single operations -/

/-- To remember what one is shown changes nothing of what anyone is shown. -/
theorem seen_remember {record : Record} (shown : store.seen session record.id = some record)
    (other : Text) (id : Int) :
    (store.remember session record).seen other id = store.seen other id := by
  by_cases here : other = session ∧ id = record.id
  · obtain ⟨rfl, rfl⟩ := here
    rw [shown]
    exact seen_of_remembered (if_pos ⟨rfl, rfl⟩)
  · unfold seen
    have kept : (store.remember session record).remembered other id = store.remembered other id :=
      if_neg here
    rw [kept]
    rfl

theorem load_shows (sound : store.Sound) {id : Value} {record : Record} {after : Store}
    (loaded : store.load session id = (.ok record, after)) :
    after.seen session record.id = some record := by
  have found := congrArg Prod.fst loaded
  rw [load_eq_lookup, lookup_eq_ok] at found
  obtain ⟨number, asked, narrow, shown⟩ := found
  have same := sound.id_of_seen shown
  subst same
  unfold load at loaded
  simp only [asked, if_pos narrow] at loaded
  cases known : store.remembered session record.id with
  | some copy =>
    simp only [known, Prod.mk.injEq] at loaded
    rw [← loaded.2]
    exact shown
  | none =>
    rw [seen_of_unknown known] at shown
    simp only [known, shown, Prod.mk.injEq] at loaded
    rw [← loaded.2, seen_remember, seen_of_unknown known, shown]
    rw [seen_of_unknown known, shown]

theorem reload_shows {id : Int} {record : Record} {after : Store}
    (read : store.reload session id = (.ok record, after)) :
    after.seen session record.id = some record := by
  unfold reload at read
  simp only [] at read
  cases stored : (store.forget session).row? id with
  | none =>
    rw [stored] at read
    cases read
  | some row =>
    rw [stored] at read
    cases read
    exact seen_of_remembered (if_pos ⟨rfl, rfl⟩)

theorem list_shows (sound : store.Sound) {records : List Record} {after : Store}
    (listed : store.list session = (.ok records, after)) {record : Record}
    (inside : record ∈ records) : after.seen session record.id = some record := by
  have known : ∀ record ∈ store.rows.map fun row => (store.remembered session row.id).getD row,
      store.seen session record.id = some record := by
    intro record shown
    obtain ⟨row, inside, rfl⟩ := List.mem_map.mp shown
    have here : store.seen session row.id =
        some ((store.remembered session row.id).getD row) := by
      unfold seen
      rw [sound.numbered.row?_of_mem inside]
      cases store.remembered session row.id <;> rfl
    rw [sound.id_of_seen here]
    exact here
  -- Remembering one record after the other changes nothing of what is shown.
  have folded (records : List Record) : ∀ (current : Store),
      (∀ id, current.seen session id = store.seen session id) →
      (∀ record ∈ records, store.seen session record.id = some record) →
      ∀ id, (records.foldl (fun store record => store.remember session record) current).seen
        session id = store.seen session id := by
    induction records with
    | nil => exact fun current same _ => same
    | cons record records ih =>
      intro current same known
      refine ih (current.remember session record) (fun id => ?_) fun other later => ?_
      · rw [seen_remember, same]
        rw [same]
        exact known record (List.mem_cons_self ..)
      · exact known other (List.mem_cons_of_mem record later)
  simp only [list, Prod.mk.injEq, Except.ok.injEq] at listed
  rw [← listed.2, folded _ store (fun _ => rfl) known]
  rw [← listed.1] at inside
  exact known record inside

theorem save_shows {read record : Record} {expected : Value} {rule : Rule} {after : Store}
    (saved : store.save session read expected rule = (.ok record, after)) :
    after.seen session record.id = some record := by
  unfold save at saved
  simp only [] at saved
  split at saved
  · cases saved
  · split at saved
    · exact reload_shows saved
    · split at saved
      · cases saved
      · split at saved
        · cases saved
        · exact reload_shows saved

theorem create_shows {name : Value} {draft : Draft} {record : Record} {after : Store}
    (created : store.create session name draft = (.ok record, after)) :
    after.seen session record.id = some record := by
  obtain ⟨⟨rule, stored⟩, between, _, made⟩ := Answer.andThen_eq_ok created
  simp only [] at made
  split at made
  · exact reload_shows made
  · cases made

/-! ### Steps -/

theorem attempt_shows (sound : store.Sound) {step : Step} {outcome : Outcome} {after : Store}
    (answered : store.attempt session step = (.ok outcome, after)) {record : Record}
    (inside : record ∈ outcome.shown) : after.seen session record.id = some record := by
  cases step with
  | create name entries =>
    obtain ⟨draft, filled, _, rest⟩ := Answer.andThen_eq_ok answered
    obtain ⟨shown, between, created, last⟩ := Answer.andThen_eq_ok rest
    cases last
    rw [Outcome.mem_shown_record.mp inside]
    exact create_shows created
  | get id =>
    obtain ⟨shown, between, loaded, last⟩ := Answer.andThen_eq_ok answered
    cases last
    rw [Outcome.mem_shown_record.mp inside]
    exact load_shows sound loaded
  | list =>
    rw [attempt] at answered
    obtain ⟨records, between, listed, last⟩ := Answer.andThen_eq_ok answered
    cases last
    exact list_shows sound listed inside
  | update id expected entries =>
    obtain ⟨draft, filled, _, rest⟩ := Answer.andThen_eq_ok answered
    obtain ⟨shown, between, updated, last⟩ := Answer.andThen_eq_ok rest
    cases last
    obtain ⟨read, loaded, _, valid⟩ := Answer.andThen_eq_ok updated
    obtain ⟨rule, _, _, saved⟩ := Answer.andThen_eq_ok valid
    rw [Outcome.mem_shown_record.mp inside]
    exact save_shows saved
  | switchKind id expected kind anchor =>
    obtain ⟨shown, between, switched, last⟩ := Answer.andThen_eq_ok answered
    cases last
    obtain ⟨read, loaded, _, valid⟩ := Answer.andThen_eq_ok switched
    obtain ⟨rule, _, _, saved⟩ := Answer.andThen_eq_ok valid
    rw [Outcome.mem_shown_record.mp inside]
    exact save_shows saved
  | rule id =>
    obtain ⟨rule, between, _, last⟩ := Answer.andThen_eq_ok answered
    cases last
    cases inside
  | dates id bound =>
    obtain ⟨rule, between, _, last⟩ := Answer.andThen_eq_ok answered
    have dated : (do return .dates (← rule.dates (← Bound.ofEntries bound)) :
        Except Error Outcome) = .ok outcome :=
      congrArg Prod.fst last
    cases made : Bound.ofEntries bound with
    | error cause =>
      rw [made] at dated
      cases dated
    | ok bound =>
      cases produced : rule.dates bound with
      | error cause =>
        simp only [made, bind, Except.bind, produced] at dated
        cases dated
      | ok dates =>
        simp only [made, bind, Except.bind, produced] at dated
        cases dated
        cases inside
  | expire =>
    cases answered
    cases inside

/-- **A session goes on with the records in its answers.** -/
theorem step_shows (sound : store.Sound) {step : Step} {outcome : Outcome}
    (answered : (store.step session step).1 = .ok outcome) {record : Record}
    (inside : record ∈ outcome.shown) :
    (store.step session step).2.seen session record.id = some record :=
  attempt_shows sound (attempt_of_step answered) inside

/-! ### From step to step -/

namespace Effect

variable {step : Step} {answer : Except Error Outcome} {after : Store}

/-- What a session remembers after a step it has remembered before, or it is stored. -/
theorem remembered (effect : Effect store session step answer after) {other : Text} {id : Int}
    {copy : Record} (known : after.remembered other id = some copy) :
    store.remembered other id = some copy ∨ after.row? id = some copy := by
  have kept (between : Store) (same : between.remembered = store.remembered)
      (refreshes : Refreshes session between after) :
      store.remembered other id = some copy ∨ after.row? id = some copy := by
    by_cases own : other = session
    · subst own
      rw [refreshes.row?_eq, ← same]
      exact refreshes.own id copy known
    · rw [refreshes.others other id own, same] at known
      exact Or.inl known
  cases effect with
  | reads refreshes => exact kept store rfl refreshes
  | creates _ _ _ _ refreshes => exact kept (store.insert _) rfl refreshes
  | edits _ revises => exact kept (store.put _) rfl revises.refreshes

/-- **A row is replaced by later states of it only.** -/
theorem row?_precedes (effect : Effect store session step answer after) {id : Int} {row : Record}
    (stored : store.row? id = some row) :
    ∃ later, after.row? id = some later ∧ row.Precedes later := by
  rcases effect.row?_eq stored with kept | ⟨_, rule, _, _, _, revised⟩
  · exact ⟨row, kept, .refl row⟩
  · exact ⟨row.revise rule, by rw [revised, if_pos rfl], row.precedes_revise rule⟩

/-- **No step leads any session back to an earlier version.** -/
theorem seen_le (effect : Effect store session step answer after) (sound : store.Sound)
    {other : Text} {id : Int} {record : Record} (shown : store.seen other id = some record) :
    ∃ later, after.seen other id = some later ∧ record.version ≤ later.version := by
  obtain ⟨row, stored, before⟩ := sound.precedes_of_seen shown
  obtain ⟨row', stored', step⟩ := effect.row?_precedes stored
  have order := (before.trans step).version
  cases known : after.remembered other id with
  | none => exact ⟨row', by rw [seen_of_unknown known, stored'], order⟩
  | some copy =>
    refine ⟨copy, seen_of_remembered known, ?_⟩
    rcases effect.remembered known with kept | current
    · rw [seen_of_remembered kept] at shown
      exact Int.le_of_eq (congrArg Record.version (Option.some_inj.mp shown).symm)
    · rw [stored'] at current
      rw [← Option.some_inj.mp current]
      exact order

end Effect

end Store

end Recurrence
