import EaBot.Foundation.Run
import EaBot.Persistence.ReconciliationStore

/-!
# Changes of the broker's book

The monitor compares each verified book of the broker with the one of the cycle before, over any
number of restarts on the same store.  It reports every changed stop and target and every ticket
that is gone, each once and nothing else.

A snapshot takes its volume from a field that the connector's positions do not have, so that
every volume is zero and no volume ever falls.
-/

namespace EaBot.Monitoring

open EaBot.Foundation EaBot.Mt5 EaBot.Persistence EaBot.Review

/-! ## Books -/

/-- A verified book.  The broker gives every position a ticket of its own, and the connector
reports a level only where it is placed. -/
structure Book where
  positions : List Position
  distinct : (positions.map Position.ticket).Nodup
  nonzero : ∀ position ∈ positions, position.ticket ≠ 0
  placedSl : ∀ position ∈ positions, ∀ level ∈ position.sl, 0 < level
  placedTp : ∀ position ∈ positions, ∀ level ∈ position.tp, 0 < level

namespace Book

/-- A book without positions. -/
def empty : Book :=
  ⟨[], List.nodup_nil, by simp, by simp, by simp⟩

/-- The position with a ticket. -/
def find (book : Book) (ticket : Int) : Option Position :=
  book.positions.find? fun position => position.ticket = ticket

/-- A position that changed in the way that an event of a kind reports: another stop, another
target or a smaller quantity. -/
def Changed (eventType : EventType) (before after : Position) : Prop :=
  match eventType with
  | .slChanged => after.sl ≠ before.sl
  | .tpChanged => after.tp ≠ before.tp
  | .partialClose => after.quantity < before.quantity
  | .positionDisappeared => False

instance (eventType : EventType) (before after : Position) :
    Decidable (Changed eventType before after) :=
  match eventType with
  | .slChanged => inferInstanceAs (Decidable (_ ≠ _))
  | .tpChanged => inferInstanceAs (Decidable (_ ≠ _))
  | .partialClose => inferInstanceAs (Decidable (_ < _))
  | .positionDisappeared => inferInstanceAs (Decidable False)

/-- An event of a kind is due for a ticket: its position changed, or it is gone. -/
def Due (previous book : Book) (eventType : EventType) (ticket : Int) : Prop :=
  (∃ before ∈ previous.find ticket, ∃ after ∈ book.find ticket, Changed eventType before after) ∨
    eventType = .positionDisappeared ∧ previous.find ticket ≠ none ∧ book.find ticket = none

instance (previous book : Book) (eventType : EventType) (ticket : Int) :
    Decidable (Due previous book eventType ticket) :=
  inferInstanceAs (Decidable (_ ∨ _ ∧ _))

end Book

/-! ## Cycles and restarts -/

/-- The monitor with its stores, and the book of the cycle before. -/
structure Watch where
  monitor : PositionMonitor
  store : SnapshotStore
  orders : Option OrderStateStore
  book : Book

/-- A cycle with a verified book, the time of its save and whether the file was written, or a
restart on the file. -/
inductive WatchStep
  | cycle (book : Book) (timestamp : String) (written : Bool)
  | restart

namespace Watch

/-- A new monitor on a new file. -/
def start (closeDetector : Option PositionCloseDetector) (orders : Option OrderStateStore) :
    Watch :=
  ⟨.build closeDetector (some SnapshotStore.empty.abstract), .empty, orders, .empty⟩

/-- The comparison of a cycle. -/
def detection (watch : Watch) (book : Book) : PositionMonitor.Detection :=
  watch.monitor.detectPositionChanges watch.orders (true, book.positions)

/-- The watch after a step. -/
def step (watch : Watch) : WatchStep → Watch
  | .cycle book timestamp written =>
      let detected := watch.detection book
      { monitor := detected.monitor
        store := watch.store.saveSnapshot detected.monitor.tracked timestamp written
        orders := detected.store
        book := book }
  | .restart =>
      { watch with
        monitor := .build watch.monitor.closeDetector (some watch.store.reload.abstract)
        store := watch.store.reload }

/-- The events of a kind for a ticket. -/
def countOf (events : List AbnormalEvent) (eventType : EventType) (ticket : Int) : Nat :=
  events.countP fun event => event.eventType = eventType ∧ event.ticket = ticket

/-- A cycle reports every change exactly once and nothing else. -/
def Exact (watch : Watch) : WatchStep → Prop
  | .cycle book _ _ => ∀ eventType ticket,
      countOf (watch.detection book).events eventType ticket =
        if watch.book.Due book eventType ticket then 1 else 0
  | .restart => True

/-- A restart finds what was saved last. -/
def Saved (watch : Watch) : WatchStep → Prop
  | .cycle _ _ _ => True
  | .restart => watch.store.lines.getLast? = watch.store.snapshot

/-- No position of a cycle is smaller than in the cycle before. -/
def NoneReduced (watch : Watch) : WatchStep → Prop
  | .cycle book _ _ => ∀ ticket before after, watch.book.find ticket = some before →
      book.find ticket = some after → before.quantity ≤ after.quantity
  | .restart => True

end Watch

/-! ## Levels of a ticket -/

namespace TrackedLevels

/-- The three levels of a ticket. -/
def levelsAt (tracked : TrackedLevels) (ticket : Int) : Option ℚ × Option ℚ × Option ℚ :=
  (tracked.lastSl.get ticket, tracked.lastTp.get ticket, tracked.lastVolume.get ticket)

/-- The levels of a ticket that is not tracked. -/
def untracked : Option ℚ × Option ℚ × Option ℚ :=
  (none, none, none)

/-- The levels of a snapshot. -/
def levelsOf (snapshot : PositionSnapshot) : Option ℚ × Option ℚ × Option ℚ :=
  (some snapshot.sl, some snapshot.tp, some snapshot.volume)

theorem levelsAt_take (tracked : TrackedLevels) {snapshot : PositionSnapshot}
    (nonzero : snapshot.ticket ≠ 0) (ticket : Int) :
    (tracked.take snapshot).levelsAt ticket =
      if ticket = snapshot.ticket then levelsOf snapshot else tracked.levelsAt ticket := by
  unfold take levelsAt
  rw [dif_neg nonzero]
  simp only [Dict.get_set]
  split <;> rfl

theorem levelsAt_drop (tracked : TrackedLevels) (gone ticket : Int) :
    (tracked.drop gone).levelsAt ticket =
      if ticket = gone then untracked else tracked.levelsAt ticket := by
  unfold drop levelsAt
  simp only [Dict.get_erase]
  split <;> rfl

theorem levelsAt_foldl_drop (tracked : TrackedLevels) (gone : List Int) (ticket : Int) :
    (gone.foldl drop tracked).levelsAt ticket =
      if ticket ∈ gone then untracked else tracked.levelsAt ticket := by
  induction gone generalizing tracked with
  | nil => rfl
  | cons first rest ih =>
      rw [List.foldl_cons, ih, levelsAt_drop]
      by_cases here : ticket = first
      · simp [here]
      · simp [here]

end TrackedLevels

/-! ## Comparisons of distinct tickets -/

namespace PositionMonitor

/-- Taking over another ticket does not touch the changes of a snapshot. -/
theorem changes_congr {tracked other : TrackedLevels} {snapshot : PositionSnapshot}
    (same : tracked.levelsAt snapshot.ticket = other.levelsAt snapshot.ticket) :
    changes tracked snapshot = changes other snapshot := by
  simp only [TrackedLevels.levelsAt, Prod.mk.injEq] at same
  unfold changes
  simp only [same]

/-- Snapshots of distinct tickets are compared with what was tracked before them all. -/
theorem compareAll_events {tracked : TrackedLevels} {snapshots : List PositionSnapshot}
    (distinct : (snapshots.map PositionSnapshot.ticket).Nodup)
    (nonzero : ∀ snapshot ∈ snapshots, snapshot.ticket ≠ 0) :
    (compareAll tracked snapshots).1 = snapshots.flatMap (changes tracked) := by
  induction snapshots generalizing tracked with
  | nil => rfl
  | cons snapshot rest ih =>
      rcases List.nodup_cons.mp distinct with ⟨absent, distinct⟩
      rcases List.forall_mem_cons.mp nonzero with ⟨here, others⟩
      rw [compareAll, if_neg here, List.flatMap_cons]
      dsimp only
      rw [ih distinct others]
      congr 1
      apply List.flatMap_congr
      intro later member
      apply changes_congr
      have apart : later.ticket ≠ snapshot.ticket := by
        intro same
        exact absent (same ▸ List.mem_map.mpr ⟨later, member, rfl⟩)
      rw [TrackedLevels.levelsAt_take _ here, if_neg apart]

theorem find?_eq_none_of_absent {snapshots : List PositionSnapshot} {ticket : Int}
    (absent : ticket ∉ snapshots.map PositionSnapshot.ticket) :
    (snapshots.find? fun snapshot => snapshot.ticket = ticket) = none := by
  rw [List.find?_eq_none]
  intro other member found
  exact absent (List.mem_map.mpr ⟨other, member, of_decide_eq_true found⟩)

theorem levelsAt_compareAll {tracked : TrackedLevels} {snapshots : List PositionSnapshot}
    (distinct : (snapshots.map PositionSnapshot.ticket).Nodup)
    (nonzero : ∀ snapshot ∈ snapshots, snapshot.ticket ≠ 0) (ticket : Int) :
    (compareAll tracked snapshots).2.levelsAt ticket =
      match snapshots.find? fun snapshot => snapshot.ticket = ticket with
      | some snapshot => TrackedLevels.levelsOf snapshot
      | none => tracked.levelsAt ticket := by
  induction snapshots generalizing tracked with
  | nil => rfl
  | cons snapshot rest ih =>
      rcases List.nodup_cons.mp distinct with ⟨absent, distinct⟩
      rcases List.forall_mem_cons.mp nonzero with ⟨here, others⟩
      rw [compareAll, if_neg here]
      dsimp only
      rw [ih distinct others, List.find?_cons, TrackedLevels.levelsAt_take _ here]
      by_cases same : snapshot.ticket = ticket
      · rw [find?_eq_none_of_absent (same ▸ absent), if_pos same.symm]
        simp [same]
      · rw [if_neg (Ne.symm same)]
        simp [same]

/-- A snapshot differs from what is tracked of its ticket. -/
def Shows (tracked : TrackedLevels) (snapshot : PositionSnapshot) : EventType → Prop
  | .slChanged => ∃ old ∈ tracked.lastSl.get snapshot.ticket, snapshot.sl ≠ old
  | .tpChanged => ∃ old ∈ tracked.lastTp.get snapshot.ticket, snapshot.tp ≠ old
  | .partialClose => ∃ old ∈ tracked.lastVolume.get snapshot.ticket, snapshot.volume < old
  | .positionDisappeared => False

instance (tracked : TrackedLevels) (snapshot : PositionSnapshot) (eventType : EventType) :
    Decidable (Shows tracked snapshot eventType) :=
  match eventType with
  | .slChanged => inferInstanceAs (Decidable (∃ old ∈ _, _))
  | .tpChanged => inferInstanceAs (Decidable (∃ old ∈ _, _))
  | .partialClose => inferInstanceAs (Decidable (∃ old ∈ _, _))
  | .positionDisappeared => inferInstanceAs (Decidable False)

/-- The event of a kind when the tracked level differs from the new one. -/
def report (eventType : EventType) (snapshot : PositionSnapshot) (level : Option ℚ)
    (differs : ℚ → Prop) [DecidablePred differs] (new : ℚ) : List AbnormalEvent :=
  match level with
  | some old =>
      if differs old then
        [⟨eventType, .warning, snapshot.symbol, snapshot.ticket, some old, some new⟩]
      else []
  | none => []

theorem changes_eq_report (tracked : TrackedLevels) (snapshot : PositionSnapshot) :
    changes tracked snapshot =
      report .slChanged snapshot (tracked.lastSl.get snapshot.ticket)
        (fun old => snapshot.sl ≠ old) snapshot.sl ++
      report .tpChanged snapshot (tracked.lastTp.get snapshot.ticket)
        (fun old => snapshot.tp ≠ old) snapshot.tp ++
      report .partialClose snapshot (tracked.lastVolume.get snapshot.ticket)
        (fun old => snapshot.volume < old) snapshot.volume :=
  rfl

theorem countOf_append (first second : List AbnormalEvent) (eventType : EventType)
    (ticket : Int) : Watch.countOf (first ++ second) eventType ticket =
      Watch.countOf first eventType ticket + Watch.countOf second eventType ticket :=
  List.countP_append

theorem countOf_report (kind eventType : EventType) (snapshot : PositionSnapshot)
    (level : Option ℚ) (differs : ℚ → Prop) [DecidablePred differs] (new : ℚ) (ticket : Int) :
    Watch.countOf (report kind snapshot level differs new) eventType ticket =
      if kind = eventType ∧ snapshot.ticket = ticket ∧ ∃ old ∈ level, differs old then 1
      else 0 := by
  cases level with
  | none => simp [Watch.countOf, report]
  | some old =>
      by_cases different : differs old
      · simp [Watch.countOf, report, different, List.countP_singleton]
      · simp [Watch.countOf, report, different]

/-- A snapshot reports each difference once, under its own ticket. -/
theorem countOf_changes (tracked : TrackedLevels) (snapshot : PositionSnapshot)
    (eventType : EventType) (ticket : Int) :
    Watch.countOf (changes tracked snapshot) eventType ticket =
      if snapshot.ticket = ticket ∧ Shows tracked snapshot eventType then 1 else 0 := by
  rw [changes_eq_report, countOf_append, countOf_append, countOf_report, countOf_report,
    countOf_report]
  cases eventType <;> simp [Shows]

/-- Of items with distinct tickets only one counts for a ticket. -/
theorem countOf_flatMap {snapshots : List PositionSnapshot}
    {report : PositionSnapshot → List AbnormalEvent}
    (distinct : (snapshots.map PositionSnapshot.ticket).Nodup) (eventType : EventType)
    (ticket : Int) (own : ∀ snapshot ∈ snapshots, snapshot.ticket ≠ ticket →
      Watch.countOf (report snapshot) eventType ticket = 0) :
    Watch.countOf (snapshots.flatMap report) eventType ticket =
      match snapshots.find? fun snapshot => snapshot.ticket = ticket with
      | some snapshot => Watch.countOf (report snapshot) eventType ticket
      | none => 0 := by
  induction snapshots with
  | nil => rfl
  | cons snapshot rest ih =>
      rcases List.nodup_cons.mp distinct with ⟨absent, distinct⟩
      rcases List.forall_mem_cons.mp own with ⟨here, others⟩
      have sum : Watch.countOf ((snapshot :: rest).flatMap report) eventType ticket =
          Watch.countOf (report snapshot) eventType ticket +
            Watch.countOf (rest.flatMap report) eventType ticket := by
        rw [List.flatMap_cons, Watch.countOf, List.countP_append]
        rfl
      rw [sum, ih distinct others, List.find?_cons]
      by_cases same : snapshot.ticket = ticket
      · rw [find?_eq_none_of_absent (same ▸ absent)]
        simp [same]
      · rw [here same]
        simp [same]

/-- Each ticket that is gone is reported once. -/
theorem countOf_disappearance {gone : List Int} (distinct : gone.Nodup) (eventType : EventType)
    (ticket : Int) : Watch.countOf (gone.map disappearance) eventType ticket =
      if eventType = .positionDisappeared ∧ ticket ∈ gone then 1 else 0 := by
  have counted : Watch.countOf (gone.map disappearance) eventType ticket =
      if eventType = .positionDisappeared then gone.count ticket else 0 := by
    rw [Watch.countOf, List.countP_map]
    by_cases kind : eventType = .positionDisappeared
    · subst kind
      rw [if_pos rfl, List.count]
      apply List.countP_congr
      intro other _
      simp only [Function.comp_apply, disappearance, true_and, decide_eq_true_eq, beq_iff_eq]
    · rw [if_neg kind, List.countP_eq_zero]
      intro other _
      simp [disappearance, Ne.symm kind]
  rw [counted]
  by_cases member : ticket ∈ gone
  · simp [member, List.count_eq_one_of_mem distinct member]
  · simp [member, List.count_eq_zero_of_not_mem member]

end PositionMonitor

/-! ## One cycle -/

namespace Watch

/-- The tracked levels are those of a book, and every tracked volume is zero. -/
def Holds (tracked : TrackedLevels) (book : Book) : Prop :=
  ∀ ticket, tracked.levelsAt ticket =
    match book.find ticket with
    | some position => (some (position.sl.getD 0), some (position.tp.getD 0), some 0)
    | none => TrackedLevels.untracked

/-- The snapshots of a book. -/
def snapshots (book : Book) : List PositionSnapshot :=
  book.positions.map PositionMonitor.snapshotOf

theorem distinct_snapshots (book : Book) :
    ((snapshots book).map PositionSnapshot.ticket).Nodup := by
  have same :
      (snapshots book).map PositionSnapshot.ticket = book.positions.map Position.ticket := by
    rw [snapshots, List.map_map]
    rfl
  rw [same]
  exact book.distinct

theorem nonzero_snapshots (book : Book) : ∀ snapshot ∈ snapshots book, snapshot.ticket ≠ 0 := by
  intro snapshot member
  rcases List.mem_map.mp member with ⟨position, listed, rfl⟩
  exact book.nonzero position listed

theorem find_snapshots (book : Book) (ticket : Int) :
    (snapshots book).find? (fun snapshot => decide (snapshot.ticket = ticket)) =
      (book.find ticket).map PositionMonitor.snapshotOf :=
  List.find?_map

theorem find_eq_none_iff (book : Book) (ticket : Int) :
    book.find ticket = none ↔ ticket ∉ book.positions.map Position.ticket := by
  rw [Book.find, List.find?_eq_none, List.mem_map]
  simp

theorem mem_of_find {book : Book} {ticket : Int} {position : Position}
    (found : book.find ticket = some position) :
    position ∈ book.positions ∧ position.ticket = ticket :=
  ⟨List.mem_of_find?_eq_some found, by simpa using List.find?_some found⟩

/-- Placed levels differ where the levels of their snapshots do. -/
theorem getD_ne_iff {first second : Option ℚ} (placed : ∀ level ∈ first, 0 < level)
    (placed' : ∀ level ∈ second, 0 < level) : first.getD 0 ≠ second.getD 0 ↔ first ≠ second := by
  apply not_congr
  constructor
  · intro same
    cases first with
    | none =>
        cases second with
        | none => rfl
        | some level => exact absurd same (placed' level rfl).ne
    | some level =>
        cases second with
        | none => exact absurd same (placed level rfl).ne'
        | some other => exact congrArg some same
  · rintro rfl
    rfl

variable {watch : Watch}

theorem mem_tickets_iff (holds : Holds watch.monitor.tracked watch.book) (ticket : Int) :
    ticket ∈ watch.monitor.tracked.tickets ↔ watch.book.find ticket ≠ none := by
  have levels := congrArg Prod.fst (holds ticket)
  rw [TrackedLevels.tickets, ← not_iff_not, ← Dict.get_eq_none_iff, not_not]
  change watch.monitor.tracked.lastSl.get ticket = _ at levels
  rw [levels]
  cases watch.book.find ticket with
  | none => simp [TrackedLevels.untracked]
  | some position => simp

/-- The tickets that a cycle finds gone. -/
theorem mem_gone_iff (holds : Holds watch.monitor.tracked watch.book) (book : Book)
    (ticket : Int) : ticket ∈ watch.monitor.goneTickets book.positions ↔
      watch.book.find ticket ≠ none ∧ book.find ticket = none := by
  rw [PositionMonitor.mem_goneTickets, mem_tickets_iff holds, ← find_eq_none_iff]

/-- What a cycle tracks afterwards. -/
theorem holds_detection (holds : Holds watch.monitor.tracked watch.book) (book : Book) :
    Holds (watch.detection book).monitor.tracked book := by
  intro ticket
  have reached : (watch.detection book).monitor.tracked =
      (watch.monitor.goneTickets book.positions).foldl TrackedLevels.drop
        (PositionMonitor.compareAll watch.monitor.tracked (snapshots book)).2 := rfl
  rw [reached, TrackedLevels.levelsAt_foldl_drop,
    PositionMonitor.levelsAt_compareAll (distinct_snapshots book) (nonzero_snapshots book),
    find_snapshots]
  simp only [mem_gone_iff holds]
  cases found : book.find ticket with
  | some position => simp [TrackedLevels.levelsOf, PositionMonitor.snapshotOf]
  | none =>
      cases before : watch.book.find ticket with
      | some position => simp
      | none =>
          have levels := holds ticket
          rw [before] at levels
          simp [levels]

/-- A snapshot of a book shows a difference to the book before where a level changed. -/
theorem shows_iff (holds : Holds watch.monitor.tracked watch.book) {book : Book} {ticket : Int}
    {position : Position} (found : book.find ticket = some position) (eventType : EventType) :
    PositionMonitor.Shows watch.monitor.tracked (PositionMonitor.snapshotOf position) eventType ↔
      eventType ≠ .partialClose ∧
        ∃ before ∈ watch.book.find ticket, Book.Changed eventType before position := by
  rcases mem_of_find found with ⟨listed, rfl⟩
  have levels := holds position.ticket
  cases earlier : watch.book.find position.ticket with
  | none =>
      rw [earlier] at levels
      simp only [TrackedLevels.levelsAt, TrackedLevels.untracked, Prod.mk.injEq] at levels
      cases eventType <;>
        simp [PositionMonitor.Shows, PositionMonitor.snapshotOf, levels]
  | some before =>
      rw [earlier] at levels
      simp only [TrackedLevels.levelsAt, Prod.mk.injEq] at levels
      have known := (mem_of_find earlier).1
      have stop := getD_ne_iff (book.placedSl position listed) (watch.book.placedSl before known)
      have target := getD_ne_iff (book.placedTp position listed) (watch.book.placedTp before known)
      cases eventType with
      | slChanged => simpa [PositionMonitor.Shows, PositionMonitor.snapshotOf, levels, Book.Changed]
      | tpChanged => simpa [PositionMonitor.Shows, PositionMonitor.snapshotOf, levels, Book.Changed]
      | partialClose => simp [PositionMonitor.Shows, PositionMonitor.snapshotOf, levels]
      | positionDisappeared => simp [PositionMonitor.Shows, Book.Changed]

/-- A cycle reports what is due except partial closes, each once. -/
theorem countOf_detection (holds : Holds watch.monitor.tracked watch.book) (book : Book)
    (eventType : EventType) (ticket : Int) :
    countOf (watch.detection book).events eventType ticket =
      if eventType ≠ .partialClose ∧ watch.book.Due book eventType ticket then 1 else 0 := by
  have reported : (watch.detection book).events =
      (PositionMonitor.compareAll watch.monitor.tracked (snapshots book)).1 ++
        (watch.monitor.goneTickets book.positions).map PositionMonitor.disappearance := rfl
  have others : ∀ snapshot ∈ snapshots book, snapshot.ticket ≠ ticket →
      countOf (PositionMonitor.changes watch.monitor.tracked snapshot) eventType ticket = 0 := by
    intro snapshot _ apart
    rw [PositionMonitor.countOf_changes, if_neg fun here => apart here.1]
  rw [reported, PositionMonitor.countOf_append,
    PositionMonitor.compareAll_events (distinct_snapshots book) (nonzero_snapshots book),
    PositionMonitor.countOf_flatMap (distinct_snapshots book) eventType ticket others,
    find_snapshots, PositionMonitor.countOf_disappearance
      (PositionMonitor.nodup_goneTickets watch.monitor book.positions)]
  simp only [mem_gone_iff holds, Book.Due]
  rcases Option.eq_none_or_eq_some (book.find ticket) with found | ⟨position, found⟩
  · simp only [found]
    cases eventType <;> simp
  · have own : (PositionMonitor.snapshotOf position).ticket = ticket := (mem_of_find found).2
    simp only [found, Option.map_some, PositionMonitor.countOf_changes, shows_iff holds found, own]
    simp

/-- A cycle is exact when no position is smaller than before. -/
theorem exact_iff (holds : Holds watch.monitor.tracked watch.book) (input : WatchStep) :
    Exact watch input ↔ NoneReduced watch input := by
  cases input with
  | restart => exact Iff.rfl
  | cycle book timestamp written =>
      unfold Exact NoneReduced
      simp only [countOf_detection holds]
      constructor
      · intro exact ticket before after earlier found
        by_contra smaller
        have due : watch.book.Due book .partialClose ticket :=
          .inl ⟨before, earlier, after, found, not_le.mp smaller⟩
        have counted := exact .partialClose ticket
        simp [due] at counted
      · intro kept eventType ticket
        cases eventType with
        | partialClose =>
            have notDue : ¬ watch.book.Due book .partialClose ticket := by
              rintro (⟨before, earlier, after, found, smaller⟩ | ⟨other, -⟩)
              · exact absurd (kept ticket before after earlier found) (not_le.mpr smaller)
              · cases other
            simp [notDue]
        | _ => simp

/-! ## Runs -/

/-- The monitor tracks the book of the cycle before, and the store has what it tracks. -/
structure Sound (watch : Watch) : Prop where
  holds : Holds watch.monitor.tracked watch.book
  stored : watch.store.loadSnapshot.getD TrackedLevels.empty = watch.monitor.tracked

theorem sound_start (closeDetector : Option PositionCloseDetector)
    (orders : Option OrderStateStore) : (start closeDetector orders).Sound :=
  ⟨fun _ => rfl, rfl⟩

/-- Every step keeps track of the book, when a restart finds what was saved last. -/
theorem Sound.step (sound : watch.Sound) {input : WatchStep} (saved : Saved watch input) :
    (watch.step input).Sound := by
  cases input with
  | cycle book timestamp written =>
      refine ⟨holds_detection sound.holds book, ?_⟩
      have loaded := congrArg PositionReconciliationStore.snapshot
        (SnapshotStore.abstract_saveSnapshot watch.store (watch.detection book).monitor.tracked
          timestamp written)
      exact congrArg (Option.getD · TrackedLevels.empty) loaded
  | restart =>
      have known := SnapshotStore.abstract_reload saved
      have restored : (watch.step .restart).monitor.tracked = watch.monitor.tracked := by
        change (watch.store.reload.abstract.snapshot).getD TrackedLevels.empty = _
        rw [known]
        exact sound.stored
      refine ⟨restored ▸ sound.holds, ?_⟩
      rw [restored, ← sound.stored]
      exact congrArg (fun known => (PositionReconciliationStore.snapshot known).getD
        TrackedLevels.empty) known

/-- Over every run of verified books and restarts, every cycle reports every change exactly once
and nothing else exactly when no position is ever smaller than in the cycle before. -/
theorem changes_exact_iff (closeDetector : Option PositionCloseDetector)
    (orders : Option OrderStateStore) (inputs : List WatchStep)
    (saved : Run.Every step Saved (start closeDetector orders) inputs) :
    Run.Every step Exact (start closeDetector orders) inputs ↔
      Run.Every step NoneReduced (start closeDetector orders) inputs :=
  Run.every_iff_of_assumed Sound saved
    (fun _ _ sound saved _ => sound.step saved)
    (fun _ input sound _ => exact_iff sound.holds input)
    (sound_start closeDetector orders)

/-! ### A partial close -/

namespace Sample

/-- Gold that was bought, with a ticket, a quantity and a stop. -/
def gold (quantity stop : ℚ) : Position where
  ticket := 4711
  symbol := "XAUUSD"
  side := "BUY"
  quantity := quantity
  priceOpen := 2400
  priceCurrent := 2410
  swap := 0
  profit := 0
  unrealizedPnl := 0
  margin := 0
  magic := none
  sl := some (max stop 1)
  tp := none

/-- A book with this position. -/
def goldBook (quantity stop : ℚ) : Book where
  positions := [gold quantity stop]
  distinct := List.nodup_singleton _
  nonzero := by
    intro position member
    rw [List.mem_singleton.mp member]
    exact (by decide : (4711 : Int) ≠ 0)
  placedSl := by
    intro position member level placed
    rw [List.mem_singleton.mp member] at placed
    cases placed
    exact lt_of_lt_of_le one_pos (le_max_right stop 1)
  placedTp := by
    intro position member level placed
    rw [List.mem_singleton.mp member] at placed
    cases placed

end Sample

/-- A stop that moves, with a restart before and after. -/
theorem changes_exact_iff_gold :
    Run.Every step Exact (start none none)
        [.cycle (Sample.goldBook 1 2380) "08:00" true, .restart,
          .cycle (Sample.goldBook 1 2390) "08:05" true, .restart] ↔
      Run.Every step NoneReduced (start none none)
        [.cycle (Sample.goldBook 1 2380) "08:00" true, .restart,
          .cycle (Sample.goldBook 1 2390) "08:05" true, .restart] :=
  changes_exact_iff none none _ ⟨trivial, rfl, trivial, rfl, trivial⟩

/-- A cycle in which half of a position was closed reports nothing. -/
theorem not_changes_exact : ¬ ∀ (closeDetector : Option PositionCloseDetector)
    (orders : Option OrderStateStore) (inputs : List WatchStep),
    Run.Every step Saved (start closeDetector orders) inputs →
      Run.Every step Exact (start closeDetector orders) inputs := by
  intro exact
  have halved := exact none none
    [.cycle (Sample.goldBook 1 2380) "08:00" true,
      .cycle (Sample.goldBook (1 / 2) 2380) "08:05" true]
    ⟨trivial, trivial, trivial⟩
  rcases halved with ⟨-, counted, -⟩
  have saved : Saved (start none none) (.cycle (Sample.goldBook 1 2380) "08:00" true) := trivial
  have sound := (sound_start none none).step saved
  have kept := (exact_iff sound.holds _).mp counted
  have grown := kept 4711 (Sample.gold 1 2380) (Sample.gold (1 / 2) 2380) rfl rfl
  exact absurd grown (by decide +kernel)

end Watch

end EaBot.Monitoring
