import EaBot.Foundation.Numerals
import EaBot.Foundation.Run
import EaBot.Persistence.EntryContextStore

/-!
# The entry-context registry

What framed an entry is remembered under the ticket of its position until the position is
closed: in a registry that dies with its process, and in a store whose file does not know which
tickets were closed.

A registry that is not overfull never drops the ticket of an open position.  The cache of the
store does: opening the file brings the tickets back that it names last, closed ones among
them, and they displace older ones that are still open.
-/

namespace EaBot.Review

open EaBot.Foundation EaBot.Persistence

/-! ## The registry -/

/-- The registry of a process and the store behind it, whose file ends with a whole line. -/
structure EntryContexts where
  registry : Dict String OrderEntry
  store : RecordLog
  ended : store.file.Ended

namespace EntryContexts

/-- The most contexts that the registry holds. -/
def maxEntries : Nat :=
  500

section Calls

variable (render : Json → String)

/-- The key of a ticket. -/
def ticketKey (ticket : Json) : String :=
  if ticket.isNull then "" else OrderJournal.textOf render ticket

theorem isSome_open? {file : TextFile} (ended : file.Ended) :
    (EntryContextStore.open? render file).isSome = true := by
  rw [EntryContextStore.open?, RecordLog.open?, ended.1]
  rfl

/-- The store that opens on a file. -/
def opened (file : TextFile) (ended : file.Ended) : RecordLog :=
  (EntryContextStore.open? render file).get (isSome_open? render ended)

theorem opened_eq (file : TextFile) (ended : file.Ended) :
    (opened render file ended).file = file ∧
      (opened render file ended).limit = 1000 ∧
      (opened render file ended).records =
        (recency (EntryContextStore.recordsOf render file)).trim 1000 := by
  have found : EntryContextStore.open? render file = some (opened render file ended) :=
    (Option.some_get _).symm
  obtain ⟨follows, same, limit⟩ := RecordLog.follows_of_open? render found
  refine ⟨same, limit, ?_⟩
  rw [follows, same, limit]
  rfl

/-- The contexts of a process that starts on a file. -/
def start (file : TextFile) (ended : file.Ended) : EntryContexts where
  registry := Dict.empty
  store := opened render file ended
  ended := by rwa [(opened_eq render file ended).1]

theorem ended_remember {store : RecordLog} (ended : store.file.Ended) (ticket : Json)
    (context : OrderEntry) :
    (EntryContextStore.remember render store ticket context true).file.Ended := by
  unfold EntryContextStore.remember
  split
  · exact ended
  · exact RecordLog.ended_put ended _ _ _

theorem file_pop (store : RecordLog) (ticket : Json) :
    (EntryContextStore.pop render store ticket).file = store.file := by
  unfold EntryContextStore.pop
  split <;> rfl

/-- Remember the context of a ticket. -/
def rememberEntryContext (contexts : EntryContexts) (ticket : Json) (context : OrderEntry) :
    EntryContexts :=
  if ticketKey render ticket = "" then contexts
  else
    { registry := (contexts.registry.set (ticketKey render ticket) context).trim maxEntries
      store := EntryContextStore.remember render contexts.store ticket context true
      ended := ended_remember render contexts.ended ticket context }

/-- The context of a ticket, from the registry or else from the store. -/
def getEntryContext (contexts : EntryContexts) (ticket : Json) : OrderEntry :=
  match contexts.registry.get (ticketKey render ticket) with
  | some raw => raw
  | none => EntryContextStore.get render contexts.store ticket

/-- Drop the context of a ticket, from the registry and from the store. -/
def popEntryContext (contexts : EntryContexts) (ticket : Json) : EntryContexts where
  registry := contexts.registry.erase (ticketKey render ticket)
  store := EntryContextStore.pop render contexts.store ticket
  ended := by
    rw [file_pop]
    exact contexts.ended

/-- The contexts of the next process. -/
def restart (contexts : EntryContexts) : EntryContexts :=
  start render contexts.store.file contexts.ended

end Calls

end EntryContexts

/-! ## Runs -/

/-- A call on the contexts, or a restart. -/
inductive ContextCall
  | remember (ticket : Json) (context : OrderEntry)
  | pop (ticket : Json)
  | restart

/-- The contexts, and what was remembered last for each ticket that was not popped since. -/
structure ContextWatch where
  contexts : EntryContexts
  remembered : Dict String OrderEntry

namespace ContextWatch

open EntryContexts EntryContextStore

section Watching

variable (render : Json → String)

/-- A first process on a file. -/
def start (file : TextFile) (ended : file.Ended) : ContextWatch :=
  ⟨EntryContexts.start render file ended, Dict.empty⟩

/-- The contexts after a call. -/
def step (watch : ContextWatch) : ContextCall → ContextWatch
  | .remember ticket context =>
      { contexts := watch.contexts.rememberEntryContext render ticket context
        remembered :=
          if ticketKey render ticket = "" then watch.remembered
          else watch.remembered.set (ticketKey render ticket) context }
  | .pop ticket =>
      { contexts := watch.contexts.popEntryContext render ticket
        remembered := watch.remembered.erase (ticketKey render ticket) }
  | .restart => ⟨watch.contexts.restart render, watch.remembered⟩

/-- At most as many tickets as the registry holds are remembered after a call. -/
def Few (watch : ContextWatch) (call : ContextCall) : Prop :=
  (watch.step render call).remembered.keys.length ≤ EntryContexts.maxEntries

instance (watch : ContextWatch) (call : ContextCall) : Decidable (watch.Few render call) :=
  inferInstanceAs (Decidable (_ ≤ _))

/-- Each remembered ticket has the persisted fields that were remembered last for it. -/
def Survives (watch : ContextWatch) : Prop :=
  ∀ ticket context, watch.remembered.get (ticketKey render ticket) = some context →
    ∀ name ∈ persistedFields,
      (watch.contexts.getEntryContext render ticket).get name = context.get name

/-- The remembered tickets have their fields after a call. -/
def SurvivesAfter (watch : ContextWatch) (call : ContextCall) : Prop :=
  (watch.step render call).Survives render

/-- The context has a field that is persisted. -/
def Telling (context : OrderEntry) : Prop :=
  ∃ name ∈ persistedFields, context.get name ≠ none

/-- The call does not lose a remembered ticket: a context that is remembered does not displace
one from the cache that the registry does not hold, and a restart finds each ticket among the
newest ones of the file. -/
def Keeps (watch : ContextWatch) : ContextCall → Prop
  | .remember ticket _ => ticketKey render ticket ≠ "" →
      ∀ oldest context,
        watch.contexts.store.records.displaced 1000 (ticketKey render ticket) = some oldest →
        watch.remembered.get oldest = some context → Telling context →
        oldest ∈ watch.contexts.registry.keys
  | .pop _ => True
  | .restart => ∀ key context, watch.remembered.get key = some context → Telling context →
      key ∈ ((recordsOf render watch.contexts.store.file).map Prod.fst).dedup.rtake 1000

end Watching

/-! ## Sound watches -/

/-- What the registry, the cache and the file say about a remembered ticket is what was
remembered last for it. -/
structure Sound (render : Json → String) (watch : ContextWatch) : Prop where
  named : watch.remembered.get "" = none
  registered : ∀ key context, watch.contexts.registry.get key = some context →
    watch.remembered.get key = some context
  cached : ∀ key record context, watch.contexts.store.records.get key = some record →
    watch.remembered.get key = some context → record = recordFor key context
  written : ∀ key context, watch.remembered.get key = some context →
    lastAssigned key (recordsOf render watch.contexts.store.file) = some (recordFor key context)
  limit : watch.contexts.store.limit = 1000
  within : watch.contexts.store.records.keys.length ≤ 1000

section Steps

variable (render : Json → String) {watch : ContextWatch}

theorem keyOf_eq (ticket : Json) :
    keyOf render ticket =
      if ticketKey render ticket = "" then none else some (ticketKey render ticket) := by
  unfold keyOf ticketKey
  split
  · rfl
  · rfl

theorem length_rtake_le {α : Type} (items : List α) (limit : Nat) :
    (items.rtake limit).length ≤ limit := by
  rw [Recency.length_rtake]
  exact Nat.min_le_left _ _

theorem sound_start (file : TextFile) (ended : file.Ended) :
    (start render file ended).Sound render := by
  obtain ⟨-, limit, records⟩ := opened_eq render file ended
  refine ⟨rfl, fun key context held => ?_, fun key record context _ held => ?_,
    fun key context held => ?_, limit, ?_⟩
  · cases held
  · cases held
  · cases held
  · change (opened render file ended).records.keys.length ≤ 1000
    rw [records, Dict.keys_trim]
    exact length_rtake_le _ _

theorem Sound.restart (sound : watch.Sound render) :
    (watch.step render .restart).Sound render := by
  have ended := watch.contexts.ended
  obtain ⟨same, limit, records⟩ := opened_eq render watch.contexts.store.file ended
  refine ⟨sound.named, fun key context held => ?_, fun key record context cached held => ?_,
    fun key context held => ?_, limit, ?_⟩
  · cases held
  · change (opened render watch.contexts.store.file ended).records.get key = some record at cached
    rw [records] at cached
    have last := lastAssigned_of_get_trim cached
    exact Option.some.inj (last.symm.trans (sound.written key context held))
  · change lastAssigned key (recordsOf render (opened render _ ended).file) = _
    rw [same]
    exact sound.written key context held
  · change (opened render watch.contexts.store.file ended).records.keys.length ≤ 1000
    rw [records, Dict.keys_trim]
    exact length_rtake_le _ _

theorem get_records_pop (store : RecordLog) (ticket : Json) {key : String} (named : key ≠ "") :
    (EntryContextStore.pop render store ticket).records.get key =
      if key = ticketKey render ticket then none else store.records.get key := by
  unfold EntryContextStore.pop ticketKey
  by_cases missing : ticket.isNull = true
  · rw [if_pos missing, if_pos missing, if_neg named]
  · rw [if_neg missing, if_neg missing]
    exact Dict.get_erase _ _ _

theorem length_keys_pop_le (store : RecordLog) (ticket : Json) :
    (EntryContextStore.pop render store ticket).records.keys.length ≤
      store.records.keys.length := by
  unfold EntryContextStore.pop
  split
  · exact Nat.le_refl _
  · change (List.map _ (List.filter _ _)).length ≤ (List.map _ _).length
    rw [List.length_map, List.length_map]
    exact List.length_filter_le _ _

theorem Sound.pop (sound : watch.Sound render) (ticket : Json) :
    (watch.step render (.pop ticket)).Sound render := by
  have kept {key : String} {context : OrderEntry}
      (held : (watch.step render (.pop ticket)).remembered.get key = some context) :
      key ≠ ticketKey render ticket ∧ watch.remembered.get key = some context := by
    rw [step, Dict.get_erase] at held
    split at held
    · cases held
    · rename_i apart
      exact ⟨apart, held⟩
  have named {key : String} {context : OrderEntry}
      (held : watch.remembered.get key = some context) : key ≠ "" := by
    rintro rfl
    rw [sound.named] at held
    cases held
  refine ⟨?_, fun key context held => ?_, fun key record context cached held => ?_,
    fun key context held => ?_, ?_, ?_⟩
  · rw [step, Dict.get_erase, sound.named, ite_self]
  · change (watch.contexts.registry.erase _).get key = some context at held
    rw [Dict.get_erase] at held
    rw [step, Dict.get_erase]
    split at held
    · cases held
    · rename_i apart
      rw [if_neg apart]
      exact sound.registered key context held
  · obtain ⟨apart, held⟩ := kept held
    change (EntryContextStore.pop render _ ticket).records.get key = some record at cached
    rw [get_records_pop render _ _ (named held), if_neg apart] at cached
    exact sound.cached key record context cached held
  · obtain ⟨-, held⟩ := kept held
    change lastAssigned key (recordsOf render (EntryContextStore.pop render _ ticket).file) = _
    rw [file_pop]
    exact sound.written key context held
  · change (EntryContextStore.pop render _ ticket).limit = 1000
    unfold EntryContextStore.pop
    split
    · exact sound.limit
    · exact sound.limit
  · exact (length_keys_pop_le render _ ticket).trans sound.within

theorem step_remember_unnamed {ticket : Json} (unnamed : ticketKey render ticket = "")
    (context : OrderEntry) : watch.step render (.remember ticket context) = watch := by
  rw [step, rememberEntryContext, if_pos unnamed, if_pos unnamed]

/-- What a remembered context changes. -/
theorem step_remember {ticket : Json} (named : ticketKey render ticket ≠ "")
    (context : OrderEntry) :
    let next := watch.step render (.remember ticket context)
    next.remembered = watch.remembered.set (ticketKey render ticket) context ∧
      next.contexts.registry =
        (watch.contexts.registry.set (ticketKey render ticket) context).trim
          EntryContexts.maxEntries ∧
      next.contexts.store = watch.contexts.store.put (ticketKey render ticket)
        (recordFor (ticketKey render ticket) context) true := by
  have stored : EntryContextStore.remember render watch.contexts.store ticket context true =
      watch.contexts.store.put (ticketKey render ticket)
        (recordFor (ticketKey render ticket) context) true := by
    rw [EntryContextStore.remember, keyOf_eq, if_neg named]
  rw [step, rememberEntryContext, if_neg named, if_neg named]
  exact ⟨rfl, rfl, stored⟩

/-- The file gets a record of the context. -/
theorem recordsOf_remember {ticket : Json} (named : ticketKey render ticket ≠ "")
    (context : OrderEntry) :
    recordsOf render (watch.step render (.remember ticket context)).contexts.store.file =
      recordsOf render watch.contexts.store.file ++
        [(ticketKey render ticket, recordFor (ticketKey render ticket) context)] := by
  rw [(step_remember render named context).2.2]
  exact RecordLog.recordsOf_append render watch.contexts.ended (ticket_recordFor _ context) rfl

theorem Sound.remember (sound : watch.Sound render) (ticket : Json) (context : OrderEntry) :
    (watch.step render (.remember ticket context)).Sound render := by
  by_cases unnamed : ticketKey render ticket = ""
  · rwa [step_remember_unnamed render unnamed]
  obtain ⟨remembered, registry, store⟩ := @step_remember render watch ticket unnamed context
  have records := @recordsOf_remember render watch ticket unnamed context
  generalize watch.step render (.remember ticket context) = next at *
  generalize ticketKey render ticket = key at *
  have limit := sound.limit
  refine ⟨?_, fun other held found => ?_, fun other record held cached found => ?_,
    fun other held found => ?_, ?_, ?_⟩
  · rw [remembered, Dict.get_set_of_ne _ (Ne.symm unnamed), sound.named]
  · rw [registry] at found
    have found := Dict.get_of_get_trim _ found
    rw [Dict.get_set] at found
    rw [remembered, Dict.get_set]
    split at found
    · rename_i here
      rwa [if_pos here]
    · rename_i apart
      rw [if_neg apart]
      exact sound.registered other held found
  · rw [store] at cached
    have cached := Dict.get_of_get_trim _ cached
    rw [Dict.get_touch] at cached
    rw [remembered, Dict.get_set] at found
    split at cached
    · rename_i here
      rw [if_pos here] at found
      cases found
      rw [here]
      exact (Option.some.inj cached).symm
    · rename_i apart
      rw [if_neg apart] at found
      exact sound.cached other record held cached found
  · rw [records, lastAssigned_concat]
    rw [remembered, Dict.get_set] at found
    change (if other = key then _ else _) = _
    split at found
    · rename_i here
      rw [if_pos here, here]
      cases found
      rfl
    · rename_i apart
      rw [if_neg apart]
      exact sound.written other held found
  · rw [store]
    exact limit
  · rw [store]
    change (watch.contexts.store.records.remember watch.contexts.store.limit _).keys.length ≤ 1000
    rw [limit]
    exact Dict.length_keys_remember_le _ _ _

end Steps

/-! ## What is lost -/

section Losses

variable (render : Json → String) {watch : ContextWatch}

/-- The remembered tickets have their fields when the registry or the cache holds them. -/
theorem Sound.survives_iff (sound : watch.Sound render) :
    watch.Survives render ↔ ∀ key context, watch.remembered.get key = some context →
      Telling context →
        key ∈ watch.contexts.registry.keys ∨ key ∈ watch.contexts.store.records.keys := by
  simp only [Dict.mem_keys_iff]
  constructor
  · rintro survives key context held ⟨name, persisted, given⟩
    by_contra lost
    rw [not_or, not_exists, not_exists] at lost
    have found := survives (.str key) context held name persisted
    have unregistered : watch.contexts.registry.get key = none :=
      Option.eq_none_iff_forall_ne_some.mpr lost.1
    have uncached : watch.contexts.store.records.get key = none :=
      Option.eq_none_iff_forall_ne_some.mpr lost.2
    have solid : ¬ Json.isNull (.str key) = true := Bool.false_ne_true
    have same : OrderJournal.textOf render (.str key) = key := rfl
    rw [getEntryContext, ticketKey, if_neg solid, same, unregistered] at found
    dsimp only at found
    rw [EntryContextStore.get, if_neg solid, same, uncached] at found
    exact given found.symm
  · intro held ticket context remembered name persisted
    have solid : ¬ ticket.isNull = true := by
      intro missing
      rw [ticketKey, if_pos missing, sound.named] at remembered
      cases remembered
    have same : ticketKey render ticket = OrderJournal.textOf render ticket := if_neg solid
    rw [getEntryContext]
    cases registered : watch.contexts.registry.get (ticketKey render ticket) with
    | some raw =>
        cases (sound.registered _ raw registered).symm.trans remembered
        rfl
    | none =>
        rw [EntryContextStore.get, if_neg solid, ← same]
        cases cached : watch.contexts.store.records.get (ticketKey render ticket) with
        | some record =>
            rw [sound.cached _ record context cached remembered]
            exact get_recordFor _ context persisted
        | none =>
            dsimp only
            rw [Dict.get_empty]
            by_contra given
            rcases held _ context remembered ⟨name, persisted, Ne.symm given⟩ with
              ⟨raw, found⟩ | ⟨record, found⟩
            · cases registered.symm.trans found
            · cases cached.symm.trans found

theorem registry_kept (sound : watch.Sound render) {ticket : Json} {context : OrderEntry}
    (few : watch.Few render (.remember ticket context)) (named : ticketKey render ticket ≠ "") :
    (watch.step render (.remember ticket context)).contexts.registry =
      watch.contexts.registry.set (ticketKey render ticket) context := by
  obtain ⟨remembered, registry, -⟩ := @step_remember render watch ticket named context
  rw [registry]
  apply Dict.trim_of_length_le
  refine Nat.le_trans ?_ few
  apply List.Subperm.length_le
  refine List.subperm_of_subset (Dict.distinct _) fun key member => ?_
  rw [remembered]
  rw [Dict.mem_keys_set] at member ⊢
  refine member.imp_right fun held => ?_
  obtain ⟨found, registered⟩ := (Dict.mem_keys_iff _ _).mp held
  exact (Dict.mem_keys_iff _ _).mpr ⟨found, sound.registered key found registered⟩

/-- A call keeps the remembered tickets if and only if it meets the condition. -/
theorem Sound.survivesAfter_iff (sound : watch.Sound render) (survives : watch.Survives render)
    {call : ContextCall} (few : watch.Few render call) :
    watch.SurvivesAfter render call ↔ watch.Keeps render call := by
  rw [sound.survives_iff] at survives
  cases call with
  | remember ticket context =>
      by_cases unnamed : ticketKey render ticket = ""
      · rw [SurvivesAfter, step_remember_unnamed render unnamed, sound.survives_iff]
        exact iff_of_true survives fun named => absurd unnamed named
      rw [SurvivesAfter, (sound.remember render ticket context).survives_iff,
        registry_kept render sound few unnamed]
      obtain ⟨remembered, -, store⟩ := @step_remember render watch ticket unnamed context
      rw [remembered, store, Keeps, forall_prop_of_true unnamed]
      change (∀ key held, _ → _ → _ ∨
        key ∈ (watch.contexts.store.records.remember watch.contexts.store.limit _).keys) ↔ _
      rw [sound.limit]
      simp only [Dict.mem_keys_set, Dict.get_set,
        Dict.mem_keys_remember _ (Nat.succ_pos 999) sound.within]
      generalize ticketKey render ticket = key at unnamed
      constructor
      · intro kept oldest context displaced held telling
        have apart : oldest ≠ key := by
          rintro rfl
          exact Dict.displaced_ne_self _ displaced
        rcases kept oldest context (by rwa [if_neg apart]) telling with
          (same | registered) | same | ⟨-, stays⟩
        · exact absurd same apart
        · exact registered
        · exact absurd same apart
        · exact absurd displaced stays
      · intro keeps other context held telling
        by_cases here : other = key
        · exact .inl (.inl here)
        · rw [if_neg here] at held
          rcases survives other context held telling with registered | cached
          · exact .inl (.inr registered)
          · by_cases displaced : watch.contexts.store.records.displaced 1000 key = some other
            · exact .inl (.inr (keeps other context displaced held telling))
            · exact .inr (.inr ⟨cached, displaced⟩)
  | pop ticket =>
      rw [SurvivesAfter, (sound.pop render ticket).survives_iff]
      refine iff_of_true (fun key context held telling => ?_) trivial
      rw [step, Dict.get_erase] at held
      split at held
      · cases held
      · rename_i apart
        have named : key ≠ "" := by
          rintro rfl
          rw [sound.named] at held
          cases held
        rcases survives key context held telling with registered | cached
        · exact .inl ((Dict.mem_keys_erase _ _ _).mpr ⟨apart, registered⟩)
        · right
          rw [Dict.mem_keys_iff] at cached ⊢
          obtain ⟨record, found⟩ := cached
          refine ⟨record, ?_⟩
          change (EntryContextStore.pop render _ ticket).records.get key = some record
          rw [get_records_pop render _ _ named, if_neg apart, found]
  | restart =>
      rw [SurvivesAfter, (sound.restart render).survives_iff]
      obtain ⟨-, -, records⟩ := opened_eq render watch.contexts.store.file watch.contexts.ended
      have keys : (watch.step render .restart).contexts.store.records.keys =
          ((recordsOf render watch.contexts.store.file).map Prod.fst).dedup.rtake 1000 := by
        rw [← keys_trim_recency, ← records]
        rfl
      rw [keys]
      refine forall₄_congr fun key context held telling => or_iff_right ?_
      exact List.not_mem_nil

theorem Sound.step (sound : watch.Sound render) (call : ContextCall) :
    (watch.step render call).Sound render := by
  cases call with
  | remember ticket context => exact sound.remember render ticket context
  | pop ticket => exact sound.pop render ticket
  | restart => exact sound.restart render

/-- In a run the remembered tickets are kept after every call if and only if every call meets the
condition. -/
theorem Sound.every_iff (sound : watch.Sound render) (survives : watch.Survives render)
    {calls : List ContextCall}
    (few : Run.Every (ContextWatch.step render) (Few render) watch calls) :
    Run.Every (ContextWatch.step render) (SurvivesAfter render) watch calls ↔
      Run.Every (ContextWatch.step render) (Keeps render) watch calls := by
  apply Run.every_iff_of_assumed (fun watch => watch.Sound render ∧ watch.Survives render) few
  · rintro watch call ⟨sound, survives⟩ few keeps
    exact ⟨sound.step render call, (sound.survivesAfter_iff render survives few).mpr keeps⟩
  · rintro watch call ⟨sound, survives⟩ few
    exact sound.survivesAfter_iff render survives few
  · exact ⟨sound, survives⟩

/-- A file that nothing was written to. -/
theorem ended_empty : TextFile.empty.Ended :=
  ⟨rfl, .inl rfl⟩

theorem survives_start (file : TextFile) (ended : file.Ended) :
    (start render file ended).Survives render :=
  fun _ _ held => nomatch held

end Losses

/-! ## Closed trades -/

section Trades

variable (render : Json → String) {watch : ContextWatch} {first : String} {kept : OrderEntry}
  {names : List String}

/-- Trades that are opened and closed one after the other. -/
def closedTrades (tickets : List String) (context : OrderEntry) : List ContextCall :=
  tickets.flatMap fun ticket => [.remember (.str ticket) context, .pop (.str ticket)]

/-- One ticket is remembered, and the file names some tickets in order. -/
structure Alone (first : String) (kept : OrderEntry) (names : List String)
    (watch : ContextWatch) : Prop where
  remembered : watch.remembered = Dict.empty.set first kept
  written : (recordsOf render watch.contexts.store.file).map Prod.fst = names

theorem Alone.trade (alone : Alone render first kept names watch) {ticket : String}
    (nonempty : ticket ≠ "") (apart : ticket ≠ first) (context : OrderEntry) :
    let opened := watch.step render (.remember (.str ticket) context)
    watch.Few render (.remember (.str ticket) context) ∧
      opened.Few render (.pop (.str ticket)) ∧
      Alone render first kept (names ++ [ticket]) (opened.step render (.pop (.str ticket))) := by
  have key : ticketKey render (.str ticket) = ticket := rfl
  have remembered := (@step_remember render watch (.str ticket) nonempty context).1
  have records := @recordsOf_remember render watch (.str ticket) nonempty context
  rw [alone.remembered, key] at remembered
  dsimp only
  have both : ((Dict.empty.set first kept).set ticket context).entries =
      [(first, kept), (ticket, context)] := by
    simp [Dict.set, Dict.empty, Entries.set, Ne.symm apart]
  have dropped : (((Dict.empty.set first kept).set ticket context).erase ticket) =
      Dict.empty.set first kept := by
    apply Dict.ext_entries
    change List.filter _ ((Dict.empty.set first kept).set ticket context).entries = _
    rw [both]
    simp [Dict.set, Dict.empty, Entries.set, Ne.symm apart]
  have after : ((watch.step render (.remember (.str ticket) context)).step render
      (.pop (.str ticket))).remembered = Dict.empty.set first kept := by
    rw [← dropped, ← remembered]
    rfl
  refine ⟨?_, ?_, after, ?_⟩
  · rw [Few, remembered, Dict.keys, both]
    exact (by decide : 2 ≤ 500)
  · rw [Few, after]
    exact (by decide : 1 ≤ 500)
  · change (recordsOf render (EntryContextStore.pop render _ _).file).map Prod.fst = _
    rw [file_pop, records, List.map_append, alone.written]
    rfl

/-- Closed trades leave the remembered ticket alone, and the file names theirs. -/
theorem Alone.trades (alone : Alone render first kept names watch) {tickets : List String}
    (others : ∀ ticket ∈ tickets, ticket ≠ "" ∧ ticket ≠ first) (context : OrderEntry) :
    Run.Every (ContextWatch.step render) (Few render) watch (closedTrades tickets context) ∧
      Alone render first kept (names ++ tickets)
        (Run.after (ContextWatch.step render) watch (closedTrades tickets context)) := by
  induction tickets generalizing watch names with
  | nil =>
      rw [List.append_nil]
      exact ⟨trivial, alone⟩
  | cons ticket rest ih =>
      obtain ⟨nonempty, apart⟩ := others ticket List.mem_cons_self
      obtain ⟨opens, closes, next⟩ := alone.trade render nonempty apart context
      obtain ⟨few, last⟩ := ih next fun other member => others other (.tail _ member)
      rw [List.append_cons]
      exact ⟨⟨opens, closes, few⟩, last⟩

/-- A restart loses a remembered ticket that is followed by a thousand others in the file. -/
theorem Alone.lost {tickets : List String}
    (alone : Alone render first kept (first :: tickets) watch) (telling : Telling kept)
    (distinct : (first :: tickets).Nodup) (many : 1000 ≤ tickets.length) :
    ¬ watch.Keeps render .restart := by
  intro keeps
  have held : watch.remembered.get first = some kept := by
    rw [alone.remembered, Dict.get_set_self]
  have newest := keeps first kept held telling
  rw [alone.written, distinct.dedup, ← List.singleton_append,
    Recency.rtake_append_of_le _ many] at newest
  exact (List.nodup_cons.mp distinct).1 ((Recency.rtake_sublist _ _).subset newest)

/-- A position is opened first, a thousand others are opened and closed, and a restart loses it. -/
theorem closedTrades_lose {tickets : List String} {context : OrderEntry}
    (distinct : (first :: tickets).Nodup) (nonempty : ∀ ticket ∈ first :: tickets, ticket ≠ "")
    (many : 1000 ≤ tickets.length) (telling : Telling kept) :
    let calls := .remember (.str first) kept :: (closedTrades tickets context ++ [.restart])
    Run.Every (step render) (Few render) (start render TextFile.empty ended_empty) calls ∧
      ¬ Run.Every (step render) (SurvivesAfter render)
        (start render TextFile.empty ended_empty) calls := by
  intro calls
  have sound := sound_start render TextFile.empty ended_empty
  have survives := survives_start render TextFile.empty ended_empty
  have file := (opened_eq render TextFile.empty ended_empty).1
  have named : ticketKey render (.str first) ≠ "" := nonempty first List.mem_cons_self
  have alone : Alone render first kept [first]
      ((start render TextFile.empty ended_empty).step render (.remember (.str first) kept)) := by
    refine ⟨(step_remember render named _).1, ?_⟩
    rw [recordsOf_remember render named, List.map_append]
    change (recordsOf render (opened render TextFile.empty ended_empty).file).map _ ++ _ = _
    rw [file]
    rfl
  have others : ∀ ticket ∈ tickets, ticket ≠ "" ∧ ticket ≠ first := by
    intro ticket member
    refine ⟨nonempty ticket (.tail _ member), ?_⟩
    rintro rfl
    exact (List.nodup_cons.mp distinct).1 member
  obtain ⟨few, last⟩ := alone.trades render others context
  have one : ∀ watch : ContextWatch, watch.remembered = Dict.empty.set first kept →
      watch.remembered.keys.length ≤ EntryContexts.maxEntries := by
    intro watch same
    rw [same]
    exact (by decide : 1 ≤ 500)
  have all : Run.Every (step render) (Few render) (start render TextFile.empty ended_empty)
      calls :=
    ⟨one _ alone.remembered, (Run.every_append _ _ _).mpr ⟨few, one _ last.remembered, trivial⟩⟩
  refine ⟨all, ?_⟩
  rw [sound.every_iff render survives all]
  rintro ⟨-, onwards⟩
  obtain ⟨-, keeps, -⟩ := (Run.every_append _ _ _).mp onwards
  exact last.lost render telling distinct many keeps

end Trades

end ContextWatch

open ContextWatch

/-- In every run with at most as many remembered tickets as the registry holds, the tickets that
were not popped have the fields that were remembered last for them after every call, if and only
if no call displaces such a ticket from the cache that the registry does not hold, and every
restart finds such tickets among the newest ones of the file. -/
theorem remembered_fields_survive_iff (render : Json → String) (file : TextFile)
    (ended : file.Ended) (calls : List ContextCall)
    (few : Run.Every (step render) (Few render) (start render file ended) calls) :
    Run.Every (step render) (SurvivesAfter render) (start render file ended) calls ↔
      Run.Every (step render) (Keeps render) (start render file ended) calls :=
  (sound_start render file ended).every_iff render (survives_start render file ended) few

namespace Sample

/-- The context of an entry with its stop. -/
def entryContext : OrderEntry :=
  Dict.empty.update [("symbol", .str "XAUUSD"), ("stop_loss", .number (.ofNat 1990))]

/-- The text of a ticket. -/
def ticketText (number : Nat) : String :=
  toString (number : Int)

/-- A position is opened and closed. -/
def shortRun : List ContextCall :=
  closedTrades [ticketText 0] entryContext

/-- A position is opened, a thousand others are opened and closed, and the process restarts. -/
def longRun : List ContextCall :=
  .remember (.str (ticketText 0)) entryContext ::
    (closedTrades ((List.range 1000).map fun number => ticketText (number + 1)) entryContext ++
      [.restart])

theorem ticketText_injective : Function.Injective ticketText :=
  Text.toString_injective.comp Nat.cast_injective

theorem ticketText_ne_empty (number : Nat) : ticketText number ≠ "" := by
  intro same
  have read := congrArg Text.toInt? same
  rw [ticketText, Text.toInt?_toString] at read
  revert read
  exact nofun

theorem nodup_tickets (count : Nat) :
    (ticketText 0 :: (List.range count).map fun number => ticketText (number + 1)).Nodup := by
  have whole : (ticketText 0 :: (List.range count).map fun number => ticketText (number + 1)) =
      (List.range (count + 1)).map ticketText := by
    rw [List.range_succ_eq_map, List.map_cons, List.map_map]
    rfl
  rw [whole]
  exact List.nodup_range.map ticketText_injective

end Sample

theorem stop_survives_until_close :
    Run.Every (step fun _ => "") (SurvivesAfter fun _ => "")
      (start (fun _ => "") TextFile.empty ended_empty) Sample.shortRun := by
  have fresh : (start (fun _ => "") TextFile.empty ended_empty).contexts.store.records.displaced
      1000 (Sample.ticketText 0) = none := by
    decide +kernel
  refine (remembered_fields_survive_iff (fun _ => "") TextFile.empty ended_empty Sample.shortRun
    ⟨by decide +kernel, by decide +kernel, trivial⟩).mpr ⟨?_, trivial, trivial⟩
  intro _ oldest _ displaced
  cases fresh.symm.trans displaced

/-- The stop of an open position is lost after a thousand closed trades and a restart. -/
theorem stop_lost_after_closed_trades :
    Run.Every (step fun _ => "") (Few fun _ => "")
        (start (fun _ => "") TextFile.empty ended_empty) Sample.longRun ∧
      ¬ Run.Every (step fun _ => "") (SurvivesAfter fun _ => "")
        (start (fun _ => "") TextFile.empty ended_empty) Sample.longRun := by
  refine closedTrades_lose _ (Sample.nodup_tickets 1000) ?_ ?_ ?_
  · intro ticket member
    rcases List.mem_cons.mp member with rfl | member
    · exact Sample.ticketText_ne_empty 0
    · obtain ⟨number, -, rfl⟩ := List.mem_map.mp member
      exact Sample.ticketText_ne_empty (number + 1)
  · rw [List.length_map, List.length_range]
  · exact ⟨"stop_loss", by decide, by decide⟩

end EaBot.Review
