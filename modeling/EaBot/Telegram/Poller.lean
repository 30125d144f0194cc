import EaBot.Foundation.Run
import EaBot.Foundation.Value
import Mathlib.Data.List.Pairwise

/-!
# The command poller

The bot fetches the messages that its chats sent, answers the commands among them and tells the
messenger with its next request up to which message it is through.  A request can be lost on its
way or on its way back, a reply can fail, and the process can die in the middle of a batch, which
loses the offset.

The messenger numbers its updates in the order in which they arrive.  It drops an update when a
request asks for later ones only, and answers with the first of those that it still holds.
-/

namespace EaBot.Telegram.Poller

open EaBot.Foundation

/-! ## The gateway -/

def formatHelp : String :=
  "\n".intercalate
    ["EA Bot — available commands:",
      "/status  — system status summary",
      "/positions — current positions summary",
      "/risk — risk summary",
      "/why — explain the last decision (structured summary + evidence)",
      "/review — latest trade review summary",
      "/signal — is there an active trade signal right now?",
      "/help — this message"]

/-- The command of a message, its first word. -/
def parse (text : String) : String :=
  let word := (text.toList.dropWhile Text.isSpace).takeWhile fun char => !Text.isSpace char
  Text.lower (String.ofList word)

/-- The commands that ask a provider. -/
def queries : List String :=
  ["/status", "/positions", "/risk", "/why", "/review", "/signal"]

structure TelegramGateway where
  allowlist : List String

namespace TelegramGateway

def isAuthorized (gateway : TelegramGateway) (chatId : Val) : Bool :=
  chatId.text ∈ gateway.allowlist

/-- The reply to a message; `format` gives the formatted answer of the provider that a command
asks, which raises when what the provider returned cannot be formatted. -/
def handleMessage (gateway : TelegramGateway) (format : String → Except String String)
    (chatId : Val) (text : String) : Except String String :=
  if !gateway.isAuthorized chatId then
    .ok "⛔ Unauthorized. This chat is not permitted to query the system."
  else if parse text ∈ queries then format (parse text)
  else .ok formatHelp

end TelegramGateway

/-! ## The poller -/

/-- A message: its text when that is one, and the identifier of its chat. -/
structure Message where
  text : Option String
  chatId : Val
deriving DecidableEq

/-- A member of an answer. -/
inductive Item
  | update (updateId : Val) (message : Option Message)
  | other
deriving DecidableEq

/-- What the commands answer while an update is handled, and whether a reply goes out. -/
structure Moment where
  format : String → Except String String
  delivers : Bool

/-- What became of an update. -/
structure Handling where
  item : Item
  reply : Option (Val × String)
  delivered : Bool

/-- The chat and the text of the reply to a message, when there is one. -/
def replyTo (gateway : TelegramGateway) (format : String → Except String String)
    (message : Message) : Option (Val × String) :=
  match message.text with
  | none => none
  | some text =>
      if Text.strip text = "" ∨ message.chatId = .none then none
      else if gateway.isAuthorized message.chatId then
        (gateway.handleMessage format message.chatId text).toOption.map
          fun reply => (message.chatId, reply)
      else none

def handle (gateway : TelegramGateway) (moment : Moment) (item : Item) : Handling where
  item := item
  reply :=
    match item with
    | .update _ (some message) => replyTo gateway moment.format message
    | .update _ none | .other => none
  delivered := moment.delivers

/-- Move the offset past an update. -/
def advanceOffset (offset : Option Int) : Item → Option Int
  | .other => offset
  | .update updateId _ =>
      match updateId.toInt with
      | .error _ => offset
      | .ok value => if offset.all fun next => next ≤ value then some (value + 1) else offset

/-- Handle a batch; `moments` gives the moment of every position. -/
def handleBatch (gateway : TelegramGateway) (moments : Nat → Moment) :
    Nat → List Item → Option Int → Option Int × List Handling
  | _, [], offset => (offset, [])
  | position, item :: rest, offset =>
      let (last, others) :=
        handleBatch gateway moments (position + 1) rest (advanceOffset offset item)
      (last, handle gateway (moments position) item :: others)

/-! ## The messenger and the process -/

/-- An update that arrived at the messenger. -/
structure Arrival where
  id : Int
  message : Option Message
deriving DecidableEq

def Arrival.item (arrival : Arrival) : Item :=
  .update (.int arrival.id) arrival.message

/-- The updates that arrived, the bound below which the messenger has dropped them, the offset of
the running process, how often the process was started again, and what was handled in which life. -/
structure World where
  arrived : List Arrival
  confirmed : Option Int
  offset : Option Int
  life : Nat
  handled : List (Nat × Handling)

namespace World

def initial : World :=
  ⟨[], none, none, 0, []⟩

/-- A request reaches the messenger. -/
def confirm (world : World) : World :=
  { world with
    confirmed :=
      match world.offset, world.confirmed with
      | none, confirmed => confirmed
      | some offset, none => some offset
      | some offset, some bound => some (max bound offset) }

/-- The updates that the messenger still holds. -/
def pending (world : World) : List Arrival :=
  world.arrived.filter fun arrival => world.confirmed.all fun bound => bound ≤ arrival.id

/-- Handle a batch in the running process. -/
def handleItems (gateway : TelegramGateway) (moments : Nat → Moment) (items : List Item)
    (world : World) : World :=
  let (offset, handlings) := handleBatch gateway moments 0 items world.offset
  { world with
    offset := offset
    handled := world.handled ++ handlings.map fun handling => (world.life, handling) }

/-- The process is started again. -/
def restart (world : World) : World :=
  { world with offset := none, life := world.life + 1 }

end World

/-- What a request comes back with: nothing, whether or not it reached the messenger, or
updates. -/
inductive Answer
  | lost (reached : Bool)
  | updates (items : List Item)

/-- What can happen.  A crash comes after a number of updates of a batch were handled. -/
inductive PollerEvent
  | arrive (arrival : Arrival)
  | poll (answer : Answer) (moments : Nat → Moment)
  | crash (items : List Item) (completed : Nat) (moments : Nat → Moment)
  | restart

def step (gateway : TelegramGateway) (world : World) : PollerEvent → World
  | .arrive arrival => { world with arrived := world.arrived ++ [arrival] }
  | .poll (.lost reached) _ => if reached then world.confirm else world
  | .poll (.updates items) moments => world.confirm.handleItems gateway moments items
  | .crash items completed moments =>
      (world.confirm.handleItems gateway moments (items.take completed)).restart
  | .restart => world.restart

/-- The messenger answers with the first of the updates that it holds. -/
def Serves (world : World) (items : List Item) : Prop :=
  ∃ count, items = (world.confirm.pending.take count).map Arrival.item

/-- The messenger numbers updates in their order and answers as it should. -/
def Honest (world : World) : PollerEvent → Prop
  | .arrive arrival => ∀ earlier ∈ world.arrived, earlier.id < arrival.id
  | .poll (.updates items) _ | .crash items _ _ => Serves world items
  | .poll (.lost _) _ | .restart => True

theorem honest_arrive {world : World} {arrival : Arrival}
    (newest : (world.arrived.all fun earlier => earlier.id < arrival.id) = true) :
    Honest world (.arrive arrival) := by
  intro earlier member
  simpa using List.all_eq_true.mp newest earlier member

/-! ## What a batch does -/

/-- The number of an update. -/
def Item.number : Item → Int
  | .update updateId _ => updateId.toInt.toOption.getD 0
  | .other => 0

/-- The number lies below the bound, when there is one. -/
def Below (bound : Option Int) (number : Int) : Prop :=
  ∃ next, bound = some next ∧ number < next

section Batch

variable {gateway : TelegramGateway} {moments : Nat → Moment} {batch : List Arrival}

theorem map_item_handleBatch (position : Nat) (items : List Item) (offset : Option Int) :
    (handleBatch gateway moments position items offset).2.map Handling.item = items := by
  induction items generalizing position offset with
  | nil => rfl
  | cons item rest ih => exact congrArg (item :: ·) (ih _ _)

theorem advanceOffset_arrival {offset : Option Int} {arrival : Arrival}
    (ahead : ¬Below offset arrival.id) :
    advanceOffset offset arrival.item = some (arrival.id + 1) := by
  have reached : (offset.all fun next => next ≤ arrival.id) = true := by
    cases offset with
    | none => rfl
    | some next => simpa [Below] using ahead
  exact if_pos reached

/-- A batch of updates in their order, none of them below the offset, moves the offset past its
last one. -/
theorem offset_handleBatch (ascending : batch.Pairwise fun first second => first.id < second.id)
    {offset : Option Int} (ahead : ∀ arrival ∈ batch, ¬Below offset arrival.id) (position : Nat) :
    (handleBatch gateway moments position (batch.map Arrival.item) offset).1 =
      (batch.getLast?.map fun last => last.id + 1).or offset := by
  induction batch generalizing position offset with
  | nil => rfl
  | cons first rest ih =>
      obtain ⟨later, others⟩ := List.pairwise_cons.mp ascending
      have behind : ∀ arrival ∈ rest, ¬Below (some (first.id + 1)) arrival.id := by
        rintro arrival member ⟨next, same, below⟩
        cases same
        have above := later arrival member
        omega
      change (handleBatch gateway moments (position + 1) (rest.map Arrival.item)
        (advanceOffset offset first.item)).1 = _
      rw [advanceOffset_arrival (ahead first List.mem_cons_self), ih others behind]
      cases rest with
      | nil => rfl
      | cons second rest =>
          rw [List.getLast?_cons_cons]
          cases ends : (second :: rest).getLast? with
          | none => exact absurd (List.getLast?_eq_none_iff.mp ends) (List.cons_ne_nil _ _)
          | some last => rfl

theorem le_last (ascending : batch.Pairwise fun first second => first.id < second.id)
    {last arrival : Arrival} (ends : batch.getLast? = some last) (member : arrival ∈ batch) :
    arrival.id ≤ last.id := by
  obtain ⟨before, rfl⟩ := List.getLast?_eq_some_iff.mp ends
  rcases List.mem_append.mp member with earlier | same
  · exact ((List.pairwise_append.mp ascending).2.2 arrival earlier last List.mem_cons_self).le
  · rw [List.mem_singleton.mp same]

end Batch

/-! ## What is settled -/

namespace World

variable {world : World} {arrival : Arrival}

def Handled (world : World) (arrival : Arrival) : Prop :=
  ∃ entry ∈ world.handled, entry.2.item = arrival.item

theorem below_confirm {number : Int} :
    Below world.confirm.confirmed number ↔
      Below world.confirmed number ∨ Below world.offset number := by
  unfold Below confirm
  cases world.offset with
  | none => simp
  | some offset =>
      cases world.confirmed with
      | none => simp
      | some bound => simp

theorem of_confirm {next : Int} (bounded : world.confirm.confirmed = some next) :
    world.confirmed = some next ∨ world.offset = some next := by
  unfold confirm at bounded
  cases offset : world.offset with
  | none =>
      rw [offset] at bounded
      exact .inl bounded
  | some first =>
      cases confirmed : world.confirmed with
      | none =>
          rw [offset, confirmed] at bounded
          exact .inr bounded
      | some second =>
          rw [offset, confirmed] at bounded
          rcases le_total first second with below | above
          · exact .inl ((congrArg some (max_eq_left below)).symm.trans bounded)
          · exact .inr ((congrArg some (max_eq_right above)).symm.trans bounded)

theorem handleItems_handled (world : World) (gateway : TelegramGateway) (moments : Nat → Moment)
    (items : List Item) :
    ∃ entries, (world.handleItems gateway moments items).handled = world.handled ++ entries ∧
      (entries.map fun entry => entry.2.item) = items ∧
      ∀ entry ∈ entries, entry.1 = world.life := by
  refine ⟨_, rfl, ?_, ?_⟩
  · rw [List.map_map]
    exact map_item_handleBatch 0 items world.offset
  · intro entry member
    obtain ⟨handling, -, rfl⟩ := List.mem_map.mp member
    rfl

theorem mem_pending :
    arrival ∈ world.pending ↔ arrival ∈ world.arrived ∧ ¬Below world.confirmed arrival.id := by
  rw [pending, List.mem_filter]
  refine and_congr_right fun _ => ?_
  cases world.confirmed with
  | none => simp [Below]
  | some bound => simp [Below]

end World

/-- Whatever lies below the bound or the offset was handled, and each life handles updates in
their order. -/
structure Accounted (world : World) : Prop where
  ascending : world.arrived.Pairwise fun first second => first.id < second.id
  reached : ∀ {next}, world.confirmed = some next ∨ world.offset = some next →
    ∃ arrival ∈ world.arrived, next = arrival.id + 1
  past : ∀ arrival ∈ world.arrived,
    Below world.confirmed arrival.id ∨ Below world.offset arrival.id → world.Handled arrival
  lives : ∀ entry ∈ world.handled, entry.1 ≤ world.life
  current : ∀ entry ∈ world.handled, entry.1 = world.life →
    Below world.offset entry.2.item.number
  ordered : world.handled.Pairwise fun first second =>
    first.1 = second.1 → first.2.item.number < second.2.item.number

/-- Updates that are handled next: in their order, none of them below the offset, and ahead of
every other update that the messenger holds. -/
structure Batch (world : World) (batch : List Arrival) : Prop where
  inside : ∀ arrival ∈ batch, arrival ∈ world.arrived
  ahead : ∀ arrival ∈ batch, ¬Below world.offset arrival.id
  ascending : batch.Pairwise fun first second => first.id < second.id
  first : ∀ arrival ∈ world.arrived, ¬Below world.confirmed arrival.id → arrival ∉ batch →
    ∀ other ∈ batch, other.id < arrival.id

namespace Accounted

variable {world : World}

theorem initial : Accounted .initial where
  ascending := .nil
  reached := fun bounded => by rcases bounded with none | none <;> cases none
  past := fun arrival member => by cases member
  lives := fun entry member => by cases member
  current := fun entry member => by cases member
  ordered := .nil

theorem confirm (accounted : Accounted world) : Accounted world.confirm where
  ascending := accounted.ascending
  reached := by
    rintro next (bound | offset)
    · exact accounted.reached (World.of_confirm bound)
    · exact accounted.reached (.inr offset)
  past := fun arrival member below =>
    accounted.past arrival member
      (below.elim World.below_confirm.mp .inr)
  lives := accounted.lives
  current := accounted.current
  ordered := accounted.ordered

theorem arrive (accounted : Accounted world) {arrival : Arrival}
    (later : ∀ earlier ∈ world.arrived, earlier.id < arrival.id) :
    Accounted { world with arrived := world.arrived ++ [arrival] } where
  ascending := by
    refine List.pairwise_append.mpr ⟨accounted.ascending, List.pairwise_singleton _ _, ?_⟩
    intro earlier member other same
    rw [List.mem_singleton.mp same]
    exact later earlier member
  reached := fun bounded => by
    obtain ⟨earlier, member, same⟩ := accounted.reached bounded
    exact ⟨earlier, List.mem_append_left _ member, same⟩
  past := by
    intro other member below
    rcases List.mem_append.mp member with earlier | new
    · exact accounted.past other earlier below
    · -- Neither the bound nor the offset is past an update that arrives now.
      obtain rfl := List.mem_singleton.mp new
      have ahead : ∀ {next}, world.confirmed = some next ∨ world.offset = some next →
          ¬other.id < next := by
        intro next bounded smaller
        obtain ⟨earlier, inside, rfl⟩ := accounted.reached bounded
        have above := later earlier inside
        omega
      rcases below with ⟨next, bounded, smaller⟩ | ⟨next, bounded, smaller⟩
      · exact absurd smaller (ahead (.inl bounded))
      · exact absurd smaller (ahead (.inr bounded))
  lives := accounted.lives
  current := accounted.current
  ordered := accounted.ordered

theorem restart (accounted : Accounted world) : Accounted world.restart where
  ascending := accounted.ascending
  reached := by
    rintro next (bound | offset)
    · exact accounted.reached (.inl bound)
    · cases offset
  past := by
    rintro arrival member (below | ⟨next, none, -⟩)
    · exact accounted.past arrival member (.inl below)
    · cases none
  lives := fun entry member => (accounted.lives entry member).trans (Nat.le_succ _)
  current := fun entry member same => by
    have earlier := accounted.lives entry member
    have now : entry.1 = world.life + 1 := same
    omega
  ordered := accounted.ordered

variable {gateway : TelegramGateway} {moments : Nat → Moment}

/-- The first updates that the messenger holds are a batch. -/
theorem batch (accounted : Accounted world)
    (settled : ∀ {number}, Below world.offset number → Below world.confirmed number)
    (count : Nat) : Batch world (world.pending.take count) := by
  have held : world.pending.Pairwise fun first second => first.id < second.id :=
    accounted.ascending.sublist List.filter_sublist
  have inside : ∀ arrival ∈ world.pending.take count, arrival ∈ world.arrived ∧
      ¬Below world.confirmed arrival.id := fun arrival member =>
    World.mem_pending.mp (List.mem_of_mem_take member)
  refine ⟨fun arrival member => (inside arrival member).1, ?_, ?_, ?_⟩
  · exact fun arrival member below => (inside arrival member).2 (settled below)
  · exact held.sublist (List.take_sublist _ _)
  · intro arrival member ahead outside first listed
    have later : arrival ∈ world.pending := World.mem_pending.mpr ⟨member, ahead⟩
    rw [← List.take_append_drop count world.pending, List.mem_append] at later
    rw [← List.take_append_drop count world.pending] at held
    exact (List.pairwise_append.mp held).2.2 first listed arrival (later.resolve_left outside)

/-- A batch is handled in order. -/
theorem handleItems (accounted : Accounted world) {batch : List Arrival}
    (batched : Batch world batch) :
    Accounted (world.handleItems gateway moments (batch.map Arrival.item)) := by
  obtain ⟨entries, handledIs, items, lives⟩ :=
    world.handleItems_handled gateway moments (batch.map Arrival.item)
  have offsetIs : (world.handleItems gateway moments (batch.map Arrival.item)).offset =
      (batch.getLast?.map fun last => last.id + 1).or world.offset :=
    offset_handleBatch batched.ascending batched.ahead 0
  cases ends : batch.getLast? with
  | none =>
      obtain rfl := List.getLast?_eq_none_iff.mp ends
      have same : world.handleItems gateway moments ([].map Arrival.item) = world := by
        simp [World.handleItems, handleBatch]
      rwa [same]
  | some last =>
      rw [ends] at offsetIs
      have lastInside : last ∈ batch := List.mem_of_getLast? ends
      have entryOf : ∀ entry ∈ entries, ∃ arrival ∈ batch, arrival.item = entry.2.item :=
        fun entry member => List.mem_map.mp (items ▸ List.mem_map.mpr ⟨entry, member, rfl⟩)
      have handledOf : ∀ arrival ∈ batch, ∃ entry ∈ entries, entry.2.item = arrival.item :=
        fun arrival member =>
          List.mem_map.mp (items.symm ▸ List.mem_map.mpr ⟨arrival, member, rfl⟩)
      refine ⟨accounted.ascending, ?_, ?_, ?_, ?_, ?_⟩
      · rintro next (bound | offset)
        · exact accounted.reached (.inl bound)
        · rw [offsetIs] at offset
          cases offset
          exact ⟨last, batched.inside last lastInside, rfl⟩
      · intro arrival member below
        by_cases now : arrival ∈ batch
        · obtain ⟨entry, listed, same⟩ := handledOf arrival now
          exact ⟨entry, handledIs ▸ List.mem_append_right _ listed, same⟩
        · -- Outside of the batch, only what was dropped before is not past its last update.
          have dropped : Below world.confirmed arrival.id := by
            by_contra ahead
            have after := batched.first arrival member ahead now last lastInside
            rcases below with bounded | ⟨next, offset, smaller⟩
            · exact ahead bounded
            · have nextIs : last.id + 1 = next := Option.some.inj (offsetIs.symm.trans offset)
              omega
          obtain ⟨entry, listed, same⟩ := accounted.past arrival member (.inl dropped)
          exact ⟨entry, handledIs ▸ List.mem_append_left _ listed, same⟩
      · intro entry member
        rcases List.mem_append.mp (handledIs ▸ member) with earlier | new
        · exact accounted.lives entry earlier
        · exact (lives entry new).le
      · intro entry member same
        rw [offsetIs]
        refine ⟨last.id + 1, rfl, ?_⟩
        rcases List.mem_append.mp (handledIs ▸ member) with earlier | new
        · obtain ⟨next, offset, smaller⟩ := accounted.current entry earlier same
          have reached : ¬last.id < next := fun below =>
            batched.ahead last lastInside ⟨next, offset, below⟩
          omega
        · obtain ⟨arrival, listed, itemIs⟩ := entryOf entry new
          rw [← itemIs]
          exact Int.lt_add_one_iff.mpr (le_last batched.ascending ends listed)
      · rw [handledIs]
        refine List.pairwise_append.mpr ⟨accounted.ordered, ?_, ?_⟩
        · have numbers : (entries.map fun entry => entry.2.item).Pairwise
              fun first second => first.number < second.number := by
            rw [items]
            exact List.pairwise_map.mpr batched.ascending
          refine (List.pairwise_map.mp numbers).imp ?_
          intro first second smaller _
          exact smaller
        · intro earlier member new listed same
          obtain ⟨arrival, inBatch, itemIs⟩ := entryOf new listed
          obtain ⟨next, offset, smaller⟩ :=
            accounted.current earlier member (same.trans (lives new listed))
          have reached : ¬arrival.id < next := fun below =>
            batched.ahead arrival inBatch ⟨next, offset, below⟩
          rw [← itemIs]
          change earlier.2.item.number < arrival.id
          omega

/-- A batch that answers a request of the process. -/
theorem served (accounted : Accounted world) (count : Nat) :
    Accounted (world.confirm.handleItems gateway moments
      ((world.confirm.pending.take count).map Arrival.item)) :=
  accounted.confirm.handleItems
    (accounted.confirm.batch (fun below => World.below_confirm.mpr (.inr below)) count)

theorem step (accounted : Accounted world) {event : PollerEvent} (honest : Honest world event) :
    Accounted (step gateway world event) := by
  cases event with
  | arrive arrival => exact accounted.arrive honest
  | poll answer moments =>
      cases answer with
      | lost reached =>
          cases reached with
          | false => exact accounted
          | true => exact accounted.confirm
      | updates items =>
          obtain ⟨count, rfl⟩ := honest
          exact accounted.served count
  | crash items completed moments =>
      obtain ⟨count, rfl⟩ := honest
      have begun : ((world.confirm.pending.take count).map Arrival.item).take completed =
          (world.confirm.pending.take (min completed count)).map Arrival.item := by
        rw [← List.map_take, List.take_take]
      rw [Poller.step, begun]
      exact (accounted.served _).restart
  | restart => exact accounted.restart

theorem run {events : List PollerEvent} (accounted : Accounted world)
    (honest : Run.Every (Poller.step gateway) Honest world events) :
    Accounted (Run.after (Poller.step gateway) world events) :=
  honest.after Accounted accounted fun _ _ accounted honest => accounted.step honest

end Accounted

/-- Under every interleaving of arrivals, requests that are lost on either way, crashes in the
middle of a batch and restarts: every update that arrived was handled or is still held for the next
request, an answer with all of them leaves nothing open, and no life handles an update twice or
out of order. -/
theorem every_update_accounted (gateway : TelegramGateway) {events : List PollerEvent}
    (honest : Run.Every (step gateway) Honest .initial events) :
    let world := Run.after (step gateway) .initial events
    (∀ arrival ∈ world.arrived, world.Handled arrival ∨ arrival ∈ world.confirm.pending) ∧
      (∀ moments, ∀ arrival ∈ world.arrived,
        (step gateway world (.poll (.updates (world.confirm.pending.map Arrival.item))
          moments)).Handled arrival) ∧
      world.handled.Pairwise fun first second =>
        first.1 = second.1 → first.2.item.number < second.2.item.number := by
  intro world
  have accounted : Accounted world := Accounted.initial.run honest
  have settled : ∀ arrival ∈ world.arrived,
      world.Handled arrival ∨ arrival ∈ world.confirm.pending := by
    intro arrival member
    by_cases below : Below world.confirm.confirmed arrival.id
    · exact .inl (accounted.past arrival member (World.below_confirm.mp below))
    · exact .inr (World.mem_pending.mpr ⟨member, below⟩)
  refine ⟨settled, ?_, accounted.ordered⟩
  intro moments arrival member
  obtain ⟨entries, handledIs, items, -⟩ := world.confirm.handleItems_handled gateway moments
    (world.confirm.pending.map Arrival.item)
  rcases settled arrival member with ⟨entry, listed, same⟩ | held
  · exact ⟨entry, handledIs.symm ▸ List.mem_append_left _ listed, same⟩
  · obtain ⟨entry, listed, same⟩ :=
      List.mem_map.mp (items.symm ▸ List.mem_map.mpr ⟨arrival, held, rfl⟩ :
        arrival.item ∈ entries.map fun entry => entry.2.item)
    exact ⟨entry, handledIs.symm ▸ List.mem_append_right _ listed, same⟩

namespace Sample

def gateway : TelegramGateway := ⟨["42"]⟩

def help : Arrival := ⟨1, some ⟨some "/help", .int 42⟩⟩

def why : Arrival := ⟨2, some ⟨some "/why", .int 42⟩⟩

def stranger : Arrival := ⟨3, some ⟨some "/why", .int 7⟩⟩

/-- Every command answers, and every reply goes out. -/
def calm : Nat → Moment := fun _ =>
  ⟨fun command => .ok command, true⟩

/-- A crash after the first of two updates, and two requests of the next process, of which the
last one brings nothing back. -/
def crashed : List PollerEvent :=
  [.arrive help, .arrive why, .crash [help.item, why.item] 1 calm,
    .arrive stranger,
    .poll (.updates [help.item, why.item, stranger.item]) calm,
    .poll (.lost true) calm]

end Sample

/-- The crash leaves nothing open. -/
theorem every_update_accounted_crashed :
    let world := Run.after (step Sample.gateway) .initial Sample.crashed
    (∀ arrival ∈ world.arrived, world.Handled arrival ∨ arrival ∈ world.confirm.pending) ∧
      (∀ moments, ∀ arrival ∈ world.arrived,
        (step Sample.gateway world (.poll (.updates (world.confirm.pending.map Arrival.item))
          moments)).Handled arrival) ∧
      world.handled.Pairwise fun first second =>
        first.1 = second.1 → first.2.item.number < second.2.item.number :=
  every_update_accounted Sample.gateway
    ⟨honest_arrive rfl, honest_arrive rfl, ⟨2, rfl⟩, honest_arrive rfl, ⟨3, rfl⟩, trivial, trivial⟩

/-! ## What is not repeated -/

/-- The request of this event reaches the messenger. -/
def Reaches : PollerEvent → Prop
  | .poll (.lost reached) _ => reached = true
  | .poll (.updates _) _ | .crash .. => True
  | .arrive _ | .restart => False

section Repeats

variable {gateway : TelegramGateway} {world : World}

theorem below_confirm_of_below {number : Int} (below : Below world.confirmed number) :
    Below world.confirm.confirmed number :=
  World.below_confirm.mpr (.inl below)

/-- A batch handles nothing below the bound. -/
theorem serves_above {items : List Item} (serves : Serves world items) {item : Item}
    (member : item ∈ items) : ¬Below world.confirm.confirmed item.number := by
  obtain ⟨count, rfl⟩ := serves
  obtain ⟨arrival, inside, rfl⟩ := List.mem_map.mp member
  exact (World.mem_pending.mp (List.mem_of_mem_take inside)).2

/-- What a step handles is not below the bound that it finds, nor, when its request reaches the
messenger, below the bound that it sets. -/
theorem step_handled (gateway : TelegramGateway) {event : PollerEvent}
    (honest : Honest world event) :
    ∃ later, (step gateway world event).handled = world.handled ++ later ∧
      (∀ entry ∈ later, ¬Below world.confirm.confirmed entry.2.item.number) ∧
      (Reaches event → (step gateway world event).confirmed = world.confirm.confirmed) ∧
      ∀ number, Below world.confirmed number →
        Below (step gateway world event).confirmed number := by
  have nothing : ∀ entry ∈ ([] : List (Nat × Handling)),
      ¬Below world.confirm.confirmed entry.2.item.number := List.forall_mem_nil _
  cases event with
  | arrive arrival =>
      exact ⟨[], (List.append_nil _).symm, nothing, False.elim, fun _ below => below⟩
  | poll answer moments =>
      cases answer with
      | lost reached =>
          cases reached with
          | false =>
              exact ⟨[], (List.append_nil _).symm, nothing, (absurd · Bool.false_ne_true),
                fun _ below => below⟩
          | true =>
              exact ⟨[], (List.append_nil _).symm, nothing, fun _ => rfl,
                fun _ => below_confirm_of_below⟩
      | updates items =>
          obtain ⟨entries, handledIs, itemsAre, -⟩ :=
            world.confirm.handleItems_handled gateway moments items
          refine ⟨entries, handledIs, ?_, fun _ => rfl, fun _ => below_confirm_of_below⟩
          intro entry member
          exact serves_above honest (itemsAre ▸ List.mem_map.mpr ⟨entry, member, rfl⟩)
  | crash items completed moments =>
      obtain ⟨entries, handledIs, itemsAre, -⟩ :=
        world.confirm.handleItems_handled gateway moments (items.take completed)
      refine ⟨entries, handledIs, ?_, fun _ => rfl, fun _ => below_confirm_of_below⟩
      intro entry member
      have begun : entry.2.item ∈ items.take completed :=
        itemsAre ▸ List.mem_map.mpr ⟨entry, member, rfl⟩
      exact serves_above honest (List.mem_of_mem_take begun)
  | restart => exact ⟨[], (List.append_nil _).symm, nothing, False.elim, fun _ below => below⟩

/-- A run handles nothing that the messenger has dropped before. -/
theorem run_handled {events : List PollerEvent}
    (honest : Run.Every (step gateway) Honest world events) :
    ∃ later, (Run.after (step gateway) world events).handled = world.handled ++ later ∧
      ∀ entry ∈ later, ¬Below world.confirmed entry.2.item.number := by
  induction events generalizing world with
  | nil => exact ⟨[], (List.append_nil _).symm, List.forall_mem_nil _⟩
  | cons event rest ih =>
      obtain ⟨now, onwards⟩ := honest
      obtain ⟨first, firstIs, above, -, kept⟩ := step_handled gateway now
      obtain ⟨second, secondIs, later⟩ := ih onwards
      refine ⟨first ++ second, ?_, ?_⟩
      · rw [← List.append_assoc, ← firstIs]
        exact secondIs
      · intro entry member below
        rcases List.mem_append.mp member with inFirst | inSecond
        · exact above entry inFirst (below_confirm_of_below below)
        · exact later entry inSecond (kept _ below)

end Repeats

/-- What a process handled before one of its requests reached the messenger is never handled
again, neither by it nor by a process that is started later: a crash repeats at most the batch in
which it happens. -/
theorem request_settles_handled (gateway : TelegramGateway) {first second : List PollerEvent}
    {event : PollerEvent} (reaches : Reaches event)
    (honest : Run.Every (step gateway) Honest .initial (first ++ event :: second)) :
    let before := Run.after (step gateway) .initial first
    ∃ later, (Run.after (step gateway) .initial (first ++ event :: second)).handled =
        before.handled ++ later ∧
      ∀ entry ∈ before.handled, entry.1 = before.life →
        ∀ other ∈ later, other.2.item ≠ entry.2.item := by
  intro before
  obtain ⟨honestFirst, now, onwards⟩ := (Run.every_append _ _ _).mp honest
  have accounted : Accounted before := Accounted.initial.run honestFirst
  obtain ⟨batch, batchIs, above, settles, -⟩ := step_handled gateway now
  obtain ⟨rest, restIs, later⟩ := run_handled onwards
  refine ⟨batch ++ rest, ?_, ?_⟩
  · rw [← List.append_assoc, ← batchIs, ← restIs, Run.after, List.foldl_append]
    rfl
  · intro entry member same other listed equal
    have dropped : Below before.confirm.confirmed other.2.item.number :=
      World.below_confirm.mpr (.inr (equal ▸ accounted.current entry member same))
    rcases List.mem_append.mp listed with inBatch | inRest
    · exact above other inBatch dropped
    · exact later other inRest (settles reaches ▸ dropped)

/-- The request that brings nothing back settles what the second process handled. -/
theorem request_settles_handled_crashed :
    let before := Run.after (step Sample.gateway) .initial (Sample.crashed.take 5)
    ∃ later, (Run.after (step Sample.gateway) .initial
        (Sample.crashed.take 5 ++ .poll (.lost true) Sample.calm ::
          [.restart, .poll (.updates []) Sample.calm])).handled =
        before.handled ++ later ∧
      ∀ entry ∈ before.handled, entry.1 = before.life →
        ∀ other ∈ later, other.2.item ≠ entry.2.item :=
  request_settles_handled Sample.gateway rfl
    ⟨honest_arrive rfl, honest_arrive rfl, ⟨2, rfl⟩, honest_arrive rfl, ⟨3, rfl⟩, trivial, trivial,
      ⟨0, rfl⟩, trivial⟩

end EaBot.Telegram.Poller
