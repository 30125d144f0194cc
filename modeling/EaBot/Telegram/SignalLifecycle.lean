import EaBot.Foundation.Run
import EaBot.Foundation.Value

/-!
# The message of a signal

A signal has one message.  A finished cycle sends it, later cycles and prices edit it, and the
review of the trade edits it for the last time and forgets the signal.

Between two reviews of a symbol's signal at most one message is sent for it, and a mark of a
level that was hit stays.  The status of an open signal stays when every later cycle in its
direction reports the same ticket: such a cycle sets the status anew, where one in the other
direction leaves an open signal alone.
-/

namespace EaBot.Telegram

open EaBot.Foundation

/-! ## Signals -/

/-- The status of a signal. -/
inductive SignalStatus
  | waiting | opened | failed | done
deriving DecidableEq

namespace SignalStatus

/-- The status as the message shows it. -/
def value : SignalStatus → String
  | waiting => "MENUNGGU EKSEKUSI"
  | opened => "ENTRY TERBUKA"
  | failed => "GAGAL EKSEKUSI"
  | done => "SELESAI"

end SignalStatus

/-- The levels that can be hit, in the order of the message. -/
inductive HitKey
  | tp1 | tp2 | tpmax | sl
deriving DecidableEq

/-- A value for each level that can be hit. -/
abbrev PerHit (β : Type) := HitKey → β

/-- The state of a signal's message. -/
structure SignalState where
  symbol : String
  direction : String
  entry : Option ℚ
  level : PerHit (Option ℚ)
  confidence : ℚ
  createdAt : ℚ
  status : SignalStatus
  statusDetail : String
  hits : PerHit Bool
  hitTimes : PerHit (Option String)
  reviewText : String
  messageIds : Dict Int Int

/-- What a finished cycle records of itself, as far as the tracker reads it. -/
structure CycleRecord where
  decision : Val
  riskApproved : Val
  symbol : Val
  levels : Option Record
  executionResult : Option Record
  executed : Val
  error : Val
  status : Val
  confidence : Val

/-- What a review records, as far as the tracker reads it. -/
structure ReviewRecord where
  tradeId : Val
  ticket : Val
  outcome : Val
  rootCause : Val
  summary : Val
  pnl : Val

/-- The gateway when a message is to be sent: it is not there, it raises, or it answers with the
identifiers of the message. -/
inductive Gateway
  | unavailable
  | raises
  | answers (messageIds : Dict Int Int)

/-- A message that is sent or edited, with the state that it shows. -/
inductive Effect
  | send (state : SignalState)
  | edit (state : SignalState)

/-- The signal of each symbol. -/
abbrev Signals := Dict String SignalState

/-! ## Reading records -/

/-- A value as a text, where one that counts as false is empty. -/
def textOr (value : Val) : String :=
  (value.orElse (.str "")).text

/-- The status that a cycle reports. -/
def statusFrom (record : CycleRecord) : SignalStatus × String :=
  let ticket := (record.executionResult.bind fun execution => execution.get "ticket").getD .none
  let missing := ticket = .none ∨ ticket = .str "" ∨ ticket.number? = some 0
  if record.executed.truthy = true ∧ ¬ missing then (.opened, "#" ++ ticket.text)
  else
    let error := textOr record.error
    if Text.upper (textOr record.status) = "ERROR" then (.failed, error) else (.waiting, error)

/-- A level, when it is a number. -/
def levelOf (value : Val) : Option ℚ :=
  if value = .none ∨ value = .str "" then none else value.toFloat.toOption

/-- The confidence of a cycle. -/
def confidenceOf (record : CycleRecord) : ℚ :=
  (record.confidence.orElse (.int 0)).toFloat.toOption.getD 0

/-- The levels of a cycle. -/
def levelsOf (record : CycleRecord) : Record :=
  record.levels.getD Dict.empty

/-- The direction of a signal.  One that is neither of the two gives way to the decision. -/
def directionOf (record : CycleRecord) : String :=
  let decision := Text.upper (textOr record.decision)
  let direction := Text.upper
    ((((levelsOf record).get "direction").getD .none).orElse (.str decision)).text
  if direction = "BUY" ∨ direction = "SELL" then direction else decision

/-- The name of a level. -/
def HitKey.name : HitKey → String
  | tp1 => "tp1"
  | tp2 => "tp2"
  | tpmax => "tpmax"
  | sl => "sl"

/-- The state of a new signal. -/
def buildState (record : CycleRecord) (symbol : String) (messageIds : Dict Int Int) (now : ℚ) :
    SignalState where
  symbol := symbol
  direction := directionOf record
  entry := levelOf (((levelsOf record).get "entry").getD .none)
  level := fun key => levelOf (((levelsOf record).get key.name).getD .none)
  confidence := confidenceOf record
  createdAt := now
  status := (statusFrom record).1
  statusDetail := (statusFrom record).2
  hits := fun _ => false
  hitTimes := fun _ => none
  reviewText := ""
  messageIds := messageIds

/-- A cycle decides to buy or to sell. -/
def Decides (record : CycleRecord) : Prop :=
  Text.upper (textOr record.decision) = "BUY" ∨ Text.upper (textOr record.decision) = "SELL"

instance (record : CycleRecord) : Decidable (Decides record) :=
  inferInstanceAs (Decidable (_ ∨ _))

/-- The symbol of a cycle. -/
def symbolOf (record : CycleRecord) : String :=
  Text.strip (textOr record.symbol)

/-- A cycle proposes a trade of a symbol that the risk gate approved. -/
def Proposes (record : CycleRecord) : Prop :=
  Decides record ∧ record.riskApproved.truthy = true ∧ symbolOf record ≠ ""

/-! ## The tracker -/

/-- What a call answers, the messages that it sends or edits and the signals that it leaves. -/
structure Outcome where
  answer : Bool
  effects : List Effect
  signals : Signals

/-- Send the message of a signal, which keeps the identifiers that the gateway answers. -/
def sendState (state : SignalState) : Gateway → List Effect × SignalState
  | .unavailable => ([], { state with messageIds := Dict.empty })
  | .raises => ([.send state], { state with messageIds := Dict.empty })
  | .answers messageIds => ([.send state], { state with messageIds := messageIds })

/-- Offer a finished cycle. -/
def observeCycleResult (signals : Signals) (record : CycleRecord) (now : ℚ) (gateway : Gateway) :
    Outcome :=
  if ¬ Decides record then ⟨false, [], signals⟩
  else if record.riskApproved.truthy = false then ⟨true, [], signals⟩
  else
    let symbol := symbolOf record
    if symbol = "" then ⟨false, [], signals⟩
    else
      match signals.get symbol with
      | none =>
          let sent := sendState (buildState record symbol Dict.empty now) gateway
          ⟨true, sent.1, signals.set symbol sent.2⟩
      | some existing =>
          if existing.direction ≠ directionOf record then
            -- An open position keeps its signal; a pending one is replaced in its own message.
            if existing.status = .opened then ⟨true, [], signals⟩
            else
              let state := buildState record symbol existing.messageIds now
              ⟨true, [.edit state], signals.set symbol state⟩
          else
            let status := statusFrom record
            let bold := { existing with
              confidence := max existing.confidence (confidenceOf record) }
            if existing.status ≠ status.1 ∨ existing.statusDetail ≠ status.2 then
              let state := { bold with status := status.1, statusDetail := status.2 }
              ⟨true, [.edit state], signals.set symbol state⟩
            else ⟨true, [], signals.set symbol bold⟩

/-- A price reaches a level of a signal. -/
def Reaches (state : SignalState) (price : ℚ) (key : HitKey) : Prop :=
  match state.level key with
  | none => False
  | some level =>
      if state.direction = "BUY" ↔ key ≠ .sl then level ≤ price else price ≤ level

instance (state : SignalState) (price : ℚ) (key : HitKey) : Decidable (Reaches state price key) :=
  match same : state.level key with
  | none => .isFalse (by simp [Reaches, same])
  | some level =>
      decidable_of_iff
        (if state.direction = "BUY" ↔ key ≠ .sl then level ≤ price else price ≤ level)
        (by simp [Reaches, same])

/-- The levels in the order in which a price is compared with them. -/
def hitKeys : List HitKey :=
  [.tp1, .tp2, .tpmax, .sl]

/-- A price reaches a level that has no mark yet. -/
def Marks (state : SignalState) (price : ℚ) (key : HitKey) : Prop :=
  state.hits key = false ∧ Reaches state price key

instance (state : SignalState) (price : ℚ) (key : HitKey) : Decidable (Marks state price key) :=
  inferInstanceAs (Decidable (_ ∧ _))

/-- The state with the marks that a price adds at a time. -/
def marked (state : SignalState) (price : ℚ) (hitAt : String) : SignalState :=
  { state with
    hits := fun key => if Marks state price key then true else state.hits key
    hitTimes := fun key => if Marks state price key then some hitAt else state.hitTimes key }

/-- The symbol under which a signal is found, in the letters given or in capitals. -/
def lookup (signals : Signals) (symbol : String) : Option (String × SignalState) :=
  let key := Text.strip symbol
  match signals.get key with
  | some state => some (key, state)
  | none => (signals.get (Text.upper key)).map fun state => (Text.upper key, state)

/-- Observe a price.  Without a positive number or a time to show nothing is marked; an edit is
delivered or not. -/
def observePrice (signals : Signals) (symbol : String) (price : Option ℚ)
    (hitAt : Option String) (delivered : Bool) : Outcome :=
  match lookup signals symbol, price.filter (fun price => decide (0 < price)), hitAt with
  | some (key, state), some price, some hitAt =>
      if ∃ hitKey ∈ hitKeys, Marks state price hitKey then
        let state := marked state price hitAt
        ⟨delivered, [.edit state], signals.set key state⟩
      else ⟨false, [], signals⟩
  | _, _, _ => ⟨false, [], signals⟩

/-- A text without white space around it and number signs before it. -/
def reference (text : String) : String :=
  String.ofList ((Text.strip text).toList.dropWhile fun char => char = '#')

/-- The symbol of the signal that a review belongs to: the first with its reference, or the only
one. -/
def reviewTarget (signals : Signals) (record : ReviewRecord) : Option String :=
  let ref := reference ((record.tradeId.orElse record.ticket).orElse (.str "")).text
  let named := if ref = "" then none
    else (signals.entries.find? fun entry => reference entry.2.statusDetail = ref).map Prod.fst
  match named with
  | some symbol => some symbol
  | none =>
      match signals.entries with
      | [only] => some only.1
      | _ => none

/-- The state of a signal after its review. -/
def reviewed (state : SignalState) (record : ReviewRecord) : SignalState :=
  let outcome := textOr record.outcome
  { state with
    reviewText := String.ofList
      ((outcome ++ " · " ++ textOr record.rootCause ++ " · " ++
        textOr record.summary).toList.take 200)
    statusDetail :=
      if record.pnl ≠ .none ∧ outcome ≠ "" then outcome ++ " · PnL " ++ record.pnl.text
      else if record.pnl ≠ .none then "PnL " ++ record.pnl.text
      else outcome
    status := .done }

/-- Take in a review. -/
def onReview (signals : Signals) (record : ReviewRecord) : Outcome :=
  match reviewTarget signals record with
  | none => ⟨false, [], signals⟩
  | some symbol =>
      match signals.get symbol with
      | none => ⟨false, [], signals⟩
      | some state => ⟨true, [.edit (reviewed state record)], signals.erase symbol⟩

/-! ## Calls -/

/-- A call of the tracker, with what it meets. -/
inductive Call
  | cycle (record : CycleRecord) (now : ℚ) (gateway : Gateway)
  | price (symbol : String) (price : Option ℚ) (hitAt : Option String) (delivered : Bool)
  | review (record : ReviewRecord)

/-- What a call does. -/
def outcome (signals : Signals) : Call → Outcome
  | .cycle record now gateway => observeCycleResult signals record now gateway
  | .price symbol price hitAt delivered => observePrice signals symbol price hitAt delivered
  | .review record => onReview signals record

/-- The signals after a call. -/
def step (signals : Signals) (call : Call) : Signals :=
  (outcome signals call).signals

/-- The symbols for which a call sends a message. -/
def sends (signals : Signals) (call : Call) : List String :=
  (outcome signals call).effects.filterMap fun effect =>
    match effect with
    | .send state => some state.symbol
    | .edit _ => none

/-- A call completes the review of a symbol's signal. -/
def Completes (signals : Signals) (symbol : String) : Call → Prop
  | .review record => reviewTarget signals record = some symbol
  | _ => False

instance (signals : Signals) (symbol : String) (call : Call) :
    Decidable (Completes signals symbol call) :=
  match call with
  | .review _ => inferInstanceAs (Decidable (_ = _))
  | .cycle _ _ _ => .isFalse id
  | .price _ _ _ _ => .isFalse id

/-! ## What is asked of the tracker -/

/-- A mark stays as long as its signal does; a signal of the other direction is another one. -/
def KeepsMarks (signals : Signals) (call : Call) : Prop :=
  ∀ symbol before after, signals.get symbol = some before →
    (step signals call).get symbol = some after → after.direction = before.direction →
      ∀ key, before.hits key = true → after.hits key = true

/-- An open signal keeps its status and its ticket until its review is completed. -/
def KeepsOpen (signals : Signals) (call : Call) : Prop :=
  ∀ symbol before, signals.get symbol = some before → before.status = .opened →
    Completes signals symbol call ∨ ∃ after, (step signals call).get symbol = some after ∧
      after.status = .opened ∧ after.statusDetail = before.statusDetail

/-- In every part of a run without a completed review of a symbol's signal at most one message is
sent for the symbol. -/
def SendsOnce (signals : Signals) (calls : List Call) : Prop :=
  ∀ before part after symbol, calls = before ++ part ++ after →
    Run.Every step (fun signals call => ¬ Completes signals symbol call)
        (Run.after step signals before) part →
      (Run.emitted step sends (Run.after step signals before) part).count symbol ≤ 1

/-- A cycle in the direction of an open signal reports the signal's ticket again. -/
def Reports (signals : Signals) : Call → Prop
  | .cycle record _ _ => Proposes record →
      ∀ existing, signals.get (symbolOf record) = some existing → existing.status = .opened →
        existing.direction = directionOf record →
          statusFrom record = (.opened, existing.statusDetail)
  | _ => True

/-! ## What a call does -/

section Calls

variable {signals : Signals}

/-- A cycle that changes nothing: it proposes no trade, or its symbol has an open signal of the
other direction. -/
structure Ignores (signals : Signals) (record : CycleRecord) (outcome : Outcome) : Prop where
  reason : ¬ Proposes record ∨ ∃ existing, signals.get (symbolOf record) = some existing ∧
    existing.direction ≠ directionOf record
  quiet : outcome.effects = []
  same : outcome.signals = signals

/-- A cycle that opens a signal. -/
structure Opens (signals : Signals) (record : CycleRecord) (outcome : Outcome)
    (state : SignalState) : Prop where
  fresh : signals.get (symbolOf record) = none
  named : state.symbol = symbolOf record
  sent : outcome.effects = [] ∨ ∃ shown, shown.symbol = symbolOf record ∧
    outcome.effects = [.send shown]
  set : outcome.signals = signals.set (symbolOf record) state

/-- A cycle that replaces a pending signal of the other direction. -/
structure Replaces (signals : Signals) (record : CycleRecord) (outcome : Outcome)
    (existing state : SignalState) : Prop where
  held : signals.get (symbolOf record) = some existing
  pending : existing.status ≠ .opened
  other : existing.direction ≠ directionOf record
  direction : state.direction = directionOf record
  edited : outcome.effects = [.edit state]
  set : outcome.signals = signals.set (symbolOf record) state

/-- A cycle in the direction of a signal, which sets its status. -/
structure Updates (signals : Signals) (record : CycleRecord) (outcome : Outcome)
    (existing state : SignalState) : Prop where
  held : signals.get (symbolOf record) = some existing
  direction : existing.direction = directionOf record
  hits : state.hits = existing.hits
  status : (state.status, state.statusDetail) = statusFrom record
  edited : outcome.effects = [] ∨ outcome.effects = [.edit state]
  set : outcome.signals = signals.set (symbolOf record) state

theorem sendState_cases (state : SignalState) (gateway : Gateway) :
    ((sendState state gateway).1 = [] ∨ (sendState state gateway).1 = [.send state]) ∧
      (sendState state gateway).2.symbol = state.symbol := by
  cases gateway with
  | unavailable => exact ⟨.inl rfl, rfl⟩
  | raises => exact ⟨.inr rfl, rfl⟩
  | answers messageIds => exact ⟨.inr rfl, rfl⟩

/-- What a cycle can do. -/
theorem observeCycleResult_cases (signals : Signals) (record : CycleRecord) (now : ℚ)
    (gateway : Gateway) :
    let outcome := observeCycleResult signals record now gateway
    Ignores signals record outcome ∨
      Proposes record ∧ ((∃ state, Opens signals record outcome state) ∨
        (∃ existing state, Replaces signals record outcome existing state) ∨
        ∃ existing state, Updates signals record outcome existing state) := by
  intro outcome
  by_cases proposes : Proposes record
  · have computed : outcome = observeCycleResult signals record now gateway := rfl
    unfold observeCycleResult at computed
    rw [if_neg (not_not.mpr proposes.1), if_neg (by simp [proposes.2.1])] at computed
    simp only [if_neg proposes.2.2] at computed
    cases held : signals.get (symbolOf record) with
    | none =>
        rw [held] at computed
        rcases sendState_cases (buildState record (symbolOf record) Dict.empty now) gateway with
          ⟨sent, named⟩
        have symbol : (sendState (buildState record (symbolOf record) Dict.empty now)
            gateway).2.symbol = symbolOf record := by rw [named, buildState]
        refine .inr ⟨proposes, .inl ⟨_, held, symbol, ?_, by rw [computed]⟩⟩
        rw [computed]
        refine sent.imp_right fun same => ?_
        exact ⟨buildState record (symbolOf record) Dict.empty now, rfl, same⟩
    | some existing =>
        simp only [held] at computed
        by_cases direction : existing.direction = directionOf record
        · rw [if_neg (not_not.mpr direction)] at computed
          refine .inr ⟨proposes, .inr (.inr ?_)⟩
          split at computed
          case isTrue changed =>
              refine ⟨existing, { existing with
                confidence := max existing.confidence (confidenceOf record)
                status := (statusFrom record).1
                statusDetail := (statusFrom record).2 }, held, direction, rfl, rfl, ?_, ?_⟩
              · rw [computed]
                exact .inr rfl
              · rw [computed]
          case isFalse unchanged =>
              rcases not_or.mp unchanged with ⟨status, detail⟩
              refine ⟨existing, { existing with
                confidence := max existing.confidence (confidenceOf record) },
                held, direction, rfl, Prod.ext (not_not.mp status) (not_not.mp detail), ?_, ?_⟩
              · rw [computed]
                exact .inl rfl
              · rw [computed]
        · rw [if_pos direction] at computed
          split at computed
          case isTrue opened =>
              exact .inl ⟨.inr ⟨existing, held, direction⟩, by rw [computed], by rw [computed]⟩
          case isFalse pending =>
              have turned :
                  (buildState record (symbolOf record) existing.messageIds now).direction =
                  directionOf record := by rw [buildState]
              refine .inr ⟨proposes, .inr (.inl ⟨existing, _, held, pending, direction, turned,
                ?_, ?_⟩)⟩
              · rw [computed]
              · rw [computed]
  · have quiet : outcome.effects = [] ∧ outcome.signals = signals := by
      change (observeCycleResult signals record now gateway).effects = [] ∧
        (observeCycleResult signals record now gateway).signals = signals
      unfold observeCycleResult
      split
      case isTrue => exact ⟨rfl, rfl⟩
      case isFalse decides =>
          split
          case isTrue => exact ⟨rfl, rfl⟩
          case isFalse approved =>
              have unnamed : symbolOf record = "" := by
                by_contra named
                exact proposes ⟨not_not.mp decides, eq_true_of_ne_false approved, named⟩
              simp [unnamed]
    exact .inl ⟨.inl proposes, quiet.1, quiet.2⟩

theorem get_of_lookup {symbol key : String} {state : SignalState}
    (found : lookup signals symbol = some (key, state)) : signals.get key = some state := by
  unfold lookup at found
  dsimp only at found
  split at found
  case h_1 other direct =>
      rcases Prod.mk.inj (Option.some.inj found) with ⟨here, same⟩
      rw [← here, ← same]
      exact direct
  case h_2 missing =>
      rcases Option.map_eq_some_iff.mp found with ⟨other, capital, pair⟩
      rcases Prod.mk.inj pair with ⟨here, same⟩
      rw [← here, ← same]
      exact capital

/-- What a price can do. -/
theorem observePrice_cases (signals : Signals) (symbol : String) (price : Option ℚ)
    (hitAt : Option String) (delivered : Bool) :
    let outcome := observePrice signals symbol price hitAt delivered
    (outcome.effects = [] ∧ outcome.signals = signals) ∨
      ∃ key before after, signals.get key = some before ∧ outcome.effects = [.edit after] ∧
        outcome.signals = signals.set key after ∧ after.direction = before.direction ∧
        after.status = before.status ∧ after.statusDetail = before.statusDetail ∧
        ∀ hitKey, before.hits hitKey = true → after.hits hitKey = true := by
  intro outcome
  have computed : outcome = observePrice signals symbol price hitAt delivered := rfl
  unfold observePrice at computed
  split at computed
  case h_1 _ key state amount time found priced =>
      split at computed
      case isTrue reached =>
          refine .inr ⟨key, state, marked state amount time, get_of_lookup found, ?_, ?_, rfl,
            rfl, rfl, ?_⟩
          · rw [computed]
          · rw [computed]
          · intro hitKey already
            unfold marked
            dsimp only
            split
            · rfl
            · exact already
      case isFalse => exact .inl ⟨by rw [computed], by rw [computed]⟩
  case h_2 => exact .inl ⟨by rw [computed], by rw [computed]⟩

/-- What a review can do. -/
theorem onReview_cases (signals : Signals) (record : ReviewRecord) :
    let outcome := onReview signals record
    (outcome.effects = [] ∧ outcome.signals = signals) ∨
      ∃ symbol shown, reviewTarget signals record = some symbol ∧
        outcome.effects = [.edit shown] ∧ outcome.signals = signals.erase symbol := by
  intro outcome
  have computed : outcome = onReview signals record := rfl
  unfold onReview at computed
  split at computed
  case h_1 => exact .inl ⟨by rw [computed], by rw [computed]⟩
  case h_2 symbol target =>
      split at computed
      case h_1 => exact .inl ⟨by rw [computed], by rw [computed]⟩
      case h_2 state held =>
          exact .inr ⟨symbol, _, target, by rw [computed], by rw [computed]⟩

/-- A call leaves the signal of a symbol, or opens, replaces or updates it, or completes its
review. -/
inductive Touches (signals : Signals) (call : Call) (symbol : String) : Prop
  | leaves (same : (step signals call).get symbol = signals.get symbol)
      (quiet : symbol ∉ sends signals call)
  | opens (fresh : signals.get symbol = none) (state : SignalState)
      (set : (step signals call).get symbol = some state)
      (once : (sends signals call).count symbol ≤ 1)
  | replaces (before after : SignalState) (held : signals.get symbol = some before)
      (set : (step signals call).get symbol = some after) (pending : before.status ≠ .opened)
      (other : after.direction ≠ before.direction) (quiet : symbol ∉ sends signals call)
  | updates (before after : SignalState) (held : signals.get symbol = some before)
      (set : (step signals call).get symbol = some after)
      (hits : ∀ key, before.hits key = true → after.hits key = true)
      (status : (∃ record now gateway, call = .cycle record now gateway ∧ Proposes record ∧
          symbolOf record = symbol ∧ before.direction = directionOf record ∧
          (after.status, after.statusDetail) = statusFrom record) ∨
        after.status = before.status ∧ after.statusDetail = before.statusDetail)
      (quiet : symbol ∉ sends signals call)
  | completes (completed : Completes signals symbol call)

theorem touches (signals : Signals) (call : Call) (symbol : String) :
    Touches signals call symbol := by
  have other : ∀ {key : String} {state : SignalState}, symbol ≠ key →
      (step signals call) = Dict.set signals key state →
        (step signals call).get symbol = signals.get symbol := by
    intro key state apart set
    rw [set]
    exact Dict.get_set_of_ne _ apart _
  have here : ∀ {key : String} {state : SignalState}, symbol = key →
      (step signals call) = Dict.set signals key state →
        (step signals call).get symbol = some state := by
    rintro key state rfl set
    rw [set]
    exact Dict.get_set_self _ _ _
  cases call with
  | cycle record now gateway =>
      rcases observeCycleResult_cases signals record now gateway with
        ignores | ⟨proposes, ⟨state, opens⟩ | ⟨existing, state, replaces⟩ |
          ⟨existing, state, updates⟩⟩
      · refine .leaves (congrArg (Dict.get · symbol) ignores.same) ?_
        simp [sends, outcome, ignores.quiet]
      · have sent : ∀ name ∈ sends signals (.cycle record now gateway), name = symbolOf record := by
          intro name member
          rcases opens.sent with quiet | ⟨shown, named, shows⟩
          · simp [sends, outcome, quiet] at member
          · simp [sends, outcome, shows] at member
            rw [member, named]
        by_cases own : symbol = symbolOf record
        · subst own
          refine .opens opens.fresh state (here rfl opens.set) ?_
          rcases opens.sent with quiet | ⟨shown, named, shows⟩
          · simp [sends, outcome, quiet]
          · simp [sends, outcome, shows, List.count_singleton]
            split <;> simp
        · exact .leaves (other own opens.set) fun member => own (sent symbol member)
      · have quiet : symbol ∉ sends signals (.cycle record now gateway) := by
          simp [sends, outcome, replaces.edited]
        by_cases own : symbol = symbolOf record
        · refine .replaces existing state (own ▸ replaces.held) (here own replaces.set)
            replaces.pending ?_ quiet
          rw [replaces.direction]
          exact replaces.other.symm
        · exact .leaves (other own replaces.set) quiet
      · have quiet : symbol ∉ sends signals (.cycle record now gateway) := by
          rcases updates.edited with none | edited
          · simp [sends, outcome, none]
          · simp [sends, outcome, edited]
        by_cases own : symbol = symbolOf record
        · refine .updates existing state (own ▸ updates.held) (here own updates.set) ?_
            (.inl ⟨record, now, gateway, rfl, proposes, own.symm, updates.direction,
              updates.status⟩) quiet
          rw [updates.hits]
          exact fun _ already => already
        · exact .leaves (other own updates.set) quiet
  | price name price hitAt delivered =>
      rcases observePrice_cases signals name price hitAt delivered with
        ⟨quiet, same⟩ | ⟨key, before, after, held, edited, set, -, status, detail, hits⟩
      · refine .leaves (congrArg (Dict.get · symbol) same) ?_
        simp [sends, outcome, quiet]
      · have quiet : symbol ∉ sends signals (.price name price hitAt delivered) := by
          simp [sends, outcome, edited]
        by_cases own : symbol = key
        · exact .updates before after (own ▸ held) (here own set) hits (.inr ⟨status, detail⟩) quiet
        · exact .leaves (other own set) quiet
  | review record =>
      rcases onReview_cases signals record with
        ⟨quiet, same⟩ | ⟨key, shown, target, edited, erased⟩
      · refine .leaves (congrArg (Dict.get · symbol) same) ?_
        simp [sends, outcome, quiet]
      · by_cases own : symbol = key
        · exact .completes (own ▸ target)
        · refine .leaves ?_ ?_
          · have gone : step signals (.review record) = Dict.erase signals key := erased
            rw [gone, Dict.get_erase, if_neg own]
          · simp [sends, outcome, edited]

/-! ## What holds of every call -/

/-- Every call keeps the marks of the signals that it leaves. -/
theorem keepsMarks (signals : Signals) (call : Call) : KeepsMarks signals call := by
  intro symbol before after held set direction key already
  rcases touches signals call symbol with ⟨same, -⟩ | ⟨fresh, -, -, -⟩ |
    ⟨earlier, later, was, now, -, other, -⟩ | ⟨earlier, later, was, now, hits, -, -⟩ | ⟨completed⟩
  · rw [same, held] at set
    cases set
    exact already
  · cases held.symm.trans fresh
  · cases held.symm.trans was
    cases set.symm.trans now
    exact absurd direction other
  · cases held.symm.trans was
    cases set.symm.trans now
    exact hits key already
  · cases call with
    | review record =>
        rcases onReview_cases signals record with ⟨-, same⟩ | ⟨target, shown, belongs, -, erased⟩
        · have kept : step signals (.review record) = signals := same
          rw [kept, held] at set
          cases set
          exact already
        · cases completed.symm.trans belongs
          have gone : step signals (.review record) = Dict.erase signals symbol := erased
          rw [gone, Dict.get_erase, if_pos rfl] at set
          cases set
    | cycle record now gateway => exact absurd completed id
    | price name price hitAt delivered => exact absurd completed id

/-- A call keeps the open signals exactly when a cycle in the direction of one reports its
ticket. -/
theorem keepsOpen_iff (signals : Signals) (call : Call) :
    KeepsOpen signals call ↔ Reports signals call := by
  constructor
  · intro keeps
    cases call with
    | price name price hitAt delivered => trivial
    | review record => trivial
    | cycle record now gateway =>
        intro proposes existing held opened direction
        rcases keeps (symbolOf record) existing held opened with completed | ⟨after, set, status⟩
        · exact absurd completed id
        rcases observeCycleResult_cases signals record now gateway with
          ignores | ⟨-, ⟨state, opens⟩ | ⟨earlier, state, replaces⟩ | ⟨earlier, state, updates⟩⟩
        · rcases ignores.reason with not | ⟨other, was, apart⟩
          · exact absurd proposes not
          · cases held.symm.trans was
            exact absurd direction apart
        · cases held.symm.trans opens.fresh
        · cases held.symm.trans replaces.held
          exact absurd direction replaces.other
        · have updated : step signals (.cycle record now gateway) =
              Dict.set signals (symbolOf record) state := updates.set
          rw [updated, Dict.get_set_self] at set
          cases set
          rw [← updates.status, status.1, status.2]
  · intro reports symbol before held opened
    rcases touches signals call symbol with ⟨same, -⟩ | ⟨fresh, -, -, -⟩ |
      ⟨earlier, later, was, -, pending, -, -⟩ | ⟨earlier, later, was, now, -, status, -⟩ |
      ⟨completed⟩
    · exact .inr ⟨before, same.trans held, opened, rfl⟩
    · cases held.symm.trans fresh
    · cases held.symm.trans was
      exact absurd opened pending
    · cases held.symm.trans was
      refine .inr ⟨later, now, ?_⟩
      rcases status with ⟨record, at', gateway, rfl, proposes, rfl, direction, updated⟩ | kept
      · have reported := reports proposes before held opened direction
        rw [reported] at updated
        exact ⟨congrArg Prod.fst updated, congrArg Prod.snd updated⟩
      · exact ⟨kept.1.trans opened, kept.2⟩
    · exact .inl completed

/-- Without a completed review a signal stays, and nothing is sent for its symbol. -/
theorem present_step {symbol : String} {call : Call} (present : signals.get symbol ≠ none)
    (open' : ¬ Completes signals symbol call) :
    (step signals call).get symbol ≠ none ∧ (sends signals call).count symbol = 0 := by
  rcases touches signals call symbol with ⟨same, quiet⟩ | ⟨fresh, -, -, -⟩ |
    ⟨-, later, -, now, -, -, quiet⟩ | ⟨-, later, -, now, -, -, quiet⟩ | ⟨completed⟩
  · exact ⟨same ▸ present, List.count_eq_zero_of_not_mem quiet⟩
  · exact absurd fresh present
  · exact ⟨by simp [now], List.count_eq_zero_of_not_mem quiet⟩
  · exact ⟨by simp [now], List.count_eq_zero_of_not_mem quiet⟩
  · exact absurd completed open'

/-- A run without a completed review of a symbol's signal sends at most one message for it, and
none when the signal is there already. -/
theorem count_emitted {symbol : String} {calls : List Call}
    (open' : Run.Every step (fun signals call => ¬ Completes signals symbol call) signals calls) :
    (Run.emitted step sends signals calls).count symbol ≤ 1 ∧
      (signals.get symbol ≠ none → (Run.emitted step sends signals calls).count symbol = 0) := by
  induction calls generalizing signals with
  | nil => simp [Run.emitted]
  | cons call rest ih =>
      rcases open' with ⟨now, later⟩
      rcases ih later with ⟨atMost, quiet⟩
      rw [Run.emitted, List.count_append]
      by_cases present : signals.get symbol = none
      · refine ⟨?_, fun there => absurd present there⟩
        rcases touches signals call symbol with ⟨-, unsent⟩ | ⟨-, state, set, once⟩ |
          ⟨earlier, -, was, -⟩ | ⟨earlier, -, was, -⟩ | ⟨completed⟩
        · rw [List.count_eq_zero_of_not_mem unsent]
          omega
        · rw [quiet (by simp [set])]
          omega
        · cases present.symm.trans was
        · cases present.symm.trans was
        · exact absurd completed now
      · rcases present_step present now with ⟨stays, unsent⟩
        rw [unsent, quiet stays]
        exact ⟨by omega, fun _ => rfl⟩

end Calls

/-- Every part of a run is one from the state that it finds. -/
theorem sendsOnce (signals : Signals) (calls : List Call) : SendsOnce signals calls :=
  fun _ _ _ _ _ open' => (count_emitted open').1

/-- In every run at most one message is sent for a symbol between two reviews, marks stay and
open signals keep their status and ticket until their review exactly when each cycle in the
direction of an open signal reports its ticket again. -/
theorem live_iff (calls : List Call) :
    (SendsOnce Dict.empty calls ∧ Run.Every step (fun signals call =>
      KeepsMarks signals call ∧ KeepsOpen signals call) Dict.empty calls) ↔
    Run.Every step Reports Dict.empty calls := by
  rw [and_iff_right (sendsOnce _ _)]
  refine Run.every_iff_of_invariant (fun _ => True) (fun _ _ _ => trivial) ?_ trivial calls
  intro signals call _
  rw [and_iff_right (keepsMarks signals call)]
  exact keepsOpen_iff signals call

/-! ### A relabelled position -/

namespace Sample

/-- An approved cycle that sells gold, executed with a ticket or blocked with an error. -/
def sell (ticket : Option Int) (error : String) : Call :=
  .cycle
    { decision := .str "SELL", riskApproved := .bool true, symbol := .str "XAUUSD", levels := none
      executionResult := ticket.map fun ticket => Dict.empty.set "ticket" (.int ticket)
      executed := .bool ticket.isSome, error := .str error, status := .str "", confidence := .none }
    0 .unavailable

end Sample

/-- A cycle that was approved and blocked relabels the open signal of the one before. -/
theorem not_live : ¬ ∀ calls : List Call,
    SendsOnce Dict.empty calls ∧ Run.Every step (fun signals call =>
      KeepsMarks signals call ∧ KeepsOpen signals call) Dict.empty calls := by
  intro live
  have blocked := live [Sample.sell (some 12345678) "", Sample.sell none "position guard"]
  rcases blocked with ⟨-, -, ⟨-, keeps⟩, -⟩
  have first : ((step Dict.empty (Sample.sell (some 12345678) "")).get "XAUUSD").map
      SignalState.status = some .opened := by decide +kernel
  have second : ((step (step Dict.empty (Sample.sell (some 12345678) ""))
      (Sample.sell none "position guard")).get "XAUUSD").map SignalState.status =
        some .waiting := by decide +kernel
  rcases Option.map_eq_some_iff.mp first with ⟨before, held, opened⟩
  rcases keeps "XAUUSD" before held opened with completed | ⟨after, set, status, -⟩
  · exact completed
  · rw [set, Option.map_some, status] at second
    cases second

end EaBot.Telegram
