import EaBot.Execution.ExecuteOrder
import EaBot.Execution.ReconciliationProviders

/-!
# The order locator of the runtime

When the reply to an order is lost, the engine asks a locator whether the order has
landed.  The runtime's locator looks for a position with the symbol, the volume and the
magic number of the request.  It asks the connector under a name that the connector does
not have, and reads the volume under a name that positions do not carry.
-/

namespace EaBot.Orchestration

open EaBot.Execution EaBot.Foundation EaBot.Mt5

/-! ## The locator -/

/-- Whether a position looks like the request. -/
def matchesRequest (request : OrderRequest) (position : Record) : Except String Bool := do
  let symbol := ((position.get "symbol").getD .none).orElse (.str "")
  let volume ← numberOf position ["volume"]
  let magic ← (((position.get "magic").getD .none).orElse (.int 0)).toInt
  return Text.upper symbol.text = Text.upper request.symbol ∧
    |volume - request.volume.value| < 1 / 10 ^ 6 ∧ magic = request.magic

/-- The ticket of the first position that looks like the request. -/
def locate (request : OrderRequest) : List Record → Except String (Option Int)
  | [] => .ok none
  | position :: rest => do
      if ← matchesRequest request position then
        let ticket ← ((position.get "ticket").getD .none).toInt
        return some ticket
      else locate request rest

/-- The runtime's order locator. -/
def orderLocatorForRequest (render : ℚ → String) (liveMode : Bool) (read : RawRead)
    (request : OrderRequest) : Except String (Option Int) :=
  if request.volume.value ≤ 0 then .ok none
  else do
    let positions ← callPositions liveMode read "positions"
    locate request (positions.map (recordOfPosition render))

/-- An attempt in which the locator of the runtime is asked. -/
def withLocator (render : ℚ → String) (liveMode : Bool) (read : RawRead)
    (request : OrderRequest) (attempt : Attempt) : Attempt :=
  { attempt with
    located := (orderLocatorForRequest render liveMode read request).map (Option.map Val.int) }

/-! ## What it should find -/

/-- The position has the symbol, the volume and the magic number of the request. -/
structure MatchesOrder (request : OrderRequest) (position : Position) : Prop where
  symbol : Text.upper position.symbol = Text.upper request.symbol
  volume : |position.quantity - request.volume.value| < 1 / 10 ^ 6
  magic : position.magic.getD 0 = request.magic

/-- The position matches the request and was not in the book before the request was sent. -/
def Landed (request : OrderRequest) (before : List Position) (position : Position) : Prop :=
  MatchesOrder request position ∧ ∀ known ∈ before, known.ticket ≠ position.ticket

/-- The locator returns a ticket exactly when a position has landed, and it is the ticket of
one that has. -/
def AdoptsExactly (render : ℚ → String) (liveMode : Bool) (read : RawRead)
    (before : List Position) (request : OrderRequest) : Prop :=
  ((∃ ticket, orderLocatorForRequest render liveMode read request = .ok (some ticket)) ↔
      ∃ position ∈ getPositions liveMode read, Landed request before position) ∧
    ∀ ticket, orderLocatorForRequest render liveMode read request = .ok (some ticket) →
      ∃ position ∈ getPositions liveMode read,
        Landed request before position ∧ position.ticket = ticket

/-! ## What it finds -/

section Locating

variable (render : ℚ → String) (liveMode : Bool) (read : RawRead) (request : OrderRequest)

/-- The locator raises for every order with a volume. -/
theorem orderLocatorForRequest_raises (sized : 0 < request.volume.value) :
    orderLocatorForRequest render liveMode read request =
      .error "module 'mt5.connector' has no attribute 'positions'" := by
  unfold orderLocatorForRequest
  rw [if_neg (not_le.mpr sized)]
  rfl

theorem orderLocatorForRequest_ne_some (ticket : Int) :
    orderLocatorForRequest render liveMode read request ≠ .ok (some ticket) := by
  intro found
  rcases le_or_gt request.volume.value 0 with none | sized
  · rw [orderLocatorForRequest, if_pos none] at found
    cases found
  · rw [orderLocatorForRequest_raises render liveMode read request sized] at found
    cases found

/-- The engine adopts nothing that the locator of the runtime has been asked for. -/
theorem adoptLostResponse_withLocator (config : EngineConfig) (market : MarketView)
    (attempt : Attempt) :
    adoptLostResponse config market (withLocator render liveMode read request attempt) request =
      .ok none := by
  unfold adoptLostResponse withLocator
  split
  · rfl
  · cases found : orderLocatorForRequest render liveMode read request with
    | error raised => rfl
    | ok ticket =>
        cases ticket with
        | none => rfl
        | some ticket =>
            exact absurd found (orderLocatorForRequest_ne_some render liveMode read request ticket)

/-- A position as the connector gives it never looks like an order of a millionth of a lot
or more: it has its volume under another name. -/
theorem matchesRequest_recordOfPosition (sized : 1 / 10 ^ 6 ≤ request.volume.value)
    (position : Position) :
    matchesRequest request (recordOfPosition render position) = .ok false := by
  have volume : numberOf (recordOfPosition render position) ["volume"] = .ok 0 := by
    unfold recordOfPosition
    rfl
  have far : ¬ |0 - request.volume.value| < 1 / 10 ^ 6 := by
    rw [zero_sub, abs_neg, not_lt]
    exact sized.trans (le_abs_self _)
  have magic : ∃ magic, (Val.orElse (.ofInt? position.magic) (.int 0)).toInt = .ok magic := by
    cases position.magic with
    | none => exact ⟨0, rfl⟩
    | some magic =>
        by_cases labelled : (Val.int magic).truthy = true
        · exact ⟨magic, by rw [Val.ofInt?, Val.orElse, if_pos labelled]; rfl⟩
        · exact ⟨0, by rw [Val.ofInt?, Val.orElse, if_neg labelled]; rfl⟩
  obtain ⟨magic, read⟩ := magic
  unfold matchesRequest
  rw [volume, recordOfPosition_magic, Option.getD_some, read]
  exact congrArg Except.ok (decide_eq_false fun same => far same.2.1)

/-- Under the name that the connector has, the positions would be searched in vain too. -/
theorem locate_positions (sized : 1 / 10 ^ 6 ≤ request.volume.value) (positions : List Position) :
    locate request (positions.map (recordOfPosition render)) = .ok none := by
  induction positions with
  | nil => rfl
  | cons position rest inductionHypothesis =>
      rw [List.map_cons, locate, matchesRequest_recordOfPosition render request sized position]
      exact inductionHypothesis

end Locating

/-- The locator adopts lost replies exactly when there is nothing to adopt. -/
theorem adoptsExactly_iff (render : ℚ → String) (liveMode : Bool) (read : RawRead)
    (before : List Position) (request : OrderRequest) :
    AdoptsExactly render liveMode read before request ↔
      ¬ ∃ position ∈ getPositions liveMode read, Landed request before position := by
  have silent := orderLocatorForRequest_ne_some render liveMode read request
  constructor
  · rintro ⟨exactly, -⟩ landed
    obtain ⟨ticket, found⟩ := exactly.mpr landed
    exact silent ticket found
  · intro nothing
    constructor
    · constructor
      · rintro ⟨ticket, found⟩
        exact absurd found (silent ticket)
      · intro landed
        exact absurd landed nothing
    · intro ticket found
      exact absurd found (silent ticket)

namespace Sample

/-- A position of a tenth of a lot. -/
def landedRow : BrokerRow where
  ticket := 777
  symbol := "EURUSD"
  type := 0
  volume := 1 / 10
  priceOpen := 11 / 10
  priceCurrent := 11 / 10
  swap := 0
  profit := 0
  magic := some 70000
  sl := 1
  tp := 13 / 10

end Sample

/-- An order that has landed in an empty book is not adopted. -/
theorem landed_order_is_not_adopted :
    ¬ AdoptsExactly (fun _ => "") true (.rows [Sample.landedRow]) [] Execution.Sample.request := by
  rintro ⟨exactly, -⟩
  have landed : Landed Execution.Sample.request [] (positionOfRow Sample.landedRow) := by
    refine ⟨⟨by decide +kernel, by decide +kernel, by decide +kernel⟩, ?_⟩
    intro known absent
    cases absent
  obtain ⟨ticket, found⟩ := exactly.mpr ⟨_, List.mem_singleton_self _, landed⟩
  have raises : (orderLocatorForRequest (fun _ => "") true (.rows [Sample.landedRow])
      Execution.Sample.request).toOption = none := by
    decide +kernel
  rw [found] at raises
  cases raises

end EaBot.Orchestration
