import EaBot.Execution.Request

/-!
# The order builder

The builder turns the fields of an approved proposal into an order request.  It
labels the request with the proposal's own magic number when there is one and with
its default one otherwise.  Whoever reads positions back has to know which of the
two it was.
-/

namespace EaBot.Execution

open EaBot.Foundation

/-- An order builder.  `symbolSpecProvider` reads the broker's metadata of a symbol,
and `render` is the way a number prints. -/
structure OrderBuilder where
  defaultMagic : Int
  symbolPrefix : String
  symbolSuffix : String
  symbolSpecProvider : Option (String → Except String Record)
  render : ℚ → String

namespace OrderBuilder

/-- The symbol of the order. -/
def symbolFor (builder : OrderBuilder) (proposal : Record) : Except String String :=
  match firstOf proposal ["symbol", "pair"] with
  | .str raw =>
      if Text.strip raw = "" then .error "Proposal missing valid symbol"
      else
        let clean := Text.upper (Text.strip raw)
        let prefixed :=
          if builder.symbolPrefix.toList <+: clean.toList then clean
          else builder.symbolPrefix ++ clean
        .ok (if builder.symbolSuffix.toList <:+ prefixed.toList then prefixed
          else prefixed ++ builder.symbolSuffix)
  | _ => .error "Proposal missing valid symbol"

/-- The order types that are taken over as they are. -/
def pendingTypes : List String :=
  ["BUY_LIMIT", "SELL_LIMIT", "BUY_STOP", "SELL_STOP", "BUY_STOP_LIMIT", "SELL_STOP_LIMIT"]

/-- The type of the order. -/
def orderTypeFor (proposal : Record) : Except String String :=
  match firstOf proposal ["order_type", "side", "action"] with
  | .str raw =>
      let clean := Text.upper (Text.strip raw)
      if clean = "BUY" ∨ clean = "LONG" then .ok "BUY"
      else if clean = "SELL" ∨ clean = "SHORT" then .ok "SELL"
      else if clean ∈ pendingTypes then .ok clean
      else .error ("Unsupported order side/type: '" ++ raw ++ "'")
  | _ => .error "Proposal missing valid side or order_type"

/-- The volume of the order, before the broker's constraints. -/
def volumeFor (builder : OrderBuilder) (proposal : Record) : Except String ℚ :=
  let listed := ((proposal.get "volume").or (proposal.get "lots")).getD .none
  let raw := if listed = .none then (proposal.get "size").getD (.int 0) else listed
  match raw.toFloat with
  | .error _ => .error ("Invalid volume value: " ++ raw.text)
  | .ok volume =>
      if volume ≤ 0 then .error ("Volume must be positive, got " ++ builder.render volume)
      else .ok volume

/-- The price of the order: the proposed one or, without one, the side of the quote. -/
def priceFor (proposal quote : Record) (orderType : String) : Except String ℚ :=
  let proposed := ((proposal.get "price").getD (.int 0)).toFloat.toOption.getD 0
  if proposed ≤ 0 then
    if Text.contains orderType "BUY" ∧ quote.contains "ask" then
      ((quote.get "ask").getD .none).toFloat
    else if Text.contains orderType "SELL" ∧ quote.contains "bid" then
      ((quote.get "bid").getD .none).toFloat
    else .ok proposed
  else .ok proposed

/-- A value rounded to a number of decimal places, which may be negative. -/
def roundDigits (digits : Int) (value : ℚ) : ℚ :=
  Text.roundHalfEven (value * (10 : ℚ) ^ digits) / (10 : ℚ) ^ digits

/-- The volume within the broker's steps and bounds; unreadable metadata changes
nothing. -/
def normaliseVolume (spec : Record) (volume : ℚ) : ℚ :=
  match numberOf spec ["volume_step"], numberOf spec ["volume_min"],
      numberOf spec ["volume_max"] with
  | .ok step, .ok vmin, .ok vmax =>
      let capped := if 0 < vmax then min volume vmax else volume
      let snapped :=
        if 0 < step then
          roundDigits 8 (((capped + step / 10 ^ 12) / step).floor * step)
        else capped
      if 0 < vmin ∧ snapped < vmin then 0 else snapped
  | _, _, _ => volume

/-- A price rounded to the digits of the symbol. -/
def normalisePrice (spec : Record) (price : ℚ) : ℚ :=
  match ((spec.get "digits").getD .none).toInt with
  | .ok digits => if 0 < price then roundDigits digits price else price
  | .error _ => price

/-- The volume and the prices under the broker's constraints. -/
def normaliseToSpec (builder : OrderBuilder) (symbol : String) (volume price sl tp : ℚ) :
    ℚ × ℚ × ℚ × ℚ :=
  match builder.symbolSpecProvider with
  | none => (volume, price, sl, tp)
  | some provider =>
      match provider symbol with
      | .error _ => (volume, price, sl, tp)
      | .ok spec =>
          if spec.entries.isEmpty then (volume, price, sl, tp)
          else (normaliseVolume spec volume, normalisePrice spec price, normalisePrice spec sl,
            normalisePrice spec tp)

/-- The magic number of the order. -/
def magicFor (builder : OrderBuilder) (proposal : Record) : Except String Int :=
  (((proposal.get "magic").getD .none).orElse (.int builder.defaultMagic)).toInt

/-- An identity field that the proposal names. -/
def metadataOf (proposal : Record) (name : String) : Option String :=
  match proposal.get name with
  | none => none
  | some .none => none
  | some value => if value = .str "" then none else some value.text

/-- Build the request.  `freshKey` is the key of a request whose proposal names none. -/
def buildOrderRequest (builder : OrderBuilder) (proposal quote : Record) (freshKey : String) :
    Except String OrderRequest := do
  let symbol ← builder.symbolFor proposal
  let orderType ← orderTypeFor proposal
  let volume ← builder.volumeFor proposal
  let price ← priceFor proposal quote orderType
  let sl ← numberOf proposal ["sl", "stop_loss"]
  let tp ← numberOf proposal ["tp", "take_profit"]
  let magic ← builder.magicFor proposal
  let comment := (firstOf proposal ["comment", "tag"]).orElse (.str ("EA-Bot-" ++ orderType))
  let key := (firstOf proposal ["idempotency_key", "client_order_id"]).orElse (.str "")
  let final := builder.normaliseToSpec symbol volume price sl tp
  let number (value : ℚ) : Number := ⟨value, builder.render value⟩
  return { symbol := symbol, orderType := orderType, volume := number final.1,
           price := number final.2.1, sl := number final.2.2.1, tp := number final.2.2.2,
           magic := magic, comment := comment.text,
           idempotencyKey := if key.text = "" then freshKey else key.text,
           approvalToken := none, signalId := metadataOf proposal "signal_id",
           accountId := metadataOf proposal "account_id",
           terminalId := metadataOf proposal "terminal_id",
           proposalId := metadataOf proposal "proposal_id",
           executionId := metadataOf proposal "execution_id",
           strategyVersion := metadataOf proposal "strategy_version",
           brokerOrderTicket := none, brokerDealTicket := none, brokerPositionTicket := none }

/-- A proposal without a magic number of its own gets the builder's default one. -/
theorem buildOrderRequest_magic {builder : OrderBuilder} {proposal quote : Record}
    {freshKey : String} {request : OrderRequest}
    (built : builder.buildOrderRequest proposal quote freshKey = .ok request)
    (unlabelled : proposal.get "magic" = none) : request.magic = builder.defaultMagic := by
  have labelled : builder.magicFor proposal = .ok builder.defaultMagic := by
    rw [magicFor, unlabelled]
    rfl
  unfold buildOrderRequest at built
  obtain ⟨symbol, -, built⟩ := of_bind_eq_ok built
  obtain ⟨orderType, -, built⟩ := of_bind_eq_ok built
  obtain ⟨volume, -, built⟩ := of_bind_eq_ok built
  obtain ⟨price, -, built⟩ := of_bind_eq_ok built
  obtain ⟨sl, -, built⟩ := of_bind_eq_ok built
  obtain ⟨tp, -, built⟩ := of_bind_eq_ok built
  obtain ⟨magic, found, built⟩ := of_bind_eq_ok built
  rw [labelled] at found
  cases found
  cases built
  rfl

end OrderBuilder

end EaBot.Execution
