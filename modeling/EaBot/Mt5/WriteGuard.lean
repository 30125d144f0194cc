import EaBot.Foundation.Value
import Mathlib.Algebra.Order.Field.Basic
import Mathlib.Tactic.Linarith

/-!
# The write guard

An order is handed to the terminal only after four checks: the agent's permission, the volume, the
loss of the day and the exposure.  Without an account state or without positions there is no
order.

The check of the loss takes an account that reports no profit of the day for one that has lost
nothing, and the check of the exposure looks at the open positions and not at the order.
-/

namespace EaBot.Mt5

open EaBot.Foundation

/-! ## Permissions -/

/-- An agent. -/
structure BaseAgent where
  name : String
  permissions : List String

/-- What a guarded operation raises. -/
inductive GuardError
  | permission (message : String)
  | value (reason : String)
  | type
  | executor (raised : String)
deriving DecidableEq

def requirePermission (agent : BaseAgent) (permission : String) : Except GuardError Unit :=
  if permission ∈ agent.permissions then .ok ()
  else .error (.permission s!"Agent '{agent.name}' lacks permission '{permission}'")

/-! ## The checks -/

/-- The result of a check. -/
structure ValidationResult where
  valid : Bool
  reason : String
  checked : List String
deriving DecidableEq

namespace ValidationResult

def passed (check : String) : ValidationResult :=
  ⟨true, "", [check]⟩

def failed (reason : String) : ValidationResult :=
  ⟨false, reason, []⟩

/-- All results in one: the reason is the one of the first check that failed. -/
def combine (validations : List ValidationResult) : ValidationResult :=
  let checked := (validations.filter ValidationResult.valid).flatMap ValidationResult.checked
  match validations.find? fun result => !result.valid with
  | some failed => ⟨false, failed.reason, checked⟩
  | none => ⟨true, "", checked⟩

end ValidationResult

/-- A share as a percentage. -/
def percent (places : Nat) (share : ℚ) : String :=
  Text.fixedSigned places (share * 100) ++ "%"

/-- The number of a value; anything else cannot be compared or divided. -/
def asNumber (value : Val) : Except GuardError ℚ :=
  match value.number? with
  | some number => .ok number
  | none => .error .type

/-- The conversion to a floating-point number. -/
def asFloat (value : Val) : Except GuardError ℚ :=
  value.toFloat.mapError .value

/-- Check the volume of an order. -/
def validateVolume (volume : Val) (minVolume maxVolume : Number) :
    Except GuardError ValidationResult := do
  let value ← asNumber volume
  if value < minVolume.value then
    return .failed s!"Volume {volume.text} below minimum {minVolume.shown}"
  else if maxVolume.value < value then
    return .failed s!"Volume {volume.text} above maximum {maxVolume.shown}"
  else return .passed "volume"

/-- Check the loss of the day against the balance. -/
def validateDailyLoss (accountState : Record) (dailyLossLimit : ℚ) :
    Except GuardError ValidationResult := do
  let dailyPnl := (accountState.get "daily_pnl").getD (.num ⟨0, "0.0"⟩)
  let balance := (accountState.get "balance").getD (.num ⟨1, "1.0"⟩)
  let lossRatio ←
    if balance.truthy then do
      let pnl ← asNumber dailyPnl
      let divisor ← asNumber balance
      pure (pnl / divisor)
    else pure 0
  if lossRatio < -dailyLossLimit then
    return .failed
      s!"Daily loss {percent 2 lossRatio} exceeds limit {percent 2 dailyLossLimit}"
  else return .passed "daily_loss"

/-- What a volume at a price exposes; a product that is no number has no absolute value. -/
def exposure (volume price : Val) : Except GuardError ℚ := do
  let size ← asNumber volume
  let value ← asNumber price
  return |size * value|

/-- The price of a position or an order, one when there is none. -/
def priceOf (record : Record) : Val :=
  (record.get "price").getD (.num ⟨1, "1.0"⟩)

/-- What the open positions expose. -/
def totalExposure : List Record → Except GuardError ℚ
  | [] => .ok 0
  | position :: rest => do
      let first ← exposure ((position.get "volume").getD (.int 0)) (priceOf position)
      let others ← totalExposure rest
      return first + others

/-- Check the exposure of the open positions against the balance. -/
def validateExposure (positions : List Record) (maxExposurePct accountBalance : ℚ) :
    Except GuardError ValidationResult :=
  if accountBalance ≤ 0 then
    .ok (.failed "Cannot validate exposure without account balance")
  else do
    let total ← totalExposure positions
    let exposurePct := total / accountBalance * 100
    if maxExposurePct * 100 < exposurePct then
      return .failed
        s!"Total exposure {percent 1 exposurePct} exceeds limit {percent 1 maxExposurePct}"
    else return .passed "exposure"

/-! ## The guard -/

/-- The limits of the guard. -/
structure MT5WriteGuard where
  minVolume : Number
  maxVolume : Number
  dailyLossLimit : ℚ
  maxExposurePct : ℚ

/-- The volume of an order, under one of its two names. -/
def volumeOf (order : Record) : Val :=
  (order.get "volume").getD ((order.get "quantity").getD (.int 0))

/-- What an executor answers, and what the guard makes of it. -/
structure ExecutorReply where
  fields : Record
  checked : Option (List String)

namespace MT5WriteGuard

/-- The limits of a guard that is given none. -/
def default : MT5WriteGuard :=
  ⟨⟨1 / 100, "0.01"⟩, ⟨100, "100.0"⟩, 1 / 10, 1 / 5⟩

section Guarding

variable (guard : MT5WriteGuard) (agent : BaseAgent) (order : Record)
  (positions : Option (List Record)) (accountState : Option Record)

/-- Check an order. -/
def validateOrder : Except GuardError ValidationResult :=
  match requirePermission agent "SEND_TO_MT5" with
  | .error (.permission message) => .ok ⟨false, message, ["permission"]⟩
  | .error raised => .error raised
  | .ok () => do
      let volume ← validateVolume (volumeOf order) guard.minVolume guard.maxVolume
      if !volume.valid then return ⟨false, volume.reason, ["permission"]⟩
      else
        match accountState with
        | none =>
            return ⟨false, "Cannot validate order without account state (daily loss).",
              ["permission", "volume"]⟩
        | some state =>
            if state.entries.isEmpty then
              return ⟨false, "Cannot validate order without account state (daily loss).",
                ["permission", "volume"]⟩
            else
              let loss ← validateDailyLoss state guard.dailyLossLimit
              if !loss.valid then return ⟨false, loss.reason, ["permission", "volume"]⟩
              else
                match positions with
                | none =>
                    return ⟨false,
                      "Cannot validate order without current positions (exposure).",
                      ["permission", "volume", "daily_loss"]⟩
                | some held =>
                    let balance ← asFloat
                      (((state.get "balance").getD (.int 0)).orElse (.int 0))
                    let exposed ← validateExposure held guard.maxExposurePct balance
                    return .combine [.passed "permission", volume, loss, exposed]

/-- Check an order and hand it to the executor: the orders that were handed over, and the
answer. -/
def sendOrder (executor : Record → Except String (Option ExecutorReply)) :
    List Record × Except GuardError ExecutorReply :=
  match requirePermission agent "SEND_TO_MT5" with
  | .error raised => ([], .error raised)
  | .ok () =>
      match guard.validateOrder agent order positions accountState with
      | .error raised => ([], .error raised)
      | .ok result =>
          if !result.valid then ([], .error (.value result.reason))
          else
            ([order],
              match executor order with
              | .error raised => .error (.executor raised)
              | .ok (some reply) =>
                  .ok { reply with checked := some (reply.checked.getD result.checked) }
              | .ok none =>
                  .ok {
                    fields := Dict.empty.update
                      [("success", .bool false), ("order_id", .none),
                        ("message", .str "MT5 executor returned no result")]
                    checked := some result.checked })

end Guarding

/-! ## What the checks find -/

/-- A number that counts as true is its own conversion. -/
theorem asFloat_of_number {value : Val} {number : ℚ} (found : value.number? = some number) :
    asFloat value = .ok number := by
  cases value with
  | bool value => cases value <;> cases found <;> rfl
  | int value => cases found; rfl
  | num value => cases found; rfl
  | none => cases found
  | str value => cases found

/-- A check that passes. -/
def Passes (check : Except GuardError ValidationResult) : Prop :=
  ∃ result, check = .ok result ∧ result.valid = true

theorem passes_ok_iff (result : ValidationResult) :
    Passes (.ok result) ↔ result.valid = true := by
  constructor
  · rintro ⟨other, same, valid⟩
    cases same
    exact valid
  · exact fun valid => ⟨result, rfl, valid⟩

theorem not_passes_error (raised : GuardError) : ¬ Passes (.error raised) := by
  rintro ⟨result, same, -⟩
  cases same

theorem passes_asNumber_bind {value : Val} {next : ℚ → Except GuardError ValidationResult} :
    Passes (asNumber value >>= next) ↔
      ∃ number, value.number? = some number ∧ Passes (next number) := by
  unfold asNumber
  cases value.number? with
  | none =>
      refine iff_of_false (not_passes_error .type) ?_
      rintro ⟨number, found, -⟩
      cases found
  | some number => simp only [ok_bind, Option.some.injEq, exists_eq_left']

/-- A check that ends in one of two verdicts. -/
theorem passes_verdict_iff (violated : Prop) [Decidable violated] (reason check : String) :
    Passes (if violated then pure (.failed reason) else pure (.passed check)) ↔ ¬ violated := by
  split
  case isTrue holds =>
    exact iff_of_false (fun passes => Bool.false_ne_true ((passes_ok_iff _).mp passes))
      (not_not_intro holds)
  case isFalse kept => exact iff_of_true ((passes_ok_iff _).mpr rfl) kept

theorem validateVolume_passes_iff {volume : Val} {minVolume maxVolume : Number} :
    Passes (validateVolume volume minVolume maxVolume) ↔
      ∃ value, volume.number? = some value ∧
        minVolume.value ≤ value ∧ value ≤ maxVolume.value := by
  unfold validateVolume
  rw [passes_asNumber_bind]
  refine exists_congr fun value => and_congr_right fun _ => ?_
  by_cases below : value < minVolume.value
  · rw [if_pos below]
    refine iff_of_false (fun passes => Bool.false_ne_true ((passes_ok_iff _).mp passes)) ?_
    exact fun within => not_lt.mpr within.1 below
  · rw [if_neg below, passes_verdict_iff, not_lt, and_iff_right (not_lt.mp below)]

/-- The profit of the day, zero when the account reports none. -/
def dailyPnlOf (state : Record) : Option ℚ :=
  match state.get "daily_pnl" with
  | none => some 0
  | some pnl => pnl.number?

/-- A number counts as true unless it is zero. -/
theorem truthy_iff {value : Val} {number : ℚ} (found : value.number? = some number) :
    value.truthy = true ↔ number ≠ 0 := by
  cases value with
  | bool value => cases value <;> cases found <;> simp [Val.truthy]
  | int value => cases found; simp [Val.truthy]
  | num value => cases found; simp [Val.truthy]
  | none => cases found
  | str value => cases found

/-- The loss of the day is within its limit, on an account with a positive balance. -/
theorem validateDailyLoss_passes_iff {state : Record} {limit balance : ℚ} {held : Val}
    (reported : state.get "balance" = some held) (number : held.number? = some balance)
    (positive : 0 < balance) :
    Passes (validateDailyLoss state limit) ↔
      ∃ pnl, dailyPnlOf state = some pnl ∧ -limit * balance ≤ pnl := by
  have truthy : held.truthy = true := (truthy_iff number).mpr (ne_of_gt positive)
  have pnl : ((state.get "daily_pnl").getD (.num ⟨0, "0.0"⟩)).number? = dailyPnlOf state := by
    rw [dailyPnlOf]
    cases state.get "daily_pnl" <;> rfl
  unfold validateDailyLoss
  rw [reported, Option.getD_some, if_pos truthy]
  dsimp only
  rw [passes_asNumber_bind, pnl]
  refine exists_congr fun pnl => and_congr_right fun _ => ?_
  rw [passes_asNumber_bind, number]
  simp only [Option.some.injEq, exists_eq_left', pure_bind]
  rw [passes_verdict_iff, not_lt, le_div_iff₀ positive]

/-- The open positions expose at most their share of a positive balance. -/
theorem validateExposure_passes_iff {positions : List Record} {maxExposurePct balance : ℚ} :
    Passes (validateExposure positions maxExposurePct balance) ↔
      0 < balance ∧ ∃ total, totalExposure positions = .ok total ∧
        total ≤ maxExposurePct * balance := by
  unfold validateExposure
  by_cases empty : balance ≤ 0
  · rw [if_pos empty, passes_ok_iff]
    exact iff_of_false Bool.false_ne_true fun holds => absurd holds.1 (not_lt.mpr empty)
  · have positive : 0 < balance := not_le.mp empty
    rw [if_neg empty, and_iff_right positive]
    cases totalExposure positions with
    | error raised =>
        refine iff_of_false (not_passes_error raised) ?_
        rintro ⟨total, found, -⟩
        cases found
    | ok total =>
        rw [ok_bind, passes_verdict_iff, not_lt,
          mul_le_mul_iff_left₀ (by norm_num : (0 : ℚ) < 100), div_le_iff₀ positive]
        simp

section Admission

variable (guard : MT5WriteGuard) (agent : BaseAgent) (order : Record)

/-- An order that passes the four checks, with the profit of the day, the balance and the exposure
that they have read. -/
structure Admitted (held : List Record) (state : Record) (pnl balance total : ℚ) : Prop where
  permitted : "SEND_TO_MT5" ∈ agent.permissions
  volume : ∃ value, (volumeOf order).number? = some value ∧
    guard.minVolume.value ≤ value ∧ value ≤ guard.maxVolume.value
  reported : dailyPnlOf state = some pnl
  funded : (state.get "balance").bind Val.number? = some balance
  positive : 0 < balance
  loss : -guard.dailyLossLimit * balance ≤ pnl
  exposed : totalExposure held = .ok total
  within : total ≤ guard.maxExposurePct * balance

variable {guard agent order} {positions : Option (List Record)} {accountState : Option Record}

/-- A check and what follows it when it has passed. -/
theorem passes_next_iff {check : Except GuardError ValidationResult}
    {refused : ValidationResult → ValidationResult}
    {next : ValidationResult → Except GuardError ValidationResult}
    (refuses : ∀ result, (refused result).valid = false) :
    Passes (check >>= fun result =>
        if !result.valid then pure (refused result) else next result) ↔
      ∃ result, (check = .ok result ∧ result.valid = true) ∧ Passes (next result) := by
  cases check with
  | error raised =>
      refine iff_of_false (not_passes_error raised) ?_
      rintro ⟨result, ⟨same, -⟩, -⟩
      cases same
  | ok result =>
      rw [ok_bind]
      constructor
      · intro passes
        cases valid : result.valid with
        | false =>
            rw [valid] at passes
            have refused := (passes_ok_iff _).mp passes
            rw [refuses result] at refused
            cases refused
        | true =>
            rw [valid] at passes
            exact ⟨result, ⟨rfl, valid⟩, passes⟩
      · rintro ⟨other, ⟨same, valid⟩, passes⟩
        cases same
        rw [valid]
        exact passes

/-- After checks that have passed, the result is the one of the last check. -/
theorem combine_valid {volume loss : ValidationResult} (exposed : ValidationResult)
    (volumeValid : volume.valid = true) (lossValid : loss.valid = true) :
    (ValidationResult.combine [.passed "permission", volume, loss, exposed]).valid =
      exposed.valid := by
  unfold ValidationResult.combine
  cases valid : exposed.valid <;>
    simp [ValidationResult.passed, volumeValid, lossValid, valid]

/-- The exposure is the last check. -/
theorem passes_exposure_iff {volume loss : ValidationResult} (volumeValid : volume.valid = true)
    (lossValid : loss.valid = true) (funds : Except GuardError ℚ)
    (check : ℚ → Except GuardError ValidationResult) :
    Passes (do
        let balance ← funds
        let exposed ← check balance
        return .combine [.passed "permission", volume, loss, exposed]) ↔
      ∃ balance, funds = .ok balance ∧ Passes (check balance) := by
  cases funds with
  | error raised =>
      refine iff_of_false (not_passes_error raised) ?_
      rintro ⟨balance, same, -⟩
      cases same
  | ok balance =>
      simp only [ok_bind, Except.ok.injEq, exists_eq_left']
      cases check balance with
      | error raised => exact iff_of_false (not_passes_error raised) (not_passes_error raised)
      | ok exposed =>
          rw [ok_bind, passes_ok_iff]
          exact (passes_ok_iff _).trans
            (Bool.eq_iff_iff.mp (combine_valid exposed volumeValid lossValid))

/-- An order that is valid has passed one check after the other. -/
theorem validateOrder_passes_iff_checks :
    Passes (guard.validateOrder agent order positions accountState) ↔
      "SEND_TO_MT5" ∈ agent.permissions ∧
        Passes (validateVolume (volumeOf order) guard.minVolume guard.maxVolume) ∧
        ∃ state, accountState = some state ∧ state.entries ≠ [] ∧
          Passes (validateDailyLoss state guard.dailyLossLimit) ∧
          ∃ held, positions = some held ∧
            ∃ balance, asFloat (((state.get "balance").getD (.int 0)).orElse (.int 0)) =
                .ok balance ∧
              Passes (validateExposure held guard.maxExposurePct balance) := by
  unfold validateOrder requirePermission
  by_cases permitted : "SEND_TO_MT5" ∈ agent.permissions
  · rw [if_pos permitted, and_iff_right permitted]
    dsimp only
    rw [passes_next_iff fun _ => rfl]
    have refuses : ∀ reason checked, ¬ Passes (.ok ⟨false, reason, checked⟩) :=
      fun _ _ passes => Bool.false_ne_true ((passes_ok_iff _).mp passes)
    constructor
    · rintro ⟨volume, volumePassed, rest⟩
      refine ⟨⟨volume, volumePassed⟩, ?_⟩
      cases accountState with
      | none => exact absurd rest (refuses _ _)
      | some state =>
          dsimp only at rest
          by_cases empty : state.entries.isEmpty = true
          · rw [if_pos empty] at rest
            exact absurd rest (refuses _ _)
          · rw [if_neg empty, passes_next_iff fun _ => rfl] at rest
            obtain ⟨loss, lossPassed, rest⟩ := rest
            cases positions with
            | none => exact absurd rest (refuses _ _)
            | some held =>
                rw [passes_exposure_iff volumePassed.2 lossPassed.2] at rest
                exact ⟨state, rfl, fun none => empty (List.isEmpty_iff.mpr none),
                  ⟨loss, lossPassed⟩, held, rfl, rest⟩
    · rintro ⟨⟨volume, volumePassed⟩, state, rfl, filled, ⟨loss, lossPassed⟩, held, rfl, rest⟩
      refine ⟨volume, volumePassed, ?_⟩
      dsimp only
      rw [if_neg fun empty => filled (List.isEmpty_iff.mp empty), passes_next_iff fun _ => rfl]
      exact ⟨loss, lossPassed, (passes_exposure_iff volumePassed.2 lossPassed.2 _ _).mpr rest⟩
  · rw [if_neg permitted]
    exact iff_of_false (fun passes => Bool.false_ne_true ((passes_ok_iff _).mp passes))
      fun holds => permitted holds.1

/-- A balance that is used for the exposure is the number that the account reports: a text does
not come past the loss of the day. -/
theorem funded_of_positive {state : Record} {limit balance : ℚ}
    (loss : Passes (validateDailyLoss state limit))
    (converted : asFloat (((state.get "balance").getD (.int 0)).orElse (.int 0)) = .ok balance)
    (positive : 0 < balance) : (state.get "balance").bind Val.number? = some balance := by
  have notZero : asFloat (.int 0) ≠ .ok balance := by
    intro same
    have zero : (0 : ℚ) = balance := Except.ok.inj same
    exact absurd zero (ne_of_lt positive)
  cases found : state.get "balance" with
  | none =>
      rw [found] at converted
      exact absurd converted notZero
  | some held =>
      rw [found, Option.getD_some, Val.orElse] at converted
      by_cases truthy : held.truthy = true
      · rw [if_pos truthy] at converted
        cases number : held.number? with
        | some value =>
            rw [asFloat_of_number number] at converted
            rw [Option.bind_some, number]
            exact congrArg some (Except.ok.inj converted)
        | none =>
            unfold validateDailyLoss at loss
            rw [found, Option.getD_some, if_pos truthy] at loss
            dsimp only at loss
            obtain ⟨pnl, -, divided⟩ := passes_asNumber_bind.mp loss
            obtain ⟨divisor, absent, -⟩ := passes_asNumber_bind.mp divided
            rw [number] at absent
            cases absent
      · rw [if_neg truthy] at converted
        exact absurd converted notZero

/-- The orders that pass are the admitted ones. -/
theorem validateOrder_passes_iff :
    Passes (guard.validateOrder agent order positions accountState) ↔
      ∃ held state, positions = some held ∧ accountState = some state ∧
        ∃ pnl balance total, guard.Admitted agent order held state pnl balance total := by
  rw [validateOrder_passes_iff_checks, validateVolume_passes_iff]
  constructor
  · rintro ⟨permitted, volume, state, account, -, loss, held, given, balance, converted, rest⟩
    obtain ⟨positive, total, exposed, within⟩ := validateExposure_passes_iff.mp rest
    have funded := funded_of_positive loss converted positive
    obtain ⟨reported, present, number⟩ := Option.bind_eq_some_iff.mp funded
    obtain ⟨pnl, known, bounded⟩ :=
      (validateDailyLoss_passes_iff present number positive).mp loss
    exact ⟨held, state, given, account, pnl, balance, total,
      ⟨permitted, volume, known, funded, positive, bounded, exposed, within⟩⟩
  · rintro ⟨held, state, given, account, pnl, balance, total, admitted⟩
    obtain ⟨reported, present, number⟩ := Option.bind_eq_some_iff.mp admitted.funded
    have loss := (validateDailyLoss_passes_iff present number admitted.positive).mpr
      ⟨pnl, admitted.reported, admitted.loss⟩
    have truthy : reported.truthy = true := (truthy_iff number).mpr (ne_of_gt admitted.positive)
    refine ⟨admitted.permitted, admitted.volume, state, account, ?_, loss, held, given,
      balance, ?_, ?_⟩
    · intro empty
      rw [Dict.get, empty] at present
      cases present
    · rw [present, Option.getD_some, Val.orElse, if_pos truthy]
      exact asFloat_of_number number
    · exact validateExposure_passes_iff.mpr
        ⟨admitted.positive, total, admitted.exposed, admitted.within⟩

/-! ## What an executor is called for -/

/-- The conditions under which an order may reach the executor: permission and volume, a reported
profit of the day within the limit, a positive balance, and room for the exposure of the open
positions together with the order. -/
structure Lawful (guard : MT5WriteGuard) (agent : BaseAgent) (order : Record)
    (held : List Record) (state : Record) (pnl balance total own : ℚ) : Prop where
  permitted : "SEND_TO_MT5" ∈ agent.permissions
  volume : ∃ value, (volumeOf order).number? = some value ∧
    guard.minVolume.value ≤ value ∧ value ≤ guard.maxVolume.value
  reported : (state.get "daily_pnl").bind Val.number? = some pnl
  funded : (state.get "balance").bind Val.number? = some balance
  positive : 0 < balance
  loss : -guard.dailyLossLimit * balance ≤ pnl
  exposed : totalExposure held = .ok total
  ordered : exposure (volumeOf order) (priceOf order) = .ok own
  within : total + own ≤ guard.maxExposurePct * balance

variable (guard agent order positions accountState)
  (executor : Record → Except String (Option ExecutorReply))

/-- The guard is sound for an order: it calls the executor only when the order is lawful, and
raises without calling it otherwise. -/
def Sound : Prop :=
  (∃ held state, positions = some held ∧ accountState = some state ∧
      ∃ pnl balance total own,
        Lawful guard agent order held state pnl balance total own) ∨
    (guard.sendOrder agent order positions accountState executor).1 = [] ∧
      ∃ raised, (guard.sendOrder agent order positions accountState executor).2 = .error raised

variable {guard agent order positions accountState}

/-- An order is handed over when it passes the checks, and the guard raises otherwise. -/
theorem sendOrder_cases :
    Passes (guard.validateOrder agent order positions accountState) ∧
        (guard.sendOrder agent order positions accountState executor).1 = [order] ∨
      ¬ Passes (guard.validateOrder agent order positions accountState) ∧
        (guard.sendOrder agent order positions accountState executor).1 = [] ∧
        ∃ raised,
          (guard.sendOrder agent order positions accountState executor).2 = .error raised := by
  unfold sendOrder requirePermission
  by_cases permitted : "SEND_TO_MT5" ∈ agent.permissions
  · rw [if_pos permitted]
    dsimp only
    cases checked : guard.validateOrder agent order positions accountState with
    | error raised => exact .inr ⟨not_passes_error raised, rfl, raised, rfl⟩
    | ok result =>
        rw [passes_ok_iff]
        dsimp only
        cases result.valid with
        | false => exact .inr ⟨Bool.false_ne_true, rfl, _, rfl⟩
        | true => exact .inl ⟨rfl, rfl⟩
  · rw [if_neg permitted]
    refine .inr ⟨fun passes => ?_, rfl, _, rfl⟩
    exact permitted (validateOrder_passes_iff_checks.mp passes).1

end Admission

/-- An agent that may send orders. -/
def sender : BaseAgent :=
  ⟨"executor", ["SEND_TO_MT5"]⟩

/-- A lot at a price. -/
def lotAt (price : Number) : Record :=
  Dict.empty.update [("symbol", .str "XAUUSD"), ("volume", .num ⟨1, "1.0"⟩), ("price", .num price)]

/-- An account that has lost nothing today. -/
def quietAccount : Record :=
  Dict.empty.update [("daily_pnl", .num ⟨0, "0.0"⟩), ("balance", .num ⟨10000, "10000.0"⟩)]

end MT5WriteGuard

end EaBot.Mt5
