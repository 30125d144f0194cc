import EaBot.Execution.FanoutApproval

/-!
# The fan-out under the deterministic risk gate

The single path asks the gate on a proposal with an entry price and a size.  The
fan-out asks it on the normalised order, which names a price and a volume.  The gate
finds neither an entry price nor a size there and rejects every order, so that the two
paths agree only where the gate rejects the final order as well.
-/

namespace EaBot.Execution

open EaBot.Foundation EaBot.Orchestration EaBot.Risk CanonicalFanout

/-- The parts with a deterministic risk gate. -/
def FanoutParts.withGate (parts : FanoutParts) (gate : RiskGate) : FanoutParts :=
  { parts with
    riskGate := some fun proposal account positions marketInfo =>
      (gate.validateProposal proposal account positions marketInfo).map GateDecision.ofChecks }

/-- The final request as the proposal that the single path would put to the gate. -/
def gateProposalOf (render : ℚ → String) (request : OrderRequest) : Record :=
  let number (value : ℚ) : Val := .num ⟨value, render value⟩
  Dict.empty.update [
    ("symbol", .str request.symbol),
    ("direction", .str request.orderType),
    ("entry_price", number request.price.value),
    ("stop_loss", number request.sl.value),
    ("take_profit", number request.tp.value),
    ("size", number request.volume.value)]

/-- What the provider of market information says about a symbol. -/
def providedMarketInfo (parts : FanoutParts) (symbol : String) : Record :=
  match parts.marketInfoProvider with
  | some provide => (provide symbol).toOption.getD Dict.empty
  | none => Dict.empty

/-- There is a final request for the account, and the gate approves it. -/
def ApprovesFinal (parts : FanoutParts) (gate : RiskGate) (signal : CanonicalSignal)
    (raw : Option RawProposal) (target : FanoutTarget) : Prop :=
  ∃ request, buildRequest parts (normalize parts signal raw) signal target.accountId =
      some request ∧
    gate.Approves (gateProposalOf parts.render request) (accountState parts target)
      (positions parts) (providedMarketInfo parts request.symbol)

/-- An order of the fan-out is sent. -/
def Dispatches (connected : Bool) (parts : FanoutParts) (signal : CanonicalSignal)
    (raw : Option RawProposal) (target : FanoutTarget) (ledger : FanoutLedger) : Prop :=
  ∃ event ∈ (CanonicalFanout.fanOut connected (fun _ => parts) signal [target] raw ledger).events,
    event.Sends

section Rejection

variable (parts : FanoutParts) (gate : RiskGate) (signal : CanonicalSignal)
variable (raw : Option RawProposal) (target : FanoutTarget)

/-- The normalised order names a price, but no entry price. -/
theorem record_entry_price (render : ℚ → String) (proposal : AccountProposal) :
    (proposal.record render).get "entry_price" = none := by
  simp [AccountProposal.record]

/-- The normalised order never passes the gate of its account. -/
theorem riskGateAccount_withGate (proposal : AccountProposal) (override : Record) :
    (riskGateAccount (parts.withGate gate) target proposal.symbol
      (proposal.record parts.render) override).1 = false := by
  simp only [riskGateAccount, FanoutParts.withGate]
  cases validated : gate.validateProposal (proposal.record parts.render)
      (accountState (parts.withGate gate) target) (positions (parts.withGate gate))
      (marketInfo (parts.withGate gate) proposal.symbol override) with
  | error raised =>
      simp only [FanoutParts.withGate] at validated
      rw [validated]
      rfl
  | ok checks =>
      have rejected : checks.approved = false := by
        rw [Bool.eq_false_iff]
        intro approved
        exact RiskGate.not_approves_of_no_entry (record_entry_price parts.render proposal)
          ⟨checks, validated, approved⟩
      simp only [FanoutParts.withGate] at validated
      rw [validated]
      exact rejected

/-- An account leaves at the gate, without an order. -/
theorem passAccountGate_withGate (proposal : AccountProposal) (process : AccountProcess)
    (quiet : ∀ event ∈ process.events, ¬ event.Sends) :
    ∃ outcome, passAccountGate (parts.withGate gate) target proposal process = .leave outcome ∧
      ∀ event ∈ outcome.process.events, ¬ event.Sends := by
  have rejected : (riskGateAccount (parts.withGate gate) target proposal.symbol
      (proposal.record (parts.withGate gate).render) Dict.empty).1 = false :=
    riskGateAccount_withGate parts gate target proposal Dict.empty
  unfold passAccountGate
  dsimp only
  split
  · rename_i approved
    rw [rejected] at approved
    cases approved
  · constructor
    constructor
    · rfl
    · exact silent_append (silent_append quiet (silent_singleton not_false))
        (silent_singleton not_false)

/-- Under a deterministic gate no order of an account is sent. -/
theorem processAccount_withGate (dispatch : AccountDispatch) :
    ∀ event ∈ (processAccount (parts.withGate gate) signal target raw dispatch).process.events,
      ¬ event.Sends := by
  let proposal := normalize (parts.withGate gate) signal raw
  obtain ⟨outcome, leaves, silent⟩ :=
    passAccountGate_withGate parts gate target proposal (recordProposal proposal ⟨dispatch, []⟩)
      (silent_singleton not_false)
  unfold processAccount
  dsimp only
  rw [leaves, Stage.leave_bind]
  exact silent

theorem withGate_silent (connected : Bool) (ledger : FanoutLedger) :
    ¬ Dispatches connected (parts.withGate gate) signal raw target ledger := by
  rintro ⟨event, member, sends⟩
  rw [CanonicalFanout.fanOut, fanOutFrom_events, List.mem_append, List.mem_flatMap] at member
  rcases member with registered | ⟨visit, visited, happened⟩
  · cases List.mem_singleton.mp registered
    exact sends
  · have here : visit = ⟨parts.withGate gate, target⟩ := by
      simp only [visits] at visited
      split at visited
      · cases visited
      · exact List.mem_singleton.mp visited
    subst here
    have quiet : ∀ event ∈ (visitTarget connected (parts.withGate gate) signal target
        raw).events, ¬ event.Sends := by
      have processed := processAccount_withGate parts gate signal raw target
        (placeholder signal target)
      unfold visitTarget
      dsimp only
      split
      · exact silent_singleton not_false
      · split
        · exact processed
        · exact silent_append processed (silent_singleton not_false)
    rcases List.mem_append.mp happened with started | settled
    · rcases List.mem_cons.mp started with opened | during
      · cases opened
        exact sends
      · exact quiet event during sends
    · cases List.mem_singleton.mp settled
      exact sends

end Rejection

/-- The two paths agree on an account exactly when the gate rejects its final order: the
fan-out sends none. -/
theorem fanout_agrees_with_gate_iff (connected : Bool) (parts : FanoutParts) (gate : RiskGate)
    (signal : CanonicalSignal) (raw : Option RawProposal) (target : FanoutTarget)
    (ledger : FanoutLedger) :
    (Dispatches connected (parts.withGate gate) signal raw target ledger ↔
        ApprovesFinal parts gate signal raw target) ↔
      ¬ ApprovesFinal parts gate signal raw target := by
  have silent := withGate_silent parts gate signal raw target connected ledger
  constructor
  · intro agree approved
    exact silent (agree.mpr approved)
  · intro rejected
    exact iff_of_false silent rejected

namespace Sample

/-- A quote with the broker's contract size. -/
def marketInfo : Record :=
  Dict.empty.update [("spread_pips", .num ⟨1, "1.0"⟩), ("contract_size", .int 100000)]

/-- A coordinator with a provider of market information. -/
def quotedParts : FanoutParts :=
  { fanoutParts with marketInfoProvider := some fun _ => .ok marketInfo }

/-- An account of a hundred thousand. -/
def wealthyTarget : FanoutTarget :=
  { fanoutTarget with
    account := Dict.empty.update [("login", .int 111), ("mode", .str "demo"),
      ("balance", .int 100000), ("equity", .int 100000)] }

end Sample

/-- The gate approves a final order that the fan-out never sends. -/
theorem approved_order_is_not_dispatched :
    ¬ (Dispatches false (Sample.quotedParts.withGate Sample.riskGate) Sample.signal
        (some Sample.rawProposal) Sample.wealthyTarget FanoutLedger.empty ↔
      ApprovesFinal Sample.quotedParts Sample.riskGate Sample.signal
        (some Sample.rawProposal) Sample.wealthyTarget) := by
  intro agree
  have approved : ApprovesFinal Sample.quotedParts Sample.riskGate Sample.signal
      (some Sample.rawProposal) Sample.wealthyTarget :=
    ⟨_, rfl, ⟨true, true, true, true, true, true, true, true, true, true⟩, by decide +kernel,
      by decide⟩
  exact withGate_silent _ _ _ _ _ _ _ (agree.mpr approved)

end EaBot.Execution
