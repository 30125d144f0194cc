import EaBot.Trading.MarketFreshness

/-!
# The market evidence of a cycle

A cycle judges the freshness of one snapshot and merges one into the context of its
analysis.  Both are the snapshot that the event carries, or else one out of the cache:
the freshness gate asks for the symbol of the event and the merge for the symbol of the
context.

The two depend on nothing but the entries of the cycle's own symbol exactly when the
event carries its snapshot, or when there is such an entry and the context names the
same symbol.
-/

namespace EaBot.Orchestration

open EaBot.Foundation EaBot.Trading EaBot.Trading.MarketFreshness

/-- What is read of the event that starts a cycle. -/
structure MarketEvent (α : Type) where
  symbol : Val
  marketSnapshot : Option (MarketSnapshot α)

/-- The context of a cycle, as the caller gives it or as the analysis receives it. -/
abbrev CycleContext (α : Type) := Dict String (Evidence α)

namespace MarketEvidence

variable {α : Type} [Structured α]

/-- The field of a context, or nothing. -/
def contextField (context : CycleContext α) (name : String) : Evidence α :=
  (context.get name).getD (.scalar .none)

/-- The symbol of a cycle. -/
def eventSymbol (event : MarketEvent α) (context : CycleContext α) : String :=
  if event.symbol.truthy then event.symbol.text
  else if (contextField context "symbol").truthy then (contextField context "symbol").text
  else ""

/-- The snapshot that the freshness gate judges. -/
def resolveMarketSnapshot (event : MarketEvent α) (symbol : String) (cache : SnapshotCache α) :
    Option (MarketSnapshot α) :=
  (nonempty? event.marketSnapshot).or
    (nonempty? (SnapshotCache.getLatestSnapshot cache (.str symbol)))

/-- The snapshot that a cycle is judged by: the resolved one, or the one that the caller
gives in the context. -/
def judgedSnapshot (event : MarketEvent α) (symbol : String) (context : CycleContext α)
    (cache : SnapshotCache α) : Option (MarketSnapshot α) :=
  (resolveMarketSnapshot event symbol cache).or
    (nonempty? (contextField context "market_snapshot").snapshot?)

/-- The timeframe that the snapshot or else the context gives. -/
def judgedTimeframe (snapshot : MarketSnapshot α) (context : CycleContext α) :
    Option (Evidence α) :=
  let stored := field snapshot "timeframe"
  match if stored.truthy then stored else contextField context "timeframe" with
  | .scalar .none => none
  | value => some value

/-- The reason to reject the snapshot of a cycle, empty when it is fresh or when there is
none. -/
def staleSnapshotReason (event : MarketEvent α) (symbol : String) (context : CycleContext α)
    (cache : SnapshotCache α) (now : Datetime) : String :=
  match judgedSnapshot event symbol context cache with
  | none => ""
  | some snapshot =>
      let named : Option (Evidence α) := if symbol = "" then none else some (.scalar (.str symbol))
      let verdict := evaluateFreshness (some snapshot) (judgedTimeframe snapshot context) named now
        none
      if verdict.accepted then ""
      else if verdict.reason = "" then "stale_market_data"
      else verdict.reason

/-- The context of the analysis before evidence is merged into it.  The event names the
symbol where the caller gives none. -/
def nameSymbol (event : MarketEvent α) (context : CycleContext α) : CycleContext α :=
  if context.contains "symbol" = false ∧ event.symbol.truthy then
    context.set "symbol" (.scalar event.symbol)
  else context

/-- The symbol whose snapshot is merged into a context. -/
def mergedSymbol (context : CycleContext α) : Val :=
  let symbol := contextField context "symbol"
  if symbol.truthy then .str symbol.text else .str ""

/-- The snapshot that is merged into a context. -/
def mergedSnapshot (event : MarketEvent α) (context : CycleContext α) (cache : SnapshotCache α) :
    Option (MarketSnapshot α) :=
  (nonempty? event.marketSnapshot).or
    (SnapshotCache.getLatestSnapshot cache (mergedSymbol context))

/-- Keep the value of a name, or give it one. -/
def setDefault (context : CycleContext α) (entry : String × Evidence α) : CycleContext α :=
  if context.contains entry.1 then context else context.set entry.1 entry.2

/-- Merge evidence into a context.  What the caller gives is kept. -/
def mergeMarketSnapshot (event : MarketEvent α) (context : CycleContext α)
    (cache : SnapshotCache α) : CycleContext α :=
  match mergedSnapshot event context cache with
  | none => context
  | some snapshot => snapshot.entries.foldl setDefault context

/-- The context of the analysis with its evidence. -/
def analysisContext (event : MarketEvent α) (context : CycleContext α)
    (cache : SnapshotCache α) : CycleContext α :=
  mergeMarketSnapshot event (nameSymbol event context) cache

/-! ## What the evidence depends on -/

/-- The snapshots that a cycle uses: the one it judges and the one it merges. -/
def usedSnapshots (event : MarketEvent α) (context : CycleContext α) (cache : SnapshotCache α) :
    Option (MarketSnapshot α) × Option (MarketSnapshot α) :=
  (resolveMarketSnapshot event (eventSymbol event context) cache,
    mergedSnapshot event (nameSymbol event context) cache)

/-- The key of the symbol of a cycle. -/
def cycleKey (event : MarketEvent α) (context : CycleContext α) : String :=
  SnapshotCache.key (.str (eventSymbol event context))

/-- Every sequence of calls with the same entries for the symbol of a cycle gives the cycle
the same snapshots. -/
def OwnEntriesOnly (event : MarketEvent α) (context : CycleContext α)
    (calls : List (StoreCall α)) : Prop :=
  ∀ others, SnapshotCache.callsFor (cycleKey event context) others =
      SnapshotCache.callsFor (cycleKey event context) calls →
    usedSnapshots event context (SnapshotCache.stored others) =
      usedSnapshots event context (SnapshotCache.stored calls)

variable {event : MarketEvent α} {context : CycleContext α} {calls : List (StoreCall α)}

/-- The verdict of the freshness gate and the context of the analysis are functions of the
snapshots that a cycle uses. -/
theorem evidence_congr {cache other : SnapshotCache α}
    (same : usedSnapshots event context cache = usedSnapshots event context other)
    (now : Datetime) :
    staleSnapshotReason event (eventSymbol event context) context cache now =
        staleSnapshotReason event (eventSymbol event context) context other now ∧
      analysisContext event context cache = analysisContext event context other := by
  have judged := congrArg Prod.fst same
  have merged := congrArg Prod.snd same
  dsimp only [usedSnapshots] at judged merged
  constructor
  · unfold staleSnapshotReason judgedSnapshot
    rw [judged]
  · unfold analysisContext mergeMarketSnapshot
    rw [merged]

/-- A cycle whose event carries no snapshot uses what two lookups find. -/
theorem usedSnapshots_stored (bare : nonempty? event.marketSnapshot = none)
    (calls : List (StoreCall α)) :
    usedSnapshots event context (SnapshotCache.stored calls) =
      (SnapshotCache.getLatestSnapshot (SnapshotCache.stored calls)
          (.str (eventSymbol event context)),
        SnapshotCache.getLatestSnapshot (SnapshotCache.stored calls)
          (mergedSymbol (nameSymbol event context))) := by
  unfold usedSnapshots resolveMarketSnapshot mergedSnapshot
  rw [bare, Option.none_or, Option.none_or, SnapshotCache.nonempty?_getLatestSnapshot]

/-- A cycle depends on no entries but those of its own symbol exactly when the event carries
the snapshot, or when its symbol is not blank, has an entry and is the one that the context
names. -/
theorem ownEntriesOnly_iff (event : MarketEvent α) (context : CycleContext α)
    (calls : List (StoreCall α)) :
    OwnEntriesOnly event context calls ↔
      (nonempty? event.marketSnapshot).isSome ∨
        cycleKey event context ≠ "" ∧
          SnapshotCache.key (mergedSymbol (nameSymbol event context)) = cycleKey event context ∧
          ((SnapshotCache.stored calls).get (cycleKey event context)).isSome := by
  cases carried : nonempty? event.marketSnapshot with
  | some snapshot =>
      refine ⟨fun _ => .inl rfl, fun _ others _ => ?_⟩
      unfold usedSnapshots resolveMarketSnapshot mergedSnapshot
      simp only [carried, Option.some_or]
  | none =>
      have judged := SnapshotCache.getLatestSnapshot_determined_iff (cycleKey event context)
        (.str (eventSymbol event context)) calls
      have merged := SnapshotCache.getLatestSnapshot_determined_iff (cycleKey event context)
        (mergedSymbol (nameSymbol event context)) calls
      simp only [OwnEntriesOnly, usedSnapshots_stored carried, Prod.mk.injEq]
      constructor
      · intro only
        have own := judged.mp fun others same => (only others same).1
        have named := merged.mp fun others same => (only others same).2
        exact .inr named
      · rintro (absent | ⟨named, own, present⟩) others same
        · cases absent
        · exact ⟨judged.mpr ⟨named, rfl, present⟩ others same,
            merged.mpr ⟨named, own, present⟩ others same⟩

/-- A snapshot of the euro. -/
private def euroSnapshot : MarketSnapshot Empty :=
  (Dict.empty.set "symbol" (.scalar (.str "EURUSD"))).set "timeframe" (.scalar (.str "M5"))

/-- A cycle on gold is given the snapshot of the euro when nothing else is cached. -/
theorem gold_uses_euro :
    ¬ OwnEntriesOnly (⟨.str "XAUUSD", none⟩ : MarketEvent Empty) Dict.empty [] := by
  intro only
  have same := only [⟨.str "EURUSD", some euroSnapshot⟩] rfl
  cases congrArg Prod.fst same

end MarketEvidence

end EaBot.Orchestration
