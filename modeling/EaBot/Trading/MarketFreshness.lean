import EaBot.Trading.MarketSnapshot

/-!
# The freshness of a market snapshot

A snapshot carries the time of its newest bar and the time at which the bars were
received.  Its age is the difference of the two, and it is rejected when the age exceeds
the limit of its timeframe, when a time is missing or when the clocks disagree.

The instant of the check is only compared with times that lie ahead of it.
-/

namespace EaBot.Trading

open EaBot.Foundation

namespace MarketFreshness

/-- The seconds of a bar. -/
def timeframeSeconds : List (String × Nat) :=
  [("M1", 60), ("M2", 120), ("M3", 180), ("M5", 300), ("M10", 600), ("M15", 900), ("M30", 1800),
    ("H1", 3600), ("H2", 7200), ("H3", 10800), ("H4", 14400), ("H6", 21600), ("H8", 28800),
    ("H12", 43200), ("D1", 86400), ("W1", 604800), ("MN1", 2592000)]

/-- The seconds that a bar may be older than its own length. -/
def barGraceSeconds : Nat := 60

/-- The limit for an unknown timeframe, which is that of five minutes. -/
def defaultMaxAgeSeconds : Nat := 300 + barGraceSeconds

/-- The seconds by which a clock may be ahead. -/
def clockSkewToleranceSeconds : ℚ := 5

/-- The greatest age of a snapshot of a timeframe, in seconds. -/
def maxAllowedAge (timeframe : String) : ℚ :=
  match Entries.get (Text.upper (Text.strip timeframe)) timeframeSeconds with
  | some period => (period + barGraceSeconds : Nat)
  | none => defaultMaxAgeSeconds

/-- The seconds of a difference of two instants. -/
def seconds (micros : Int) : ℚ :=
  micros / 1000000

/-- A text with a mark of universal time at its end, in the form with an offset. -/
def withOffset (text : String) : String :=
  if text.toList.getLast? = some 'Z' then String.ofList text.toList.dropLast ++ "+00:00" else text

variable {α : Type} [Structured α]

/-- The point in time that a timestamp means.  Without an offset it is universal time. -/
def parseTs : Evidence α → Option Datetime
  | .scalar .none => none
  | .scalar (.str "") => none
  | .moment value => some value.assumeUtc
  | .scalar (.bool value) => Datetime.fromTimestamp? (if value then 1 else 0)
  | .scalar (.int value) => Datetime.fromTimestamp? value
  | .scalar (.num value) => Datetime.fromTimestamp? value.value
  | value =>
      let text := Text.strip value.text
      if text = "" then none
      else (Datetime.fromIsoformat (withOffset text)).map Datetime.assumeUtc

/-- The verdict on a snapshot. -/
structure FreshnessVerdict where
  accepted : Bool
  reason : String
  ageSeconds : Option ℚ
  maxAllowedAge : Option ℚ
  timeframe : String
  symbol : String
  clockAnomaly : Bool

/-- The field of a snapshot, or nothing. -/
def field (snapshot : MarketSnapshot α) (name : String) : Evidence α :=
  (snapshot.get name).getD (.scalar .none)

/-- The given name, or the one in the snapshot. -/
def nameOf (given : Option (Evidence α)) (snapshot : MarketSnapshot α) (name : String) : String :=
  let value :=
    match given with
    | some value => value
    | none =>
        let stored := field snapshot name
        if stored.truthy then stored else .scalar (.str "")
  Text.upper (Text.strip value.text)

/-- The limit for a snapshot. -/
def threshold (snapshot : MarketSnapshot α) (timeframe : Option (Evidence α))
    (maxAgeOverride : Option ℚ) : ℚ :=
  maxAgeOverride.getD (MarketFreshness.maxAllowedAge (nameOf timeframe snapshot "timeframe"))

/-- The beginning of the reason for stale data. -/
def staleReasonPrefix : String := "stale_market_data"

/-- The verdict on the freshness of a snapshot at an instant. -/
def evaluateFreshness (snapshot : Option (MarketSnapshot α))
    (timeframe symbol : Option (Evidence α)) (now : Datetime) (maxAgeOverride : Option ℚ) :
    FreshnessVerdict :=
  match nonempty? snapshot with
  | none => ⟨false, "snapshot_missing", none, none, "", "", false⟩
  | some snapshot =>
      let limit := threshold snapshot timeframe maxAgeOverride
      let reject (reason : String) (clock : Bool) : FreshnessVerdict :=
        ⟨false, reason, none, some limit, nameOf timeframe snapshot "timeframe",
          nameOf symbol snapshot "symbol", clock⟩
      match parseTs (field snapshot "bar_timestamp"), parseTs (field snapshot "received_at") with
      | some bar, some received =>
          let age := seconds (received.instant - bar.instant)
          if received.instant < bar.instant then
            reject (staleReasonPrefix ++ ":clock_anomaly_received_before_bar") true
          else if age < 0 then
            reject (staleReasonPrefix ++ ":negative_age") true
          else if clockSkewToleranceSeconds < seconds (received.instant - now.instant) then
            reject (staleReasonPrefix ++ ":received_at_in_future") true
          else if clockSkewToleranceSeconds < seconds (bar.instant - now.instant) then
            reject (staleReasonPrefix ++ ":bar_timestamp_in_future") true
          else if limit < age then
            { reject (staleReasonPrefix ++ ":age_exceeded") false with ageSeconds := some age }
          else
            { reject "" false with accepted := true, ageSeconds := some age }
      | _, _ => reject "timestamp_unknown" false

/-! ## What the gate accepts -/

theorem withOffset_isoformat (moment : Datetime) :
    withOffset moment.isoformat = moment.isoformat := by
  rcases (Datetime.write_ends 'T' moment).1 with ⟨front, last, ends, digit⟩
  have other : last ≠ 'Z' := by
    intro zulu
    rw [zulu] at digit
    exact absurd digit (by decide)
  have final : moment.isoformat.toList.getLast? = some last := by
    rw [Datetime.isoformat, String.toList_ofList, ends, List.getLast?_concat]
  rw [withOffset, final, if_neg (by simpa using other)]

/-- The text of a point in time is read as that point. -/
theorem parseTs_isoformat (moment : Datetime) :
    parseTs (.scalar (.str moment.isoformat) : Evidence α) = some moment.assumeUtc := by
  have filled := Datetime.isoformat_ne_empty moment
  have stripped := Datetime.strip_isoformat moment
  have offset := withOffset_isoformat moment
  have read := Datetime.fromIsoformat_isoformat moment
  generalize moment.isoformat = text at filled stripped offset read
  unfold parseTs
  split
  · rename_i same
    cases same
  · rename_i same
    cases same
    exact absurd rfl filled
  · rename_i same
    cases same
  · rename_i same
    cases same
  · rename_i same
    cases same
  · rename_i same
    cases same
  · dsimp only [Evidence.text, Val.text]
    rw [stripped, if_neg filled, offset, read, Option.map_some]

/-- The times of a snapshot at which the gate accepts it: the bar is not ahead of its receipt,
the receipt not ahead of the check, and the age within the limit. -/
structure Passes (bar received now : Int) (limit : ℚ) : Prop where
  ordered : bar ≤ received
  past : seconds (received - now) ≤ clockSkewToleranceSeconds
  young : seconds (received - bar) ≤ limit

theorem seconds_mono {first second : Int} (ordered : first ≤ second) :
    seconds first ≤ seconds second := by
  unfold seconds
  gcongr

/-- A snapshot is accepted exactly when both of its times are known and pass. -/
theorem evaluateFreshness_accepted_iff {snapshot : MarketSnapshot α}
    (filled : nonempty? (some snapshot) = some snapshot) (timeframe symbol : Option (Evidence α))
    (now : Datetime) :
    (evaluateFreshness (some snapshot) timeframe symbol now none).accepted = true ↔
      ∃ bar received, parseTs (field snapshot "bar_timestamp") = some bar ∧
        parseTs (field snapshot "received_at") = some received ∧
          Passes bar.instant received.instant now.instant (threshold snapshot timeframe none) := by
  unfold evaluateFreshness
  rw [filled]
  dsimp only
  cases barRead : parseTs (field snapshot "bar_timestamp") with
  | none => simp
  | some bar =>
      cases receiptRead : parseTs (field snapshot "received_at") with
      | none => simp
      | some received =>
          have zero : seconds 0 = 0 := by simp [seconds]
          have known : (∃ barTime receipt, some bar = some barTime ∧ some received = some receipt ∧
                Passes barTime.instant receipt.instant now.instant
                  (threshold snapshot timeframe none)) ↔
              Passes bar.instant received.instant now.instant
                (threshold snapshot timeframe none) := by
            simp
          rw [known]
          dsimp only
          by_cases backwards : received.instant < bar.instant
          · rw [if_pos backwards]
            exact ⟨nofun, fun passes => absurd passes.ordered (not_le.mpr backwards)⟩
          have ordered := not_lt.mp backwards
          have aged : ¬ seconds (received.instant - bar.instant) < 0 := by
            rw [← zero]
            exact not_lt.mpr (seconds_mono (by omega))
          rw [if_neg backwards, if_neg aged]
          by_cases future : clockSkewToleranceSeconds < seconds (received.instant - now.instant)
          · rw [if_pos future]
            exact ⟨nofun, fun passes => absurd passes.past (not_le.mpr future)⟩
          have past := not_lt.mp future
          have barPast : ¬ clockSkewToleranceSeconds < seconds (bar.instant - now.instant) :=
            not_lt.mpr ((seconds_mono (by omega)).trans past)
          rw [if_neg future, if_neg barPast]
          by_cases old :
              threshold snapshot timeframe none < seconds (received.instant - bar.instant)
          · rw [if_pos old]
            exact ⟨nofun, fun passes => absurd passes.young (not_le.mpr old)⟩
          · rw [if_neg old]
            exact ⟨fun _ => ⟨ordered, past, not_lt.mp old⟩, fun _ => rfl⟩

end MarketFreshness

end EaBot.Trading
