import Mathlib.Data.List.Sort
import EaBot.Foundation.Datetime
import EaBot.Foundation.JsonAscii
import EaBot.Foundation.Sha256
import EaBot.Orchestration.DecisionCycle

/-!
# The identifier of a canonical signal

A signal that nobody has named is named after its identity: what it trades, in which
direction, for which opportunity, under which strategy and evidence, and the second at
which it is created.  The fields are written as one text with sorted names, and the
identifier is the beginning of the hash of that text.

Two seconds are written as two texts, so that the texts of two identities that differ in
the second alone are different.
-/

namespace EaBot.Trading

open EaBot.Foundation EaBot.Orchestration

/-! ## Canonical texts -/

mutual

/-- The value with the fields of every object in the order of their names. -/
def sortKeys : Json → Json
  | .arr items => .arr (sortItems items)
  | .obj fields =>
      .obj ((sortFields fields).insertionSort fun first second => first.1 ≤ second.1)
  | value => value

/-- The items with the fields of every object in order. -/
def sortItems : List Json → List Json
  | [] => []
  | item :: items => sortKeys item :: sortItems items

/-- The fields with the fields of every object among their values in order. -/
def sortFields : List (String × Json) → List (String × Json)
  | [] => []
  | (name, value) :: fields => (name, sortKeys value) :: sortFields fields

end

mutual

/-- The text of a value without white space. -/
def writeCompact : Json → List Char
  | .arr [] => ['[', ']']
  | .arr (item :: items) => '[' :: writeCompact item ++ writeCompactItems items
  | .obj [] => ['\x7b', '\x7d']
  | .obj ((name, value) :: fields) =>
      '\x7b' :: Json.writeString name ++ ':' :: writeCompact value ++ writeCompactFields fields
  | value => value.write

/-- The rest of an array. -/
def writeCompactItems : List Json → List Char
  | [] => [']']
  | item :: items => ',' :: writeCompact item ++ writeCompactItems items

/-- The rest of an object. -/
def writeCompactFields : List (String × Json) → List Char
  | [] => ['\x7d']
  | (name, value) :: fields =>
      ',' :: Json.writeString name ++ ':' :: writeCompact value ++ writeCompactFields fields

end

/-- The text that is hashed. -/
def canonicalJson (payload : Json) : List Char :=
  Json.ascii (writeCompact (sortKeys payload))

/-- The beginning of the hash of a text.  The text is ASCII, so that its bytes are the codes
of its characters. -/
def shortDigest (text : List Char) : List Char :=
  (Sha256.hexdigest (text.map Char.toNat)).take 16

/-- A value without white space begins with a character that does not end an array. -/
theorem writeCompact_head (value : Json) :
    ∃ char rest, writeCompact value = char :: rest ∧ Json.isBlank char = false ∧ char ≠ ']' := by
  cases value with
  | arr items => cases items <;> exact ⟨'[', _, rfl, by decide, by decide⟩
  | obj fields =>
      cases fields with
      | nil => exact ⟨'\x7b', _, rfl, by decide, by decide⟩
      | cons field fields => exact ⟨'\x7b', _, rfl, by decide, by decide⟩
  | null => exact Json.write_head .null
  | bool value => exact Json.write_head (.bool value)
  | number value => exact Json.write_head (.number value)
  | str value => exact Json.write_head (.str value)

theorem run_compactItem (stack : List Json.Frame) (value : Json) :
    Json.Reader.run ⟨stack, .item⟩ (writeCompact value) =
      Json.Reader.run ⟨stack, .value⟩ (writeCompact value) := by
  rcases writeCompact_head value with ⟨char, rest, written, blank, bracket⟩
  rw [written, Json.Reader.run_cons, Json.Reader.run_cons]
  simp [Json.Reader.step, blank, bracket]

mutual

/-- The text of a value without white space is read as the value. -/
theorem run_writeCompact (value : Json) (stack : List Json.Frame) :
    ∃ reader, Json.Reader.run ⟨stack, .value⟩ (writeCompact value) = some reader ∧
      Json.Holds reader stack value := by
  match value with
  | .null => exact Json.run_write .null stack
  | .bool value => exact Json.run_write (.bool value) stack
  | .number value => exact Json.run_write (.number value) stack
  | .str value => exact Json.run_write (.str value) stack
  | .arr [] => exact ⟨⟨stack, .after (.arr [])⟩, rfl, .inl rfl⟩
  | .arr (item :: items) =>
      rcases run_writeCompact item (.items [] :: stack) with ⟨reader, ran, holds⟩
      refine ⟨⟨stack, .after (.arr (item :: items))⟩, ?_, .inl rfl⟩
      rw [writeCompact, List.cons_append, Json.Reader.run_cons]
      change Json.Reader.run ⟨.items [] :: stack, .item⟩
        (writeCompact item ++ writeCompactItems items) = _
      rw [← run_compactItem] at ran
      rw [Json.Reader.run_of_run _ ran]
      exact run_writeCompactItems items stack [] holds
  | .obj [] => exact ⟨⟨stack, .after (.obj [])⟩, rfl, .inl rfl⟩
  | .obj ((name, value) :: fields) =>
      rcases run_writeCompact value (.fields [] name :: stack) with ⟨reader, ran, holds⟩
      refine ⟨⟨stack, .after (.obj ((name, value) :: fields))⟩, ?_, .inl rfl⟩
      rw [writeCompact, List.cons_append, List.cons_append, Json.Reader.run_cons]
      change Json.Reader.run ⟨.fields [] "" :: stack, .name true⟩
        (Json.writeString name ++ ':' :: writeCompact value ++ writeCompactFields fields) = _
      rw [List.append_assoc, Json.Reader.run_of_run _ (Json.run_name stack [] "" name true)]
      change Json.Reader.run ⟨.fields [] name :: stack, .value⟩
        (writeCompact value ++ writeCompactFields fields) = _
      rw [Json.Reader.run_of_run _ ran]
      exact run_writeCompactFields fields stack [] name holds

theorem run_writeCompactItems (items : List Json) (stack : List Json.Frame) (held : List Json)
    {reader : Json.Reader} {value : Json}
    (holds : Json.Holds reader (.items held :: stack) value) :
    reader.run (writeCompactItems items) =
      some ⟨stack, .after (.arr ((value :: held).reverse ++ items))⟩ := by
  match items with
  | [] =>
      have closes := holds.step (show Json.isBare ']' = false by decide)
      rw [writeCompactItems, Json.Reader.run_cons, closes]
      simp [Json.Reader.readAfter, Json.isBlank]
  | item :: items =>
      have goes := holds.step (show Json.isBare ',' = false by decide)
      rcases run_writeCompact item (.items (value :: held) :: stack) with ⟨next, ran, holds⟩
      rw [writeCompactItems, List.cons_append, Json.Reader.run_cons, goes]
      change Json.Reader.run ⟨.items (value :: held) :: stack, .value⟩
        (writeCompact item ++ writeCompactItems items) = _
      rw [Json.Reader.run_of_run _ ran, run_writeCompactItems items stack (value :: held) holds]
      simp

theorem run_writeCompactFields (fields : List (String × Json)) (stack : List Json.Frame)
    (held : List (String × Json)) (name : String) {reader : Json.Reader} {value : Json}
    (holds : Json.Holds reader (.fields held name :: stack) value) :
    reader.run (writeCompactFields fields) =
      some ⟨stack, .after (.obj (((name, value) :: held).reverse ++ fields))⟩ := by
  match fields with
  | [] =>
      have closes := holds.step (show Json.isBare '\x7d' = false by decide)
      rw [writeCompactFields, Json.Reader.run_cons, closes]
      simp [Json.Reader.readAfter, Json.isBlank]
  | (other, item) :: fields =>
      have goes := holds.step (show Json.isBare ',' = false by decide)
      rcases run_writeCompact item (.fields ((name, value) :: held) other :: stack) with
        ⟨next, ran, holds⟩
      rw [writeCompactFields, List.cons_append, List.cons_append, Json.Reader.run_cons, goes]
      change Json.Reader.run ⟨.fields ((name, value) :: held) "" :: stack, .name false⟩
        (Json.writeString other ++ ':' :: writeCompact item ++ writeCompactFields fields) = _
      rw [List.append_assoc, Json.Reader.run_of_run _
        (Json.run_name stack ((name, value) :: held) "" other false)]
      change Json.Reader.run ⟨.fields ((name, value) :: held) other :: stack, .value⟩
        (writeCompact item ++ writeCompactFields fields) = _
      rw [Json.Reader.run_of_run _ ran,
        run_writeCompactFields fields stack ((name, value) :: held) other holds]
      simp

end

/-- A canonical text is read as the value with its fields in order. -/
theorem read_canonicalJson (payload : Json) :
    Json.read (canonicalJson payload) = some (sortKeys payload) := by
  apply Json.read_ascii
  rcases run_writeCompact (sortKeys payload) [] with ⟨reader, ran, holds⟩
  rw [Json.read, Json.Reader.start, ran, Option.bind_some, holds.result]

/-- Values with one canonical text are the same, but for the order of their fields. -/
theorem sortKeys_eq_of_canonicalJson {first second : Json}
    (same : canonicalJson first = canonicalJson second) : sortKeys first = sortKeys second := by
  have left := read_canonicalJson first
  rw [same, read_canonicalJson] at left
  exact (Option.some.inj left).symm

/-! ## The identity -/

theorem valid_wholeSecond (moment : Datetime) :
    Datetime.Valid moment.year moment.month moment.day { moment.time with microsecond := 0 }
      moment.offset := by
  rcases moment.valid with ⟨inYears, inYear, inMonth, ⟨hours, minutes, seconds, -⟩, inZones⟩
  exact ⟨inYears, inYear, inMonth, ⟨hours, minutes, seconds, Nat.zero_lt_succ _⟩, inZones⟩

/-- A point in time without the fraction of its second. -/
def wholeSecond (moment : Datetime) : Datetime :=
  ⟨moment.year, moment.month, moment.day, { moment.time with microsecond := 0 },
    moment.offset, valid_wholeSecond moment⟩

/-- The text of the second of a point in time. -/
def nowIso (now : Datetime) : String :=
  (wholeSecond now).isoformat

/-- What backs a signal. -/
def evidencePayload (spell : ℚ → Json.Numeral) (terms : SignalTerms) : Json :=
  .obj [("symbol", .str terms.symbol), ("direction", .str terms.direction),
    ("entry", .number (spell terms.entryReference)), ("sl", .number (spell terms.initialSL)),
    ("tp", .number (spell terms.initialTP)), ("rr", .number (spell terms.plannedRR)),
    ("risk_policy", .obj [("risk_pct", .number (spell terms.riskPolicy.riskPct)),
      ("max_lot_per_trade", .number (spell terms.riskPolicy.maxLotPerTrade)),
      ("single_entry_policy", .bool terms.riskPolicy.singleEntryPolicy)])]

/-- The hash of what backs a signal. -/
def evidenceHash (spell : ℚ → Json.Numeral) (terms : SignalTerms) : String :=
  String.ofList (shortDigest (canonicalJson (evidencePayload spell terms)))

/-- The fields that name a signal. -/
def identityPayload (opportunityId symbol direction strategyVersion createdAt evidence : String) :
    Json :=
  .obj [("opportunity_id", .str opportunityId), ("symbol", .str (Text.upper symbol)),
    ("direction", .str (Text.upper direction)), ("strategy_version", .str strategyVersion),
    ("created_at", .str createdAt), ("evidence_hash", .str evidence)]

/-- The name of a signal. -/
def signalIdFor (opportunityId symbol direction strategyVersion createdAt evidence : String) :
    String :=
  "sig_" ++ String.ofList (shortDigest (canonicalJson
    (identityPayload opportunityId symbol direction strategyVersion createdAt evidence)))

/-- What a signal is stamped with when it is built at a point in time. -/
def stampAt (spell : ℚ → Json.Numeral) (now : Datetime) (terms : SignalTerms) : SignalStamp :=
  let created := nowIso now
  let evidence := evidenceHash spell terms
  { createdAt := created, evidenceHash := evidence,
    derivedId := signalIdFor terms.opportunityId terms.symbol terms.direction
      terms.strategyVersion created evidence }

/-- The text that is hashed for the name of a signal. -/
def identitySeed (spell : ℚ → Json.Numeral) (terms : SignalTerms) (now : Datetime) :
    List Char :=
  canonicalJson (identityPayload terms.opportunityId terms.symbol terms.direction
    terms.strategyVersion (nowIso now) (evidenceHash spell terms))

/-! ## Different seconds have different texts -/

theorem nowIso_injective {first second : Datetime} (same : nowIso first = nowIso second) :
    wholeSecond first = wholeSecond second := by
  have left := Datetime.fromIsoformat_isoformat (wholeSecond first)
  have right := Datetime.fromIsoformat_isoformat (wholeSecond second)
  unfold nowIso at same
  rw [same, right] at left
  exact (Option.some.inj left).symm

/-- The fields that name a signal, in the order of their names. -/
theorem sortKeys_identityPayload
    (opportunityId symbol direction strategyVersion createdAt evidence : String) :
    sortKeys (identityPayload opportunityId symbol direction strategyVersion createdAt evidence) =
      .obj [("created_at", .str createdAt), ("direction", .str (Text.upper direction)),
        ("evidence_hash", .str evidence), ("opportunity_id", .str opportunityId),
        ("strategy_version", .str strategyVersion), ("symbol", .str (Text.upper symbol))] := by
  simp [identityPayload, sortKeys, sortFields, List.insertionSort, List.orderedInsert]

/-- The field for the time of creation comes first in the text that is hashed. -/
theorem canonicalJson_identityPayload
    (opportunityId symbol direction strategyVersion evidence : String) :
    ∃ before after, ∀ createdAt, canonicalJson
        (identityPayload opportunityId symbol direction strategyVersion createdAt evidence) =
      before ++ (Json.ascii (Json.writeString createdAt) ++ after) := by
  refine ⟨Json.ascii ('\x7b' :: Json.writeString "created_at" ++ [':']),
    Json.ascii (writeCompactFields [("direction", .str (Text.upper direction)),
      ("evidence_hash", .str evidence), ("opportunity_id", .str opportunityId),
      ("strategy_version", .str strategyVersion), ("symbol", .str (Text.upper symbol))]), ?_⟩
  intro createdAt
  rw [← Json.ascii_append, ← Json.ascii_append, canonicalJson, sortKeys_identityPayload]
  congr 1

theorem identitySeed_injective {spell : ℚ → Json.Numeral} {terms : SignalTerms}
    {first second : Datetime}
    (same : identitySeed spell terms first = identitySeed spell terms second) :
    wholeSecond first = wholeSecond second := by
  rcases canonicalJson_identityPayload terms.opportunityId terms.symbol terms.direction
    terms.strategyVersion (evidenceHash spell terms) with ⟨before, after, written⟩
  unfold identitySeed at same
  rw [written, written, List.append_cancel_left_eq, List.append_cancel_right_eq] at same
  exact nowIso_injective (Json.ascii_writeString_injective same)

end EaBot.Trading
