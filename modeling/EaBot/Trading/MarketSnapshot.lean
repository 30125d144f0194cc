import EaBot.Foundation.Datetime
import EaBot.Foundation.Run
import EaBot.Foundation.Value

/-!
# The cache of market snapshots

A snapshot is the evidence behind an analysis: a dictionary of scalars, points in time
and structured values.  The latest snapshot of each symbol is cached.  A symbol without
an entry is given the only entry when the cache has just one.

What the cache holds for a symbol depends on the calls that store under its key.
-/

namespace EaBot.Trading

open EaBot.Foundation

/-- A piece of evidence.  Structured values are series, dictionaries and objects. -/
inductive Evidence (α : Type)
  | scalar (value : Val)
  | moment (value : Datetime)
  | data (value : α)

/-- A snapshot of the market. -/
abbrev MarketSnapshot (α : Type) := Dict String (Evidence α)

/-- What is read of a structured value: its text, whether it counts as true, and its
entries when it is a dictionary. -/
class Structured (α : Type) where
  text : α → String
  truthy : α → Bool
  entries : α → Option (MarketSnapshot α)

/-- Evidence may be without structured values. -/
instance : Structured Empty :=
  ⟨nofun, nofun, nofun⟩

namespace Evidence

variable {α : Type} [Structured α]

/-- Whether the evidence counts as true in a condition. -/
def truthy : Evidence α → Bool
  | scalar value => value.truthy
  | moment _ => true
  | data value => Structured.truthy value

/-- The evidence as a text. -/
def text : Evidence α → String
  | scalar value => value.text
  | moment value => String.ofList (value.write ' ')
  | data value => Structured.text value

/-- The evidence as a dictionary. -/
def snapshot? : Evidence α → Option (MarketSnapshot α)
  | data value => Structured.entries value
  | _ => none

end Evidence

/-- A dictionary with an entry. -/
def nonempty? {α : Type} (snapshot : Option (MarketSnapshot α)) : Option (MarketSnapshot α) :=
  snapshot.filter fun entries => entries.entries ≠ []

/-! ## The cache -/

/-- The latest snapshot under the key of each symbol. -/
abbrev SnapshotCache (α : Type) := Dict String (MarketSnapshot α)

/-- A call that stores a snapshot.  The payload is missing when it is no dictionary. -/
structure StoreCall (α : Type) where
  symbol : Val
  payload : Option (MarketSnapshot α)

namespace SnapshotCache

variable {α : Type}

/-- The key of a symbol. -/
def key (symbol : Val) : String :=
  Text.upper (Text.strip (symbol.orElse (.str "")).text)

/-- Store the snapshot of a symbol.  A payload that is no dictionary is ignored. -/
def setLatestSnapshot (cache : SnapshotCache α) (call : StoreCall α) : SnapshotCache α :=
  match nonempty? call.payload with
  | none => cache
  | some snapshot => cache.set (key call.symbol) snapshot

/-- The only snapshot of a cache with one entry. -/
def lone? (cache : SnapshotCache α) : Option (MarketSnapshot α) :=
  match cache.values with
  | [snapshot] => some snapshot
  | _ => none

/-- The latest snapshot of a symbol.  Without one, and for a blank symbol, the only entry
of the cache is used. -/
def getLatestSnapshot (cache : SnapshotCache α) (symbol : Val) : Option (MarketSnapshot α) :=
  if key symbol ≠ "" then (cache.get (key symbol)).or (lone? cache) else lone? cache

/-- The cache after a sequence of calls. -/
def stored (calls : List (StoreCall α)) : SnapshotCache α :=
  Run.after setLatestSnapshot Dict.empty calls

/-- The calls that store under a key. -/
def callsFor (name : String) (calls : List (StoreCall α)) : List (StoreCall α) :=
  calls.filter fun call => key call.symbol = name

/-! ## What a key holds -/

variable {name : String} {cache : SnapshotCache α} {calls : List (StoreCall α)}

theorem stored_concat (calls : List (StoreCall α)) (call : StoreCall α) :
    stored (calls ++ [call]) = setLatestSnapshot (stored calls) call := by
  unfold stored Run.after
  rw [List.foldl_append]
  rfl

theorem callsFor_concat (calls : List (StoreCall α)) (call : StoreCall α) :
    callsFor name (calls ++ [call]) =
      callsFor name calls ++ if key call.symbol = name then [call] else [] := by
  unfold callsFor
  rw [List.filter_append]
  by_cases own : key call.symbol = name <;> simp [own]

theorem setLatestSnapshot_get_of_ne {call : StoreCall α} (foreign : key call.symbol ≠ name) :
    (setLatestSnapshot cache call).get name = cache.get name := by
  unfold setLatestSnapshot
  split
  · rfl
  · exact Dict.get_set_of_ne _ (Ne.symm foreign) _

/-- What a cache holds after a call is the payload or was held before. -/
theorem setLatestSnapshot_cases {call : StoreCall α} {snapshot : MarketSnapshot α}
    (held : (setLatestSnapshot cache call).get name = some snapshot) :
    call.payload = some snapshot ∨ cache.get name = some snapshot := by
  unfold setLatestSnapshot at held
  cases payload : nonempty? call.payload with
  | none => exact .inr (by rwa [payload] at held)
  | some latest =>
      rw [payload] at held
      by_cases own : name = key call.symbol
      · rw [own, Dict.get_set_self] at held
        cases held
        exact .inl (Option.filter_eq_some_iff.mp payload).1
      · exact .inr (by rwa [Dict.get_set_of_ne _ own] at held)

/-- The cache with one entry, or none, under a key. -/
def single (name : String) : Option (MarketSnapshot α) → SnapshotCache α
  | none => Dict.empty
  | some snapshot => Dict.empty.set name snapshot

theorem single_get (name : String) (held : Option (MarketSnapshot α)) :
    (single name held).get name = held := by
  cases held with
  | none => rfl
  | some snapshot => exact Dict.get_set_self _ _ _

/-- A call that stores under a key replaces what a single entry held there. -/
theorem setLatestSnapshot_single {call : StoreCall α} (own : key call.symbol = name)
    (held : Option (MarketSnapshot α)) :
    setLatestSnapshot (single name held) call =
      single name ((nonempty? call.payload).or held) := by
  unfold setLatestSnapshot
  cases nonempty? call.payload with
  | none => rfl
  | some snapshot =>
      subst own
      cases held with
      | none => rfl
      | some before => simp [single, Dict.set, Dict.empty, Entries.set]

/-- The calls for a key alone leave what all calls leave under it, and nothing else. -/
theorem stored_callsFor (name : String) (calls : List (StoreCall α)) :
    stored (callsFor name calls) = single name ((stored calls).get name) := by
  induction calls using List.reverseRecOn with
  | nil => rfl
  | append_singleton calls call ih =>
      rw [callsFor_concat, stored_concat]
      by_cases own : key call.symbol = name
      · rw [if_pos own, stored_concat, ih, setLatestSnapshot_single own]
        congr 1
        unfold setLatestSnapshot
        cases nonempty? call.payload with
        | none => rfl
        | some snapshot => rw [own, Dict.get_set_self]; rfl
      · rw [if_neg own, List.append_nil, ih, setLatestSnapshot_get_of_ne own]

/-- Two sequences with the same calls for a key leave the same snapshot under it. -/
theorem stored_get_congr {others : List (StoreCall α)}
    (same : callsFor name calls = callsFor name others) :
    (stored calls).get name = (stored others).get name := by
  have left := congrArg (Dict.get · name) (stored_callsFor name calls)
  have right := congrArg (Dict.get · name) (stored_callsFor name others)
  rw [single_get] at left right
  rw [← left, ← right, same]

/-- Every stored snapshot has an entry. -/
theorem nonempty?_of_stored {snapshot : MarketSnapshot α}
    (held : (stored calls).get name = some snapshot) :
    nonempty? (some snapshot) = some snapshot := by
  induction calls using List.reverseRecOn with
  | nil => cases held
  | append_singleton calls call ih =>
      rw [stored_concat] at held
      unfold setLatestSnapshot at held
      cases payload : nonempty? call.payload with
      | none => exact ih (by rwa [payload] at held)
      | some latest =>
          rw [payload] at held
          by_cases own : name = key call.symbol
          · rw [own, Dict.get_set_self] at held
            cases held
            rcases Option.filter_eq_some_iff.mp payload with ⟨-, filled⟩
            exact Option.filter_eq_some_iff.mpr ⟨rfl, filled⟩
          · exact ih (by rwa [Dict.get_set_of_ne _ own] at held)

/-- What a lookup finds is held under some key. -/
theorem held_of_getLatestSnapshot {symbol : Val} {snapshot : MarketSnapshot α}
    (found : getLatestSnapshot cache symbol = some snapshot) :
    ∃ name, cache.get name = some snapshot := by
  have lonely : lone? cache = some snapshot → ∃ name, cache.get name = some snapshot := by
    unfold lone?
    split
    · rename_i only values
      intro same
      cases same
      exact (Dict.mem_values_iff _ _).mp (by rw [values]; exact List.mem_singleton_self _)
    · intro same
      cases same
  unfold getLatestSnapshot at found
  split at found
  · rcases Option.or_eq_some_iff.mp found with own | ⟨-, only⟩
    · exact ⟨_, own⟩
    · exact lonely only
  · exact lonely found

theorem nonempty?_getLatestSnapshot (calls : List (StoreCall α)) (symbol : Val) :
    nonempty? (getLatestSnapshot (stored calls) symbol) =
      getLatestSnapshot (stored calls) symbol := by
  cases found : getLatestSnapshot (stored calls) symbol with
  | none => rfl
  | some snapshot =>
      rcases held_of_getLatestSnapshot found with ⟨name, held⟩
      exact nonempty?_of_stored held

/-! ## Which calls a lookup depends on -/

/-- A snapshot with one price. -/
private def priced (α : Type) (price : Int) : MarketSnapshot α :=
  Dict.empty.set "prices" (.scalar (.int price))

private theorem priced_ambiguous {answer : Option (MarketSnapshot α)}
    (found : ∀ price, some (priced α price) = answer) : False := by
  have same : priced α 0 = priced α 1 := Option.some.inj ((found 0).trans (found 1).symm)
  have price := congrArg (Dict.get · "prices") same
  simp only [priced, Dict.get_set_self] at price
  cases price

theorem lone?_single (name : String) (held : Option (MarketSnapshot α)) :
    lone? (single name held) = held := by
  cases held <;> rfl

/-- A snapshot under a second key is the only one exactly when the first key holds none. -/
theorem lone?_second {other : String} (foreign : other ≠ name) (held : Option (MarketSnapshot α))
    (snapshot : MarketSnapshot α) :
    lone? ((single name held).set other snapshot) =
      if held = none then some snapshot else none := by
  cases held with
  | none => rfl
  | some before => simp [lone?, single, Dict.values, Dict.set, Dict.empty, Entries.set,
      Ne.symm foreign]

/-- The only entry of a cache is not determined by what one key holds. -/
private theorem lone?_ambiguous {other : String} (foreign : other ≠ name)
    {held answer : Option (MarketSnapshot α)} (alone : lone? (single name held) = answer)
    (joined : ∀ price, lone? ((single name held).set other (priced α price)) = answer) : False := by
  simp only [lone?_second foreign] at joined
  rw [lone?_single] at alone
  cases held with
  | none => exact priced_ambiguous joined
  | some snapshot => cases alone.trans (joined 0).symm

theorem getLatestSnapshot_blank {symbol : Val} (blank : key symbol = "") :
    getLatestSnapshot cache symbol = lone? cache := by
  rw [getLatestSnapshot, if_neg (not_not.mpr blank)]

theorem getLatestSnapshot_named {symbol : Val} (named : key symbol ≠ "") :
    getLatestSnapshot cache symbol = (cache.get (key symbol)).or (lone? cache) := by
  rw [getLatestSnapshot, if_pos named]

theorem exists_foreign (name : String) : ∃ symbol, key symbol ≠ name := by
  by_cases blank : name = ""
  · exact ⟨.str "A", by rw [blank]; decide⟩
  · exact ⟨.str "", fun same => blank same.symm⟩

theorem callsFor_callsFor (name : String) (calls : List (StoreCall α)) :
    callsFor name (callsFor name calls) = callsFor name calls := by
  simp [callsFor]

/-- A lookup depends on the calls for a key alone exactly when it asks for that key and
finds a snapshot under it. -/
theorem getLatestSnapshot_determined_iff (name : String) (symbol : Val)
    (calls : List (StoreCall α)) :
    (∀ others, callsFor name others = callsFor name calls →
      getLatestSnapshot (stored others) symbol = getLatestSnapshot (stored calls) symbol) ↔
    name ≠ "" ∧ key symbol = name ∧ ((stored calls).get name).isSome := by
  constructor
  · intro determined
    generalize found : getLatestSnapshot (stored calls) symbol = answer at determined
    generalize holds : (stored calls).get name = held
    have alone : getLatestSnapshot (single name held) symbol = answer := by
      rw [← holds, ← stored_callsFor]
      exact determined _ (callsFor_callsFor name calls)
    have joined : ∀ other price, key other ≠ name →
        getLatestSnapshot ((single name held).set (key other) (priced α price)) symbol =
          answer := by
      intro other price foreign
      have more := determined (callsFor name calls ++ [⟨other, some (priced α price)⟩])
      rw [callsFor_concat, if_neg foreign, List.append_nil, stored_concat, stored_callsFor,
        holds] at more
      exact more (callsFor_callsFor name calls)
    by_cases blank : key symbol = ""
    · -- A blank symbol is given the only entry.
      rcases exists_foreign name with ⟨other, foreign⟩
      simp only [getLatestSnapshot_blank blank] at alone joined
      exact (lone?_ambiguous foreign alone fun price => joined other price foreign).elim
    by_cases own : key symbol = name
    · -- Without an entry a symbol is given the only one, which may be any other's.
      cases held with
      | some snapshot => exact ⟨own ▸ blank, own, rfl⟩
      | none =>
          rcases exists_foreign name with ⟨other, foreign⟩
          have any : ∀ price, some (priced α price) = answer := by
            intro price
            rw [← joined other price foreign, getLatestSnapshot_named blank, own,
              Dict.get_set_of_ne _ (Ne.symm foreign), single_get, lone?_second foreign]
            rfl
          exact (priced_ambiguous any).elim
    · have any : ∀ price, some (priced α price) = answer := by
        intro price
        rw [← joined symbol price own, getLatestSnapshot_named blank, Dict.get_set_self]
        rfl
      exact (priced_ambiguous any).elim
  · rintro ⟨named, own, present⟩ others same
    rcases Option.isSome_iff_exists.mp present with ⟨snapshot, held⟩
    have kept : (stored others).get name = some snapshot := (stored_get_congr same).trans held
    unfold getLatestSnapshot
    rw [own, if_pos named, if_pos named, kept, held]
    rfl

end SnapshotCache

end EaBot.Trading
