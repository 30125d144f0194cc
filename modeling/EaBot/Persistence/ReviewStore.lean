import EaBot.Foundation.Run
import EaBot.Foundation.Sha256
import EaBot.Persistence.RecordLog

/-!
# The review store

A review is recorded once: its identity is given or made of the trade and its close, and a
review whose identity is cached is refused.  The cache holds the reviews that were recorded
last, the file holds them all, and only the cache is asked.
-/

namespace EaBot.Persistence

open EaBot.Foundation

namespace ReviewStore

/-! ## Reviews -/

/-- The fields of a review. -/
def fields : List String :=
  ["review_id", "trade_id", "outcome", "pnl", "r_multiple", "decision_quality_score",
    "execution_quality_score", "timing_score", "root_cause_primary", "root_cause_confidence",
    "secondary_causes", "summary", "closed_at"]

/-- The bytes of a text. -/
def utf8Bytes (text : String) : List Nat :=
  text.toList.flatMap fun char => (String.utf8EncodeChar char).map UInt8.toNat

section Calls

variable (render : Json → String)

/-- The identity that a trade and its close make, when there are both. -/
def idempotentKey (tradeId closedAt : Json) : Option String :=
  if tradeId.isNull || closedAt.isNull then none
  else
    let payload :=
      OrderJournal.textOf render tradeId ++ "||" ++ OrderJournal.textOf render closedAt
    some (String.ofList ((Sha256.hexdigest (utf8Bytes payload)).take 40))

/-- The identity of a review. -/
def reviewId (review : OrderEntry) : Option Json :=
  let given := OrderJournal.fieldOf review "review_id"
  if given.isNull then
    (idempotentKey render (OrderJournal.fieldOf review "trade_id")
      (OrderJournal.fieldOf review "closed_at")).map Json.str
  else some given

/-- The key under which a review is cached. -/
def keyOf (review : OrderEntry) : Option String :=
  (reviewId render review).map (OrderJournal.textOf render)

/-- The record of a review. -/
def recordFor (review : OrderEntry) (identity : Json) (now : String) : OrderEntry :=
  let known : OrderEntry := ⟨review.entries.filter fun entry => entry.1 ∈ fields,
    review.distinct.sublist (List.filter_sublist.map Prod.fst)⟩
  let record := known.set "review_id" identity
  if ((record.get "closed_at").getD .null).truthy then record
  else record.set "closed_at" (.str now)

/-- Record a review unless its identity is missing or cached, and say whether it was new. -/
def addReview (store : RecordLog) (now : String) (review : OrderEntry) (saved : Bool) :
    Bool × RecordLog :=
  match reviewId render review with
  | none => (false, store)
  | some identity =>
      let key := OrderJournal.textOf render identity
      if store.records.contains key then (false, store)
      else (true, store.put key (recordFor review identity now) saved)

/-- The records of a file with their identities. -/
def recordsOf (file : TextFile) : List (String × OrderEntry) :=
  RecordLog.recordsOf render "review_id" file

/-- The identities of the lines of a file. -/
def ids (file : TextFile) : List String :=
  (recordsOf render file).map Prod.fst

end Calls

end ReviewStore

/-! ## Runs -/

/-- A call of the store, whose line reaches the file or not, or a restart. -/
inductive ReviewCall
  | addReview (now : String) (review : OrderEntry) (saved : Bool)
  | restart (maxEntries : Int)

/-- A store and the reviews that it has recorded since it was opened, after those of its
file. -/
structure ReviewWatch where
  store : RecordLog
  recorded : List (String × OrderEntry)

namespace ReviewWatch

open ReviewStore

/-- A store that is opened on a file without reviews. -/
def start (maxEntries : Int) : ReviewWatch :=
  ⟨⟨RecordLog.limitOf maxEntries, RecordLog.limitOf_pos maxEntries, Dict.empty,
    TextFile.empty⟩, []⟩

section Watching

variable (render : Json → String)

/-- The store after a call. -/
def step (watch : ReviewWatch) : ReviewCall → ReviewWatch
  | .addReview now review saved =>
      let done := addReview render watch.store now review saved
      { store := done.2
        recorded :=
          match done.1, reviewId render review with
          | true, some identity =>
              watch.recorded ++
                [(OrderJournal.textOf render identity, recordFor review identity now)]
          | _, _ => watch.recorded }
  | .restart maxEntries =>
      match RecordLog.open? render "review_id" maxEntries watch.store.file with
      | none => watch
      | some store => ⟨store, recordsOf render store.file⟩

/-- The identities that were recorded last, as many as the cache holds. -/
def recent (watch : ReviewWatch) : List String :=
  (watch.recorded.map Prod.fst).dedup.rtake watch.store.limit

/-- A review counts as new exactly when the file has no line with its identity, and no
identity has two lines. -/
structure RecordsOnce (watch : ReviewWatch) (call : ReviewCall) : Prop where
  answers : ∀ now review saved key, call = .addReview now review saved →
    keyOf render review = some key →
      ((addReview render watch.store now review saved).1 = true ↔
        key ∉ ids render watch.store.file)
  distinct : (ids render (watch.step render call).store.file).Nodup

/-- The identity of a review is among those that were recorded last exactly when the file has
a line with it. -/
def Remembered (watch : ReviewWatch) (call : ReviewCall) : Prop :=
  ∀ now review saved key, call = .addReview now review saved → keyOf render review = some key →
    (key ∈ watch.recent ↔ key ∈ ids render watch.store.file)

end Watching

/-! ## One call -/

section Call

variable (render : Json → String)

/-- The cache follows the recorded reviews, and the file is ended. -/
structure Tracked (watch : ReviewWatch) : Prop where
  ended : watch.store.file.Ended
  cached : watch.store.records = (recency watch.recorded).trim watch.store.limit

theorem tracked_start (maxEntries : Int) : (start maxEntries).Tracked where
  ended := ⟨rfl, .inl rfl⟩
  cached := Dict.ext_entries (List.rtake_nil _).symm

variable {watch : ReviewWatch}

/-- The cached identities are those that were recorded last. -/
theorem Tracked.contains_iff (tracked : watch.Tracked) (key : String) :
    watch.store.records.contains key = true ↔ key ∈ watch.recent := by
  rw [Dict.contains, Option.isSome_iff_exists, ← Dict.mem_keys_iff, tracked.cached,
    keys_trim_recency, recent]

theorem get_recordFor (review : OrderEntry) (identity : Json) (now : String) :
    (recordFor review identity now).get "review_id" = some identity := by
  rw [recordFor]
  split_ifs
  · exact Dict.get_set_self _ _ _
  · rw [Dict.get_set_of_ne _ (by simp), Dict.get_set_self]

theorem not_isNull_of_reviewId {review : OrderEntry} {identity : Json}
    (found : reviewId render review = some identity) : identity.isNull = false := by
  rw [reviewId] at found
  split at found
  · rcases Option.map_eq_some_iff.mp found with ⟨text, -, rfl⟩
    rfl
  · rename_i given
    cases found
    exact Bool.eq_false_iff.mpr given

theorem Tracked.step (tracked : watch.Tracked) (call : ReviewCall) :
    (watch.step render call).Tracked := by
  cases call with
  | restart maxEntries =>
      have whole : watch.store.file.torn = false := tracked.ended.1
      rw [ReviewWatch.step, RecordLog.open?, whole]
      exact ⟨tracked.ended, rfl⟩
  | addReview now review saved =>
      rw [ReviewWatch.step, addReview]
      cases found : reviewId render review with
      | none => exact tracked
      | some identity =>
          dsimp only
          split_ifs
          · exact tracked
          · constructor
            · exact RecordLog.ended_put tracked.ended _ _ _
            · change watch.store.records.remember watch.store.limit _ = _
              rw [tracked.cached, ← trim_recency_concat watch.store.positive]
              rfl

/-- A review whose identity is not recent gets a line. -/
theorem Tracked.ids_addReview (tracked : watch.Tracked) (now : String) {review : OrderEntry}
    {key : String} (named : keyOf render review = some key) (apart : key ∉ watch.recent) :
    ids render (watch.step render (.addReview now review true)).store.file =
      ids render watch.store.file ++ [key] := by
  rcases Option.map_eq_some_iff.mp named with ⟨identity, found, rfl⟩
  rw [← tracked.contains_iff] at apart
  rw [ReviewWatch.step, addReview, found]
  dsimp only
  rw [if_neg apart]
  change ids render (watch.store.file.append _ none) = _
  rw [ids, recordsOf, RecordLog.recordsOf_append render tracked.ended
    (get_recordFor review identity now) (not_isNull_of_reviewId render found), List.map_append]
  rfl

/-- A call adds the line of a review whose identity is not recent, or none. -/
theorem Tracked.ids_step (tracked : watch.Tracked) (call : ReviewCall) :
    ids render (watch.step render call).store.file = ids render watch.store.file ∨
      ∃ now review key, call = .addReview now review true ∧
        keyOf render review = some key ∧ key ∉ watch.recent := by
  cases call with
  | restart maxEntries =>
      left
      have whole : watch.store.file.torn = false := tracked.ended.1
      rw [ReviewWatch.step, RecordLog.open?, whole]
      rfl
  | addReview now review saved =>
      cases found : reviewId render review with
      | none =>
          left
          rw [ReviewWatch.step, addReview, found]
      | some identity =>
          by_cases cached : watch.store.records.contains (OrderJournal.textOf render identity)
          · left
            rw [ReviewWatch.step, addReview, found]
            dsimp only
            rw [if_pos cached]
          · cases saved with
            | false =>
                left
                rw [ReviewWatch.step, addReview, found]
                dsimp only
                rw [if_neg cached]
                rfl
            | true =>
                right
                refine ⟨now, review, OrderJournal.textOf render identity, rfl, ?_, ?_⟩
                · rw [keyOf, found, Option.map_some]
                · rwa [← tracked.contains_iff]

/-- The answer says whether the identity is not among those that were recorded last. -/
theorem Tracked.answer_iff (tracked : watch.Tracked) (now : String) {review : OrderEntry}
    (saved : Bool) {key : String} (named : keyOf render review = some key) :
    (addReview render watch.store now review saved).1 = true ↔ key ∉ watch.recent := by
  rcases Option.map_eq_some_iff.mp named with ⟨identity, found, rfl⟩
  rw [addReview, found]
  dsimp only
  rw [← tracked.contains_iff]
  split_ifs with cached <;> simp [cached]

/-- A review is recorded once exactly when the recent identities are right about it. -/
theorem Tracked.recordsOnce_iff (tracked : watch.Tracked)
    (distinct : (ids render watch.store.file).Nodup) (call : ReviewCall) :
    watch.RecordsOnce render call ↔ watch.Remembered render call := by
  constructor
  · intro once now review saved key called named
    have answers := once.answers now review saved key called named
    rw [tracked.answer_iff render now saved named] at answers
    exact not_iff_not.mp answers
  · intro remembered
    constructor
    · intro now review saved key called named
      rw [tracked.answer_iff render now saved named]
      exact not_congr (remembered now review saved key called named)
    · rcases tracked.ids_step render call with same | ⟨now, review, key, rfl, named, apart⟩
      · rw [same]
        exact distinct
      · rw [tracked.ids_addReview render now named apart, ← List.concat_eq_append,
          List.nodup_concat]
        refine ⟨fun listed => apart ?_, distinct⟩
        exact (remembered now review true key rfl named).mpr listed

end Call

/-- In every run of calls and restarts each review is recorded once exactly when, for each
review that comes, its identity is among those that were recorded last if and only if the file
has a line with it. -/
theorem run_recordsOnce_iff (render : Json → String) (maxEntries : Int)
    (calls : List ReviewCall) :
    Run.Every (step render) (RecordsOnce render) (start maxEntries) calls ↔
      Run.Every (step render) (Remembered render) (start maxEntries) calls := by
  apply Run.every_iff_of_kept fun watch =>
    watch.Tracked ∧ (ids render watch.store.file).Nodup
  · rintro watch call - ⟨tracked, distinct⟩ remembered
    exact ⟨tracked.step render call,
      ((tracked.recordsOnce_iff render distinct call).mpr remembered).distinct⟩
  · rintro watch call - ⟨tracked, distinct⟩
    exact tracked.recordsOnce_iff render distinct call
  · exact ⟨tracked_start maxEntries, List.nodup_nil⟩

/-! ## Runs whose appends succeed -/

section Written

variable (render : Json → String) {watch : ReviewWatch}

/-- The line of the call, if it has one, reaches the file. -/
def Saves (_ : ReviewWatch) : ReviewCall → Prop
  | .addReview _ _ saved => saved = true
  | .restart _ => True

/-- What is recorded is what the file holds. -/
def Written (watch : ReviewWatch) : Prop :=
  watch.recorded = recordsOf render watch.store.file

theorem Written.step (written : watch.Written render) (tracked : watch.Tracked)
    {call : ReviewCall} (saves : watch.Saves call) : (watch.step render call).Written render := by
  cases call with
  | restart maxEntries =>
      have whole : watch.store.file.torn = false := tracked.ended.1
      rw [ReviewWatch.step, RecordLog.open?, whole]
      rfl
  | addReview now review saved =>
      cases saves
      rw [ReviewWatch.step, addReview]
      cases found : reviewId render review with
      | none => exact written
      | some identity =>
          dsimp only
          split_ifs
          · exact written
          · change watch.recorded ++ _ = recordsOf render (watch.store.file.append _ none)
            rw [recordsOf, RecordLog.recordsOf_append render tracked.ended
              (get_recordFor review identity now) (not_isNull_of_reviewId render found), written]
            rfl

/-- Where the appends succeed, a review must only not have been dropped from the cache. -/
theorem Written.remembered_iff (written : watch.Written render) (call : ReviewCall) :
    watch.Remembered render call ↔
      ∀ now review saved key, call = .addReview now review saved →
        keyOf render review = some key → key ∈ ids render watch.store.file →
          key ∈ (ids render watch.store.file).dedup.rtake watch.store.limit := by
  have recent : watch.recent = (ids render watch.store.file).dedup.rtake watch.store.limit := by
    rw [ReviewWatch.recent, written, ids]
  constructor
  · intro remembered now review saved key called named listed
    rw [← recent]
    exact (remembered now review saved key called named).mpr listed
  · intro kept now review saved key called named
    rw [recent]
    constructor
    · intro member
      exact List.mem_dedup.mp ((Recency.rtake_sublist _ _).subset member)
    · exact kept now review saved key called named

/-- Where the appends succeed and the file has no more reviews than the cache holds, each of
them is recorded once. -/
theorem Written.remembered_of_few (written : watch.Written render)
    (few : (ids render watch.store.file).length ≤ watch.store.limit) (call : ReviewCall) :
    watch.Remembered render call := by
  apply (written.remembered_iff render call).mpr
  intro now review saved key called named listed
  have within : (ids render watch.store.file).dedup.length ≤ watch.store.limit :=
    (List.dedup_sublist _).length_le.trans few
  rw [Recency.rtake_of_length_le within]
  exact List.mem_dedup.mpr listed

/-- In a run whose appends succeed, and in which the file never has more reviews than the cache
holds, each review is recorded once. -/
theorem recordsOnce_of_few {maxEntries : Int} {calls : List ReviewCall}
    (few : Run.Every (step render) (fun watch call => watch.Saves call ∧
      (ids render watch.store.file).length ≤ watch.store.limit) (start maxEntries) calls) :
    Run.Every (step render) (RecordsOnce render) (start maxEntries) calls := by
  have once : ∀ (watch : ReviewWatch) call,
      watch.Tracked ∧ watch.Written render ∧ (ids render watch.store.file).Nodup →
        watch.Saves call ∧ (ids render watch.store.file).length ≤ watch.store.limit →
          watch.RecordsOnce render call := by
    rintro watch call ⟨tracked, written, distinct⟩ ⟨-, few⟩
    exact (tracked.recordsOnce_iff render distinct call).mpr
      (written.remembered_of_few render few call)
  apply few.of_invariant fun watch =>
    watch.Tracked ∧ watch.Written render ∧ (ids render watch.store.file).Nodup
  · exact ⟨tracked_start maxEntries, rfl, List.nodup_nil⟩
  · intro watch call sound met
    exact ⟨sound.1.step render call, sound.2.1.step render sound.1 met.1,
      (once watch call sound met).distinct⟩
  · exact once

end Written

/-- A review with an identity of its own. -/
def reviewed (reviewId : String) : OrderEntry :=
  Dict.empty.update [("review_id", .str reviewId), ("closed_at", .str "09:00")]

/-- A review that a cache of one review has dropped is recorded again. -/
theorem dropped_review_recorded_again :
    ¬Run.Every (step fun _ => "") (RecordsOnce fun _ => "") (start 1)
      [.addReview "10:00" (reviewed "A") true, .addReview "10:30" (reviewed "B") true,
        .addReview "11:00" (reviewed "A") true] := by
  have named : ∀ reviewId, keyOf (fun _ => "") (reviewed reviewId) = some reviewId :=
    fun _ => rfl
  have first := (tracked_start 1).ids_addReview (fun _ => "") "10:00" (named "A") (by decide)
  have tracked := (tracked_start 1).step (fun _ => "") (.addReview "10:00" (reviewed "A") true)
  have second := tracked.ids_addReview (fun _ => "") "10:30" (named "B") (by decide)
  rintro ⟨-, -, once, -⟩
  have unlisted := (once.answers "11:00" (reviewed "A") true "A" rfl rfl).mp rfl
  rw [second, first] at unlisted
  simp at unlisted

end ReviewWatch

end EaBot.Persistence
