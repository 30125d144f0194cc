import EaBot.Llm.CanonicalRouter

/-!
# The blocking conditions in a prompt

The context builder bounds the context of a request and keeps the blocking conditions whatever it
cuts.  The prompt then shows the first characters of the text of what was built.

The blocking conditions stand behind the current state, or behind the text of the sections that
was cut.  They are in the prompt when that leaves room for them.
-/

namespace EaBot.Llm

open EaBot.Foundation

namespace ContextBuilder

/-- The bound of a builder, for the one it is given. -/
def bound (maxChars : Int) : Nat :=
  (max 512 maxChars).toNat

/-- The sections of a context that is too long. -/
def kept (context : Dict String Json) (blocking : Json) : List (String × Json) :=
  [("current_state", (context.get "current_state").getD .null),
    ("blocking_conditions", blocking),
    ("evidence", (context.get "evidence").getD .null)]

/-- What stands before the blocking conditions: the current state, or the beginning of the
sections when even those are too long. -/
def before (maxChars : Nat) (context : Dict String Json) (blocking : Json) :
    Option (String × Json) :=
  if (dumps (.obj (ordered context))).length ≤ maxChars then
    (context.get "current_state").map fun state => ("current_state", state)
  else if (dumps (.obj (kept context blocking))).length ≤ maxChars then
    some ("current_state", (context.get "current_state").getD .null)
  else
    some ("truncated",
      .str (String.ofList ((dumps (.obj (kept context blocking))).take maxChars)))

/-- The text of an object up to its blocking conditions. -/
def opening (first : Option (String × Json)) : List Char :=
  '\x7b' :: (match first with
    | some (name, value) => dumps (.str name) ++ ':' :: ' ' :: dumps value ++ [',', ' ']
    | none => []) ++ dumps (.str "blocking_conditions") ++ [':', ' ']

/-- What is written ahead of the blocking conditions. -/
def ahead (maxChars : Nat) (context : Dict String Json) (blocking : Json) : List Char :=
  opening (before maxChars context blocking)

theorem dumps_opening (first : Option (String × Json)) (blocking : Json)
    (rest : List (String × Json)) :
    dumps (.obj (first.toList ++ ("blocking_conditions", blocking) :: rest)) =
      opening first ++ dumps blocking ++ Json.ascii (Json.writeFields rest) := by
  have brace : ∀ chars, Json.ascii ('\x7b' :: chars) = '\x7b' :: Json.ascii chars := fun _ => rfl
  have colon : ∀ chars, Json.ascii (':' :: ' ' :: chars) = ':' :: ' ' :: Json.ascii chars :=
    fun _ => rfl
  have comma : ∀ chars, Json.ascii (',' :: ' ' :: chars) = ',' :: ' ' :: Json.ascii chars :=
    fun _ => rfl
  unfold dumps opening
  cases first with
  | none =>
      simp only [Option.toList_none, List.nil_append, Json.write, List.cons_append,
        List.append_assoc, brace, colon, Json.ascii_append, dumps]
  | some entry =>
      simp only [Option.toList_some, List.nil_append, Json.write, Json.writeFields,
        List.cons_append, List.append_assoc, brace, colon, comma, Json.ascii_append, dumps]

/-- Of the sections in order, only the current state stands before the blocking conditions. -/
theorem ordered_of_blocking {context : Dict String Json} {blocking : Json}
    (given : context.get "blocking_conditions" = some blocking) :
    ∃ rest, ordered context =
      ((context.get "current_state").map fun state => ("current_state", state)).toList ++
        ("blocking_conditions", blocking) :: rest := by
  unfold ordered sections
  rw [List.filterMap_cons]
  cases context.get "current_state" with
  | none =>
      rw [List.filterMap_cons, given]
      exact ⟨_, rfl⟩
  | some state =>
      rw [List.filterMap_cons, given]
      exact ⟨_, rfl⟩

/-- The built context has the blocking conditions behind what stands before them. -/
theorem build_of_blocking (maxChars : Nat) {request : ModelRequest} {blocking : Json}
    (given : request.inputContext.get "blocking_conditions" = some blocking) :
    ∃ rest, build maxChars request =
      (before maxChars request.inputContext blocking).toList ++
        ("blocking_conditions", blocking) :: rest := by
  unfold build before
  dsimp only
  rw [given]
  dsimp only
  by_cases whole : (dumps (.obj (ordered request.inputContext))).length ≤ maxChars
  · rw [if_neg (Nat.not_lt.mpr whole), if_pos whole]
    exact ordered_of_blocking given
  · rw [if_pos (Nat.lt_of_not_le whole), if_neg whole]
    by_cases sections : (dumps (.obj (kept request.inputContext blocking))).length ≤ maxChars
    · rw [if_pos sections]
      refine ⟨[("evidence", (request.inputContext.get "evidence").getD .null)], ?_⟩
      exact if_neg (Nat.not_lt.mpr sections)
    · rw [if_neg sections]
      exact ⟨[], if_pos (Nat.lt_of_not_le sections)⟩

/-- The text of the built context begins with what is ahead of the blocking conditions and with
them. -/
theorem dumps_build (maxChars : Nat) {request : ModelRequest} {blocking : Json}
    (given : request.inputContext.get "blocking_conditions" = some blocking) :
    ∃ behind, dumps (.obj (build maxChars request)) =
      ahead maxChars request.inputContext blocking ++ dumps blocking ++ behind := by
  obtain ⟨rest, built⟩ := build_of_blocking maxChars given
  rw [built, dumps_opening]
  exact ⟨_, rfl⟩

end ContextBuilder

open ContextBuilder

/-- There is room for the blocking conditions behind what is ahead of them. -/
def Fits (maxChars : Nat) (context : Dict String Json) (blocking : Json) : Prop :=
  (ahead maxChars context blocking).length + (dumps blocking).length ≤ 6000

/-- The text of the blocking conditions occurs in the prompt up to its cut. -/
def Repeated (maxChars : Nat) (request : ModelRequest) (systemPrompt : String)
    (blocking : Json) : Prop :=
  dumps blocking <:+: promptHead request.taskType request.agentRole systemPrompt ++
    (ahead maxChars request.inputContext blocking ++ dumps blocking).take 6000

/-- The prompt of a request holds the text of its blocking conditions. -/
def KeepsBlocking (maxChars : Int) (request : ModelRequest) (systemPrompt : String) : Prop :=
  ∀ blocking, request.inputContext.get "blocking_conditions" = some blocking →
    dumps blocking <:+: (buildPrompt (bound maxChars) request systemPrompt).toList

/-- A word that ends before a cut is not cut. -/
theorem infix_append_take {α : Type} (head behind : List α) {ahead word : List α} {limit : Nat}
    (short : (ahead ++ word).length ≤ limit) :
    word <:+: head ++ (ahead ++ word ++ behind).take limit := by
  rw [List.take_append, List.take_of_length_le short]
  refine ⟨head ++ ahead, behind.take (limit - (ahead ++ word).length), ?_⟩
  simp only [List.append_assoc]

/-- Without room for all of the blocking conditions nothing behind them is shown. -/
theorem buildPrompt_of_not_fits {maxChars : Nat} {request : ModelRequest} {blocking : Json}
    (systemPrompt : String)
    (given : request.inputContext.get "blocking_conditions" = some blocking)
    (crowded : ¬Fits maxChars request.inputContext blocking) :
    (buildPrompt maxChars request systemPrompt).toList =
      promptHead request.taskType request.agentRole systemPrompt ++
        (ahead maxChars request.inputContext blocking ++ dumps blocking).take 6000 := by
  obtain ⟨behind, text⟩ := dumps_build maxChars given
  have long : 6000 ≤ (ahead maxChars request.inputContext blocking ++ dumps blocking).length := by
    unfold Fits at crowded
    rw [List.length_append]
    omega
  rw [buildPrompt, String.toList_ofList, dataSection, text, List.take_append_of_le_length long]

/-- The blocking conditions are shown when there is room for them. -/
theorem infix_buildPrompt_of_fits {maxChars : Nat} {request : ModelRequest} {blocking : Json}
    (systemPrompt : String)
    (given : request.inputContext.get "blocking_conditions" = some blocking)
    (fits : Fits maxChars request.inputContext blocking) :
    dumps blocking <:+: (buildPrompt maxChars request systemPrompt).toList := by
  obtain ⟨behind, text⟩ := dumps_build maxChars given
  have short : (ahead maxChars request.inputContext blocking ++ dumps blocking).length ≤ 6000 := by
    rw [List.length_append]
    exact fits
  rw [buildPrompt, String.toList_ofList, dataSection, text]
  exact infix_append_take _ _ short

/-- The blocking conditions are in the prompt when there is room for them, and otherwise only
when the same text happens to stand before the cut. -/
theorem keepsBlocking_iff (maxChars : Int) (request : ModelRequest) (systemPrompt : String) :
    KeepsBlocking maxChars request systemPrompt ↔
      ∀ blocking, request.inputContext.get "blocking_conditions" = some blocking →
        Fits (bound maxChars) request.inputContext blocking ∨
          Repeated (bound maxChars) request systemPrompt blocking := by
  apply forall_congr'
  intro blocking
  apply imp_congr_right
  intro given
  by_cases fits : Fits (bound maxChars) request.inputContext blocking
  · exact iff_of_true (infix_buildPrompt_of_fits systemPrompt given fits) (Or.inl fits)
  · rw [buildPrompt_of_not_fits systemPrompt given fits, or_iff_right fits]
    rfl

/-- A request with a long current state and one blocking condition. -/
def crowded : ModelRequest :=
  { agentRole := "market"
    taskType := "MARKET_SUMMARY"
    riskTier := ""
    complexity := ""
    inputContext := (Dict.empty.set "current_state"
      (.str (String.ofList (List.replicate 7000 'x')))).set "blocking_conditions"
        (.arr [.str "spread_too_wide"])
    requiredCapabilities := []
    maxCost := none
    maxTokens := 1024
    effortPreference := ""
    cachePolicy := "NO_CACHE"
    cycleId := "cycle-1"
    parentTaskId := ""
    strategyVersion := ""
    snapshotVersion := "" }

theorem dumps_replicate (count : Nat) :
    dumps (.str (String.ofList (List.replicate count 'x'))) =
      '"' :: (List.replicate count 'x' ++ ['"']) := by
  have plain : ∀ chars : List Char, (∀ char ∈ chars, char = 'x') →
      Json.ascii (chars.flatMap Json.writeChar) = chars := by
    intro chars
    induction chars with
    | nil => exact fun _ => rfl
    | cons char rest ih =>
        intro every
        rw [List.flatMap_cons, Json.ascii_append, every char List.mem_cons_self,
          ih fun other member => every other (List.mem_cons_of_mem _ member)]
        rfl
  have quote : ∀ chars, Json.ascii ('"' :: chars) = '"' :: Json.ascii chars := fun _ => rfl
  unfold dumps
  rw [Json.write, Json.writeString, String.toList_ofList, List.cons_append, quote,
    Json.ascii_append, plain _ fun char member => List.eq_of_mem_replicate member]
  rfl

/-- What is ahead of the blocking condition, with the parts before and behind the long text. -/
theorem ahead_crowded :
    ∃ front back, ahead 8000 crowded.inputContext (.arr [.str "spread_too_wide"]) =
        front ++ List.replicate 7000 'x' ++ back ∧ '[' ∉ front ∧ '[' ∉ back := by
  have state := dumps_replicate 7000
  generalize sought : String.ofList (List.replicate 7000 'x') = long at state
  have context : crowded.inputContext = (Dict.empty.set "current_state" (.str long)).set
      "blocking_conditions" (.arr [.str "spread_too_wide"]) := by
    rw [← sought]
    rfl
  let front := '\x7b' :: dumps (.str "current_state") ++ [':', ' ', '"']
  let back := ['"', ',', ' '] ++ dumps (.str "blocking_conditions") ++ [':', ' ']
  have opens : opening (some ("current_state", .str long)) =
      front ++ List.replicate 7000 'x' ++ back := by
    simp only [opening, state, front, back, List.cons_append, List.append_assoc, List.nil_append]
  have whole : ordered crowded.inputContext =
      (some ("current_state", Json.str long)).toList ++
        [("blocking_conditions", .arr [.str "spread_too_wide"])] := by
    rw [context]
    rfl
  have sizes : front.length + back.length + (dumps (.arr [.str "spread_too_wide"])).length +
      (Json.ascii (Json.writeFields [])).length ≤ 1000 := by decide
  have bounded : (dumps (.obj (ordered crowded.inputContext))).length ≤ 8000 := by
    rw [whole, dumps_opening, opens]
    simp only [List.length_append, List.length_replicate]
    omega
  refine ⟨front, back, ?_, by decide, by decide⟩
  rw [ahead, before, if_pos bounded, ← opens, context]
  rfl

/-- The blocking condition is cut from the prompt, although the context is within its bound. -/
theorem crowded_not_kept : ¬KeepsBlocking 8000 crowded "" := by
  intro keeps
  have given : crowded.inputContext.get "blocking_conditions" =
      some (.arr [.str "spread_too_wide"]) := Dict.get_set_self _ _ _
  obtain ⟨front, back, text, front', back'⟩ := ahead_crowded
  have long : 6000 ≤ (ahead 8000 crowded.inputContext (.arr [.str "spread_too_wide"])).length := by
    rw [text]
    simp only [List.length_append, List.length_replicate]
    omega
  have crowds : ¬Fits 8000 crowded.inputContext (.arr [.str "spread_too_wide"]) := by
    have some : 0 < (dumps (.arr [.str "spread_too_wide"])).length := by decide
    unfold Fits
    omega
  have bracket : '[' ∈ dumps (.arr [.str "spread_too_wide"]) := by decide
  have shown := (keeps _ given).subset bracket
  rw [show bound 8000 = 8000 from rfl, buildPrompt_of_not_fits "" given crowds,
    List.take_append_of_le_length long, List.mem_append] at shown
  have silent : '[' ∉ promptHead "MARKET_SUMMARY" "market" "" := by decide +kernel
  rcases shown with head | data
  · exact silent head
  · have member := List.mem_of_mem_take data
    rw [text, List.mem_append, List.mem_append] at member
    rcases member with (first | middle) | last
    · exact front' first
    · exact absurd (List.eq_of_mem_replicate middle) (by decide)
    · exact back' last

end EaBot.Llm
