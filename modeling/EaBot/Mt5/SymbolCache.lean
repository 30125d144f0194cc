import EaBot.Foundation.Run
import EaBot.Mt5.Terminals

/-!
# The symbol cache and the binding

Base names are resolved at the attached terminal and remembered in one cache for all
terminals.  Selecting a terminal and attaching to one during a fan-out clear the cache.
What takes the binding back, after a fan-out or a probe, does not: the names that were
resolved last then count for another terminal.
-/

namespace EaBot.Mt5

open EaBot.Foundation Program SymbolResolver

/-! ## The binding during a fan-out -/

/-- A terminal that a fan-out visits: its path, what comes of attaching to it, and the base
names that are resolved while its order is made. -/
structure BindingVisit where
  path : Option String
  attach : AttachAnswer
  names : List String

/-- The folder of a visited terminal that has a path. -/
def BindingVisit.folder (visit : BindingVisit) : Option String :=
  (visit.path.filter fun path => path ≠ "").map NtPath.dirname

/-- Resolve base names one after another. -/
def resolveAll (symbols : String → List String) : List String → Program TerminalWorld Unit
  | [] => return ()
  | base :: rest => do
      let _ ← resolveSymbol symbols base
      resolveAll symbols rest

/-- Forget all resolved names. -/
def clearSymbolCache (world : TerminalWorld) : TerminalWorld :=
  { world with symbolCache := Dict.empty }

/-- Attach the binding to the visited terminal; one without a path needs no binding. -/
def reattachForTarget (visit : BindingVisit) : Program TerminalWorld Bool :=
  match visit.folder with
  | none => return true
  | some folder => do
      modify TerminalWorld.shutdown
      let ok ← perform fun world => world.useLiveDataMode folder visit.attach
      if ok then modify clearSymbolCache
      return ok

/-- Visit one terminal. -/
def visitBinding (symbols : String → List String) (visit : BindingVisit) :
    Program TerminalWorld Unit := do
  let ok ← reattachForTarget visit
  if ok then resolveAll symbols visit.names

/-- Visit the terminals in turn. -/
def visitBindings (symbols : String → List String) :
    List BindingVisit → Program TerminalWorld Unit
  | [] => return ()
  | visit :: rest => do
      visitBinding symbols visit
      visitBindings symbols rest

/-- Take the binding back to a folder. -/
def restoreBinding (original : Option String) (answer : AttachAnswer) :
    Program TerminalWorld Unit := do
  modify TerminalWorld.shutdown
  match original with
  | none => return ()
  | some folder => do
      let _ ← perform fun world => world.useLiveDataMode folder answer
      return ()

/-- What a fan-out does to the binding. -/
def fanOutBinding (symbols : String → List String) (reads : HostReads) (restore : AttachAnswer)
    (visits : List BindingVisit) : Program TerminalWorld Unit := do
  let original ← read (detectAttachedPath reads)
  visitBindings symbols visits
  restoreBinding original restore

/-! ## Runs -/

/-- An operation that moves the binding or reads the cache.  Both fan-outs move it alike; a
target of the engine's own always has a path. -/
inductive BindingOp
  | select (caller : Nat) (answers : SelectAnswers) (id : String)
  | fanOut (reads : HostReads) (restore : AttachAnswer) (visits : List BindingVisit)
  | executeOrderFanout (reads : HostReads) (restore : AttachAnswer)
      (visits : List (String × AttachAnswer × List String))
  | probe (caller : Nat) (answers : ProbeAnswers)
  | resolve (base : String)

/-- A visit of the engine's fan-out. -/
def engineVisit (visit : String × AttachAnswer × List String) : BindingVisit :=
  ⟨some visit.1, visit.2.1, visit.2.2⟩

section Operations

variable (config : List TerminalConfig) (symbols : String → List String)

/-- The state after an operation. -/
def BindingOp.apply (world : TerminalWorld) : BindingOp → TerminalWorld
  | select caller answers id => ((selectTerminal caller config answers id).run world).2
  | fanOut reads restore visits => ((fanOutBinding symbols reads restore visits).run world).2
  | executeOrderFanout reads restore visits =>
      ((fanOutBinding symbols reads restore (visits.map engineVisit)).run world).2
  | probe caller answers => ((probeAccounts caller config answers).run world).2
  | resolve base => ((resolveSymbol symbols base).run world).2

/-- A name is the first candidate for a base in a list of symbols, if there is one. -/
def Fits (base name : String) (available : List String) : Prop :=
  ∀ first, (candidateMatches base available).head? = some first → name = first

/-- Every base name has been resolved to its first candidate. -/
def ResolvedRight (log : List ManagerEvent) : Prop :=
  ∀ base available result, .resolved base available result ∈ log →
    Fits (keyOf base) result available

end Operations

/-! ## When names stay right -/

/-- Where the names in the cache were resolved: the terminal, the base names, and whether
the binding is still there. -/
structure CacheSource where
  folder : String
  names : List String
  live : Bool

/-- The source of the cache after a visit. -/
def CacheSource.visit (source : Option CacheSource) (visit : BindingVisit) :
    Option CacheSource :=
  match visit.folder with
  | none =>
      source.map fun source =>
        if source.live then { source with names := source.names ++ visit.names } else source
  | some folder =>
      if visit.attach = .attached then some ⟨folder, visit.names, true⟩
      else source.map fun source => { source with live := false }

section Conditions

variable (config : List TerminalConfig) (symbols : String → List String)

/-- A base name stands for the same symbol at two terminals, or for none at one of them. -/
def Agree (base here there : String) : Prop :=
  ∀ name, (candidateMatches (keyOf base) (symbols (NtPath.norm here))).head? = some name →
    Fits (keyOf base) name (symbols (NtPath.norm there))

/-- The names that a fan-out leaves behind stand for the same symbols at the terminal that
the binding is taken back to. -/
def LeavesNames (original : Option String) (restore : AttachAnswer) (visits : List BindingVisit) :
    Prop :=
  ∀ folder, original = some folder → restore = .attached →
    ∀ source, visits.foldl CacheSource.visit none = some source →
      ∀ base ∈ source.names, Agree symbols base source.folder folder

/-- The terminal that a probe attaches to in the end is the one that the binding was on, or
the cached names are right for it. -/
def ProbeReturns (answers : ProbeAnswers) (world : TerminalWorld) : Prop :=
  ∀ entry, originalEntry (registryRead config answers.view world) = some entry →
    answers.restore = .attached →
      (∃ folder, world.attached = some folder ∧ NtPath.norm folder = NtPath.norm entry.folder) ∨
        ∀ key name, world.symbolCache.get key = some name →
          Fits key name (symbols (NtPath.norm entry.folder))

/-- Whatever takes the binding back keeps the cached names right. -/
def BindingOp.Returns (world : TerminalWorld) : BindingOp → Prop
  | select _ _ _ | resolve _ => True
  | fanOut reads restore visits =>
      LeavesNames symbols (detectAttachedPath reads world) restore visits
  | executeOrderFanout reads restore visits =>
      LeavesNames symbols (detectAttachedPath reads world) restore (visits.map engineVisit)
  | probe _ answers =>
      world.isExecutionArmed = false →
        (∃ entry ∈ (registryRead config answers.view world).terminals, entry.running = true) →
        ProbeReturns config symbols answers world

end Conditions

/-! ## Single accesses -/

section Steps

variable {symbols : String → List String} {world : TerminalWorld}

/-- The cached names are right for a terminal. -/
def CacheFits (symbols : String → List String) (cache : Dict String String) (folder : String) :
    Prop :=
  ∀ key name, cache.get key = some name → Fits key name (symbols (NtPath.norm folder))

/-- A binding that is attached can be detached, the cached names are right for the attached
terminal, and no name has been resolved wrongly. -/
structure Coherent (symbols : String → List String) (world : TerminalWorld) : Prop where
  bound : world.attached ≠ none → world.available = true
  fits : ∀ folder, world.attached = some folder → CacheFits symbols world.symbolCache folder
  right : ResolvedRight world.log

theorem cacheFits_empty (folder : String) : CacheFits symbols Dict.empty folder := by
  intro key name cached
  cases cached

/-- Detaching the binding leaves nothing for which a name could be wrong. -/
theorem Coherent.shutdown (coherent : Coherent symbols world) :
    Coherent symbols world.shutdown := by
  have detached := TerminalWorld.shutdown_attached coherent.bound
  constructor
  · intro attached
    exact absurd detached attached
  · intro folder attached
    rw [detached] at attached
    cases attached
  · exact coherent.right

/-- A failed attempt to attach after the binding was detached changes nothing else. -/
theorem Coherent.attach_failed (coherent : Coherent symbols world) {folder : String}
    {answer : AttachAnswer} (detached : world.attached = none) (failed : answer ≠ .attached) :
    Coherent symbols (world.useLiveDataMode folder answer).2 := by
  cases answer with
  | attached => exact absurd rfl failed
  | refused => exact coherent
  | raised =>
      constructor
      · intro attached
        exact absurd detached attached
      · exact coherent.fits
      · exact coherent.right

theorem Coherent.attach (coherent : Coherent symbols world) {folder : String}
    (fits : CacheFits symbols world.symbolCache folder) :
    Coherent symbols (world.useLiveDataMode folder .attached).2 := by
  constructor
  · intro attached
    rfl
  · intro other attached
    cases attached
    exact fits
  · exact coherent.right

theorem candidateMatches_nil (base : String) : candidateMatches base [] = [] := by
  unfold candidateMatches
  dsimp only
  split
  · rfl
  · have unnamed : ∀ listed : List String,
        listed.foldl (addCandidate (byUpper [])) [] = [] := by
      intro listed
      induction listed with
      | nil => rfl
      | cons name rest inductionHypothesis => exact inductionHypothesis
    exact unnamed _

/-- Looking a name up gives a right answer, and leaves a cache that is right, as long as the
cache was. -/
theorem resolveIn_fits {available : List String} {cache : Dict String String} (base : String)
    (fits : ∀ key name, cache.get key = some name → Fits key name available) :
    Fits (keyOf base) (resolveIn available cache base).1 available ∧
      ∀ key name, (resolveIn available cache base).2.get key = some name →
        Fits key name available := by
  unfold resolveIn
  dsimp only
  split
  · rename_i blank
    refine ⟨?_, fits⟩
    intro first found
    have none : candidateMatches (keyOf base) available = [] := by
      rw [blank]
      rfl
    rw [none] at found
    cases found
  · split
    · rename_i cached found
      obtain ⟨found, -⟩ := Option.filter_eq_some_iff.mp found
      exact ⟨fits _ _ found, fits⟩
    · split
      · rename_i none
        refine ⟨?_, fits⟩
        intro first found
        rw [none] at found
        cases found
      · rename_i resolved rest listed
        have best : Fits (keyOf base) resolved available := by
          intro first found
          rw [listed] at found
          exact Option.some.inj found
        refine ⟨best, ?_⟩
        intro key name cached
        dsimp only at cached
        rw [Dict.get_set] at cached
        split at cached
        · rename_i same
          cases cached
          rw [same]
          exact best
        · exact fits key name cached

/-- A cached name was there before, or it has been resolved just now. -/
theorem resolveIn_source {available : List String} {cache : Dict String String}
    {base key name : String} (cached : (resolveIn available cache base).2.get key = some name) :
    cache.get key = some name ∨
      (key = keyOf base ∧ (candidateMatches key available).head? = some name) := by
  unfold resolveIn at cached
  dsimp only at cached
  split at cached
  · exact Or.inl cached
  · split at cached
    · exact Or.inl cached
    · split at cached
      · exact Or.inl cached
      · rename_i resolved rest listed
        rw [Dict.get_set] at cached
        split at cached
        · rename_i same
          cases cached
          rw [same, listed]
          exact Or.inr ⟨rfl, rfl⟩
        · exact Or.inl cached

theorem resolveSymbol_cache (base : String) :
    ((resolveSymbol symbols base).run world).2.symbolCache =
      (resolveIn (availableSymbols symbols world) world.symbolCache base).2 := by
  simp [resolveSymbol, TerminalWorld.note]

theorem resolveSymbol_attached (base : String) :
    ((resolveSymbol symbols base).run world).2.attached = world.attached := by
  simp [resolveSymbol, TerminalWorld.note]

theorem resolveSymbol_available (base : String) :
    ((resolveSymbol symbols base).run world).2.available = world.available := by
  simp [resolveSymbol, TerminalWorld.note]

theorem resolveSymbol_log (base : String) :
    ((resolveSymbol symbols base).run world).2.log =
      .resolved base (availableSymbols symbols world)
        (resolveIn (availableSymbols symbols world) world.symbolCache base).1 :: world.log := by
  simp [resolveSymbol, TerminalWorld.note]

/-- What is available belongs to the attached terminal. -/
theorem availableSymbols_cases (symbols : String → List String) (world : TerminalWorld) :
    availableSymbols symbols world = [] ∨
      ∃ folder, world.attached = some folder ∧
        availableSymbols symbols world = symbols (NtPath.norm folder) := by
  unfold availableSymbols
  split
  · cases attached : world.attached with
    | none => exact Or.inl rfl
    | some folder => exact Or.inr ⟨folder, rfl, rfl⟩
  · exact Or.inl rfl

theorem fits_nil (base name : String) : Fits base name [] := by
  intro first found
  rw [candidateMatches_nil] at found
  cases found

theorem resolvedRight_cons {log : List ManagerEvent} {base result : String}
    {available : List String} (right : ResolvedRight log)
    (fits : Fits (keyOf base) result available) :
    ResolvedRight (.resolved base available result :: log) := by
  intro other found answer member
  rcases List.mem_cons.mp member with here | there
  · cases here
    exact fits
  · exact right other found answer there

/-- Resolving a name keeps the state coherent. -/
theorem Coherent.resolve (coherent : Coherent symbols world) (base : String) :
    Coherent symbols ((resolveSymbol symbols base).run world).2 := by
  have fits : ∀ key name, world.symbolCache.get key = some name →
      Fits key name (availableSymbols symbols world) := by
    intro key name cached
    rcases availableSymbols_cases symbols world with nothing | here
    · rw [nothing]
      exact fits_nil key name
    · obtain ⟨folder, attached, listed⟩ := here
      rw [listed]
      exact coherent.fits folder attached key name cached
  obtain ⟨answer, -⟩ := resolveIn_fits base fits
  constructor
  · rw [resolveSymbol_attached, resolveSymbol_available]
    exact coherent.bound
  · intro folder attached key name cached
    rw [resolveSymbol_attached] at attached
    rw [resolveSymbol_cache] at cached
    rcases resolveIn_source cached with before | ⟨-, found⟩
    · exact coherent.fits folder attached key name before
    · rcases availableSymbols_cases symbols world with nothing | here
      · rw [nothing, candidateMatches_nil] at found
        cases found
      · obtain ⟨other, same, listed⟩ := here
        cases same.symm.trans attached
        rw [listed] at found
        intro first best
        exact Option.some.inj (found.symm.trans best)
  · rw [resolveSymbol_log]
    exact resolvedRight_cons coherent.right answer

theorem Coherent.resolveAll (coherent : Coherent symbols world) (names : List String) :
    Coherent symbols ((Mt5.resolveAll symbols names).run world).2 := by
  induction names generalizing world with
  | nil => exact coherent
  | cons base rest inductionHypothesis =>
      rw [Mt5.resolveAll, run_bind]
      exact inductionHypothesis (coherent.resolve base)

/-- Resolving names moves nothing, and adds to the cache only what the names stand for at
the attached terminal. -/
theorem resolveAll_source (symbols : String → List String) (world : TerminalWorld)
    (names : List String) :
    ((resolveAll symbols names).run world).2.attached = world.attached ∧
      ∀ key name, ((resolveAll symbols names).run world).2.symbolCache.get key = some name →
        world.symbolCache.get key = some name ∨
          ∃ folder, world.attached = some folder ∧ ∃ base ∈ names, key = keyOf base ∧
            (candidateMatches key (symbols (NtPath.norm folder))).head? = some name := by
  induction names generalizing world with
  | nil => exact ⟨rfl, fun key name cached => Or.inl cached⟩
  | cons base rest inductionHypothesis =>
      obtain ⟨attached, source⟩ :=
        inductionHypothesis ((resolveSymbol symbols base).run world).2
      rw [resolveSymbol_attached] at attached source
      have run : (resolveAll symbols (base :: rest)).run world =
          (resolveAll symbols rest).run ((resolveSymbol symbols base).run world).2 := by
        rw [resolveAll, run_bind]
      rw [run]
      refine ⟨attached, ?_⟩
      intro key name cached
      rcases source key name cached with before | ⟨folder, here, other, member, found⟩
      · rw [resolveSymbol_cache] at before
        rcases resolveIn_source before with earlier | ⟨same, found⟩
        · exact Or.inl earlier
        · rcases availableSymbols_cases symbols world with
            nothing | ⟨folder, here, listed⟩
          · rw [nothing, candidateMatches_nil] at found
            cases found
          · rw [listed] at found
            exact Or.inr ⟨folder, here, base, List.mem_cons_self, same, found⟩
      · exact Or.inr ⟨folder, here, other, List.mem_cons_of_mem _ member, found⟩

end Steps

/-! ## Fan-outs -/

section FanOuts

variable {symbols : String → List String} {world : TerminalWorld}

/-- What a visit does: nothing is resolved after a failed attempt to attach. -/
theorem run_visitBinding (visit : BindingVisit) :
    ((visitBinding symbols visit).run world).2 =
      match visit.folder with
      | none => ((resolveAll symbols visit.names).run world).2
      | some folder =>
          if visit.attach = .attached then
            ((resolveAll symbols visit.names).run (clearSymbolCache
              (world.shutdown.useLiveDataMode folder .attached).2)).2
          else (world.shutdown.useLiveDataMode folder visit.attach).2 := by
  unfold visitBinding reattachForTarget
  cases visit.folder with
  | none => rfl
  | some folder =>
      cases visit.attach with
      | attached => rfl
      | refused => rfl
      | raised => rfl

/-- A visit keeps the state coherent. -/
theorem Coherent.visitBinding (coherent : Coherent symbols world) (visit : BindingVisit) :
    Coherent symbols ((Mt5.visitBinding symbols visit).run world).2 := by
  have detached := TerminalWorld.shutdown_attached coherent.bound
  rw [run_visitBinding]
  cases visit.folder with
  | none => exact coherent.resolveAll visit.names
  | some folder =>
      dsimp only
      split
      · apply Coherent.resolveAll
        constructor
        · intro attached
          rfl
        · intro other attached
          exact cacheFits_empty other
        · exact coherent.right
      · rename_i failed
        exact coherent.shutdown.attach_failed detached failed

/-- The cached names come from the source and, without one, are right for the terminal that
the binding is to be taken back to. -/
def Traced (symbols : String → List String) (original : String) (world : TerminalWorld) :
    Option CacheSource → Prop
  | none =>
      CacheFits symbols world.symbolCache original ∧
        ∀ folder, world.attached = some folder → folder = original
  | some source =>
      (∀ key name, world.symbolCache.get key = some name →
        ∃ base ∈ source.names, key = keyOf base ∧
          (candidateMatches key (symbols (NtPath.norm source.folder))).head? = some name) ∧
        ∀ folder, world.attached = some folder → source.live = true ∧ folder = source.folder

/-- Names that are resolved without moving the binding have the source of the ones before
them. -/
theorem Traced.resolveAll {original : String} {source : Option CacheSource}
    (traced : Traced symbols original world source) (names : List String) :
    Traced symbols original ((Mt5.resolveAll symbols names).run world).2
      (source.map fun source =>
        if source.live then { source with names := source.names ++ names } else source) := by
  obtain ⟨attached, origin⟩ := resolveAll_source symbols world names
  cases source with
  | none =>
      obtain ⟨fits, here⟩ := traced
      constructor
      · intro key name cached
        rcases origin key name cached with before | ⟨folder, bound, base, -, -, found⟩
        · exact fits key name before
        · cases here folder bound
          intro first best
          exact Option.some.inj (found.symm.trans best)
      · intro folder bound
        rw [attached] at bound
        exact here folder bound
  | some source =>
      obtain ⟨known, here⟩ := traced
      cases live : source.live with
      | false =>
          simp only [Option.map_some, live]
          constructor
          · intro key name cached
            rcases origin key name cached with before | ⟨folder, bound, -⟩
            · exact known key name before
            · exact absurd (here folder bound).1 (by simp [live])
          · intro folder bound
            rw [attached] at bound
            exact here folder bound
      | true =>
          simp only [Option.map_some, live, if_true]
          constructor
          · intro key name cached
            rcases origin key name cached with before | ⟨folder, bound, base, member, same, found⟩
            · obtain ⟨base, member, found⟩ := known key name before
              exact ⟨base, List.mem_append_left _ member, found⟩
            · rw [(here folder bound).2] at found
              exact ⟨base, List.mem_append_right _ member, same, found⟩
          · intro folder bound
            rw [attached] at bound
            exact ⟨rfl, (here folder bound).2⟩

theorem Traced.visitBinding {original : String} {source : Option CacheSource}
    (coherent : Coherent symbols world) (traced : Traced symbols original world source)
    (visit : BindingVisit) :
    Traced symbols original ((Mt5.visitBinding symbols visit).run world).2
      (CacheSource.visit source visit) := by
  have detached := TerminalWorld.shutdown_attached coherent.bound
  rw [run_visitBinding]
  unfold CacheSource.visit
  cases visit.folder with
  | none => exact traced.resolveAll visit.names
  | some folder =>
      dsimp only
      split
      · obtain ⟨attached, origin⟩ := resolveAll_source symbols
          (clearSymbolCache (world.shutdown.useLiveDataMode folder .attached).2) visit.names
        constructor
        · intro key name cached
          rcases origin key name cached with before | ⟨other, bound, base, member, same, found⟩
          · cases before
          · cases bound
            exact ⟨base, member, same, found⟩
        · intro other bound
          rw [attached] at bound
          cases bound
          exact ⟨rfl, rfl⟩
      · rename_i failed
        have alone : (world.shutdown.useLiveDataMode folder visit.attach).2.attached = none := by
          cases attach : visit.attach with
          | attached => exact absurd attach failed
          | refused => exact detached
          | raised => exact detached
        have cache : (world.shutdown.useLiveDataMode folder visit.attach).2.symbolCache =
            world.symbolCache := by
          cases visit.attach with
          | attached => rfl
          | refused => rfl
          | raised => rfl
        cases source with
        | none =>
            constructor
            · rw [cache]
              exact traced.1
            · intro other bound
              rw [alone] at bound
              cases bound
        | some source =>
            constructor
            · rw [cache]
              exact traced.1
            · intro other bound
              rw [alone] at bound
              cases bound

/-- The visits of a fan-out keep the state coherent and know the source of its names. -/
theorem visitBindings_keeps (original : String) (source : Option CacheSource)
    (visits : List BindingVisit) (coherent : Coherent symbols world) :
    Coherent symbols ((visitBindings symbols visits).run world).2 ∧
      (Traced symbols original world source →
        Traced symbols original ((visitBindings symbols visits).run world).2
          (visits.foldl CacheSource.visit source)) := by
  induction visits generalizing world source with
  | nil => exact ⟨coherent, id⟩
  | cons visit rest inductionHypothesis =>
      have run : ((visitBindings symbols (visit :: rest)).run world).2 =
          ((visitBindings symbols rest).run ((visitBinding symbols visit).run world).2).2 := by
        rw [visitBindings, run_bind]
      rw [run]
      obtain ⟨after, onwards⟩ :=
        inductionHypothesis (CacheSource.visit source visit) (coherent.visitBinding visit)
      exact ⟨after, fun traced => onwards (traced.visitBinding coherent visit)⟩

/-- A fan-out keeps the state coherent, as long as the names that it leaves behind stand for
the same symbols at the terminal that it returns to. -/
theorem Coherent.fanOutBinding (coherent : Coherent symbols world) {reads : HostReads}
    {restore : AttachAnswer} {visits : List BindingVisit}
    (leaves : LeavesNames symbols (detectAttachedPath reads world) restore visits) :
    Coherent symbols ((Mt5.fanOutBinding symbols reads restore visits).run world).2 := by
  have run : ((Mt5.fanOutBinding symbols reads restore visits).run world).2 =
      ((restoreBinding (detectAttachedPath reads world) restore).run
        ((visitBindings symbols visits).run world).2).2 := by
    unfold Mt5.fanOutBinding
    rw [read_bind, run_act, run_bind]
  rw [run]
  cases original : detectAttachedPath reads world with
  | none =>
      obtain ⟨after, -⟩ :=
        visitBindings_keeps "" none visits coherent
      exact after.shutdown
  | some folder =>
      obtain ⟨after, traced⟩ :=
        visitBindings_keeps folder none visits coherent
      have bound : world.attached = some folder := by
        unfold detectAttachedPath at original
        split at original
        · exact (Option.filter_eq_some_iff.mp original).1
        · cases original
      have start : Traced symbols folder world none := by
        refine ⟨coherent.fits folder bound, ?_⟩
        intro other same
        exact Option.some.inj (same.symm.trans bound)
      have traced := traced start
      have detached := TerminalWorld.shutdown_attached after.bound
      by_cases back : restore = .attached
      · subst back
        apply after.shutdown.attach
        intro key name cached
        cases source : visits.foldl CacheSource.visit none with
        | none =>
            rw [source] at traced
            exact traced.1 key name cached
        | some source' =>
            rw [source] at traced
            obtain ⟨base, member, same, found⟩ := traced.1 key name cached
            rw [same] at found ⊢
            exact leaves folder original rfl source' source base member name found
      · exact after.shutdown.attach_failed detached back

end FanOuts

/-! ## Selections and probes -/

section Moves

variable {config : List TerminalConfig} {symbols : String → List String} {world : TerminalWorld}

/-- What does not touch the binding, the cache or the resolved names keeps the state
coherent. -/
theorem Coherent.of_same {after : TerminalWorld} (coherent : Coherent symbols world)
    (attached : after.attached = world.attached) (available : after.available = world.available)
    (cache : after.symbolCache = world.symbolCache) (right : ResolvedRight after.log) :
    Coherent symbols after := by
  constructor
  · rw [attached, available]
    exact coherent.bound
  · rw [attached, cache]
    exact coherent.fits
  · exact right

/-- An event that is no resolved name. -/
def ManagerEvent.Other (event : ManagerEvent) : Prop :=
  ∀ base available result, event ≠ .resolved base available result

theorem resolvedRight_other {log : List ManagerEvent} {event : ManagerEvent}
    (right : ResolvedRight log) (other : event.Other) : ResolvedRight (event :: log) := by
  intro base available result member
  rcases List.mem_cons.mp member with here | there
  · exact absurd here.symm (other base available result)
  · exact right base available result there

theorem Coherent.refresh (coherent : Coherent symbols world) (reads : HostReads) :
    Coherent symbols (refreshAttachedAccount reads world) := by
  obtain ⟨cache, same⟩ := refreshAttachedAccount_eq reads world
  rw [same]
  exact coherent.of_same rfl rfl rfl coherent.right

theorem Coherent.acquire (coherent : Coherent symbols world) (caller : Nat) :
    Coherent symbols ((acquireBinding caller).run world).2 :=
  coherent.of_same rfl rfl rfl coherent.right

theorem Coherent.note (coherent : Coherent symbols world) {event : ManagerEvent}
    (other : event.Other) : Coherent symbols (world.note event) :=
  coherent.of_same rfl rfl rfl (resolvedRight_other coherent.right other)

theorem Coherent.release (coherent : Coherent symbols world) (caller : Nat) :
    Coherent symbols ((releaseBinding caller).run world).2 := by
  apply coherent.of_same
  · rfl
  · rfl
  · rfl
  · apply resolvedRight_other coherent.right
    intro base available result same
    cases same

/-- Attaching to a selected terminal clears the cache. -/
theorem Coherent.attachSelected (coherent : Coherent symbols world) (answers : SelectAnswers)
    (entry : RegistryEntry) :
    Coherent symbols ((Mt5.attachSelected answers entry).run world).2 := by
  have detached := TerminalWorld.shutdown_attached coherent.bound
  cases answer : answers.attach with
  | attached =>
      have run : ((Mt5.attachSelected answers entry).run world).2 =
          clearSymbolCache ((world.shutdown.useLiveDataMode entry.folder .attached).2.setSelected
            entry.id) := by
        unfold Mt5.attachSelected
        rw [answer]
        rfl
      rw [run]
      constructor
      · intro attached
        rfl
      · intro folder attached
        exact cacheFits_empty folder
      · exact coherent.right
  | refused =>
      have run : ((Mt5.attachSelected answers entry).run world).2 = world.shutdown := by
        unfold Mt5.attachSelected
        rw [answer]
        rfl
      rw [run]
      exact coherent.shutdown
  | raised =>
      have run : ((Mt5.attachSelected answers entry).run world).2 =
          (world.shutdown.useLiveDataMode entry.folder .raised).2 := by
        unfold Mt5.attachSelected
        rw [answer]
        rfl
      rw [run]
      exact coherent.shutdown.attach_failed detached (by simp)

theorem Coherent.selectTerminalLocked (coherent : Coherent symbols world)
    (answers : SelectAnswers) (id : String) :
    Coherent symbols ((Mt5.selectTerminalLocked config answers id).run world).2 := by
  have listed := coherent.refresh answers.view
  have listing : (listTerminals config answers.view).run world =
      (registryRead config answers.view world, refreshAttachedAccount answers.view world) := rfl
  unfold Mt5.selectTerminalLocked
  rw [run_bind, listing]
  dsimp only
  split
  · exact listed
  · split
    · exact listed
    · split
      · exact listed
      · exact listed.attachSelected answers _

theorem Coherent.selectTerminal (coherent : Coherent symbols world) (caller : Nat)
    (answers : SelectAnswers) (id : String) :
    Coherent symbols ((Mt5.selectTerminal caller config answers id).run world).2 := by
  have run : ((Mt5.selectTerminal caller config answers id).run world).2 =
      ((releaseBinding caller).run ((Mt5.selectTerminalLocked config answers id).run
        ((acquireBinding caller).run world).2).2).2 := by
    unfold Mt5.selectTerminal
    rw [run_bind, run_bind, run_bind]
    rfl
  rw [run]
  exact ((coherent.acquire caller).selectTerminalLocked answers id).release caller

/-- What holds during a probe: the cache is the one from before, while the binding may be
anywhere. -/
structure Probing (cache : Dict String String) (world : TerminalWorld) : Prop where
  bound : world.attached ≠ none → world.available = true
  cached : world.symbolCache = cache
  right : ResolvedRight world.log

variable {cache : Dict String String}

theorem moved_other (caller : Nat) (armed : Bool) : (ManagerEvent.moved caller armed).Other := by
  intro base available result same
  cases same

theorem Probing.shutdown (probing : Probing cache world) (caller : Nat) :
    Probing cache ((probeShutdown caller).run world).2 ∧
      ((probeShutdown caller).run world).2.attached = none := by
  have detached : ((probeShutdown caller).run world).2.attached = none :=
    TerminalWorld.shutdown_attached probing.bound
  refine ⟨⟨?_, probing.cached, ?_⟩, detached⟩
  · intro attached
    exact absurd detached attached
  · exact resolvedRight_other probing.right (moved_other _ _)

theorem Probing.attach (probing : Probing cache world) (detached : world.attached = none)
    (caller : Nat) (folder : String) (answer : AttachAnswer) :
    Probing cache ((probeAttach caller folder answer).run world).2 := by
  cases answer with
  | attached =>
      exact ⟨fun _ => rfl, probing.cached, resolvedRight_other probing.right (moved_other _ _)⟩
  | refused =>
      exact ⟨probing.bound, probing.cached, resolvedRight_other probing.right (moved_other _ _)⟩
  | raised =>
      refine ⟨?_, probing.cached, resolvedRight_other probing.right (moved_other _ _)⟩
      intro attached
      exact absurd detached attached

theorem Probing.moveTo (probing : Probing cache world) (caller : Nat) (current : Option String)
    (entry : RegistryEntry) (answer : AttachAnswer) :
    Probing cache ((Mt5.moveTo caller current entry answer).run world).2 := by
  unfold Mt5.moveTo
  split
  · exact probing
  · obtain ⟨after, detached⟩ := probing.shutdown caller
    rw [run_bind]
    exact after.attach detached caller entry.folder answer

theorem Probing.probeTerminals (caller : Nat) (answers : ProbeAnswers)
    (entries : List RegistryEntry) (probing : Probing cache world) (number : Nat)
    (current : Option String) :
    Probing cache
      ((Mt5.probeTerminals caller answers number current entries).run world).2 := by
  induction entries generalizing world number current with
  | nil => exact probing
  | cons entry rest inductionHypothesis =>
      rw [Mt5.probeTerminals, run_bind, run_bind]
      exact inductionHypothesis (probing.moveTo caller current entry (answers.attach number)) _ _

/-- After a probe the state is coherent when the names are right for the terminal that it
has attached to in the end. -/
theorem Probing.restoreProbe (probing : Probing cache world) (caller : Nat) (view : RegistryView)
    (answer : AttachAnswer)
    (fits : ∀ entry, originalEntry view = some entry → answer = .attached →
      CacheFits symbols cache entry.folder) :
    Coherent symbols ((Mt5.restoreProbe caller view answer).run world).2 := by
  obtain ⟨after, detached⟩ := probing.shutdown caller
  have alone : ∀ {after : TerminalWorld}, Probing cache after → after.attached = none →
      Coherent symbols after := by
    intro after probing detached
    refine ⟨probing.bound, ?_, probing.right⟩
    intro folder attached
    rw [detached] at attached
    cases attached
  unfold Mt5.restoreProbe
  rw [run_bind]
  cases original : originalEntry view with
  | none => exact alone after detached
  | some entry =>
      have attaching := after.attach detached caller entry.folder answer
      cases answer with
      | attached =>
          refine ⟨attaching.bound, ?_, attaching.right⟩
          intro folder attached
          have same : entry.folder = folder := Option.some.inj attached
          rw [attaching.cached, ← same]
          exact fits entry original rfl
      | refused => exact alone attaching detached
      | raised => exact alone attaching detached

theorem Coherent.probing (coherent : Coherent symbols world) :
    Probing world.symbolCache world :=
  ⟨coherent.bound, rfl, coherent.right⟩

/-- A finished visit of the terminals leaves a coherent state, as long as the names are right
where it ends. -/
theorem Coherent.probeRunning (coherent : Coherent symbols world) (caller : Nat)
    (answers : ProbeAnswers) (original : Option String) (view : RegistryView)
    (running : List RegistryEntry)
    (fits : ∀ entry, originalEntry view = some entry → answers.restore = .attached →
      CacheFits symbols world.symbolCache entry.folder) :
    Coherent symbols ((Mt5.probeRunning caller answers original view running).run world).2 := by
  have visited := coherent.probing.probeTerminals caller answers running 0
    (view.attachedPath.map NtPath.norm)
  have restored := visited.restoreProbe caller view answers.restore fits
  unfold Mt5.probeRunning
  rw [run_bind, run_bind]
  apply restored.of_same
  · rfl
  · rfl
  · rfl
  · apply resolvedRight_other restored.right
    intro base available result same
    cases same

/-- Neither the log nor the lock is shown in the registry. -/
theorem registryRead_eq {after : TerminalWorld} (reads : HostReads)
    (processes : after.processes = world.processes) (states : after.states = world.states)
    (accounts : after.accountCache = world.accountCache)
    (stamp : after.accountCacheTs = world.accountCacheTs)
    (attached : after.attached = world.attached) :
    registryRead config reads after = registryRead config reads world := by
  rcases after with ⟨⟩
  rcases world with ⟨⟩
  dsimp only at processes states accounts stamp attached
  subst processes states accounts stamp attached
  unfold registryRead refreshAttachedAccount detectAttachedPath
  dsimp only
  split
  · rfl
  · rfl

theorem Coherent.probeLocked (coherent : Coherent symbols world) (caller : Nat)
    (answers : ProbeAnswers)
    (returns : (∃ entry ∈ (registryRead config answers.view world).terminals,
      entry.running = true) → ProbeReturns config symbols answers world) :
    Coherent symbols ((Mt5.probeLocked caller config answers).run world).2 := by
  have listed : Coherent symbols ((refreshAttachedAccount answers.view world).note
      (.probing caller (recoverable config answers world))) := by
    apply (coherent.refresh answers.view).note
    intro base available result same
    cases same
  obtain ⟨accounts, same⟩ := refreshAttachedAccount_eq answers.view world
  unfold Mt5.probeLocked
  rw [run_bind]
  change Coherent symbols
    (run (if ((registryRead config answers.view world).terminals.filter
        RegistryEntry.running).isEmpty then _ else _)
      ((refreshAttachedAccount answers.view world).note
        (.probing caller (recoverable config answers world)))).2
  split
  · exact listed
  · rename_i some
    apply listed.probeRunning
    intro entry original back
    have running : ∃ entry ∈ (registryRead config answers.view world).terminals,
        entry.running = true := by
      simpa using some
    rcases returns running entry original back with ⟨folder, attached, here⟩ | fits
    · have before := coherent.fits folder attached
      rw [same]
      intro key name cached
      rw [← here]
      exact before key name cached
    · rw [same]
      exact fits

theorem Coherent.probeAccounts (coherent : Coherent symbols world) (caller : Nat)
    (answers : ProbeAnswers)
    (returns : world.isExecutionArmed = false →
      (∃ entry ∈ (registryRead config answers.view world).terminals, entry.running = true) →
      ProbeReturns config symbols answers world) :
    Coherent symbols ((Mt5.probeAccounts caller config answers).run world).2 := by
  have checked : Coherent symbols (world.note (.checked caller world.isExecutionArmed)) := by
    apply coherent.note
    intro base available result same
    cases same
  unfold Mt5.probeAccounts
  rw [run_perform_bind]
  dsimp only
  cases armed : world.isExecutionArmed with
  | true =>
      rw [armed] at checked
      exact checked
  | false =>
      rw [armed] at checked
      have locked := checked.acquire caller
      have run : ∀ locked : TerminalWorld, ((do
            let result ← Mt5.probeLocked caller config answers
            releaseBinding caller
            return result : Program TerminalWorld ProbeResult).run locked).2 =
          ((releaseBinding caller).run
            ((Mt5.probeLocked caller config answers).run locked).2).2 := by
        intro locked
        rw [run_bind, run_bind]
        rfl
      have same : registryRead config answers.view
          ((acquireBinding caller).run (world.note (.checked caller false))).2 =
            registryRead config answers.view world :=
        registryRead_eq answers.view rfl rfl rfl rfl rfl
      change Coherent symbols ((do
            let result ← Mt5.probeLocked caller config answers
            releaseBinding caller
            return result : Program TerminalWorld ProbeResult).run
          ((acquireBinding caller).run (world.note (.checked caller false))).2).2
      rw [run]
      apply (locked.probeLocked caller answers _).release
      unfold ProbeReturns
      rw [same]
      exact returns armed

end Moves

/-- Every operation keeps the state coherent, as long as it takes the binding back only to
where the cached names are right. -/
theorem Coherent.apply {config : List TerminalConfig} {symbols : String → List String}
    {world : TerminalWorld} (coherent : Coherent symbols world) (op : BindingOp)
    (returns : op.Returns config symbols world) :
    Coherent symbols (op.apply config symbols world) := by
  cases op with
  | select caller answers id => exact coherent.selectTerminal caller answers id
  | fanOut reads restore visits => exact coherent.fanOutBinding returns
  | executeOrderFanout reads restore visits => exact coherent.fanOutBinding returns
  | probe caller answers => exact coherent.probeAccounts caller answers returns
  | resolve base => exact coherent.resolve base

theorem coherent_initial (symbols : String → List String) (processes : List TerminalProcess) :
    Coherent symbols { TerminalWorld.initial with processes := processes } := by
  constructor
  · intro attached
    exact absurd rfl attached
  · intro folder attached
    cases attached
  · intro base available result member
    cases member

/-- In every run that takes the binding back only to where the cached names are right, every
base name is resolved to the first candidate of the attached terminal. -/
theorem names_resolved_right (config : List TerminalConfig) (symbols : String → List String)
    (processes : List TerminalProcess) (ops : List BindingOp)
    (returns : Run.Every (BindingOp.apply config symbols) (BindingOp.Returns config symbols)
      { TerminalWorld.initial with processes := processes } ops) :
    ResolvedRight (Run.after (BindingOp.apply config symbols)
      { TerminalWorld.initial with processes := processes } ops).log := by
  have coherent := returns.after (Coherent symbols) (coherent_initial symbols processes)
    fun world op coherent returns => coherent.apply op returns
  exact coherent.right

namespace Sample

/-- Two running terminals of different brokers. -/
def processes : List TerminalProcess :=
  [⟨1, "C:\\A\\terminal64.exe"⟩, ⟨2, "C:\\B\\terminal64.exe"⟩]

/-- The first broker adds another suffix than the second. -/
def symbols (folder : String) : List String :=
  if folder = "c:\\a" then ["XAUUSDc"] else ["XAUUSDm"]

/-- The host answers every question, but knows no account. -/
def reads : HostReads :=
  ⟨true, none⟩

/-- Select the first terminal. -/
def selectFirst : BindingOp :=
  .select 0 ⟨reads, .attached, reads⟩ "auto-1"

/-- Fan out to the second terminal; the binding cannot be taken back. -/
def fanOutSecond : BindingOp :=
  .executeOrderFanout reads .refused [("C:\\B\\terminal64.exe", .attached, ["XAUUSD"])]

/-- Probe both terminals. -/
def probeBoth : BindingOp :=
  .probe 0 ⟨reads, fun _ => .attached, fun _ => none, .attached, "", reads⟩

end Sample

/-- While nothing takes the binding back, the name is resolved for the attached terminal. -/
theorem name_resolved_right_after_selection :
    ResolvedRight (Run.after (BindingOp.apply [] Sample.symbols)
      { TerminalWorld.initial with processes := Sample.processes }
      [Sample.selectFirst, .resolve "XAUUSD", Sample.fanOutSecond]).log := by
  apply names_resolved_right
  refine ⟨trivial, trivial, ?_, trivial⟩
  intro folder original back
  cases back

/-- After a fan-out that could not take the binding back, a probe attaches to the selected
terminal, and the name of the other broker is still used. -/
theorem name_of_other_broker_after_probe :
    ¬ ResolvedRight (Run.after (BindingOp.apply [] Sample.symbols)
      { TerminalWorld.initial with processes := Sample.processes }
      [Sample.selectFirst, Sample.fanOutSecond, Sample.probeBoth, .resolve "XAUUSD"]).log := by
  intro right
  have resolved : .resolved "XAUUSD" ["XAUUSDc"] "XAUUSDm" ∈
      (Run.after (BindingOp.apply [] Sample.symbols)
        { TerminalWorld.initial with processes := Sample.processes }
        [Sample.selectFirst, Sample.fanOutSecond, Sample.probeBoth, .resolve "XAUUSD"]).log := by
    decide +kernel
  have best : (candidateMatches (keyOf "XAUUSD") ["XAUUSDc"]).head? = some "XAUUSDc" := by
    decide +kernel
  exact absurd (right _ _ _ resolved "XAUUSDc" best) (by decide)

end EaBot.Mt5
