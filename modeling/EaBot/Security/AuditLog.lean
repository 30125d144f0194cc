import EaBot.Foundation.HashChain
import EaBot.Trading.CanonicalSignal

/-!
# The tamper-evident audit log

Every entry of the log commits to the hash of the entry before it, and its own hash is the
SHA-256 hash of a canonical text of its other fields.  The log is verified entry by entry.

The texts of two entries are the same only when everything that the entries say is the
same, up to the order of the fields of their details, so that the log is a hash chain.
-/

namespace EaBot.Security

open EaBot.Foundation EaBot.Trading

/-- What an entry records. -/
structure AuditEvent where
  timestamp : String
  actor : String
  action : String
  target : String
  details : List (String × Json)

/-- An entry of the log. -/
structure AuditEntry where
  index : Nat
  timestamp : String
  actor : String
  action : String
  target : String
  details : List (String × Json)
  prevHash : String
  hash : String

/-- The hash that the first entry refers to. -/
def GENESIS_HASH : String :=
  String.ofList (List.replicate 64 '0')

namespace AuditEntry

/-- The fields of an entry that are hashed. -/
def payload (entry : AuditEntry) : Json :=
  .obj [("index", .number (.ofNat entry.index)), ("timestamp", .str entry.timestamp),
    ("actor", .str entry.actor), ("action", .str entry.action), ("target", .str entry.target),
    ("details", .obj entry.details), ("prev_hash", .str entry.prevHash)]

/-- The SHA-256 hash of a text as hexadecimal digits. -/
def digest (text : List Char) : String :=
  String.ofList (Sha256.hexdigest (text.map Char.toNat))

def computeHash (entry : AuditEntry) : String :=
  digest (canonicalJson entry.payload)

/-- What the entry records. -/
def event (entry : AuditEntry) : AuditEvent :=
  { timestamp := entry.timestamp, actor := entry.actor, action := entry.action,
    target := entry.target, details := entry.details }

end AuditEntry

/-- The entries of a log, the oldest first. -/
abbrev ProtectedAuditLog := List AuditEntry

namespace ProtectedAuditLog

/-- Append an entry. -/
def append (log : ProtectedAuditLog) (timestamp actor action target : String)
    (details : Option (List (String × Json))) : ProtectedAuditLog :=
  let prevHash :=
    match log.getLast? with
    | some last => last.hash
    | none => GENESIS_HASH
  let entry : AuditEntry :=
    { index := log.length, timestamp, actor, action, target, details := details.getD [],
      prevHash, hash := "" }
  log ++ [{ entry with hash := entry.computeHash }]

/-- Check the entries from a position on against the hash of the entry before. -/
def verifyFrom : Nat → String → ProtectedAuditLog → Bool × Option Nat
  | _, _, [] => (true, none)
  | i, prevHash, entry :: rest =>
      if entry.index ≠ i ∨ entry.prevHash ≠ prevHash then (false, some i)
      else if entry.computeHash ≠ entry.hash then (false, some i)
      else verifyFrom (i + 1) entry.hash rest

/-- Whether the log is intact, and otherwise the position at which it is broken. -/
def verify (log : ProtectedAuditLog) : Bool × Option Nat :=
  verifyFrom 0 GENESIS_HASH log

/-- Append what an event says. -/
def record (log : ProtectedAuditLog) (event : AuditEvent) : ProtectedAuditLog :=
  log.append event.timestamp event.actor event.action event.target (some event.details)

/-- The log that has recorded some events. -/
def recorded (events : List AuditEvent) : ProtectedAuditLog :=
  events.foldl record []

end ProtectedAuditLog

/-! ## The log as a hash chain -/

/-- Events that say the same, up to the order of the fields of their details. -/
structure AuditEvent.Same (first second : AuditEvent) : Prop where
  timestamp : first.timestamp = second.timestamp
  actor : first.actor = second.actor
  action : first.action = second.action
  target : first.target = second.target
  details : sortKeys (.obj first.details) = sortKeys (.obj second.details)

namespace AuditEntry

/-- An entry as a record of a hash chain. -/
def block (entry : AuditEntry) : HashChain.Block AuditEvent String :=
  { index := entry.index, content := entry.event, previous := entry.prevHash,
    link := entry.hash }

/-- The entry of a record of a hash chain. -/
def ofBlock (block : HashChain.Block AuditEvent String) : AuditEntry :=
  { index := block.index, timestamp := block.content.timestamp, actor := block.content.actor,
    action := block.content.action, target := block.content.target,
    details := block.content.details, prevHash := block.previous, hash := block.link }

theorem block_injective : Function.Injective block :=
  Function.LeftInverse.injective (g := ofBlock) fun _ => rfl

end AuditEntry

/-- How an entry is hashed. -/
def auditScheme : HashChain.Scheme AuditEvent String (List Char) where
  encode index previous event :=
    canonicalJson (AuditEntry.ofBlock ⟨index, event, previous, ""⟩).payload
  digest := AuditEntry.digest
  genesis := GENESIS_HASH

theorem AuditEntry.sortKeys_payload (entry : AuditEntry) :
    sortKeys entry.payload = .obj [("action", .str entry.action), ("actor", .str entry.actor),
      ("details", sortKeys (.obj entry.details)), ("index", .number (.ofNat entry.index)),
      ("prev_hash", .str entry.prevHash), ("target", .str entry.target),
      ("timestamp", .str entry.timestamp)] := by
  simp [payload, sortKeys, sortFields, List.insertionSort, List.orderedInsert]

theorem ofNat_injective : Function.Injective Json.Numeral.ofNat := by
  intro first second same
  have digits : Nat.toDigits 10 first = Nat.toDigits 10 second :=
    congrArg Json.Numeral.chars same
  calc
    first = Nat.ofDigitChars 10 (Nat.toDigits 10 first) 0 := Nat.ofDigitChars_ten_toDigits.symm
    _ = Nat.ofDigitChars 10 (Nat.toDigits 10 second) 0 := by rw [digits]
    _ = second := Nat.ofDigitChars_ten_toDigits

theorem auditScheme_encode_block (entry : AuditEntry) :
    auditScheme.encode entry.block.index entry.block.previous entry.block.content =
      canonicalJson entry.payload := by
  dsimp only [auditScheme]
  rfl

/-- The text that is hashed tells everything that an entry says. -/
theorem auditScheme_encode {index index' : Nat} {previous previous' : String}
    {event event' : AuditEvent}
    (same : auditScheme.encode index previous event =
      auditScheme.encode index' previous' event') :
    index = index' ∧ previous = previous' ∧ event.Same event' := by
  dsimp only [auditScheme] at same
  have fields := sortKeys_eq_of_canonicalJson same
  rw [AuditEntry.sortKeys_payload, AuditEntry.sortKeys_payload] at fields
  simp only [Json.obj.injEq, List.cons.injEq, Prod.mk.injEq, true_and, Json.str.injEq,
    Json.number.injEq, and_true] at fields
  rcases fields with ⟨action, actor, details, number, link, target, timestamp⟩
  exact ⟨ofNat_injective number, link, timestamp, actor, action, target, details⟩

namespace ProtectedAuditLog

theorem head_map_block (log : ProtectedAuditLog) :
    auditScheme.head (log.map AuditEntry.block) =
      match log.getLast? with
      | some last => last.hash
      | none => GENESIS_HASH := by
  rw [HashChain.Scheme.head, List.getLast?_map]
  cases log.getLast? <;> rfl

theorem map_block_record (log : ProtectedAuditLog) (event : AuditEvent) :
    (log.record event).map AuditEntry.block =
      auditScheme.append (log.map AuditEntry.block) event := by
  rw [record, append, List.map_append, HashChain.Scheme.append, HashChain.Scheme.next,
    head_map_block, List.length_map]
  rfl

/-- The log that recorded some events is the chain of these events. -/
theorem map_block_recorded (events : List AuditEvent) :
    (recorded events).map AuditEntry.block = auditScheme.build events := by
  induction events using List.reverseRecOn with
  | nil => rfl
  | append_singleton events event ih =>
      rw [HashChain.Scheme.build_concat, ← ih, ← map_block_record, recorded, List.foldl_append]
      rfl

theorem check_cons (i : Nat) (prevHash : String) (entry : AuditEntry)
    (rest : ProtectedAuditLog) :
    auditScheme.check i prevHash ((entry :: rest).map AuditEntry.block) =
      if entry.index ≠ i ∨ entry.prevHash ≠ prevHash then some i
      else if entry.computeHash ≠ entry.hash then some i
      else auditScheme.check (i + 1) entry.hash (rest.map AuditEntry.block) :=
  rfl

/-- Verifying a log is checking its chain. -/
theorem verifyFrom_eq (i : Nat) (prevHash : String) (log : ProtectedAuditLog) :
    verifyFrom i prevHash log =
      ((auditScheme.check i prevHash (log.map AuditEntry.block)).isNone,
        auditScheme.check i prevHash (log.map AuditEntry.block)) := by
  induction log generalizing i prevHash with
  | nil => rfl
  | cons entry rest ih =>
      rw [verifyFrom, check_cons]
      split_ifs
      · rfl
      · rfl
      · exact ih (i + 1) entry.hash

/-- The entries are those of the log that recorded their events when their chains are. -/
theorem eq_recorded_iff (log : ProtectedAuditLog) :
    log = recorded (log.map AuditEntry.event) ↔
      log.map AuditEntry.block =
        auditScheme.build ((log.map AuditEntry.block).map HashChain.Block.content) := by
  rw [List.map_map, ← map_block_recorded]
  change _ ↔ _ = (recorded (log.map AuditEntry.event)).map AuditEntry.block
  exact (List.map_injective_iff.mpr AuditEntry.block_injective).eq_iff.symm

theorem verify_eq (log : ProtectedAuditLog) (broken : Option Nat) :
    log.verify = (broken.isNone, broken) ↔
      auditScheme.check 0 auditScheme.genesis (log.map AuditEntry.block) = broken := by
  rw [verify, verifyFrom_eq, Prod.mk.injEq]
  change _ ∧ auditScheme.check 0 auditScheme.genesis (log.map AuditEntry.block) = broken ↔ _
  constructor
  · exact And.right
  · rintro rfl
    exact ⟨rfl, rfl⟩

theorem verify_eq_passed_iff (log : ProtectedAuditLog) :
    log.verify = (true, none) ↔ log = recorded (log.map AuditEntry.event) := by
  rw [eq_recorded_iff, ← HashChain.Scheme.check_eq_none_iff]
  exact log.verify_eq none

theorem verify_eq_broken_iff (log : ProtectedAuditLog) (broken : Nat) :
    log.verify = (false, some broken) ↔ broken < log.length ∧
      log.take broken = recorded ((log.take broken).map AuditEntry.event) ∧
      log.take (broken + 1) ≠ recorded ((log.take (broken + 1)).map AuditEntry.event) := by
  have breaks := auditScheme.check_eq_some_iff (log.map AuditEntry.block) broken
  simp only [← List.map_take, ← eq_recorded_iff, ne_eq, List.length_map] at breaks
  exact (log.verify_eq (some broken)).trans breaks

theorem map_event_recorded (events : List AuditEvent) :
    (recorded events).map AuditEntry.event = events := by
  have contents := congrArg (List.map HashChain.Block.content) (map_block_recorded events)
  rwa [List.map_map, HashChain.Scheme.map_content_build] at contents

/-- Every log that appending builds is verified. -/
theorem verify_recorded (events : List AuditEvent) :
    (recorded events).verify = (true, none) :=
  (verify_eq_passed_iff _).mpr (by rw [map_event_recorded])

/-- A log is verified exactly when appending the events of its entries builds it.  It is
reported as broken at a position exactly when the entries before are what appending builds
and the entry there is not what appending would have put there. -/
theorem verify_iff_recorded (log : ProtectedAuditLog) :
    (log.verify = (true, none) ↔ log = recorded (log.map AuditEntry.event)) ∧
    ∀ broken, log.verify = (false, some broken) ↔
      broken < log.length ∧
      log.take broken = recorded ((log.take broken).map AuditEntry.event) ∧
      log.take (broken + 1) ≠ recorded ((log.take (broken + 1)).map AuditEntry.event) :=
  ⟨log.verify_eq_passed_iff, log.verify_eq_broken_iff⟩

/-! ## What a hash stands for -/

/-- Two entries with one hash whose hashed texts are different. -/
def Collide (first second : ProtectedAuditLog) : Prop :=
  ∃ entry ∈ first, ∃ other ∈ second, entry.hash = other.hash ∧
    canonicalJson entry.payload ≠ canonicalJson other.payload

theorem collide_of_blocks {first second : ProtectedAuditLog}
    (collide : auditScheme.Collide (first.map AuditEntry.block)
      (second.map AuditEntry.block)) : first.Collide second := by
  rcases collide with ⟨block, member, block', member', same, differs⟩
  rcases List.mem_map.mp member with ⟨entry, within, rfl⟩
  rcases List.mem_map.mp member' with ⟨other, within', rfl⟩
  rw [auditScheme_encode_block, auditScheme_encode_block] at differs
  exact ⟨entry, within, other, within', same, differs⟩

/-- The beginning of a log that is verified is a chain. -/
theorem recorded_take {log : ProtectedAuditLog} (verified : log.verify = (true, none))
    (count : Nat) :
    (log.take count).map AuditEntry.block =
      auditScheme.build ((log.take count).map AuditEntry.event) := by
  have built := log.verify_eq_passed_iff.mp verified
  have blocks : log.map AuditEntry.block = auditScheme.build (log.map AuditEntry.event) := by
    rw [← map_block_recorded, ← built]
  rw [List.map_take, blocks, HashChain.Scheme.take_build, List.map_take]

/-- The hash of an entry is the one that the chain up to it ends in. -/
theorem head_take {log : ProtectedAuditLog} {position : Nat} {entry : AuditEntry}
    (there : log[position]? = some entry) :
    auditScheme.head ((log.take (position + 1)).map AuditEntry.block) = entry.hash := by
  rw [List.take_add_one, there, head_map_block, Option.toList_some, List.getLast?_concat]

theorem events_ne_nil {log : ProtectedAuditLog} {position : Nat} {entry : AuditEntry}
    (there : log[position]? = some entry) :
    (log.take (position + 1)).map AuditEntry.event ≠ [] := by
  rw [List.take_add_one, there, List.map_append]
  exact List.append_ne_nil_of_right_ne_nil _ (List.cons_ne_nil _ _)

/-- Two logs that are verified and have one hash in common have the same history up to it,
as far as the events say, unless two different texts that were hashed for these histories
have one SHA-256 hash. -/
theorem verified_of_common_hash {first second : ProtectedAuditLog}
    (verified : first.verify = (true, none)) (verified' : second.verify = (true, none))
    {position position' : Nat} {entry other : AuditEntry}
    (there : first[position]? = some entry) (there' : second[position']? = some other)
    (same : entry.hash = other.hash) :
    (position = position' ∧ List.Forall₂ AuditEvent.Same
        ((first.take (position + 1)).map AuditEntry.event)
        ((second.take (position' + 1)).map AuditEntry.event)) ∨
      Collide (first.take (position + 1)) (second.take (position' + 1)) := by
  have chain := recorded_take verified (position + 1)
  have chain' := recorded_take verified' (position' + 1)
  have within := (List.getElem?_eq_some_iff.mp there).1
  have within' := (List.getElem?_eq_some_iff.mp there').1
  have heads := (head_take there).trans (same.trans (head_take there').symm)
  rw [chain, chain'] at heads
  rcases auditScheme.forall₂_of_head auditScheme_encode (events_ne_nil there)
    (events_ne_nil there') heads with agree | collide
  · have lengths := agree.length_eq
    simp only [List.length_map, List.length_take] at lengths
    exact .inl ⟨by omega, agree⟩
  · rw [← chain, ← chain'] at collide
    exact .inr (collide_of_blocks collide)

/-- Two logs that part ways after their first entry. -/
theorem verified_of_common_hash_first :
    let halt : AuditEvent := ⟨"2026-01-05T08:00:00+00:00", "risk", "halt", "EURUSD", []⟩
    let resume : AuditEvent := ⟨"2026-01-05T08:05:00+00:00", "risk", "resume", "EURUSD", []⟩
    let revoke : AuditEvent := ⟨"2026-01-05T08:07:00+00:00", "owner", "revoke", "EURUSD", []⟩
    (0 = 0 ∧ List.Forall₂ AuditEvent.Same
        (((recorded [halt, resume]).take 1).map AuditEntry.event)
        (((recorded [halt, revoke]).take 1).map AuditEntry.event)) ∨
      Collide ((recorded [halt, resume]).take 1) ((recorded [halt, revoke]).take 1) := by
  intro halt resume revoke
  have there : (recorded [halt, resume])[0]? =
      some ((recorded [halt]).head (List.cons_ne_nil _ _)) := rfl
  have there' : (recorded [halt, revoke])[0]? =
      some ((recorded [halt]).head (List.cons_ne_nil _ _)) := rfl
  exact verified_of_common_hash (verify_recorded [halt, resume]) (verify_recorded [halt, revoke])
    there there' rfl

end ProtectedAuditLog

end EaBot.Security
