import EaBot.Foundation.Journal
import EaBot.Risk.KillSwitch

/-!
# The store of the kill switch

Every change of the switch is appended to a journal as a snapshot of the switch, and
a switch is rebuilt from the last snapshot that can be read.  An append that fails is
swallowed and may leave a part of its line.  Opening the store skips a line that is
not an object, but it raises when the file ends inside a character.
-/

namespace EaBot.Persistence

open EaBot.Foundation EaBot.Risk

/-- A snapshot: the fields of a JSON object. -/
abbrev Snapshot : Type :=
  List (String × Json)

/-- The store: the last snapshot and the file. -/
structure KillSwitchStateStore where
  state : Option Snapshot
  file : TextFile

namespace KillSwitchStateStore

/-- Open the store on a file.  A file that does not exist reads like an empty one, one
that cannot be decoded raises, and reading may fail after a number of lines. -/
def open? (file : TextFile) : Option Nat → Option KillSwitchStateStore
  | none => if file.torn then none else some ⟨Json.objectLines.latest file, file⟩
  | some count =>
      some ⟨Json.objectLines.last none ((TextFile.linesOf file.chars).take count), file⟩

/-- One of the last events of a snapshot. -/
def recentEvent (record : KillSwitchRecord) : Json :=
  .obj [("event", .str record.event.value), ("timestamp", .str record.timestamp),
    ("reason", .str record.reason)]

/-- The switch as a dictionary. -/
def toDict (switch : KillSwitch) : Snapshot :=
  [("state", .str switch.state.value), ("triggered_at", switch.triggeredAt),
    ("reset_at", switch.resetAt), ("locked", .bool switch.locked),
    ("locked_at", switch.lockedAt), ("is_blocked", .bool switch.isBlocked),
    ("history_count", .number (.ofNat switch.history.length)),
    ("recent_events",
      .arr ((switch.history.drop (switch.history.length - 5)).map recentEvent))]

/-- The snapshot of a switch at an instant. -/
def entryOf (switch : KillSwitch) (timestamp : String) : Snapshot :=
  toDict switch ++ [("timestamp", .str timestamp)]

/-- Save a snapshot, of whose line a number of bytes reach the file, all when none is
given. -/
def saveState (store : KillSwitchStateStore) (switch : KillSwitch) (timestamp : String)
    (bytes : Option Nat) : KillSwitchStateStore :=
  let entry := entryOf switch timestamp
  ⟨some entry, store.file.append (Json.objectLines.line entry) bytes⟩

/-- Drop the snapshot and the text of the file. -/
def clear (_ : KillSwitchStateStore) : KillSwitchStateStore :=
  ⟨none, TextFile.empty⟩

end KillSwitchStateStore

/-- The value of a field, null when the field is missing. -/
def fieldOf (snapshot : Snapshot) (name : String) : Json :=
  (Json.get snapshot name).getD .null

/-- The state that a snapshot names, or the one that a new switch has. -/
def stateOf (snapshot : Snapshot) : KillSwitchState :=
  match fieldOf snapshot "state" with
  | .str value => (KillSwitchState.ofValue? value).getD .active
  | _ => .active

/-- The switch that a snapshot describes. -/
def switchOf (snapshot : Snapshot) : KillSwitch where
  state := stateOf snapshot
  triggeredAt := fieldOf snapshot "triggered_at"
  resetAt := fieldOf snapshot "reset_at"
  history := []
  locked := (fieldOf snapshot "locked").truthy
  lockedAt := fieldOf snapshot "locked_at"

/-- Rebuild the switch from the attached store; a new one is made when no store is
attached or it has no snapshot. -/
def loadKillSwitch : Option KillSwitchStateStore → KillSwitch
  | none => KillSwitch.fresh
  | some store =>
      match store.state with
      | none => KillSwitch.fresh
      | some [] => KillSwitch.fresh
      | some snapshot => switchOf snapshot

end EaBot.Persistence
