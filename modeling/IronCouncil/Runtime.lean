import IronCouncil.Db.TickPersistence

/-!
# The runtime of a match

One round of a match's loop: take a snapshot, advance the record, persist the tick. When persisting raises, the snapshot comes back.
-/

namespace IronCouncil

inductive RuntimeError
  | notRunning
  | tick (error : TickError)
  | persistence (error : PersistenceError)
deriving DecidableEq, Repr

/-- The record after a persisted tick. -/
def completeRecord (advancedTick : AdvancedMatchTick) (record : MatchRecord) : MatchRecord :=
  { record with status := if isTerminalVictoryTick advancedTick then .completed else record.status }

/-- The record and the database after one round, and whether it raised. -/
def runMatchTick (persist : Database → AdvancedMatchTick → Except PersistenceError Database) (db : Database)
    (record : MatchRecord) : MatchRecord × Database × Except RuntimeError AdvancedMatchTick :=
  if record.status ≠ .active then (record, db, .error .notRunning)
  else
    let advanced := advanceRegistryTick record
    match advanced.2 with
    | .error error => (advanced.1, db, .error (.tick error))
    | .ok advancedTick =>
        match persist db advancedTick with
        | .error error => (record, db, .error (.persistence error))
        | .ok db => (completeRecord advancedTick advanced.1, db, .ok advancedTick)

end IronCouncil
