import IronCouncil.Base.Table
import IronCouncil.Models.OrdersJson
import IronCouncil.Registry.Types
import IronCouncil.Resolver.Tick

/-!
# The database

The tables of the match server and the two storage variants. A column of the UUID type is text; on Postgres a lookup by a key that is not UUID text is an error of the database. The hashes of the API keys are distinct: a key is created only under a hash that no row has.
-/

namespace IronCouncil

inductive StorageVariant
  | postgres
  | sqlite
deriving DecidableEq, Repr

/-- What a database operation can raise: a violated constraint, a key that is not of its column's type, a state that does not validate, a failed lookup or an exhausted iterator, and the errors the server itself raises. -/
inductive PersistenceError
  | integrityError
  | dataError
  | validationError
  | keyError (message : String)
  | stopIteration
  | valueError (message : String)
deriving DecidableEq, Repr

/-! ### UUID text -/

def isHexDigit (c : Char) : Bool := c.isDigit || ('a' ≤ c && c ≤ 'f') || ('A' ≤ c && c ≤ 'F')

def dropHyphen : List Char → List Char
  | '-' :: chars => chars
  | chars => chars

theorem mem_dropHyphen {chars : List Char} {c : Char} (h : c ∈ chars) : c = '-' ∨ c ∈ dropHyphen chars := by
  unfold dropHyphen
  split
  · exact List.mem_cons.1 h
  · exact Or.inr h

/-- Groups of four hexadecimal digits, with at most one hyphen between two groups. -/
def isUuidGroups : Nat → List Char → Bool
  | 0, chars => chars = []
  | groups + 1, a :: b :: c :: d :: chars =>
      isHexDigit a && isHexDigit b && isHexDigit c && isHexDigit d &&
        isUuidGroups groups (if groups = 0 then chars else dropHyphen chars)
  | _ + 1, _ => false

/-- The input form of a Postgres UUID: thirty-two digits, hyphens between groups, braces around the whole. -/
def isUuidText (text : String) : Bool :=
  match text.toList with
  | '{' :: rest => rest.getLast? = some '}' && isUuidGroups 8 rest.dropLast
  | chars => isUuidGroups 8 chars

theorem isHexDigit_of_isUuidGroups {groups : Nat} {chars : List Char} (h : isUuidGroups groups chars = true) :
    ∀ char ∈ chars, isHexDigit char = true ∨ char = '-' := by
  induction groups generalizing chars with
  | zero =>
      have hnil : chars = [] := by simpa [isUuidGroups] using h
      simp [hnil]
  | succ groups ih =>
      match chars with
      | [] | [_] | [_, _] | [_, _, _] => simp [isUuidGroups] at h
      | a :: b :: c :: d :: chars =>
          simp only [isUuidGroups, Bool.and_eq_true] at h
          obtain ⟨⟨⟨⟨ha, hb⟩, hc⟩, hd⟩, hrest⟩ := h
          intro char hchar
          simp only [List.mem_cons] at hchar
          rcases hchar with rfl | rfl | rfl | rfl | hchar
          · exact Or.inl ha
          · exact Or.inl hb
          · exact Or.inl hc
          · exact Or.inl hd
          · split at hrest
            · exact ih hrest char hchar
            · rcases mem_dropHyphen hchar with hhyphen | hchar
              · exact Or.inr hhyphen
              · exact ih hrest char hchar

/-- UUID text is made of hexadecimal digits, hyphens and braces. -/
theorem isHexDigit_of_isUuidText {text : String} (h : isUuidText text = true) :
    ∀ char ∈ text.toList, isHexDigit char = true ∨ char = '-' ∨ char = '{' ∨ char = '}' := by
  unfold isUuidText at h
  split at h
  · rename_i rest hrest
    rw [Bool.and_eq_true, decide_eq_true_eq] at h
    intro char hchar
    rw [hrest, List.mem_cons] at hchar
    rcases hchar with rfl | hchar
    · exact Or.inr (Or.inr (Or.inl rfl))
    · obtain ⟨init, hinit⟩ := List.getLast?_eq_some_iff.1 h.1
      rw [hinit, List.mem_append, List.mem_singleton] at hchar
      rcases hchar with hchar | rfl
      · have hdigit := isHexDigit_of_isUuidGroups h.2 char (by rw [hinit]; simpa using hchar)
        tauto
      · exact Or.inr (Or.inr (Or.inr rfl))
  · intro char hchar
    have hdigit := isHexDigit_of_isUuidGroups h char hchar
    tauto

/-! ### Rows -/

structure MatchRowConfig where
  map : Option String
  maxPlayers : Option Nat
  turnSeconds : Option Nat
  victoryCityThreshold : Nat
  startingCitiesPerPlayer : Nat
  creatorApiKeyId : Option String
  creatorUserId : Option String
deriving DecidableEq, Repr

structure MatchRow where
  id : String
  config : MatchRowConfig
  status : MatchStatus
  currentTick : Nat
  state : MatchState
  winnerAlliance : Option String
deriving DecidableEq

structure ApiKeyRow where
  id : String
  userId : String
  keyHash : String
  eloRating : Int
  isActive : Bool
  createdAt : Nat
deriving DecidableEq, Repr

inductive AgentEntitlementGrantSource
  | manual
  | dev
deriving DecidableEq, Repr

structure AgentEntitlementGrantRow where
  id : String
  userId : String
  grantSource : AgentEntitlementGrantSource
  concurrentMatchAllowance : Int
  isActive : Bool
  createdAt : Nat
deriving DecidableEq, Repr

structure AllianceRow where
  id : String
  matchId : String
  name : String
  leaderId : String
  formedTick : Nat
  dissolvedTick : Option Nat
deriving DecidableEq, Repr

structure PlayerRow where
  id : String
  userId : String
  matchId : String
  displayName : String
  isAgent : Bool
  apiKeyId : Option String
  eloRating : Int
  allianceId : Option String
  allianceJoinedTick : Option Nat
deriving DecidableEq, Repr

structure MatchSettlementRow where
  matchId : String
  settledAt : Nat
deriving DecidableEq, Repr

inductive SettlementOutcome
  | win
  | loss
  | draw
deriving DecidableEq, Repr

structure PlayerMatchSettlementRow where
  playerId : String
  matchId : String
  userId : String
  apiKeyId : Option String
  displayName : String
  isAgent : Bool
  outcome : SettlementOutcome
  eloBefore : Int
  eloAfter : Int
  settledAt : Nat
deriving DecidableEq, Repr

inductive PersistedTreatyStatus
  | active
  | brokenByA
  | brokenByB
  | withdrawn
deriving DecidableEq, Repr

structure TreatyRow where
  id : String
  matchId : String
  playerAId : String
  playerBId : String
  treatyType : TreatyType
  status : PersistedTreatyStatus
  signedTick : Nat
  brokenTick : Option Nat
deriving DecidableEq, Repr

structure TickLogRow where
  matchId : String
  tick : Nat
  stateSnapshot : MatchState
  orders : JsonValue
  events : List TickPhaseEvent

structure Database where
  matchRows : Table MatchRow.id
  apiKeys : Table ApiKeyRow.id
  keyHashes_nodup : (apiKeys.rows.map (·.keyHash)).Nodup
  agentEntitlementGrants : Table AgentEntitlementGrantRow.id
  alliances : Table AllianceRow.id
  players : Table PlayerRow.id
  matchSettlements : Table MatchSettlementRow.matchId
  playerMatchSettlements : Table PlayerMatchSettlementRow.playerId
  treaties : Table TreatyRow.id
  tickLogs : List TickLogRow

/-! ### Lookups and insertions -/

/-- A lookup by primary key. -/
def sessionGet {α : Type} {key : α → String} (variant : StorageVariant) (table : Table key) (id : String) :
    Except PersistenceError (Option α) :=
  if variant = .postgres ∧ isUuidText id = false then .error .dataError else .ok (table.get? id)

theorem sessionGet_eq_ok {α : Type} {key : α → String} {variant : StorageVariant} {table : Table key}
    {id : String} {found : Option α} (h : sessionGet variant table id = .ok found) : found = table.get? id := by
  unfold sessionGet at h
  split at h
  · cases h
  · cases h
    rfl

def sessionAdd {α : Type} {key : α → String} (table : Table key) (row : α) : Except PersistenceError (Table key) :=
  match table.insert row with
  | none => .error .integrityError
  | some table => .ok table

theorem sessionAdd_eq_ok {α : Type} {key : α → String} {table table' : Table key} {row : α}
    (h : sessionAdd table row = .ok table') : key row ∉ table.keys ∧ table'.rows = table.rows ++ [row] := by
  unfold sessionAdd at h
  split at h
  · cases h
  · rename_i hinsert
    cases h
    exact Table.insert_eq_some hinsert

namespace Database

def updateApiKey (db : Database) (id : String) (f : ApiKeyRow → ApiKeyRow) (hid : ∀ row, (f row).id = row.id)
    (hhash : ∀ row, (f row).keyHash = row.keyHash) : Database :=
  { db with
    apiKeys := db.apiKeys.update id f hid
    keyHashes_nodup := by
      rw [Table.map_update _ _ hid hhash]
      exact db.keyHashes_nodup }

def setKeyElo (db : Database) (id : String) (elo : Int) : Database :=
  db.updateApiKey id (fun row => { row with eloRating := elo }) (fun _ => rfl) fun _ => rfl

def deactivateKey (db : Database) (id : String) : Database :=
  db.updateApiKey id (fun row => { row with isActive := false }) (fun _ => rfl) fun _ => rfl

def keyOfHash? (db : Database) (keyHash : String) : Option ApiKeyRow :=
  db.apiKeys.rows.find? fun row => row.keyHash = keyHash

theorem keyOfHash?_eq_some {db : Database} {keyHash : String} {row : ApiKeyRow} :
    db.keyOfHash? keyHash = some row ↔ row ∈ db.apiKeys.rows ∧ row.keyHash = keyHash := by
  let byHash : Table ApiKeyRow.keyHash := ⟨db.apiKeys.rows, db.keyHashes_nodup⟩
  exact byHash.get?_eq_some

/-- The rows of a match's players, ordered by id. -/
def playersOfMatch (db : Database) (matchId : String) : List PlayerRow :=
  (db.players.rows.filter fun player => player.matchId = matchId).insertionSort fun first second =>
    first.id ≤ second.id

theorem mem_playersOfMatch {db : Database} {matchId : String} {player : PlayerRow} :
    player ∈ db.playersOfMatch matchId ↔ player ∈ db.players.rows ∧ player.matchId = matchId := by
  simp only [playersOfMatch, List.mem_insertionSort, List.mem_filter, decide_eq_true_eq]

end Database

end IronCouncil
