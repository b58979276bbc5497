import IronCouncil.Base.FreshName
import IronCouncil.Db.Models

/-!
# Player ids

A persisted player row has a UUID whose last segment counts the joins of the match; in the state the player is called by that number.
-/

namespace IronCouncil

def hexDigitValue (char : Char) : Option Nat :=
  if char.isDigit then some (char.toNat - '0'.toNat)
  else if 'a' ≤ char ∧ char ≤ 'f' then some (10 + char.toNat - 'a'.toNat)
  else if 'A' ≤ char ∧ char ≤ 'F' then some (10 + char.toNat - 'A'.toNat)
  else none

/-- The number a segment of a UUID stands for. Only digits count: signs, prefixes and underscores, which `int` would take too, are in no row's id. -/
def parseHex (chars : List Char) : Option Nat :=
  if chars = [] then none
  else chars.foldlM (fun value char => (hexDigitValue char).map fun digit => 16 * value + digit) 0

def canonicalPlayerId (joinIndex : Nat) : String := numberedName "player-" joinIndex

def canonicalPlayerIdFromPersistedPlayerId (persistedPlayerId : String) (canonicalPlayerIds : List String) :
    Option String :=
  let persistedSegments := persistedPlayerId.toList.splitOn '-'
  if persistedSegments.length ≠ 5 then none
  else
    (parseHex (persistedSegments.getLastD [])).bind fun joinIndex =>
      if canonicalPlayerId joinIndex ∈ canonicalPlayerIds then some (canonicalPlayerId joinIndex) else none

/-- Add a row to the mapping. A canonical player that two rows resolve to spoils the whole mapping. -/
def mapPersistedPlayer (canonicalPlayerIds : List String) (mapping : OrdDict String String) (player : PlayerRow) :
    Option (OrdDict String String) :=
  match canonicalPlayerIdFromPersistedPlayerId player.id canonicalPlayerIds with
  | none => some mapping
  | some canonical => if canonical ∈ mapping.values then none else some (mapping.insert player.id canonical)

def buildPersistedPlayerMapping (canonicalPlayerIds : List String) (persistedPlayers : List PlayerRow) :
    OrdDict String String :=
  (persistedPlayers.foldlM (mapPersistedPlayer canonicalPlayerIds) OrdDict.empty).getD OrdDict.empty

def padLeft (width : Nat) (pad : Char) (chars : List Char) : List Char :=
  List.replicate (width - chars.length) pad ++ chars

def padRight (width : Nat) (pad : Char) (chars : List Char) : List Char :=
  chars ++ List.replicate (width - chars.length) pad

/-- Twenty characters of the match id, then the join index in twelve hexadecimal digits. -/
def buildMatchScopedPlayerId (matchId : String) (joinIndex : Nat) : String :=
  let cleanedMatchId := matchId.toList.filter (· ≠ '-')
  let matchPrefix := padRight 20 'f' (cleanedMatchId.take 16 ++ cleanedMatchId.drop (cleanedMatchId.length - 4))
  let segment (start stop : Nat) := (matchPrefix.take stop).drop start
  String.ofList <|
    segment 0 8 ++ '-' :: segment 8 12 ++ '-' :: segment 12 16 ++ '-' :: segment 16 20 ++
      '-' :: padLeft 12 '0' (Nat.toDigits 16 joinIndex)

def buildHumanActorId (userId : String) : String := s!"human:{userId}"

example :
    canonicalPlayerIdFromPersistedPlayerId
      (buildMatchScopedPlayerId "6d1f0c9e-58a2-4b7d-9e3a-0f4c2b1a7e55" 18) ["player-18"] = some "player-18" := by
  decide

end IronCouncil
