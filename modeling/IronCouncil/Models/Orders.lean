import IronCouncil.Models.Domain

/-!
# Orders

The four kinds of orders, a batch of them, and the envelope a player submits. Troop counts and amounts are positive by construction: the parser accepts no other.
-/

namespace IronCouncil

structure MovementOrder where
  armyId : String
  destination : String
deriving DecidableEq, Repr

structure RecruitmentOrder where
  city : String
  troops : Nat
  troops_pos : 0 < troops
deriving DecidableEq, Repr

structure UpgradeOrder where
  city : String
  track : UpgradeTrack
  targetTier : FortificationTier
deriving DecidableEq, Repr

structure TransferOrder where
  sender : Option String
  recipientId : String
  resource : ResourceType
  amount : Nat
  amount_pos : 0 < amount
deriving DecidableEq, Repr

structure OrderBatch where
  movements : List MovementOrder
  recruitment : List RecruitmentOrder
  upgrades : List UpgradeOrder
  transfers : List TransferOrder
deriving DecidableEq, Repr

namespace OrderBatch

def empty : OrderBatch := ⟨[], [], [], []⟩

def append (first second : OrderBatch) : OrderBatch where
  movements := first.movements ++ second.movements
  recruitment := first.recruitment ++ second.recruitment
  upgrades := first.upgrades ++ second.upgrades
  transfers := first.transfers ++ second.transfers

end OrderBatch

structure OrderEnvelope where
  matchId : String
  playerId : String
  tick : Nat
  orders : OrderBatch
deriving DecidableEq, Repr

end IronCouncil
