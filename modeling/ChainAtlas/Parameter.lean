/-!
# Parameters of the configuration contract

The network is governed by a contract that holds its parameters.  Each parameter is read by a method
of its own name and, all but one, written by a method whose name is `set` and the name with a capital.
The minimum stake is derived from other parameters and cannot be written.

How a value is written on the chain depends on the parameter alone: as an address, as a whole number,
or as an amount of tokens, which has eighteen decimal places.
-/

namespace ChainAtlas

/-- How the value of a parameter is written. -/
inductive ValueKind where
  | address
  | integer
  /-- A fixed-point number with eighteen decimal places. -/
  | tokenAmount
  deriving DecidableEq, Repr, Inhabited

/-- The name of a kind of values. -/
def ValueKind.label : ValueKind → String
  | .address => "address"
  | .integer => "integer"
  | .tokenAmount => "token-amount"

/-- A parameter of the configuration contract. -/
inductive Parameter where
  | minimumStakeWei
  | minimumDelegationWei
  | minimumSelfDelegationFraction
  | slashingFraction
  | flaggerRewardWei
  | flagReviewerRewardWei
  | flagStakeWei
  | flagReviewerCount
  | reviewPeriodSeconds
  | votingPeriodSeconds
  | maxQueueSeconds
  | maxPenaltyPeriodSeconds
  | streamRegistryAddress
  | sponsorshipFactory
  | operatorFactory
  | operatorContractOnlyJoinPolicy
  | protocolFeeBeneficiary
  | trustedForwarder
  | randomOracle
  deriving DecidableEq, Repr, Inhabited

namespace Parameter

/-- All parameters. -/
def all : List Parameter :=
  [minimumStakeWei, minimumDelegationWei, minimumSelfDelegationFraction, slashingFraction,
   flaggerRewardWei, flagReviewerRewardWei, flagStakeWei, flagReviewerCount, reviewPeriodSeconds,
   votingPeriodSeconds, maxQueueSeconds, maxPenaltyPeriodSeconds, streamRegistryAddress,
   sponsorshipFactory, operatorFactory, operatorContractOnlyJoinPolicy, protocolFeeBeneficiary,
   trustedForwarder, randomOracle]

theorem mem_all (p : Parameter) : p ∈ all := by cases p <;> decide

/-- The name of the method that reads a parameter. -/
def getter : Parameter → String
  | minimumStakeWei => "minimumStakeWei"
  | minimumDelegationWei => "minimumDelegationWei"
  | minimumSelfDelegationFraction => "minimumSelfDelegationFraction"
  | slashingFraction => "slashingFraction"
  | flaggerRewardWei => "flaggerRewardWei"
  | flagReviewerRewardWei => "flagReviewerRewardWei"
  | flagStakeWei => "flagStakeWei"
  | flagReviewerCount => "flagReviewerCount"
  | reviewPeriodSeconds => "reviewPeriodSeconds"
  | votingPeriodSeconds => "votingPeriodSeconds"
  | maxQueueSeconds => "maxQueueSeconds"
  | maxPenaltyPeriodSeconds => "maxPenaltyPeriodSeconds"
  | streamRegistryAddress => "streamRegistryAddress"
  | sponsorshipFactory => "sponsorshipFactory"
  | operatorFactory => "operatorFactory"
  | operatorContractOnlyJoinPolicy => "operatorContractOnlyJoinPolicy"
  | protocolFeeBeneficiary => "protocolFeeBeneficiary"
  | trustedForwarder => "trustedForwarder"
  | randomOracle => "randomOracle"

/-- A text with its first letter as a capital. -/
def capitalize : List Char → List Char
  | [] => []
  | c :: rest => c.toUpper :: rest

/-- The name of the method that writes a parameter. -/
def setter (p : Parameter) : String := "set" ++ String.ofList (capitalize p.getter.toList)

/-- How the value of a parameter is written. -/
def kind : Parameter → ValueKind
  | minimumStakeWei | minimumDelegationWei | minimumSelfDelegationFraction | slashingFraction
  | flaggerRewardWei | flagReviewerRewardWei | flagStakeWei => .tokenAmount
  | streamRegistryAddress | sponsorshipFactory | operatorFactory | operatorContractOnlyJoinPolicy
  | protocolFeeBeneficiary | trustedForwarder | randomOracle => .address
  | flagReviewerCount | reviewPeriodSeconds | votingPeriodSeconds | maxQueueSeconds
  | maxPenaltyPeriodSeconds => .integer

/-- Whether a parameter can be written. -/
def settable (p : Parameter) : Bool := p ≠ minimumStakeWei

end Parameter
end ChainAtlas
