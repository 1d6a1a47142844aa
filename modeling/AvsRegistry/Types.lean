import Mathlib.Data.List.AList

/-!
# The values the AVS registry services exchange

Go types of the `types` package and of the `OperatorStateRetriever` binding, as the
aggregation services and the chain reader read them. Go maps are association lists with
distinct keys (`AList`); their iteration order is treated where a loop ranges over one.

How a Go call ends is explicit: it returns its results or an error, the process exits
inside `logger.Fatal`, or it panics. Errors are the values `errors.New` and
`types.WrapError` build; only whether an error is returned, and under which message, is
observable here.
-/

namespace AvsRegistry

/-- `types.QuorumNum`: a quorum's one-byte number. -/
abbrev QuorumNum := UInt8

/-- `types.BlockNum`: the 32-bit height a historical query is pinned to. -/
abbrev BlockNum := UInt32

/-- `common.Address`: a 20-byte account address. -/
abbrev Address := BitVec 160

/-- `types.OperatorAddr`: an operator's account address. -/
abbrev OperatorAddr := Address

/-- `types.StakeAmount`, a `*big.Int`: stakes and their sums are unbounded integers. -/
abbrev StakeAmount := Int

/-- `map[types.QuorumNum]types.StakeAmount`. -/
abbrev StakeMap := AList fun _ : QuorumNum => StakeAmount

/-- `OperatorStateRetrieverOperator`: one entry of a quorum's stake table. -/
structure OperatorStateRetrieverOperator where
  operator : OperatorAddr
  stake : StakeAmount
deriving DecidableEq, Repr

/-- One quorum's stake table, as the operator-state query returns it. -/
abbrev QuorumStakeTable := List OperatorStateRetrieverOperator

/-- Modelled from the spec: `types.OperatorAvsState` is not in the sources (§3 gives its
fields). The map field has type `σ`: a heap reference while the chain caller fills it in,
the map itself once a caller reads it. -/
structure OperatorAvsState (σ : Type) where
  operator : OperatorAddr
  stakePerQuorum : σ
  blockNumber : BlockNum
deriving DecidableEq

/-- Modelled from the spec: `types.QuorumAvsState` is not in the sources (§3 gives its
fields). -/
structure QuorumAvsState where
  quorumNumber : QuorumNum
  totalStake : StakeAmount
  blockNumber : BlockNum
deriving DecidableEq, Repr

/-- `map[types.OperatorAddr]types.OperatorAvsState`, as a caller reads it. -/
abbrev OperatorsAvsState := AList fun _ : OperatorAddr => OperatorAvsState StakeMap

/-- `map[types.QuorumNum]types.QuorumAvsState`. -/
abbrev QuorumsAvsState := AList fun _ : QuorumNum => QuorumAvsState

/-- An entry of an operator map, as `range` yields it. -/
abbrev OperatorEntry := Σ _ : OperatorAddr, OperatorAvsState StakeMap

/-- A Go `error`: the text given to `errors.New`, or a main error wrapping a sub-error. -/
inductive Error where
  | new (msg : String)
  | wrap (mainErr subErr : Error)
deriving DecidableEq, Repr

/-- Modelled from the spec: `types.WrapError` is not in the sources. §7 has every
provider-facing error wrapped under a message naming the failed operation; a nil
sub-error leaves the main error as it is. -/
def wrapError (mainErr : Error) : Option Error → Error
  | some subErr => .wrap mainErr subErr
  | none => mainErr

/-- How a Go call ends: it returns (results or an error), the process exits inside
`logger.Fatal`, or it panics. -/
inductive Outcome (α : Type) where
  | ret (result : Except Error α)
  | exit (msg : String)
  | panic (msg : String)

/-- Modelled from the spec: the `logging` package is not in the sources. Only `Fatal`
matters here. The production logger logs and aborts the process (§9); the no-op logger
the tests build returns, and the code after the call runs. -/
structure Logger where
  fatalExits : Bool

/-- `logger.Fatal(msg, ...)`, followed by the code after it. -/
def Logger.fatal {α : Type} (logger : Logger) (msg : String) (next : Outcome α) : Outcome α :=
  if logger.fatalExits then .exit msg else next

/-- A `context.Context`, passed through to the chain and never inspected. -/
structure Context where
  id : Nat
deriving DecidableEq, Repr

/-- `context.Background()`. -/
def Context.background : Context := ⟨0⟩

/-- `bind.CallOpts`, with the two fields this code sets: the context, and the block the
chain is read at (`nil` reads the latest). -/
structure CallOpts where
  context : Option Context := none
  blockNumber : Option Int := none
deriving DecidableEq, Repr

end AvsRegistry
