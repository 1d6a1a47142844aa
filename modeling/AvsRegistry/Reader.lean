import AvsRegistry.ChainCaller

/-!
# The AVS registry chain reader

`AvsRegistryChainReader` (`chainio/clients/avsregistry/reader.go`) wraps the chain: the
client's `BlockNumber` and the bound `RegistryCoordinator`, `OperatorStateRetriever` and
`StakeRegistry` contracts. The chain is a set of answers, each a function of its call's
arguments. A reader call acts on the struct its caller's `opts` pointer names, and issues
chain calls, which the state records in order.

The three "current block" calls share one prelude, `withCurrentBlock`: default the context,
read the chain head, refuse a head that `uint32` cannot hold, and continue at that head.
Each call gives it its own message for a failed head read and its own continuation.

Seen as the reader the chain-calling service embeds, the chain reader closes the stack: a
failed chain query reaches the service's caller wrapped once per layer. The quorum bitmaps
the reader decodes go through `types.BitmapToQuorumIds`, which is not in the sources; it is
modelled from the spec.
-/

namespace AvsRegistry

/-- Modelled from the spec: `types.BitmapToQuorumIds` is not in the sources. §4.1: the
quorum numbers whose bits are set in a 256-bit bitmap, ascending, one per set bit. -/
def bitmapToQuorumIds (bitmap : Nat) : List QuorumNum :=
  ((List.range 256).filter bitmap.testBit).map UInt8.ofNat

/-- Quorum `q` is decoded exactly when its bit is set. -/
theorem mem_bitmapToQuorumIds (bitmap : Nat) (q : QuorumNum) :
    q ∈ bitmapToQuorumIds bitmap ↔ bitmap.testBit q.toNat := by
  simp only [bitmapToQuorumIds, List.mem_map, List.mem_filter, List.mem_range]
  constructor
  · rintro ⟨i, ⟨hi, hbit⟩, rfl⟩
    rwa [UInt8.toNat_ofNat_of_lt hi]
  · exact fun h => ⟨q.toNat, ⟨q.toNat_lt_size, h⟩,
      UInt8.toNat.inj (UInt8.toNat_ofNat_of_lt q.toNat_lt_size)⟩

example : bitmapToQuorumIds 11 = [0, 1, 3] := by decide

/-- A call the reader issues to the chain, with its arguments. -/
inductive Call where
  | blockNumber (ctx : Option Context)
  | getOperatorState0 (opts : CallOpts) (registryCoordinator : Address)
      (quorumNumbers : List QuorumNum) (blockNumber : UInt32)
  | getOperatorState (opts : CallOpts) (registryCoordinator operator : Address)
      (blockNumber : UInt32)
  | getCurrentQuorumBitmap (opts : CallOpts) (operator : Address)
  | getCurrentStake (opts : CallOpts) (operator : Address) (quorumNumber : QuorumNum)
  | getOperatorStatus (opts : CallOpts) (operator : Address)
  | quorumCount (opts : CallOpts)
deriving DecidableEq, Repr

/-- The chain's answers: `ethClient.BlockNumber` and the contract calls the reader makes. -/
structure Chain where
  blockNumber : Option Context → Except Error UInt64
  getOperatorState0 :
    CallOpts → Address → List QuorumNum → UInt32 → Except Error (List QuorumStakeTable)
  getOperatorState :
    CallOpts → Address → Address → UInt32 → Except Error (Nat × List QuorumStakeTable)
  getCurrentQuorumBitmap : CallOpts → Address → Except Error Nat
  getCurrentStake : CallOpts → Address → QuorumNum → Except Error StakeAmount
  getOperatorStatus : CallOpts → Address → Except Error UInt8
  quorumCount : CallOpts → Except Error UInt8

/-- `AvsRegistryChainReader`: the registry coordinator's address and the chain behind its
bound contracts. -/
structure AvsRegistryChainReader where
  registryCoordinatorAddr : Address
  chain : Chain

/-- What a reader call acts on: the struct its caller's `opts` pointer names, and the chain
calls issued so far, in order. -/
structure ReaderState where
  opts : CallOpts
  calls : List Call

/-- A reader call: a state transformer over `ReaderState`. -/
abbrev ReaderM := StateM ReaderState

/-- Issue a chain call: record it, and take the chain's answer. -/
def issue {α : Type} (c : Call) (answer : Except Error α) : ReaderM (Except Error α) :=
  modifyGet fun s => (answer, { s with calls := s.calls ++ [c] })

/-- Read the caller's `opts`. -/
def getOpts : ReaderM CallOpts := return (← get).opts

/-- Update the caller's `opts` in place. -/
def setOpts (f : CallOpts → CallOpts) : ReaderM Unit :=
  modify fun s => { s with opts := f s.opts }

/-- Issuing a call records it and returns the chain's answer. -/
@[simp] theorem issue_run {α : Type} (c : Call) (answer : Except Error α) (s : ReaderState) :
    (issue c answer).run s = (answer, { s with calls := s.calls ++ [c] }) := rfl

/-- Reading `opts` changes nothing. -/
@[simp] theorem getOpts_run (s : ReaderState) : getOpts.run s = (s.opts, s) := rfl

/-- Updating `opts` changes `opts` only. -/
@[simp] theorem setOpts_run (f : CallOpts → CallOpts) (s : ReaderState) :
    (setOpts f).run s = ((), { s with opts := f s.opts }) := rfl

/-- `if opts.Context == nil { opts.Context = context.Background() }`. -/
def CallOpts.withDefaultContext (opts : CallOpts) : CallOpts :=
  match opts.context with
  | none => { opts with context := some .background }
  | some _ => opts

/-- `math.MaxUint32`. -/
def maxUint32 : UInt64 := 4294967295

/-- Go's `int64(x)` for a `uint64` `x`: the same 64 bits read as two's complement. -/
def toInt64 (x : UInt64) : Int := (x.toNat : Int).bmod (2 ^ 64)

/-- `curBlock > math.MaxUint32` holds exactly for the heads from `2 ^ 32` on. -/
theorem gt_maxUint32_iff (h : UInt64) : h > maxUint32 ↔ 2 ^ 32 ≤ h.toNat := by
  show 4294967295 < h.toNat ↔ _
  omega

/-- A head at most `math.MaxUint32` survives `uint32(curBlock)` unchanged. -/
theorem toNat_toUInt32_of_le {h : UInt64} (hle : ¬ h > maxUint32) : h.toUInt32.toNat = h.toNat := by
  rw [gt_maxUint32_iff] at hle
  exact UInt32.toNat_ofNat_of_lt (show h.toNat < 2 ^ 32 by omega)

/-- A head at most `math.MaxUint32` survives `int64(curBlock)` unchanged. -/
theorem toInt64_of_le {h : UInt64} (hle : ¬ h > maxUint32) : toInt64 h = h.toNat := by
  rw [gt_maxUint32_iff] at hle
  rw [toInt64, Int.bmod]
  have : (h.toNat : Int) % ((2 ^ 64 : Nat) : Int) = h.toNat := Int.emod_eq_of_lt (by omega) (by omega)
  rw [this]
  omega

namespace AvsRegistryChainReader

variable (r : AvsRegistryChainReader)

/-- `ethClient.BlockNumber(ctx)`. -/
def blockNumber (ctx : Option Context) : ReaderM (Except Error UInt64) :=
  issue (.blockNumber ctx) (r.chain.blockNumber ctx)

/-- `operatorStateRetriever.GetOperatorState0`: the stake tables of the quorums at a block. -/
def getOperatorState0 (opts : CallOpts) (quorumNumbers : List QuorumNum) (blockNumber : UInt32) :
    ReaderM (Except Error (List QuorumStakeTable)) :=
  issue (.getOperatorState0 opts r.registryCoordinatorAddr quorumNumbers blockNumber)
    (r.chain.getOperatorState0 opts r.registryCoordinatorAddr quorumNumbers blockNumber)

/-- `operatorStateRetriever.GetOperatorState`: an operator's quorum bitmap and its quorums'
stake tables at a block. -/
def getOperatorState (opts : CallOpts) (operator : Address) (blockNumber : UInt32) :
    ReaderM (Except Error (Nat × List QuorumStakeTable)) :=
  issue (.getOperatorState opts r.registryCoordinatorAddr operator blockNumber)
    (r.chain.getOperatorState opts r.registryCoordinatorAddr operator blockNumber)

/-- `registryCoordinator.GetCurrentQuorumBitmap`. -/
def getCurrentQuorumBitmap (opts : CallOpts) (operator : Address) : ReaderM (Except Error Nat) :=
  issue (.getCurrentQuorumBitmap opts operator) (r.chain.getCurrentQuorumBitmap opts operator)

/-- `stakeRegistry.GetCurrentStake`. -/
def getCurrentStake (opts : CallOpts) (operator : Address) (quorum : QuorumNum) :
    ReaderM (Except Error StakeAmount) :=
  issue (.getCurrentStake opts operator quorum) (r.chain.getCurrentStake opts operator quorum)

/-- `registryCoordinator.GetOperatorStatus`. -/
def getOperatorStatus (opts : CallOpts) (operator : Address) : ReaderM (Except Error UInt8) :=
  issue (.getOperatorStatus opts operator) (r.chain.getOperatorStatus opts operator)

/-- `registryCoordinator.QuorumCount`. -/
def quorumCount (opts : CallOpts) : ReaderM (Except Error UInt8) :=
  issue (.quorumCount opts) (r.chain.quorumCount opts)

/-- `GetQuorumCount`, lines 125–127. -/
def getQuorumCount : ReaderM (Except Error UInt8) := do
  r.quorumCount (← getOpts)

/-- Lines 133–143, and their copies at 168–177 and 222–233: default the context, read the
chain head, refuse a head `uint32` cannot hold, and continue at the head. -/
def withCurrentBlock {α : Type} (blockNumberFailed : String)
    (k : UInt64 → ReaderM (Except Error α)) : ReaderM (Except Error α) := do
  setOpts CallOpts.withDefaultContext
  match ← r.blockNumber (← getOpts).context with
  | .error err => return .error (wrapError (.new blockNumberFailed) (some err))
  | .ok curBlock =>
    if curBlock > maxUint32 then
      return .error
        (wrapError (.new "Current block number is too large to be converted to uint32") none)
    else k curBlock

/-- `GetOperatorsStakeInQuorumsAtBlock`, lines 148–162. -/
def getOperatorsStakeInQuorumsAtBlock (quorumNumbers : List QuorumNum) (blockNumber : UInt32) :
    ReaderM (Except Error (List QuorumStakeTable)) := do
  match ← r.getOperatorState0 (← getOpts) quorumNumbers blockNumber with
  | .error err => return .error (wrapError (.new "Failed to get operators state") (some err))
  | .ok operatorStakes => return .ok operatorStakes

/-- `GetOperatorsStakeInQuorumsAtCurrentBlock`, lines 129–144. -/
def getOperatorsStakeInQuorumsAtCurrentBlock (quorumNumbers : List QuorumNum) :
    ReaderM (Except Error (List QuorumStakeTable)) :=
  r.withCurrentBlock "Cannot get current block number" fun curBlock =>
    r.getOperatorsStakeInQuorumsAtBlock quorumNumbers curBlock.toUInt32

/-- Lines 187–194: each quorum's operator addresses, appended one by one. -/
def operatorAddrs (operatorStakes : List QuorumStakeTable) : List (List Address) :=
  operatorStakes.foldl (fun quorumOperatorAddrs quorum =>
    quorumOperatorAddrs ++
      [quorum.foldl (fun operatorAddrs operator => operatorAddrs ++ [operator.operator]) []]) []

/-- Lines 178–196: the operator-state query at the head, each table replaced by its
operators' addresses. -/
def operatorAddrsAtBlock (quorumNumbers : List QuorumNum) (blockNumber : UInt32) :
    ReaderM (Except Error (List (List Address))) := do
  match ← r.getOperatorState0 (← getOpts) quorumNumbers blockNumber with
  | .error err => return .error (wrapError (.new "Failed to get operators state") (some err))
  | .ok operatorStakes => return .ok (operatorAddrs operatorStakes)

/-- `GetOperatorAddrsInQuorumsAtCurrentBlock`, lines 164–197. -/
def getOperatorAddrsInQuorumsAtCurrentBlock (quorumNumbers : List QuorumNum) :
    ReaderM (Except Error (List (List Address))) :=
  r.withCurrentBlock "Failed to get current block number" fun curBlock =>
    r.operatorAddrsAtBlock quorumNumbers curBlock.toUInt32

/-- `GetOperatorsStakeInQuorumsOfOperatorAtBlock`, lines 199–214. -/
def getOperatorsStakeInQuorumsOfOperatorAtBlock (operator : Address) (blockNumber : UInt32) :
    ReaderM (Except Error (List QuorumNum × List QuorumStakeTable)) := do
  match ← r.getOperatorState (← getOpts) operator blockNumber with
  | .error err => return .error (wrapError (.new "Failed to get operators state") (some err))
  | .ok (quorumBitmap, operatorStakes) => return .ok (bitmapToQuorumIds quorumBitmap, operatorStakes)

/-- `GetOperatorsStakeInQuorumsOfOperatorAtCurrentBlock`, lines 218–234: the only one of the
three that also pins `opts.BlockNumber` to the head. -/
def getOperatorsStakeInQuorumsOfOperatorAtCurrentBlock (operator : Address) :
    ReaderM (Except Error (List QuorumNum × List QuorumStakeTable)) :=
  r.withCurrentBlock "Failed to get current block number" fun curBlock => do
    setOpts fun opts => { opts with blockNumber := some (toInt64 curBlock) }
    r.getOperatorsStakeInQuorumsOfOperatorAtBlock operator curBlock.toUInt32

/-- Lines 249–259: each quorum's current stake, stopping at the first failed read. -/
def getCurrentStakes (operator : Address) :
    List QuorumNum → StakeMap → ReaderM (Except Error StakeMap)
  | [], quorumStakes => return .ok quorumStakes
  | quorum :: quorums, quorumStakes => do
    match ← r.getCurrentStake {} operator quorum with
    | .error err => return .error (wrapError (.new "Failed to get operator stake") (some err))
    | .ok stake => getCurrentStakes operator quorums (quorumStakes.insert quorum stake)

/-- `GetOperatorStakeInQuorumsOfOperatorAtCurrentBlock`, lines 239–261. -/
def getOperatorStakeInQuorumsOfOperatorAtCurrentBlock (operator : Address) :
    ReaderM (Except Error StakeMap) := do
  match ← r.getCurrentQuorumBitmap (← getOpts) operator with
  | .error err => return .error (wrapError (.new "Failed to get operator quorums") (some err))
  | .ok quorumBitmap => r.getCurrentStakes operator (bitmapToQuorumIds quorumBitmap) ∅

/-- `IsOperatorRegistered`, lines 263–275: status 1 is `REGISTERED`; every other status,
unknown ones included, is not registered. -/
def isOperatorRegistered (operatorAddress : Address) : ReaderM (Except Error Bool) := do
  match ← r.getOperatorStatus (← getOpts) operatorAddress with
  | .error err => return .error (wrapError (.new "Failed to get operator status") (some err))
  | .ok operatorStatus => return .ok (operatorStatus == 1)

/-! ### Run lemmas -/

/-- The state once the prelude has read the head: `opts` with its context defaulted, and
the head read recorded. -/
def headRead (s : ReaderState) : ReaderState :=
  { opts := s.opts.withDefaultContext,
    calls := s.calls ++ [.blockNumber s.opts.withDefaultContext.context] }

/-- The prelude reads the head once, under the defaulted context, and then fails or continues
at the head. -/
theorem withCurrentBlock_run {α : Type} (m : String) (k : UInt64 → ReaderM (Except Error α))
    (s : ReaderState) :
    (r.withCurrentBlock m k).run s =
      match r.chain.blockNumber s.opts.withDefaultContext.context with
      | .error err => (.error (wrapError (.new m) (some err)), headRead s)
      | .ok curBlock =>
        if curBlock > maxUint32 then
          (.error (wrapError (.new "Current block number is too large to be converted to uint32") none),
            headRead s)
        else (k curBlock).run (headRead s) := by
  simp only [withCurrentBlock, blockNumber, StateT.run_bind, setOpts_run, getOpts_run, issue_run,
    Id.bind_eq]
  cases r.chain.blockNumber s.opts.withDefaultContext.context
  · rfl
  · dsimp only
    split <;> rfl

/-- A head the prelude lets through reaches the continuation, at the state `headRead s`. -/
theorem withCurrentBlock_run_of_le {α : Type} (m : String) (k : UInt64 → ReaderM (Except Error α))
    (s : ReaderState) {h : UInt64}
    (hh : r.chain.blockNumber s.opts.withDefaultContext.context = .ok h) (hle : ¬ h > maxUint32) :
    (r.withCurrentBlock m k).run s = (k h).run (headRead s) := by
  rw [withCurrentBlock_run, hh]
  exact if_neg hle

/-- When the head read fails, or returns only heads above `maxUint32`, the prelude fails with
nothing issued after the head read. -/
theorem withCurrentBlock_run_of_no_head {α : Type} (m : String)
    (k : UInt64 → ReaderM (Except Error α)) (s : ReaderState)
    (hh : ∀ h, r.chain.blockNumber s.opts.withDefaultContext.context = .ok h → h > maxUint32) :
    ∃ e, (r.withCurrentBlock m k).run s = (.error e, headRead s) := by
  rw [withCurrentBlock_run]
  cases hb : r.chain.blockNumber s.opts.withDefaultContext.context with
  | error err => exact ⟨_, rfl⟩
  | ok h => exact ⟨_, if_pos (hh h hb)⟩

/-- Two preludes that differ only in their message, with continuations that agree up to `f`
on success and leave the same state, agree up to `f` on success and leave the same state. -/
theorem withCurrentBlock_agree {α β : Type} (m₁ m₂ : String)
    (k₁ : UInt64 → ReaderM (Except Error α)) (k₂ : UInt64 → ReaderM (Except Error β)) (f : α → β)
    (hk : ∀ h s, ((k₂ h).run s).1.toOption = (((k₁ h).run s).1.toOption).map f ∧
      ((k₂ h).run s).2 = ((k₁ h).run s).2) (s : ReaderState) :
    ((r.withCurrentBlock m₂ k₂).run s).1.toOption =
        (((r.withCurrentBlock m₁ k₁).run s).1.toOption).map f ∧
      ((r.withCurrentBlock m₂ k₂).run s).2 = ((r.withCurrentBlock m₁ k₁).run s).2 := by
  rw [withCurrentBlock_run, withCurrentBlock_run]
  cases r.chain.blockNumber s.opts.withDefaultContext.context with
  | error err => exact ⟨rfl, rfl⟩
  | ok h =>
    dsimp only
    split
    · exact ⟨rfl, rfl⟩
    · exact hk h (headRead s)

/-- The historical stake query: one `GetOperatorState0` call under the caller's `opts`, its
error wrapped. -/
theorem getOperatorsStakeInQuorumsAtBlock_run (quorumNumbers : List QuorumNum) (blockNumber : UInt32)
    (s : ReaderState) :
    (r.getOperatorsStakeInQuorumsAtBlock quorumNumbers blockNumber).run s =
      ((r.chain.getOperatorState0 s.opts r.registryCoordinatorAddr quorumNumbers blockNumber).mapError
          fun err => wrapError (.new "Failed to get operators state") (some err),
        { s with calls := s.calls ++
          [.getOperatorState0 s.opts r.registryCoordinatorAddr quorumNumbers blockNumber] }) := by
  simp only [getOperatorsStakeInQuorumsAtBlock, getOperatorState0, StateT.run_bind, getOpts_run,
    issue_run, Id.bind_eq]
  cases r.chain.getOperatorState0 s.opts r.registryCoordinatorAddr quorumNumbers blockNumber <;> rfl

/-- The historical operator query issues one `GetOperatorState` call under the caller's
`opts`. -/
theorem getOperatorsStakeInQuorumsOfOperatorAtBlock_run (operator : Address) (blockNumber : UInt32)
    (s : ReaderState) :
    ((r.getOperatorsStakeInQuorumsOfOperatorAtBlock operator blockNumber).run s).2 =
      { s with calls := s.calls ++
        [.getOperatorState s.opts r.registryCoordinatorAddr operator blockNumber] } := by
  simp only [getOperatorsStakeInQuorumsOfOperatorAtBlock, getOperatorState, StateT.run_bind,
    getOpts_run, issue_run, Id.bind_eq]
  cases r.chain.getOperatorState s.opts r.registryCoordinatorAddr operator blockNumber <;> rfl

/-- Lines 187–194 copy each table's operator addresses, in order. -/
theorem operatorAddrs_eq_map (operatorStakes : List QuorumStakeTable) :
    operatorAddrs operatorStakes = operatorStakes.map (List.map (·.operator)) := by
  have append_eq_map : ∀ {α β : Type} (f : α → β) (l : List α) (acc : List β),
      l.foldl (fun acc x => acc ++ [f x]) acc = acc ++ l.map f := by
    intro α β f l
    induction l with
    | nil => simp
    | cons x l ih => intro acc; simp [ih]
  rw [operatorAddrs, append_eq_map, List.nil_append]
  exact List.map_congr_left fun t _ => by rw [append_eq_map, List.nil_append]

/-- The address tail is the stake query at the same block, each table mapped to its
addresses. -/
theorem operatorAddrsAtBlock_run (quorumNumbers : List QuorumNum) (blockNumber : UInt32)
    (s : ReaderState) :
    (r.operatorAddrsAtBlock quorumNumbers blockNumber).run s =
      (((r.getOperatorsStakeInQuorumsAtBlock quorumNumbers blockNumber).run s).1.map operatorAddrs,
        ((r.getOperatorsStakeInQuorumsAtBlock quorumNumbers blockNumber).run s).2) := by
  simp only [operatorAddrsAtBlock, getOperatorState0, StateT.run_bind, getOpts_run, issue_run,
    Id.bind_eq, getOperatorsStakeInQuorumsAtBlock_run]
  cases r.chain.getOperatorState0 s.opts r.registryCoordinatorAddr quorumNumbers blockNumber <;> rfl

/-! ### The per-quorum stake loop -/

/-- With no quorum left, the stake loop returns the map it has. -/
@[simp] theorem getCurrentStakes_nil_run (operator : Address) (m : StakeMap) (s : ReaderState) :
    (r.getCurrentStakes operator [] m).run s = (.ok m, s) := rfl

/-- One round of the stake loop: read the quorum's stake with empty `CallOpts`, then stop
on an error or record the stake and go on. -/
theorem getCurrentStakes_cons_run (operator : Address) (q : QuorumNum) (L : List QuorumNum)
    (m : StakeMap) (s : ReaderState) :
    (r.getCurrentStakes operator (q :: L) m).run s =
      let s' := { s with calls := s.calls ++ [.getCurrentStake {} operator q] }
      match r.chain.getCurrentStake {} operator q with
      | .error err => (.error (wrapError (.new "Failed to get operator stake") (some err)), s')
      | .ok stake => (r.getCurrentStakes operator L (m.insert q stake)).run s' := by
  simp only [getCurrentStakes, getCurrentStake, StateT.run_bind, issue_run, Id.bind_eq]
  cases r.chain.getCurrentStake {} operator q <;> rfl

/-- When every read succeeds, the loop reads each quorum once, in order, and adds each
quorum's stake to the map. -/
theorem getCurrentStakes_run_ok (operator : Address) (L : List QuorumNum) (m : StakeMap)
    (s : ReaderState) (hok : ∀ q ∈ L, (r.chain.getCurrentStake {} operator q).isOk) :
    ∃ m', (r.getCurrentStakes operator L m).run s =
        (.ok m', { s with calls := s.calls ++ L.map (.getCurrentStake {} operator) }) ∧
      ∀ q, m'.lookup q =
        if q ∈ L then (r.chain.getCurrentStake {} operator q).toOption else m.lookup q := by
  induction L generalizing m s with
  | nil => exact ⟨m, by simp, fun q => by simp⟩
  | cons q₀ L ih =>
    cases hq₀ : r.chain.getCurrentStake {} operator q₀ with
    | error err => simp [hq₀, Except.isOk, Except.toBool] at hok
    | ok stake =>
      obtain ⟨m', hrun, hlookup⟩ := ih (m.insert q₀ stake)
        { s with calls := s.calls ++ [.getCurrentStake {} operator q₀] }
        fun q hq => hok q (List.mem_cons_of_mem _ hq)
      refine ⟨m', by simp [getCurrentStakes_cons_run, hq₀, hrun], fun q => ?_⟩
      rw [hlookup]
      by_cases hq : q ∈ L
      · simp [hq]
      · by_cases hq' : q = q₀
        · subst hq'; simp [hq, hq₀, Except.toOption]
        · simp [hq, hq', AList.lookup_insert_ne hq']

/-- The loop stops at the first failed read: no quorum after it is read, and no map is
returned. -/
theorem getCurrentStakes_run_error (operator : Address) (L : List QuorumNum) (m : StakeMap)
    (s : ReaderState) (k : Nat) (hk : k < L.length) (e : Error)
    (hok : ∀ q ∈ L.take k, (r.chain.getCurrentStake {} operator q).isOk)
    (herr : r.chain.getCurrentStake {} operator L[k] = .error e) :
    (r.getCurrentStakes operator L m).run s =
      (.error (wrapError (.new "Failed to get operator stake") (some e)),
        { s with calls := s.calls ++ (L.take (k + 1)).map (.getCurrentStake {} operator) }) := by
  induction L generalizing k m s with
  | nil => simp at hk
  | cons q₀ L ih =>
    cases k with
    | zero =>
      simp [getCurrentStakes_cons_run, show r.chain.getCurrentStake {} operator q₀ = .error e from herr]
    | succ k =>
      cases hq₀ : r.chain.getCurrentStake {} operator q₀ with
      | error err => simp [hq₀, Except.isOk, Except.toBool] at hok
      | ok stake =>
        rw [getCurrentStakes_cons_run]
        simp only [hq₀]
        rw [ih (m.insert q₀ stake) _ k (by simpa using hk) (fun q hq => hok q (by simp [hq])) herr]
        simp

/-- The operator's current stakes: one bitmap read under the caller's `opts`, then the loop
over the decoded quorums from an empty map. -/
theorem getOperatorStakeInQuorumsOfOperatorAtCurrentBlock_run (operator : Address) (s : ReaderState) :
    (r.getOperatorStakeInQuorumsOfOperatorAtCurrentBlock operator).run s =
      match r.chain.getCurrentQuorumBitmap s.opts operator with
      | .error err => (.error (wrapError (.new "Failed to get operator quorums") (some err)),
          { s with calls := s.calls ++ [.getCurrentQuorumBitmap s.opts operator] })
      | .ok bitmap => (r.getCurrentStakes operator (bitmapToQuorumIds bitmap) ∅).run
          { s with calls := s.calls ++ [.getCurrentQuorumBitmap s.opts operator] } := by
  simp only [getOperatorStakeInQuorumsOfOperatorAtCurrentBlock, getCurrentQuorumBitmap,
    StateT.run_bind, getOpts_run, issue_run, Id.bind_eq]
  cases r.chain.getCurrentQuorumBitmap s.opts operator <;> rfl

/-! ### The service over the chain reader -/

/-- The chain reader as the reader the chain-calling service embeds: its answer to a caller's
`opts`. -/
def toAvsRegistryReader : AvsRegistryReader :=
  ⟨fun opts quorumNumbers blockNumber =>
    ((r.getOperatorsStakeInQuorumsAtBlock quorumNumbers blockNumber).run ⟨opts, []⟩).1⟩

/-- As the service's reader, the chain reader answers with the chain's operator-state query,
its error wrapped under "Failed to get operators state". -/
theorem toAvsRegistryReader_getOperatorsStakeInQuorumsAtBlock (opts : CallOpts)
    (quorumNumbers : List QuorumNum) (blockNumber : UInt32) :
    r.toAvsRegistryReader.getOperatorsStakeInQuorumsAtBlock opts quorumNumbers blockNumber =
      (r.chain.getOperatorState0 opts r.registryCoordinatorAddr quorumNumbers blockNumber).mapError
        fun err => wrapError (.new "Failed to get operators state") (some err) := by
  simp only [toAvsRegistryReader, getOperatorsStakeInQuorumsAtBlock_run]

/-- A chain whose head read answers `head`, whose operator-state queries answer one table,
whose current quorum bitmap is `0b1011`, and whose stake reads fail for quorum `failing` only. -/
def sampleChain (head : Except Error UInt64) (failing : QuorumNum) : Chain where
  blockNumber _ := head
  getOperatorState0 _ _ _ _ := .ok [[⟨1, 100⟩]]
  getOperatorState _ _ _ _ := .ok (11, [[⟨1, 100⟩]])
  getCurrentQuorumBitmap _ _ := .ok 11
  getCurrentStake _ _ q := if q = failing then .error (.new "execution reverted") else .ok 100
  getOperatorStatus _ _ := .ok 1
  quorumCount _ := .ok 2

/-- A reader over `sampleChain`. -/
def sampleReader (head : Except Error UInt64) (failing : QuorumNum) : AvsRegistryChainReader :=
  ⟨0, sampleChain head failing⟩

/-- The chain-calling service over the chain reader: a failed chain query reaches the caller
wrapped once by each layer, and a response with a table per quorum becomes the view of its
tables. -/
theorem getQuorumsAvsStateAtBlock_over_chainReader (logger : Logger) (order : MapOrder)
    (ctx : Context) (Q : List QuorumNum) (b : BlockNum) :
    (∀ e, r.chain.getOperatorState0 { context := some ctx } r.registryCoordinatorAddr Q b = .error e →
      (AvsRegistryServiceChainCaller.mk r.toAvsRegistryReader logger).getQuorumsAvsStateAtBlock order
          ctx Q b =
        .ret (.error (wrapError (.new "Failed to get quorum state") (some
          (wrapError (.new "Failed to get operator state") (some
            (wrapError (.new "Failed to get operators state") (some e)))))))) ∧
    ∀ T, r.chain.getOperatorState0 { context := some ctx } r.registryCoordinatorAddr Q b = .ok T →
      T.length = Q.length →
      ∃ M, (AvsRegistryServiceChainCaller.mk r.toAvsRegistryReader logger).getOperatorsAvsStateAtBlock
          ctx Q b = .ret (.ok M) ∧ ∀ o, M.lookup o = operatorsView b Q T o := by
  refine ⟨fun e he => ?_, fun T hT hlen => getOperatorsAvsStateAtBlock_view
    (by rw [toAvsRegistryReader_getOperatorsStakeInQuorumsAtBlock, hT]; rfl) hlen⟩
  simp [AvsRegistryServiceChainCaller.getQuorumsAvsStateAtBlock,
    AvsRegistryServiceChainCaller.getOperatorsAvsStateAtBlock,
    toAvsRegistryReader_getOperatorsStakeInQuorumsAtBlock, he, Except.mapError]

/-- `sampleChain` with its operator-state query reverted. -/
def revertingChain : Chain :=
  { sampleChain (.ok 7) 3 with getOperatorState0 := fun _ _ _ _ => .error (.new "execution reverted") }

/-- A reverted operator-state query reaches the caller wrapped three times; an answered one
gives the view of its table. -/
theorem getQuorumsAvsStateAtBlock_over_chainReader_sample :
    revertingChain.getOperatorState0 { context := some ⟨0⟩ } 0 [1] 5 =
        .error (.new "execution reverted") ∧
      (AvsRegistryServiceChainCaller.mk (AvsRegistryChainReader.mk 0 revertingChain).toAvsRegistryReader
          ⟨true⟩).getQuorumsAvsStateAtBlock .insertion ⟨0⟩ [1] 5 =
        .ret (.error (wrapError (.new "Failed to get quorum state") (some
          (wrapError (.new "Failed to get operator state") (some
            (wrapError (.new "Failed to get operators state") (some (.new "execution reverted")))))))) ∧
      (sampleChain (.ok 7) 3).getOperatorState0 { context := some ⟨0⟩ } 0 [1] 5 = .ok [[⟨1, 100⟩]] ∧
      ∃ M, (AvsRegistryServiceChainCaller.mk (sampleReader (.ok 7) 3).toAvsRegistryReader
          ⟨true⟩).getOperatorsAvsStateAtBlock ⟨0⟩ [1] 5 = .ret (.ok M) ∧
        ∀ o, M.lookup o = operatorsView 5 [1] [[⟨1, 100⟩]] o :=
  ⟨rfl, (getQuorumsAvsStateAtBlock_over_chainReader ⟨0, revertingChain⟩ ⟨true⟩ .insertion ⟨0⟩ [1] 5).1
      _ rfl, rfl,
    (getQuorumsAvsStateAtBlock_over_chainReader (sampleReader (.ok 7) 3) ⟨true⟩ .insertion ⟨0⟩ [1]
      5).2 _ rfl rfl⟩

/-! ### The three current-block readers -/

/-- Each current-block reader reads the head once. A head `uint32` holds is passed on exactly,
to exactly one historical query, and the operator reader also pins `opts.BlockNumber` to it;
when the head read fails or every head it can return is too large, no query follows and the
call fails. -/
theorem currentBlock_queries_at_head (Q : List QuorumNum) (operator : Address) (s : ReaderState) :
    (∀ h, r.chain.blockNumber s.opts.withDefaultContext.context = .ok h → h.toNat ≤ 2 ^ 32 - 1 →
      h.toUInt32.toNat = h.toNat ∧
      ((r.getOperatorsStakeInQuorumsAtCurrentBlock Q).run s).2 =
        { headRead s with calls := (headRead s).calls ++
          [.getOperatorState0 (headRead s).opts r.registryCoordinatorAddr Q h.toUInt32] } ∧
      ((r.getOperatorAddrsInQuorumsAtCurrentBlock Q).run s).2 =
        { headRead s with calls := (headRead s).calls ++
          [.getOperatorState0 (headRead s).opts r.registryCoordinatorAddr Q h.toUInt32] } ∧
      ((r.getOperatorsStakeInQuorumsOfOperatorAtCurrentBlock operator).run s).2 =
        { opts := { (headRead s).opts with blockNumber := some (h.toNat : Int) },
          calls := (headRead s).calls ++
            [.getOperatorState { (headRead s).opts with blockNumber := some (h.toNat : Int) }
              r.registryCoordinatorAddr operator h.toUInt32] }) ∧
    ((∀ h, r.chain.blockNumber s.opts.withDefaultContext.context = .ok h → 2 ^ 32 ≤ h.toNat) →
      (∃ e, (r.getOperatorsStakeInQuorumsAtCurrentBlock Q).run s = (.error e, headRead s)) ∧
      (∃ e, (r.getOperatorAddrsInQuorumsAtCurrentBlock Q).run s = (.error e, headRead s)) ∧
      (∃ e, (r.getOperatorsStakeInQuorumsOfOperatorAtCurrentBlock operator).run s =
        (.error e, headRead s))) := by
  constructor
  · intro h hh hle
    have hle' : ¬ h > maxUint32 := by rw [gt_maxUint32_iff]; omega
    refine ⟨toNat_toUInt32_of_le hle', ?_, ?_, ?_⟩
    · rw [getOperatorsStakeInQuorumsAtCurrentBlock, withCurrentBlock_run_of_le r _ _ s hh hle',
        getOperatorsStakeInQuorumsAtBlock_run]
    · rw [getOperatorAddrsInQuorumsAtCurrentBlock, withCurrentBlock_run_of_le r _ _ s hh hle',
        operatorAddrsAtBlock_run, getOperatorsStakeInQuorumsAtBlock_run]
    · rw [getOperatorsStakeInQuorumsOfOperatorAtCurrentBlock, withCurrentBlock_run_of_le r _ _ s hh hle']
      simp only [StateT.run_bind, setOpts_run, Id.bind_eq,
        getOperatorsStakeInQuorumsOfOperatorAtBlock_run, toInt64_of_le hle']
  · intro hh
    have hgt : ∀ h, r.chain.blockNumber s.opts.withDefaultContext.context = .ok h → h > maxUint32 :=
      fun h hb => (gt_maxUint32_iff h).mpr (hh h hb)
    exact ⟨withCurrentBlock_run_of_no_head r _ _ s hgt, withCurrentBlock_run_of_no_head r _ _ s hgt,
      withCurrentBlock_run_of_no_head r _ _ s hgt⟩

/-- Head 7 gives one query at block 7; head `2 ^ 32` gives an error after the head read alone.
-/
theorem currentBlock_queries_at_head_sample :
    (((sampleReader (.ok 7) 3).getOperatorsStakeInQuorumsAtCurrentBlock [1]).run ⟨{}, []⟩).2.calls =
        [.blockNumber (some .background), .getOperatorState0 { context := some .background } 0 [1] 7] ∧
      ∃ e, ((sampleReader (.ok 4294967296) 3).getOperatorsStakeInQuorumsAtCurrentBlock [1]).run ⟨{}, []⟩ =
        (.error e, ⟨{ context := some .background }, [.blockNumber (some .background)]⟩) :=
  ⟨by rw [((currentBlock_queries_at_head (sampleReader (.ok 7) 3) [1] 0 ⟨{}, []⟩).1 7 rfl
      (by decide)).2.1]; rfl,
    ((currentBlock_queries_at_head (sampleReader (.ok 4294967296) 3) [1] 0 ⟨{}, []⟩).2
      fun h hh => by cases hh; decide).1⟩

/-- The address reader succeeds exactly when the stake reader does, with each table replaced
by its operators' addresses in order, and leaves the same calls and `opts` behind. When the
head read answers a head `uint32` holds and the operator-state query at that head answers
`T`, the stake reader returns `T`, and the address reader returns, table by table and in
order, the operator addresses of `T`. -/
theorem getOperatorAddrsInQuorumsAtCurrentBlock_agrees (Q : List QuorumNum) (s : ReaderState) :
    (((r.getOperatorAddrsInQuorumsAtCurrentBlock Q).run s).1.toOption =
        (((r.getOperatorsStakeInQuorumsAtCurrentBlock Q).run s).1.toOption).map
          (List.map (List.map OperatorStateRetrieverOperator.operator)) ∧
      ((r.getOperatorAddrsInQuorumsAtCurrentBlock Q).run s).2 =
        ((r.getOperatorsStakeInQuorumsAtCurrentBlock Q).run s).2) ∧
    ∀ h T, r.chain.blockNumber s.opts.withDefaultContext.context = .ok h → h.toNat ≤ 2 ^ 32 - 1 →
      r.chain.getOperatorState0 s.opts.withDefaultContext r.registryCoordinatorAddr Q h.toUInt32 =
        .ok T →
      ((r.getOperatorsStakeInQuorumsAtCurrentBlock Q).run s).1 = .ok T ∧
      ((r.getOperatorAddrsInQuorumsAtCurrentBlock Q).run s).1 =
        .ok (T.map (List.map OperatorStateRetrieverOperator.operator)) := by
  refine ⟨withCurrentBlock_agree r _ _ _ _ _ (fun h s => ?_) s, fun h T hh hle hT => ?_⟩
  · rw [operatorAddrsAtBlock_run, funext operatorAddrs_eq_map]
    cases ((r.getOperatorsStakeInQuorumsAtBlock Q h.toUInt32).run s).1 <;> exact ⟨rfl, rfl⟩
  · have hle' : ¬ h > maxUint32 := by rw [gt_maxUint32_iff]; omega
    rw [getOperatorsStakeInQuorumsAtCurrentBlock, getOperatorAddrsInQuorumsAtCurrentBlock,
      withCurrentBlock_run_of_le r _ _ s hh hle', withCurrentBlock_run_of_le r _ _ s hh hle',
      operatorAddrsAtBlock_run, getOperatorsStakeInQuorumsAtBlock_run, headRead, hT,
      funext operatorAddrs_eq_map]
    exact ⟨rfl, rfl⟩

/-- A chain at head 7 whose operator-state query answers each requested quorum with its
`sampleQuorumTable`. -/
def sampleTablesChain : Chain :=
  { sampleChain (.ok 7) 3 with getOperatorState0 := fun _ _ Q _ => .ok (Q.map sampleQuorumTable) }

/-- At head 7, quorums 1 and 2: the stake reader returns the two tables, the address reader
their operators. -/
theorem getOperatorAddrsInQuorumsAtCurrentBlock_agrees_sample :
    sampleTablesChain.blockNumber (some .background) = .ok 7 ∧ (7 : UInt64).toNat ≤ 2 ^ 32 - 1 ∧
      sampleTablesChain.getOperatorState0 { context := some .background } 0 [1, 2] 7 =
        .ok [[⟨1, 100⟩], [⟨1, 30⟩, ⟨2, 70⟩]] ∧
      (((AvsRegistryChainReader.mk 0 sampleTablesChain).getOperatorsStakeInQuorumsAtCurrentBlock
          [1, 2]).run ⟨{}, []⟩).1 = .ok [[⟨1, 100⟩], [⟨1, 30⟩, ⟨2, 70⟩]] ∧
      (((AvsRegistryChainReader.mk 0 sampleTablesChain).getOperatorAddrsInQuorumsAtCurrentBlock
          [1, 2]).run ⟨{}, []⟩).1 = .ok [[1], [1, 2]] :=
  ⟨rfl, by decide, rfl, (getOperatorAddrsInQuorumsAtCurrentBlock_agrees ⟨0, sampleTablesChain⟩ [1, 2]
    ⟨{}, []⟩).2 7 _ rfl (by decide) rfl⟩

/-! ### The operator's current stakes -/

/-- The operator's current stakes are all or nothing: a failed bitmap read ends the call at
once; when every stake read succeeds the map holds exactly the decoded quorums, each with its
read stake; and the first failed stake read ends the call with an error, no later quorum read. -/
theorem getOperatorStakeInQuorumsOfOperatorAtCurrentBlock_all_or_nothing (operator : Address)
    (s : ReaderState) :
    (∀ e, r.chain.getCurrentQuorumBitmap s.opts operator = .error e →
      (r.getOperatorStakeInQuorumsOfOperatorAtCurrentBlock operator).run s =
        (.error (wrapError (.new "Failed to get operator quorums") (some e)),
          { s with calls := s.calls ++ [.getCurrentQuorumBitmap s.opts operator] })) ∧
    ∀ bitmap, r.chain.getCurrentQuorumBitmap s.opts operator = .ok bitmap →
      ((∀ q ∈ bitmapToQuorumIds bitmap, (r.chain.getCurrentStake {} operator q).isOk) →
        ∃ m, (r.getOperatorStakeInQuorumsOfOperatorAtCurrentBlock operator).run s =
            (.ok m, { s with calls := s.calls ++ .getCurrentQuorumBitmap s.opts operator ::
              (bitmapToQuorumIds bitmap).map (.getCurrentStake {} operator) }) ∧
          ∀ q, m.lookup q =
            if q ∈ bitmapToQuorumIds bitmap then (r.chain.getCurrentStake {} operator q).toOption
            else none) ∧
      ∀ k (hk : k < (bitmapToQuorumIds bitmap).length) e,
        (∀ q ∈ (bitmapToQuorumIds bitmap).take k, (r.chain.getCurrentStake {} operator q).isOk) →
        r.chain.getCurrentStake {} operator (bitmapToQuorumIds bitmap)[k] = .error e →
        (r.getOperatorStakeInQuorumsOfOperatorAtCurrentBlock operator).run s =
          (.error (wrapError (.new "Failed to get operator stake") (some e)),
            { s with calls := s.calls ++ .getCurrentQuorumBitmap s.opts operator ::
              ((bitmapToQuorumIds bitmap).take (k + 1)).map (.getCurrentStake {} operator) }) := by
  refine ⟨fun e he => by rw [getOperatorStakeInQuorumsOfOperatorAtCurrentBlock_run, he],
    fun bitmap hb => ⟨fun hok => ?_, fun k hk e hok he => ?_⟩⟩
  · obtain ⟨m, hm, hlookup⟩ := getCurrentStakes_run_ok r operator _ ∅
      { s with calls := s.calls ++ [.getCurrentQuorumBitmap s.opts operator] } hok
    refine ⟨m, ?_, fun q => by simpa using hlookup q⟩
    rw [getOperatorStakeInQuorumsOfOperatorAtCurrentBlock_run, hb]
    simpa using hm
  · rw [getOperatorStakeInQuorumsOfOperatorAtCurrentBlock_run, hb]
    simpa using getCurrentStakes_run_error r operator _ ∅
      { s with calls := s.calls ++ [.getCurrentQuorumBitmap s.opts operator] } k hk e hok he

/-- Bitmap `0b1011` with quorum 3's stake read failing: an error after reading quorums 0, 1 and
3; with no read failing, all three stakes. -/
theorem getOperatorStakeInQuorumsOfOperatorAtCurrentBlock_all_or_nothing_sample :
    ((sampleReader (.ok 7) 3).getOperatorStakeInQuorumsOfOperatorAtCurrentBlock 0).run ⟨{}, []⟩ =
      (.error (wrapError (.new "Failed to get operator stake") (some (.new "execution reverted"))),
        ⟨{}, [.getCurrentQuorumBitmap {} 0, .getCurrentStake {} 0 0, .getCurrentStake {} 0 1,
          .getCurrentStake {} 0 3]⟩) ∧
    ∃ m, ((sampleReader (.ok 7) 255).getOperatorStakeInQuorumsOfOperatorAtCurrentBlock 0).run ⟨{}, []⟩ =
        (.ok m, ⟨{}, [.getCurrentQuorumBitmap {} 0, .getCurrentStake {} 0 0, .getCurrentStake {} 0 1,
          .getCurrentStake {} 0 3]⟩) ∧ m.lookup 3 = some 100 ∧ m.lookup 2 = none := by
  constructor
  · exact ((getOperatorStakeInQuorumsOfOperatorAtCurrentBlock_all_or_nothing (sampleReader (.ok 7) 3) 0
      ⟨{}, []⟩).2 11 rfl).2 2 (by decide) _ (by decide) rfl
  · obtain ⟨m, hm, hlookup⟩ := ((getOperatorStakeInQuorumsOfOperatorAtCurrentBlock_all_or_nothing
      (sampleReader (.ok 7) 255) 0 ⟨{}, []⟩).2 11 rfl).1 (by decide)
    exact ⟨m, hm, by rw [hlookup]; decide, by rw [hlookup]; decide⟩

end AvsRegistryChainReader

end AvsRegistry
