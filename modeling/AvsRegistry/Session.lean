import AvsRegistry.Reader

/-!
# Sessions of the chain reader: reusing `opts`

A reader call acts on the struct its caller's `opts` pointer names, and three of them write
to it. The comment at lines 216–217 of `reader.go` warns a caller of
`GetOperatorsStakeInQuorumsOfOperatorAtCurrentBlock` not to reuse `opts`. A session is what
that warning is about: a caller making calls of the `AvsRegistryReader` interface one after
another through one `opts`, each call made against the chain as it is at that moment, since
the head moves between calls.

Over every session, `opts` evolve by `optsStep` and the context a head read uses never
changes (`session_opts`); only `GetOperatorsStakeInQuorumsOfOperatorAtCurrentBlock` writes
the block pin (`session_keeps_opts_of_not_pin`). A later current-block stake query then asks
for the tables at the head it reads while executing at the block that pin names, which mixes
two heights in one query (`session_stake_query_pin`); and an operator's current stakes come
from a bitmap read at the pinned block and stakes read at the latest one
(`session_current_stakes_mixed`).
-/

namespace AvsRegistry

/-- A method of the `AvsRegistryReader` interface (lines 23–60), with its arguments. -/
inductive ReaderMethod where
  | getQuorumCount
  | getOperatorsStakeInQuorumsAtCurrentBlock (quorumNumbers : List QuorumNum)
  | getOperatorsStakeInQuorumsAtBlock (quorumNumbers : List QuorumNum) (blockNumber : UInt32)
  | getOperatorAddrsInQuorumsAtCurrentBlock (quorumNumbers : List QuorumNum)
  | getOperatorsStakeInQuorumsOfOperatorAtBlock (operator : Address) (blockNumber : UInt32)
  | getOperatorsStakeInQuorumsOfOperatorAtCurrentBlock (operator : Address)
  | getOperatorStakeInQuorumsOfOperatorAtCurrentBlock (operator : Address)
  | isOperatorRegistered (operatorAddress : Address)

/-- What one interface call does to the caller's `opts`, on a chain `chain`: the three
current-block calls default a missing context, and
`GetOperatorsStakeInQuorumsOfOperatorAtCurrentBlock` also pins the block to the head it
reads, when that head fits `uint32`. -/
def optsStep (chain : Chain) (opts : CallOpts) : ReaderMethod → CallOpts
  | .getOperatorsStakeInQuorumsAtCurrentBlock _ => opts.withDefaultContext
  | .getOperatorAddrsInQuorumsAtCurrentBlock _ => opts.withDefaultContext
  | .getOperatorsStakeInQuorumsOfOperatorAtCurrentBlock _ =>
    match chain.blockNumber opts.withDefaultContext.context with
    | .ok h =>
      if h.toNat ≤ 2 ^ 32 - 1 then
        { opts.withDefaultContext with blockNumber := some (h.toNat : Int) }
      else opts.withDefaultContext
    | .error _ => opts.withDefaultContext
  | _ => opts

/-- The caller's `opts` after a session, call by call. -/
def optsAfter (opts : CallOpts) (calls : List (Chain × ReaderMethod)) : CallOpts :=
  calls.foldl (fun opts call => optsStep call.1 opts call.2) opts

/-- No call leaves `opts` as they are. -/
@[simp] theorem optsAfter_nil (opts : CallOpts) : optsAfter opts [] = opts := rfl

/-- A session moves `opts` by its first call, then by the rest. -/
@[simp] theorem optsAfter_cons (opts : CallOpts) (call : Chain × ReaderMethod)
    (calls : List (Chain × ReaderMethod)) :
    optsAfter opts (call :: calls) = optsAfter (optsStep call.1 opts call.2) calls := rfl

/-- Two sessions one after the other move `opts` as their concatenation does. -/
theorem optsAfter_append (opts : CallOpts) (calls₁ calls₂ : List (Chain × ReaderMethod)) :
    optsAfter opts (calls₁ ++ calls₂) = optsAfter (optsAfter opts calls₁) calls₂ :=
  List.foldl_append _ _ _ _

/-- Defaulting the context leaves the caller's context, or `context.Background()`. -/
@[simp] theorem withDefaultContext_context (opts : CallOpts) :
    opts.withDefaultContext.context = some (opts.context.getD .background) := by
  rcases opts with ⟨_ | _, _⟩ <;> rfl

/-- Defaulting the context leaves the block pin alone. -/
@[simp] theorem withDefaultContext_blockNumber (opts : CallOpts) :
    opts.withDefaultContext.blockNumber = opts.blockNumber := by
  rcases opts with ⟨_ | _, _⟩ <;> rfl

/-- No call changes the context a head read would use. -/
theorem context_optsStep (chain : Chain) (opts : CallOpts) (m : ReaderMethod) :
    (optsStep chain opts m).withDefaultContext.context = opts.withDefaultContext.context := by
  cases m <;> simp only [optsStep] <;> (repeat' split) <;> simp

/-- No session changes the context a head read would use. -/
theorem context_optsAfter (opts : CallOpts) (calls : List (Chain × ReaderMethod)) :
    (optsAfter opts calls).withDefaultContext.context = opts.withDefaultContext.context := by
  induction calls generalizing opts with
  | nil => rfl
  | cons call calls ih => rw [optsAfter_cons, ih, context_optsStep]

/-- Defaulting the context twice is defaulting it once. -/
@[simp] theorem withDefaultContext_withDefaultContext (opts : CallOpts) :
    opts.withDefaultContext.withDefaultContext = opts.withDefaultContext := by
  rcases opts with ⟨_ | _, _⟩ <;> rfl

/-- Every call but `GetOperatorsStakeInQuorumsOfOperatorAtCurrentBlock` at most defaults the
context. -/
theorem optsStep_of_not_pin (chain : Chain) (opts : CallOpts) (m : ReaderMethod)
    (hm : ∀ operator, m ≠ .getOperatorsStakeInQuorumsOfOperatorAtCurrentBlock operator) :
    optsStep chain opts m = opts ∨ optsStep chain opts m = opts.withDefaultContext := by
  cases m
  case getOperatorsStakeInQuorumsOfOperatorAtCurrentBlock operator => exact absurd rfl (hm operator)
  all_goals first | exact .inl rfl | exact .inr rfl

/-- Without the pinning call, a session at most defaults the context once. -/
theorem optsAfter_of_not_pin (opts : CallOpts) (calls : List (Chain × ReaderMethod))
    (h : ∀ chain operator,
      (chain, .getOperatorsStakeInQuorumsOfOperatorAtCurrentBlock operator) ∉ calls) :
    optsAfter opts calls = opts ∨ optsAfter opts calls = opts.withDefaultContext := by
  induction calls generalizing opts with
  | nil => exact .inl rfl
  | cons call calls ih =>
    obtain ⟨chain, m⟩ := call
    have ih' := fun opts => ih opts fun c o hm => h c o (List.mem_cons_of_mem _ hm)
    have hm : ∀ operator, m ≠ .getOperatorsStakeInQuorumsOfOperatorAtCurrentBlock operator :=
      fun o he => h chain o (by subst he; exact List.mem_cons_self _ _)
    rw [optsAfter_cons]
    rcases optsStep_of_not_pin chain opts m hm with hs | hs <;> rw [hs]
    · exact ih' opts
    · refine .inr ?_
      rcases ih' opts.withDefaultContext with h' | h' <;>
        simp only [h', withDefaultContext_withDefaultContext]

namespace AvsRegistryChainReader

variable (r : AvsRegistryChainReader)

/-- Make an interface call through the reader; the caller keeps its effect on the state. -/
def invoke : ReaderMethod → ReaderM Unit
  | .getQuorumCount => do let _ ← r.getQuorumCount
  | .getOperatorsStakeInQuorumsAtCurrentBlock quorumNumbers => do
    let _ ← r.getOperatorsStakeInQuorumsAtCurrentBlock quorumNumbers
  | .getOperatorsStakeInQuorumsAtBlock quorumNumbers blockNumber => do
    let _ ← r.getOperatorsStakeInQuorumsAtBlock quorumNumbers blockNumber
  | .getOperatorAddrsInQuorumsAtCurrentBlock quorumNumbers => do
    let _ ← r.getOperatorAddrsInQuorumsAtCurrentBlock quorumNumbers
  | .getOperatorsStakeInQuorumsOfOperatorAtBlock operator blockNumber => do
    let _ ← r.getOperatorsStakeInQuorumsOfOperatorAtBlock operator blockNumber
  | .getOperatorsStakeInQuorumsOfOperatorAtCurrentBlock operator => do
    let _ ← r.getOperatorsStakeInQuorumsOfOperatorAtCurrentBlock operator
  | .getOperatorStakeInQuorumsOfOperatorAtCurrentBlock operator => do
    let _ ← r.getOperatorStakeInQuorumsOfOperatorAtCurrentBlock operator
  | .isOperatorRegistered operatorAddress => do
    let _ ← r.isOperatorRegistered operatorAddress

/-- The stake loop leaves `opts` alone and only appends its reads. -/
theorem getCurrentStakes_state (operator : Address) (L : List QuorumNum) (m : StakeMap)
    (s : ReaderState) :
    ∃ l, ((r.getCurrentStakes operator L m).run s).2 = { s with calls := s.calls ++ l } := by
  induction L generalizing m s with
  | nil => exact ⟨[], by simp⟩
  | cons q L ih =>
    rw [getCurrentStakes_cons_run]
    cases r.chain.getCurrentStake {} operator q with
    | error err => exact ⟨_, rfl⟩
    | ok stake =>
      obtain ⟨l, hl⟩ :=
        ih (m.insert q stake) { s with calls := s.calls ++ [.getCurrentStake {} operator q] }
      exact ⟨_, by rw [hl, List.append_assoc]⟩

/-- A call whose result is dropped leaves the state the call leaves. -/
theorem run_discard {α : Type} (x : ReaderM α) (s : ReaderState) :
    ((do let _ ← x : ReaderM Unit).run s).2 = (x.run s).2 := by
  simp only [StateT.run_bind]
  rw [Id.bind_eq]
  rfl

/-- Behind the prelude, a continuation that only appends chain calls leaves the context
defaulted and the calls appended to. -/
theorem withCurrentBlock_state {α : Type} (msg : String) (k : UInt64 → ReaderM (Except Error α))
    (hk : ∀ h s, ∃ l, ((k h).run s).2 = { s with calls := s.calls ++ l }) (s : ReaderState) :
    ∃ l, ((r.withCurrentBlock msg k).run s).2 =
      { opts := s.opts.withDefaultContext, calls := s.calls ++ l } := by
  rw [withCurrentBlock_run]
  cases r.chain.blockNumber s.opts.withDefaultContext.context with
  | error err => exact ⟨_, rfl⟩
  | ok h =>
    dsimp only
    split
    · exact ⟨_, rfl⟩
    · obtain ⟨l, hl⟩ := hk h (headRead s)
      exact ⟨_, by rw [hl, headRead, List.append_assoc]⟩

/-- One interface call moves `opts` by `optsStep` and only appends chain calls. -/
theorem invoke_run (m : ReaderMethod) (s : ReaderState) :
    ∃ l, ((r.invoke m).run s).2 = { opts := optsStep r.chain s.opts m, calls := s.calls ++ l } := by
  cases m <;> simp only [invoke, run_discard]
  case getQuorumCount => exact ⟨_, rfl⟩
  case getOperatorsStakeInQuorumsAtBlock Q b =>
    exact ⟨_, by rw [getOperatorsStakeInQuorumsAtBlock_run]; rfl⟩
  case getOperatorsStakeInQuorumsOfOperatorAtBlock operator b =>
    exact ⟨_, by rw [getOperatorsStakeInQuorumsOfOperatorAtBlock_run]; rfl⟩
  case getOperatorsStakeInQuorumsAtCurrentBlock Q =>
    exact withCurrentBlock_state r _ _
      (fun h s => ⟨_, by rw [getOperatorsStakeInQuorumsAtBlock_run]⟩) s
  case getOperatorAddrsInQuorumsAtCurrentBlock Q =>
    exact withCurrentBlock_state r _ _
      (fun h s => ⟨_, by rw [operatorAddrsAtBlock_run, getOperatorsStakeInQuorumsAtBlock_run]⟩) s
  case getOperatorStakeInQuorumsOfOperatorAtCurrentBlock operator =>
    rw [getOperatorStakeInQuorumsOfOperatorAtCurrentBlock_run]
    cases r.chain.getCurrentQuorumBitmap s.opts operator with
    | error err => exact ⟨_, rfl⟩
    | ok bitmap =>
      obtain ⟨l, hl⟩ := getCurrentStakes_state r operator (bitmapToQuorumIds bitmap) ∅
        { s with calls := s.calls ++ [.getCurrentQuorumBitmap s.opts operator] }
      exact ⟨_, by rw [hl, List.append_assoc]; rfl⟩
  case isOperatorRegistered operator =>
    simp only [isOperatorRegistered, getOperatorStatus, StateT.run_bind, getOpts_run, issue_run,
      Id.bind_eq]
    cases r.chain.getOperatorStatus s.opts operator <;> exact ⟨_, rfl⟩
  case getOperatorsStakeInQuorumsOfOperatorAtCurrentBlock operator =>
    rw [getOperatorsStakeInQuorumsOfOperatorAtCurrentBlock, withCurrentBlock_run, optsStep]
    cases r.chain.blockNumber s.opts.withDefaultContext.context with
    | error err => exact ⟨_, rfl⟩
    | ok h =>
      dsimp only
      by_cases hle : h > maxUint32
      · rw [if_pos hle, if_neg (by rw [gt_maxUint32_iff] at hle; omega)]
        exact ⟨_, rfl⟩
      · rw [if_neg hle, if_pos (by rw [gt_maxUint32_iff] at hle; omega)]
        simp only [StateT.run_bind, setOpts_run, Id.bind_eq,
          getOperatorsStakeInQuorumsOfOperatorAtBlock_run, toInt64_of_le hle, headRead,
          List.append_assoc]
        exact ⟨_, rfl⟩

/-- A current-block stake query at a head `uint32` holds reads the head and then asks for the
tables at it, under the `opts` it was given with the context defaulted. -/
theorem invoke_getOperatorsStakeInQuorumsAtCurrentBlock_run (Q : List QuorumNum) (s : ReaderState)
    {h : UInt64} (hh : r.chain.blockNumber s.opts.withDefaultContext.context = .ok h)
    (hle : ¬ h > maxUint32) :
    ((r.invoke (.getOperatorsStakeInQuorumsAtCurrentBlock Q)).run s).2 =
      { headRead s with calls := (headRead s).calls ++
        [.getOperatorState0 (headRead s).opts r.registryCoordinatorAddr Q h.toUInt32] } := by
  rw [invoke, run_discard, getOperatorsStakeInQuorumsAtCurrentBlock,
    withCurrentBlock_run_of_le r _ _ s hh hle, getOperatorsStakeInQuorumsAtBlock_run]

end AvsRegistryChainReader

/-- A caller's session: interface calls made one after another through one `opts`, each
against the chain as it is when the call is made. -/
def session (registryCoordinatorAddr : Address) : List (Chain × ReaderMethod) → ReaderM Unit
  | [] => pure ()
  | (chain, method) :: calls => do
    (AvsRegistryChainReader.mk registryCoordinatorAddr chain).invoke method
    session registryCoordinatorAddr calls

/-- The empty session changes nothing. -/
@[simp] theorem session_nil_run (registryCoordinatorAddr : Address) (s : ReaderState) :
    (session registryCoordinatorAddr []).run s = ((), s) := rfl

/-- A session runs its first call, then the rest from the state that call leaves. -/
theorem session_cons_run (registryCoordinatorAddr : Address) (chain : Chain) (method : ReaderMethod)
    (calls : List (Chain × ReaderMethod)) (s : ReaderState) :
    (session registryCoordinatorAddr ((chain, method) :: calls)).run s =
      (session registryCoordinatorAddr calls).run
        (((AvsRegistryChainReader.mk registryCoordinatorAddr chain).invoke method).run s).2 := rfl

/-- Two sessions one after the other run as their concatenation does. -/
theorem session_append_run (registryCoordinatorAddr : Address)
    (pre post : List (Chain × ReaderMethod)) (s : ReaderState) :
    (session registryCoordinatorAddr (pre ++ post)).run s =
      (session registryCoordinatorAddr post).run ((session registryCoordinatorAddr pre).run s).2 := by
  induction pre generalizing s with
  | nil => rfl
  | cons call pre ih => exact ih _

/-- Over every session, the caller's `opts` evolve as `optsAfter` says, and the chain calls
are only appended to. -/
theorem session_run (registryCoordinatorAddr : Address) (calls : List (Chain × ReaderMethod))
    (s : ReaderState) :
    ∃ l, ((session registryCoordinatorAddr calls).run s).2 =
      { opts := optsAfter s.opts calls, calls := s.calls ++ l } := by
  induction calls generalizing s with
  | nil => exact ⟨[], by simp⟩
  | cons call calls ih =>
    obtain ⟨chain, m⟩ := call
    obtain ⟨l₁, h₁⟩ := AvsRegistryChainReader.invoke_run ⟨registryCoordinatorAddr, chain⟩ m s
    obtain ⟨l₂, h₂⟩ :=
      ih (((AvsRegistryChainReader.mk registryCoordinatorAddr chain).invoke m).run s).2
    refine ⟨l₁ ++ l₂, ?_⟩
    rw [session_cons_run, h₂, h₁, List.append_assoc]
    rfl

/-- The calls of a session are those up to and including one of its calls, and then more. -/
theorem session_calls_through (registryCoordinatorAddr : Address)
    (pre post : List (Chain × ReaderMethod)) (chain : Chain) (method : ReaderMethod)
    (s : ReaderState) :
    ∃ l, ((session registryCoordinatorAddr (pre ++ (chain, method) :: post)).run s).2.calls =
      (((AvsRegistryChainReader.mk registryCoordinatorAddr chain).invoke method).run
        ((session registryCoordinatorAddr pre).run s).2).2.calls ++ l := by
  obtain ⟨l, hl⟩ := session_run registryCoordinatorAddr post
    (((AvsRegistryChainReader.mk registryCoordinatorAddr chain).invoke method).run
      ((session registryCoordinatorAddr pre).run s).2).2
  exact ⟨l, by rw [session_append_run, session_cons_run, hl]⟩

section Results

open AvsRegistryChainReader (headRead sampleChain)

/-- Over every session the caller's `opts` end where the `optsStep` machine says, the context
a head read uses never changes, and the chain calls are only appended to. -/
theorem session_opts (registryCoordinatorAddr : Address) (calls : List (Chain × ReaderMethod))
    (s : ReaderState) :
    ((session registryCoordinatorAddr calls).run s).2.opts = optsAfter s.opts calls ∧
      ((session registryCoordinatorAddr calls).run s).2.opts.withDefaultContext.context =
        s.opts.withDefaultContext.context ∧
      s.calls <+: ((session registryCoordinatorAddr calls).run s).2.calls := by
  obtain ⟨l, hl⟩ := session_run registryCoordinatorAddr calls s
  rw [hl]
  exact ⟨rfl, context_optsAfter s.opts calls, List.prefix_append s.calls l⟩

/-- Of the eight interface calls only `GetOperatorsStakeInQuorumsOfOperatorAtCurrentBlock`
writes the block pin: a session without it leaves the caller's `opts` as they were, or with
the context defaulted. -/
theorem session_keeps_opts_of_not_pin (registryCoordinatorAddr : Address)
    (calls : List (Chain × ReaderMethod)) (s : ReaderState)
    (h : ∀ chain operator,
      (chain, .getOperatorsStakeInQuorumsOfOperatorAtCurrentBlock operator) ∉ calls) :
    ((session registryCoordinatorAddr calls).run s).2.opts = s.opts ∨
      ((session registryCoordinatorAddr calls).run s).2.opts = s.opts.withDefaultContext := by
  obtain ⟨l, hl⟩ := session_run registryCoordinatorAddr calls s
  rw [hl]
  exact optsAfter_of_not_pin s.opts calls h

/-- A stake query and a registration check: `opts` end with only the context defaulted. -/
theorem session_keeps_opts_of_not_pin_sample :
    (∀ chain operator, (chain, ReaderMethod.getOperatorsStakeInQuorumsOfOperatorAtCurrentBlock operator) ∉
      [(sampleChain (.ok 7) 3, .getOperatorsStakeInQuorumsAtCurrentBlock [1]),
        (sampleChain (.ok 9) 3, .isOperatorRegistered 1)]) ∧
    (((session 0 [(sampleChain (.ok 7) 3, .getOperatorsStakeInQuorumsAtCurrentBlock [1]),
        (sampleChain (.ok 9) 3, .isOperatorRegistered 1)]).run ⟨{}, []⟩).2.opts = {} ∨
      ((session 0 [(sampleChain (.ok 7) 3, .getOperatorsStakeInQuorumsAtCurrentBlock [1]),
        (sampleChain (.ok 9) 3, .isOperatorRegistered 1)]).run ⟨{}, []⟩).2.opts =
        { context := some .background }) :=
  ⟨fun _ _ => by simp, session_keeps_opts_of_not_pin 0 _ ⟨{}, []⟩ fun _ _ => by simp⟩

/-- A current-block stake query made after other calls through the same `opts` reads the head
under the caller's context and asks for the tables at that head, under the `opts` the earlier
calls left: a block pinned by an earlier `GetOperatorsStakeInQuorumsOfOperatorAtCurrentBlock`
still stands, so the query names one height and executes at another. -/
theorem session_stake_query_pin (registryCoordinatorAddr : Address) (s : ReaderState)
    (pre post : List (Chain × ReaderMethod)) (chain : Chain) (Q : List QuorumNum) (h : UInt64)
    (hh : chain.blockNumber s.opts.withDefaultContext.context = .ok h)
    (hle : h.toNat ≤ 2 ^ 32 - 1) :
    ∃ l, ((session registryCoordinatorAddr
        (pre ++ (chain, .getOperatorsStakeInQuorumsAtCurrentBlock Q) :: post)).run s).2.calls =
      ((session registryCoordinatorAddr pre).run s).2.calls ++
        [.blockNumber s.opts.withDefaultContext.context,
          .getOperatorState0 (optsAfter s.opts pre).withDefaultContext registryCoordinatorAddr Q
            h.toUInt32] ++ l := by
  obtain ⟨l₁, h₁⟩ := session_run registryCoordinatorAddr pre s
  have hle' : ¬ h > maxUint32 := by rw [gt_maxUint32_iff]; omega
  have hh' : chain.blockNumber
      ((session registryCoordinatorAddr pre).run s).2.opts.withDefaultContext.context = .ok h := by
    rw [h₁]
    exact (context_optsAfter s.opts pre).symm ▸ hh
  obtain ⟨l₂, h₂⟩ := session_calls_through registryCoordinatorAddr pre post chain
    (.getOperatorsStakeInQuorumsAtCurrentBlock Q) s
  refine ⟨l₂, ?_⟩
  rw [h₂, AvsRegistryChainReader.invoke_getOperatorsStakeInQuorumsAtCurrentBlock_run _ Q _ hh' hle']
  simp only [headRead, h₁, context_optsAfter, List.append_assoc, List.cons_append, List.nil_append]

/-- A pin at head 7, then a stake query at head 9: the query names block 9 under `opts` pinned
at 7. -/
theorem session_stake_query_pin_sample :
    (sampleChain (.ok 9) 3).blockNumber (some .background) = .ok 9 ∧ (9 : UInt64).toNat ≤ 2 ^ 32 - 1 ∧
      ∃ l, ((session 0 [(sampleChain (.ok 7) 3, .getOperatorsStakeInQuorumsOfOperatorAtCurrentBlock 1),
          (sampleChain (.ok 9) 3, .getOperatorsStakeInQuorumsAtCurrentBlock [1])]).run ⟨{}, []⟩).2.calls =
        [.blockNumber (some .background),
          .getOperatorState { context := some .background, blockNumber := some 7 } 0 1 7,
          .blockNumber (some .background),
          .getOperatorState0 { context := some .background, blockNumber := some 7 } 0 [1] 9] ++ l :=
  ⟨rfl, by decide, session_stake_query_pin 0 ⟨{}, []⟩
    [(sampleChain (.ok 7) 3, .getOperatorsStakeInQuorumsOfOperatorAtCurrentBlock 1)] []
    (sampleChain (.ok 9) 3) [1] 9 rfl (by decide)⟩

/-- After earlier calls through the same `opts`, the operator's current stakes are decoded from
a quorum bitmap read under the `opts` those calls left, a pinned block included, while every
stake is read with empty `CallOpts`, at the latest block and without the caller's context. -/
theorem session_current_stakes_mixed (registryCoordinatorAddr : Address) (s : ReaderState)
    (pre post : List (Chain × ReaderMethod)) (chain : Chain) (operator : Address) (bitmap : Nat)
    (hb : chain.getCurrentQuorumBitmap (optsAfter s.opts pre) operator = .ok bitmap)
    (hok : ∀ q ∈ bitmapToQuorumIds bitmap, (chain.getCurrentStake {} operator q).isOk) :
    ∃ l, ((session registryCoordinatorAddr
        (pre ++ (chain, .getOperatorStakeInQuorumsOfOperatorAtCurrentBlock operator) :: post)).run
          s).2.calls =
      ((session registryCoordinatorAddr pre).run s).2.calls ++
        .getCurrentQuorumBitmap (optsAfter s.opts pre) operator ::
          (bitmapToQuorumIds bitmap).map (.getCurrentStake {} operator) ++ l := by
  obtain ⟨l₁, h₁⟩ := session_run registryCoordinatorAddr pre s
  obtain ⟨m, hm, -⟩ :=
    AvsRegistryChainReader.getCurrentStakes_run_ok ⟨registryCoordinatorAddr, chain⟩ operator
      (bitmapToQuorumIds bitmap) ∅
      { opts := optsAfter s.opts pre,
        calls := s.calls ++ l₁ ++ [.getCurrentQuorumBitmap (optsAfter s.opts pre) operator] } hok
  obtain ⟨l₂, h₂⟩ := session_calls_through registryCoordinatorAddr pre post chain
    (.getOperatorStakeInQuorumsOfOperatorAtCurrentBlock operator) s
  refine ⟨l₂, ?_⟩
  rw [h₂, AvsRegistryChainReader.invoke, AvsRegistryChainReader.run_discard,
    AvsRegistryChainReader.getOperatorStakeInQuorumsOfOperatorAtCurrentBlock_run, h₁]
  dsimp only
  rw [hb]
  dsimp only
  rw [hm]
  simp only [List.append_assoc, List.cons_append, List.nil_append]

/-- A pin at head 7, then the operator's current stakes: the bitmap is read at block 7, the
stakes with empty `CallOpts`. -/
theorem session_current_stakes_mixed_sample :
    (sampleChain (.ok 9) 5).getCurrentQuorumBitmap
        { context := some .background, blockNumber := some 7 } 1 = .ok 11 ∧
      (∀ q ∈ bitmapToQuorumIds 11, ((sampleChain (.ok 9) 5).getCurrentStake {} 1 q).isOk) ∧
      ∃ l, ((session 0 [(sampleChain (.ok 7) 3, .getOperatorsStakeInQuorumsOfOperatorAtCurrentBlock 1),
          (sampleChain (.ok 9) 5, .getOperatorStakeInQuorumsOfOperatorAtCurrentBlock 1)]).run ⟨{}, []⟩).2.calls =
        [.blockNumber (some .background),
          .getOperatorState { context := some .background, blockNumber := some 7 } 0 1 7,
          .getCurrentQuorumBitmap { context := some .background, blockNumber := some 7 } 1,
          .getCurrentStake {} 1 0, .getCurrentStake {} 1 1, .getCurrentStake {} 1 3] ++ l :=
  ⟨rfl, by decide, session_current_stakes_mixed 0 ⟨{}, []⟩
    [(sampleChain (.ok 7) 3, .getOperatorsStakeInQuorumsOfOperatorAtCurrentBlock 1)] []
    (sampleChain (.ok 9) 5) 1 11 rfl (by decide)⟩

end Results

end AvsRegistry
