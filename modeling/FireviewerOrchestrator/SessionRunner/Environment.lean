/-
  What a session runs against: the runner's own configuration, the world it calls, and the record of
  those calls.

  The world is any type `ω`; an adapter is any value of a type `A`.  Every method of the adapters,
  the factory and the memory manager is a function of the world that may raise anything, so a
  statement proved for all environments covers every pattern of failures.
-/
import FireviewerOrchestrator.Library.Traced
import FireviewerOrchestrator.SessionRunner.Data

set_option linter.unusedVariables false

namespace FireviewerOrchestrator

/-! ## The runner -/

inductive RegistryValue where
  | spec (value : ModelSpec)
  | group (value : ModelGroupSpec)

/-- A bare model stands for the group of that one model. -/
def RegistryValue.normalized (role : ModelRole) : RegistryValue → ModelGroupSpec
  | spec value =>
      { role := role
        candidates := [{ candidateId := role.value ++ ".primary", spec := value, rank := 1 }] }
  | group value => value

/-- A constructed runner.  Its constructor refuses a registry whose groups do not validate or sit
    under another role's key, and contracts that do not bind the four pipeline roles. -/
structure SessionRunner where
  registry : Dict ModelRole ModelGroupSpec
  bootMs : Int
  contracts : StageContractRegistry
  registry_valid : ∀ e ∈ registry.entries, e.2.role = e.1 ∧ e.2.validate = .ok ()
  contracts_bound : ∀ role ∈ roleOrder, ∃ contract,
    contracts.get? role.stageRole = some contract ∧ contract.modelBinding = some role.value

namespace SessionRunner

/-- The registry loop of `__init__`, which stops at the first group it refuses. -/
def checkRegistry : List (ModelRole × ModelGroupSpec) → Except PyExc Unit
  | [] => .ok ()
  | (role, group) :: rest =>
      if group.role ≠ role then
        .error (.valueError ("registry key " ++ role.value ++ " does not match model group "
          ++ group.role.value))
      else do
        group.validate
        checkRegistry rest

theorem valid_of_checkRegistry : ∀ {entries : List (ModelRole × ModelGroupSpec)},
    checkRegistry entries = .ok () → ∀ e ∈ entries, e.2.role = e.1 ∧ e.2.validate = .ok () := by
  intro entries
  induction entries with
  | nil => simp
  | cons e entries ih =>
    obtain ⟨role, group⟩ := e
    intro h
    rw [checkRegistry] at h
    by_cases hrole : group.role = role
    · rw [if_neg (not_not_intro hrole), ModelGroupSpec.seq_eq_ok] at h
      intro e' he'
      rcases List.mem_cons.mp he' with rfl | he'
      · exact ⟨hrole, h.1⟩
      · exact ih h.2 e' he'
    · rw [if_pos hrole] at h
      cases h

/-- The contract loop of `__init__`. -/
def checkContracts (contracts : StageContractRegistry) : List PipelineModelRole → Except PyExc Unit
  | [] => .ok ()
  | role :: rest =>
      match contracts.get? role.stageRole with
      | none => .error (.keyError role.value)
      | some contract =>
          if contract.modelBinding ≠ some role.value then
            .error (.valueError ("stage contract " ++ contract.contractId ++ " is not bound to "
              ++ role.value))
          else checkContracts contracts rest

theorem bound_of_checkContracts {contracts : StageContractRegistry} :
    ∀ {roles : List PipelineModelRole}, checkContracts contracts roles = .ok () →
    ∀ role ∈ roles, ∃ contract,
      contracts.get? role.stageRole = some contract ∧ contract.modelBinding = some role.value := by
  intro roles
  induction roles with
  | nil => simp
  | cons role roles ih =>
    intro h role' hrole'
    rw [checkContracts] at h
    cases hget : contracts.get? role.stageRole with
    | none => simp [hget] at h
    | some contract =>
      rw [hget] at h
      by_cases hbound : contract.modelBinding = some role.value
      · rcases List.mem_cons.mp hrole' with rfl | hrole'
        · exact ⟨contract, hget, hbound⟩
        · simp only [hbound, ne_eq, not_true, if_false] at h
          exact ih h role' hrole'
      · simp [hbound] at h

/-- `SessionRunner(registry=…, boot_ms=…, contracts=…)`. -/
def init (registry : Dict ModelRole RegistryValue) (bootMs : Int) (contracts : StageContractRegistry) :
    Except PyExc SessionRunner :=
  let normalized := registry.mapValues RegistryValue.normalized
  match hr : checkRegistry normalized.entries, hc : checkContracts contracts roleOrder with
  | .error e, _ => .error e
  | .ok (), .error e => .error e
  | .ok (), .ok () =>
      .ok { registry := normalized, bootMs := bootMs, contracts := contracts
            registry_valid := valid_of_checkRegistry hr
            contracts_bound := bound_of_checkContracts hc }

variable (runner : SessionRunner)

/-- `self.contracts[StageRole(role)]`, which `__init__` has found. -/
def contract (role : PipelineModelRole) : StageContract :=
  (runner.contracts.get? role.stageRole).get (by
    obtain ⟨contract, hget, -⟩ := runner.contracts_bound role (mem_roleOrder role)
    rw [hget]
    rfl)

theorem contracts_get? (role : PipelineModelRole) :
    runner.contracts.get? role.stageRole = some (runner.contract role) :=
  (Option.some_get _).symm

@[simp] theorem contract_role (role : PipelineModelRole) : (runner.contract role).role = role.stageRole :=
  StageContractRegistry.role_of_get? (runner.contracts_get? role)

/-- `self.registry.get(role)`. -/
def group? (role : PipelineModelRole) : Option ModelGroupSpec := runner.registry.get? role.modelRole

theorem group_valid {runner : SessionRunner} {role : PipelineModelRole} {group : ModelGroupSpec}
    (h : runner.group? role = some group) : group.validate = .ok () :=
  (runner.registry_valid _ (Dict.get?_eq_some.mp h)).2

end SessionRunner

/-! ## The world -/

/-- The adapter factory; the judge method is there when the factory is a `ConsensusJudgeFactory`. -/
structure AdapterFactory (ω A : Type) where
  create : ModelSpec → ω → Except PyExc A × ω
  createConsensusJudge : Option (ModelSpec → ω → Except PyExc A × ω)

/-- The methods of an adapter, candidate or judge. -/
structure AdapterMethods (ω A : Type) where
  load : A → ω → Except PyExc Unit × ω
  infer : A → List BatchItem → Dict String ItemPatch → Bool → ω → Except PyExc (Dict String ItemPatch) × ω
  adjudicate : A → WorkerInput → PipelineModelRole → List JudgeCandidate → JsonFields → Bool → ω →
    Except PyExc ConsensusJudgeVerdict × ω

structure MemoryManager (ω A : Type) where
  resetPeak : ω → Except PyExc Unit × ω
  peakVramBytes : ω → Except PyExc (Option Int) × ω
  release : A → ω → Except PyExc Unit × ω
  finalizeJob : ω → Except PyExc Unit × ω

structure Environment (ω A : Type) where
  factory : AdapterFactory ω A
  adapter : AdapterMethods ω A
  memory : MemoryManager ω A
  synchronizeCuda : ω → Except PyExc Unit × ω
  /-- `datetime.now(UTC)`, in microseconds. -/
  utcNow : ω → Int × ω
  perfCounter : ω → ℚ × ω
  consensus : ConsensusFunctions
  models : ContractModels
  validateItemResult : BatchItem → ItemResult → Except PyExc Unit
  /-- `_json_digest`. -/
  jsonDigest : JsonFields → String

open Traced

/-- The call never raises. -/
def Quiet {ω ε α : Type} (f : ω → Except ε α × ω) : Prop := ∀ e, ¬ MayReturn f (.error e)

/-- The call raises `Exception`s only. -/
def RaisesExceptions {ω α : Type} (f : ω → Except PyExc α × ω) : Prop :=
  ∀ e, MayReturn f (.error e) → e.isException = true

/-- The memory manager's methods do not raise. -/
structure MemoryManager.Reliable {ω A : Type} (memory : MemoryManager ω A) : Prop where
  resetPeak : Quiet memory.resetPeak
  peakVramBytes : Quiet memory.peakVramBytes
  release : ∀ a, Quiet (memory.release a)
  finalizeJob : Quiet memory.finalizeJob

/-- **The setting of fault isolation**: memory manager, consensus functions and contract models do
    not raise; everything else may raise any `Exception`. -/
structure Environment.Contained {ω A : Type} (env : Environment ω A) : Prop where
  memory : env.memory.Reliable
  consensus : env.consensus.Total
  models : env.models.Accepting
  create : ∀ spec, RaisesExceptions (env.factory.create spec)
  createJudge : ∀ create ∈ env.factory.createConsensusJudge, ∀ spec, RaisesExceptions (create spec)
  load : ∀ a, RaisesExceptions (env.adapter.load a)
  infer : ∀ a items accumulated correction,
    RaisesExceptions (env.adapter.infer a items accumulated correction)
  adjudicate : ∀ a batch role candidates payload correction,
    RaisesExceptions (env.adapter.adjudicate a batch role candidates payload correction)
  synchronizeCuda : RaisesExceptions env.synchronizeCuda
  validateItemResult : ∀ item result e,
    env.validateItemResult item result = .error e → e.isException = true

/-! ## What is recorded of a run -/

/-- The boundary of a session: the gate records as they are made, each call of the factory, the
    adapters and the memory manager's release points with its answer, and how each guarded
    inference attempt ended. -/
inductive Event (A : Type) where
  | gate (record : StageGateRecord)
  | create (role : PipelineModelRole) (candidate : ModelCandidateSpec) (answer : Except PyExc A)
  | createJudge (role : PipelineModelRole) (adjudicator : ModelCandidateSpec) (answer : Except PyExc A)
  | load (adapter : A) (answer : Except PyExc Unit)
  | infer (adapter : A) (correction : Bool) (accumulated : Dict String ItemPatch)
      (answer : Except PyExc (Dict String ItemPatch))
  | attempt (adapter : A) (correction : Bool) (ended : Except PyExc Unit)
  | adjudicate (adapter : A) (correction : Bool) (answer : Except PyExc ConsensusJudgeVerdict)
  | release (adapter : A)
  | finalizeJob

end FireviewerOrchestrator
