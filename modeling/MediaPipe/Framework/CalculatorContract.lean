import Mathlib.Tactic

/-!
# `CalculatorContract`

What a calculator's `GetContract` records besides its packet types: the default input
stream handler with its options, and the graph services it requests.  `UseService`
emplaces a request under the service's key, so a second request for a key returns the
first one, and `Optional()` marks the request it is called on.  So after every sequence
of these calls the last handler and the last options set are kept, a key has a request
exactly when some call used it, that request holds the first service given under the key,
and it is optional exactly when some call on the key marked it so.
-/

namespace MediaPipe.Framework

/-- A `GraphServiceBase`, by its key and the object's identity. -/
structure GraphServiceBase where
  key : String
  id : Nat
  deriving DecidableEq, Repr

structure GraphServiceRequest where
  service : GraphServiceBase
  optional : Bool
  deriving DecidableEq, Repr

/-- `MediaPipeOptions`, by its serialized bytes. -/
abbrev MediaPipeOptions := List UInt8

structure CalculatorContract where
  inputStreamHandler : String
  inputStreamHandlerOptions : MediaPipeOptions
  serviceRequests : String → Option GraphServiceRequest

/-- A contract before `GetContract`: no handler, empty options, no service requested. -/
def CalculatorContract.create : CalculatorContract := ⟨"", [], fun _ => none⟩

/-- `UseService`: a request `GraphServiceRequest(service)`, not optional, is emplaced
under the key; a request already there is kept. -/
def CalculatorContract.useService (service : GraphServiceBase) (contract : CalculatorContract) :
    CalculatorContract :=
  match contract.serviceRequests service.key with
  | some _ => contract
  | none => { contract with
      serviceRequests := Function.update contract.serviceRequests service.key
        (some ⟨service, false⟩) }

/-- `Optional()` on the request `UseService` returned for `key`. -/
def CalculatorContract.markOptional (key : String) (contract : CalculatorContract) :
    CalculatorContract :=
  { contract with
    serviceRequests := Function.update contract.serviceRequests key
      ((contract.serviceRequests key).map fun request => { request with optional := true }) }

/-- The calls `GetContract` makes on the contract; `useService service optional` is
`UseService(service)`, followed by `.Optional()` when `optional` holds. -/
inductive ContractCall where
  | setInputStreamHandler (name : String)
  | setInputStreamHandlerOptions (options : MediaPipeOptions)
  | useService (service : GraphServiceBase) (optional : Bool)
  deriving DecidableEq, Repr

def CalculatorContract.step (contract : CalculatorContract) : ContractCall → CalculatorContract
  | .setInputStreamHandler name => { contract with inputStreamHandler := name }
  | .setInputStreamHandlerOptions options => { contract with inputStreamHandlerOptions := options }
  | .useService service optional =>
      if optional then (contract.useService service).markOptional service.key
      else contract.useService service

def CalculatorContract.run (contract : CalculatorContract) (calls : List ContractCall) :
    CalculatorContract :=
  calls.foldl CalculatorContract.step contract

/-! ## What the calls ask for -/

def ContractCall.handlerName : ContractCall → Option String
  | .setInputStreamHandler name => some name
  | _ => none

def ContractCall.handlerOptions : ContractCall → Option MediaPipeOptions
  | .setInputStreamHandlerOptions options => some options
  | _ => none

def ContractCall.usedService : ContractCall → Option GraphServiceBase
  | .useService service _ => some service
  | _ => none

/-- The call uses a service under `key` and marks its request optional. -/
def ContractCall.marksOptional (key : String) : ContractCall → Bool
  | .useService service optional => service.key == key && optional
  | _ => false

/-- The request the calls ask for under `key`: the first service given under the key,
optional when some call on the key marked it so. -/
def requestOf (calls : List ContractCall) (key : String) : Option GraphServiceRequest :=
  ((calls.filterMap ContractCall.usedService).find? (·.key == key)).map fun service =>
    ⟨service, calls.any (ContractCall.marksOptional key)⟩

section Run

variable {contract : CalculatorContract} {key : String}

@[simp] theorem CalculatorContract.run_nil : contract.run [] = contract := rfl

@[simp] theorem CalculatorContract.run_cons (call : ContractCall) (calls : List ContractCall) :
    contract.run (call :: calls) = (contract.step call).run calls := rfl

/-- What one `UseService` call does to the request under `key`. -/
theorem CalculatorContract.useService_serviceRequests (service : GraphServiceBase)
    (optional : Bool) :
    (contract.step (.useService service optional)).serviceRequests key =
      if service.key = key then
        some (match contract.serviceRequests key with
          | some request => { request with optional := request.optional || optional }
          | none => ⟨service, optional⟩)
      else contract.serviceRequests key := by
  unfold CalculatorContract.step CalculatorContract.useService CalculatorContract.markOptional
  by_cases hkey : service.key = key
  · subst hkey
    cases hrequest : contract.serviceRequests service.key <;> cases optional <;> simp [hrequest]
  · cases hrequest : contract.serviceRequests service.key <;> cases optional <;>
      simp [hrequest, hkey, Ne.symm hkey]

/-- From any contract: a request already under `key` keeps its service and becomes
optional when a later call marks it; otherwise the calls' own request is made. -/
theorem CalculatorContract.run_serviceRequests (calls : List ContractCall) :
    (contract.run calls).serviceRequests key =
      match contract.serviceRequests key with
      | some request =>
          some { request with
            optional := request.optional || calls.any (ContractCall.marksOptional key) }
      | none => requestOf calls key := by
  induction calls generalizing contract with
  | nil => cases hrequest : contract.serviceRequests key <;> simp [requestOf, hrequest]
  | cons call calls ih =>
      rw [CalculatorContract.run_cons, ih]
      cases call with
      | useService service optional =>
          rw [CalculatorContract.useService_serviceRequests]
          by_cases hkey : service.key = key
          · cases hrequest : contract.serviceRequests key <;>
              simp [requestOf, hkey, hrequest, ContractCall.usedService,
                ContractCall.marksOptional, Bool.or_assoc]
          · have hbeq : (service.key == key) = false := by simpa using hkey
            cases hrequest : contract.serviceRequests key <;>
              simp [requestOf, hkey, hbeq, hrequest, ContractCall.usedService,
                ContractCall.marksOptional]
      | _ => cases hrequest : contract.serviceRequests key <;>
          simp [CalculatorContract.step, requestOf, hrequest, ContractCall.usedService,
            ContractCall.marksOptional]

@[simp] theorem CalculatorContract.useService_inputStreamHandler (service : GraphServiceBase) :
    (contract.useService service).inputStreamHandler = contract.inputStreamHandler := by
  unfold CalculatorContract.useService
  split <;> rfl

@[simp] theorem CalculatorContract.useService_inputStreamHandlerOptions
    (service : GraphServiceBase) :
    (contract.useService service).inputStreamHandlerOptions =
      contract.inputStreamHandlerOptions := by
  unfold CalculatorContract.useService
  split <;> rfl

theorem CalculatorContract.step_inputStreamHandler (call : ContractCall) :
    (contract.step call).inputStreamHandler =
      call.handlerName.getD contract.inputStreamHandler := by
  cases call <;> simp [CalculatorContract.step, CalculatorContract.markOptional,
    ContractCall.handlerName, apply_ite]

theorem CalculatorContract.step_inputStreamHandlerOptions (call : ContractCall) :
    (contract.step call).inputStreamHandlerOptions =
      call.handlerOptions.getD contract.inputStreamHandlerOptions := by
  cases call <;> simp [CalculatorContract.step, CalculatorContract.markOptional,
    ContractCall.handlerOptions, apply_ite]

/-- A field that each call either sets or leaves holds the last value set. -/
theorem CalculatorContract.run_lastSet {α : Type} (field : CalculatorContract → α)
    (setBy : ContractCall → Option α)
    (hstep : ∀ contract call, field (contract.step call) = (setBy call).getD (field contract))
    (calls : List ContractCall) :
    field (contract.run calls) = ((calls.filterMap setBy).getLast?).getD (field contract) := by
  induction calls generalizing contract with
  | nil => rfl
  | cons call calls ih => cases hset : setBy call <;> simp [ih, hstep, hset, List.getLast?_cons]

/-- After every sequence of calls on a new contract, the handler and its options are the
last ones set, or empty, and each key's request is the one the calls ask for: there
exactly when some call used a service under the key, holding the first such service, and
optional exactly when some call on the key marked it so. -/
theorem CalculatorContract.run_create (calls : List ContractCall) :
    (CalculatorContract.create.run calls).inputStreamHandler =
        ((calls.filterMap ContractCall.handlerName).getLast?).getD "" ∧
      (CalculatorContract.create.run calls).inputStreamHandlerOptions =
        ((calls.filterMap ContractCall.handlerOptions).getLast?).getD [] ∧
      ∀ key, (CalculatorContract.create.run calls).serviceRequests key = requestOf calls key :=
  ⟨CalculatorContract.run_lastSet _ _ (fun _ => CalculatorContract.step_inputStreamHandler) calls,
    CalculatorContract.run_lastSet _ _
      (fun _ => CalculatorContract.step_inputStreamHandlerOptions) calls,
    fun _ => CalculatorContract.run_serviceRequests calls⟩

example : (CalculatorContract.create.run [.useService ⟨"gpu", 1⟩ false,
    .useService ⟨"gpu", 2⟩ true]).serviceRequests "gpu" = some ⟨⟨"gpu", 1⟩, true⟩ := by
  decide

end Run

end MediaPipe.Framework
