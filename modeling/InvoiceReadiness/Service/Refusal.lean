import InvoiceReadiness.Registry
import InvoiceReadiness.Service.Body

/-!
# Answers of the service

A request is answered by data or refused. It is refused before anything runs if
its body does not have the shape of the request, or with a status and a detail if
it asks for what cannot be done. Any other fault ends the request.
-/

namespace InvoiceReadiness.Service

/-- Why a request is not answered. -/
inductive Refusal where
  /-- The body does not have the shape of the request. -/
  | invalidBody
  | denied (status : Nat) (detail : Value)
  | fault (cause : Fault)

/-- The answer to a request. -/
abbrev Reply := Except Refusal

instance : MonadLift Result Reply := ⟨fun r => r.mapError Refusal.fault⟩

/-- A request of which the shape is known. -/
def valid {α : Type} (request : Option α) : Reply α :=
  match request with
  | some r => .ok r
  | none => .error .invalidBody

/-- The status of a request that cannot be processed. -/
def unprocessable : Nat := 422

/-- The status of a request that the state of the service forbids. -/
def conflict : Nat := 409

/-- The status of a request that fails through no fault of its sender. -/
def serverError : Nat := 500

/-- Where the registry is kept, and what was found there. -/
structure RegistryFile where
  path : String
  content : Result Registry

/-- The registry of the service; without it, requests that need it are denied. -/
def RegistryFile.registry (file : RegistryFile) : Reply Registry :=
  match file.content with
  | .ok registry => .ok registry
  | .error (.registry cause) =>
    .error (.denied serverError (.text (cause.message file.path)))
  | .error fault => .error (.fault fault)

end InvoiceReadiness.Service
