import Mathlib.Tactic.Common

namespace P3Portal.Http

/-- An endpoint answers a raised exception with its status and detail. -/
structure HttpException where
  statusCode : Nat
  detail : String
  deriving DecidableEq

/-- A call to Proxmox fails with a status of the server or without an answer. -/
inductive ProxmoxError where
  | statusError (statusCode : Nat)
  | requestError
  deriving DecidableEq

/-- An endpoint body raises its own exception or passes on a failure of Proxmox. -/
inductive Failure where
  | http (exception : HttpException)
  | proxmox (error : ProxmoxError)
  deriving DecidableEq

def raise {A : Type} (statusCode : Nat) (detail : String) : Except Failure A :=
  .error (.http ⟨statusCode, detail⟩)

/-- The handlers of the guest endpoints hide the answer of Proxmox behind a fixed detail. -/
def handleProxmoxError : Failure → HttpException
  | .http exception => exception
  | .proxmox (.statusError statusCode) =>
      if statusCode = 403 then ⟨403, "Permission denied by Proxmox"⟩ else ⟨statusCode, "Proxmox API error"⟩
  | .proxmox .requestError => ⟨502, "Could not reach Proxmox API"⟩

end P3Portal.Http
