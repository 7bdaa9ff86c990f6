/-
  Visits: requests to the gateway, served one after another.

  A visit brings the reading of the clock at which it is served, and the users as they are then.

  * `Gateway.serve` serves one visit, and `Gateway.serveAll` a list of them, each with the ban
    list that the one before left;
  * `rejections` are the readings at which the users turned down a client;
  * `Desk.serve_request`: a desk serves the requests of the gateway as the gateway serves visits.
-/
import PlatformCore.Session.Desk

namespace PlatformCore.Session

/-! ## Visits -/

/-- What a visitor asks of the gateway. -/
inductive Errand where
  | login (method : Http.Method) (client : String) (credentials : Credentials)
  | logout (method : Http.Method)
  | whoAmI (method : Http.Method) (caller : Caller)

/-- An errand, and when it is done. -/
structure Visit where
  now : Int
  verify : String → String → Bool
  errand : Errand

namespace Gateway

def serve (g : Gateway) (b : BanList) (v : Visit) : Outcome :=
  match v.errand with
  | .login method client credentials => g.login v.verify v.now method client credentials b
  | .logout method => { response := g.logout method, bans := b }
  | .whoAmI method caller => { response := g.whoAmI v.now method caller, bans := b }

def serveAll (g : Gateway) (b : BanList) : List Visit → BanList × List (Visit × Outcome)
  | [] => (b, [])
  | v :: vs =>
    let o := g.serve b v
    let (b, served) := g.serveAll o.bans vs
    (b, (v, o) :: served)

end Gateway

/-! ## What is told of a client -/

/-- The reading at which a visit had the users asked about a client and turn it down. -/
def Visit.rejection? (client : String) (v : Visit) (o : Outcome) : Option Int :=
  match v.errand with
  | .login _ c credentials =>
    if c = client ∧ o.consulted ∧ v.verify credentials.login credentials.password = false then
      some v.now
    else none
  | _ => none

/-- The readings at which the users turned down a client, in the order of the visits. -/
def rejections (client : String) (served : List (Visit × Outcome)) : List Int :=
  served.filterMap fun e => e.1.rejection? client e.2

/-! ## The gateway at its desk -/

def Errand.request : Errand → Request
  | login method client credentials => .login method client credentials
  | logout method => .logout method
  | whoAmI method caller => .whoAmI method caller

/-- A desk answers an errand as the gateway does on a visit, with its own clock and users. -/
theorem Desk.serve_request (d : Desk) (e : Errand) (o : Outcome)
    (ho : o = d.gateway.serve d.bans ⟨d.clock.now, d.users.verify, e⟩) :
    (d.serve e.request).1.bans = o.bans ∧ (d.serve e.request).2.1 = .response o.response ∧
      (d.serve e.request).2.2.events = (if d.announces then o.events else []) ∧
      (d.serve e.request).1.consultations = d.consultations + o.consulted.toNat := by
  subst ho
  cases e with
  | login => exact ⟨rfl, rfl, rfl, rfl⟩
  | logout | whoAmI => exact ⟨rfl, rfl, (ite_self _).symm, rfl⟩

end PlatformCore.Session
