import TableSeeder.World

/-! The credential check: whether the caller's identity resolves to an account. An outage of
the identity service earns one more attempt. -/

namespace TableSeeder

namespace Credentials

def logger : String := "item_loader.infrastructure.credentials"

def isTransient : Failure → Bool
  | .incident (.outage .endpoint _) => true
  | .incident (.outage .connectTimeout _) => true
  | .incident (.outage .readTimeout _) => true
  | _ => false

def identityClient (region : String) : Option Nat → Step Nat
  | some client, w => (.ok client, w)
  | none, w => World.createIdentityClient region w

/-- The account of an identity; one that counts as false is none. -/
def accountOf : Value → Except Failure Value
  | .object ms =>
    match Members.get? ms "Account" with
    | some v => if v.truthy then .ok v else .error .noAccount
    | none => .error .noAccount
  | v => .error (.noMember v.typeName "get")

def resolved (account : Value) (region : String) : Log.Entry :=
  ⟨logger, Log.Level.debug, "Credentials resolved",
    [("account", account), ("region", .text region)]⟩

def attempt (region : String) (client : Option Nat) : Step Value := fun w =>
  match identityClient region client w with
  | (.error f, w) => (.error f, w)
  | (.ok n, w) =>
    match World.nextIdentity (w.emit (.callerIdentity n)) with
    | (.error f, w) => (.error f, w)
    | (.ok identity, w) =>
      match accountOf identity with
      | .error f => (.error f, w)
      | .ok account =>
        match World.log (resolved account region) w with
        | (.error f, w) => (.error f, w)
        | (.ok _, w) => (.ok account, w)

def pause : Interval := .real 0.5

def check (region : String) (client : Option Nat) : Step Value := fun w =>
  match attempt region client w with
  | (.ok account, w) => (.ok account, w)
  | (.error f, w) =>
    if isTransient f then
      match World.sleep pause w with
      | (.error g, w) => (.error g, w)
      | (.ok _, w) => attempt region client w
    else (.error f, w)

end Credentials

end TableSeeder
