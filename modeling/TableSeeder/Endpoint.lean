import TableSeeder.Failure
import TableSeeder.Region

/-! Endpoints: where a client for a service and region connects to, and how long it waits. -/

namespace TableSeeder

inductive Service where
  | table
  | identity
  deriving DecidableEq

structure Endpoint where
  service : String
  region : String
  url : String
  connectTimeout : Nat
  readTimeout : Nat
  deriving DecidableEq

namespace Endpoint

def serviceName : Service → String
  | .table => "dynamodb"
  | .identity => "sts"

def timeout : Service → Nat
  | .table => 60
  | .identity => 1

/-- In the government partition every host of the identity service is validated, so that none is
marked. -/
def mark (service : Service) (validated : Bool) (p : Partition) : String :=
  if validated && !(service = .identity && p = .government) then "-fips" else ""

def host (service : Service) (validated : Bool) (region : String) : String :=
  let p := Region.partition region
  serviceName service ++ mark service validated p ++ "." ++ region ++ "." ++ p.domain

/-- Tables may be kept on the machine itself, and the identity service has one endpoint for the
whole world. -/
def address (service : Service) (validated : Bool) (region : String) : String :=
  match service, validated, region with
  | .table, false, "local" => "http://localhost:8000"
  | .table, true, "local" => "http://" ++ host .table true "local"
  | .identity, false, "aws-global" => "https://sts.amazonaws.com"
  | _, _, _ => "https://" ++ host service validated region

def isLabel (region : String) : Bool :=
  let cs := region.toList
  !cs.isEmpty && cs.all Region.isLabelCharacter && !Region.touchesHyphen cs

def of (service : Service) (name : String) : Except Failure Endpoint :=
  if Region.isName name then
    let region := Region.plain name
    let url := address service (Region.asksValidated name) region
    if isLabel region then
      .ok ⟨serviceName service, region, url, timeout service, timeout service⟩
    else .error (.badEndpoint url)
  else .error (.badRegion name)

end Endpoint

end TableSeeder
