import FoodDelivery.Tenancy.Identity

namespace FoodDelivery.Gateway

open Tenancy

/-- A client's request once its token has been verified. -/
structure AuthenticatedRequest where
  headers : Headers
  identity : VerifiedIdentity

def correlationIdHeader : String := "x-correlation-id"

def forwardedClientHeaders : List String := ["idempotency-key"]

/-- Passes a header on if the client sent it once. -/
def copyHeader (request : AuthenticatedRequest) (headers : Headers) (name : String) : Headers :=
  match request.headers name with
  | some (.single value) => headers.set name value
  | _ => headers

/-- The headers that `HttpForwarder.forward` sends upstream. -/
def forwardHeaders (hmac : Hmac) (signingKey : Option String) (request : AuthenticatedRequest) (now : Nat) : Headers :=
  let contentType : Headers := Headers.set (fun _ => none) "content-type" "application/json"
  let headers := forwardedClientHeaders.foldl (copyHeader request) (copyHeader request contentType correlationIdHeader)
  applyTrustedIdentityHeaders headers request.identity ((filled signingKey).map (signIdentity hmac)) now

theorem copyHeader_other (request : AuthenticatedRequest) (headers : Headers) {name other : String}
    (different : other ≠ name) : (copyHeader request headers name).first other = headers.first other := by
  unfold copyHeader
  split
  · exact Headers.first_set_other headers _ different
  · rfl

/-- Only the listed headers of the client reach the service. -/
theorem forwardHeaders_dropped (hmac : Hmac) (signingKey : Option String) (request : AuthenticatedRequest) (now : Nat)
    {name : String} (unlisted : name ∉ ["content-type", correlationIdHeader, "idempotency-key", tenantIdHeader, userIdHeader,
      rolesHeader, identityTsHeader, identitySigHeader]) :
    (forwardHeaders hmac signingKey request now).first name = none := by
  have notCorrelation := List.not_mem_of_not_mem_cons unlisted
  have notIdempotency := List.not_mem_of_not_mem_cons notCorrelation
  have trusted := List.not_mem_of_not_mem_cons notIdempotency
  rw [forwardHeaders, applyTrustedIdentityHeaders_other _ _ _ _ trusted, forwardedClientHeaders, List.foldl_cons, List.foldl_nil,
    copyHeader_other _ _ (List.ne_of_not_mem_cons notIdempotency), copyHeader_other _ _ (List.ne_of_not_mem_cons notCorrelation),
    Headers.first_set_other _ _ (List.ne_of_not_mem_cons unlisted)]
  rfl

end FoodDelivery.Gateway
