import Caseflow.Case.Codec

/-!
# Messages to services

What a service is told about the current state, and what its reply means.
-/
namespace Caseflow.Case

open Json

structure Message where
  offers : List Offer
  instructions : Option String
deriving DecidableEq

def serviceActor (service : String) : String := "service:" ++ service

/-- The actions on offer whose actors name the service itself. -/
def serviceOffers (c : Case) (service : String) : List Offer :=
  c.current.offers.filter (·.actors.contains (serviceActor service))

def messageTo (c : Case) (service : String) : Message where
  offers := c.serviceOffers service
  instructions := c.current.instructions.get? (serviceActor service)

def Message.encode (m : Message) : Json :=
  .obj ([("actions", .arr (m.offers.map (·.encode)))] ++
    optionalField "instructions" .str m.instructions)

def expectedAction? (c : Case) (service : String) : Option String :=
  (c.current.alerts.find? (·.service == service)).bind (·.trigger)

/-- The action that a reply names, if it is offered to the service. -/
def requestedAction? (c : Case) (service : String) (reply : Json) : Option String :=
  ((reply.field? "action").bind asString?).filter fun key =>
    (c.serviceOffers service).any (·.key == key)

/-- The action that a reply of a service stands for: the expected one, or else the one it names. -/
def triggeredAction? (c : Case) (service : String) (reply : Option Json) : Option String :=
  (c.expectedAction? service).or (reply.bind (c.requestedAction? service))

end Caseflow.Case
