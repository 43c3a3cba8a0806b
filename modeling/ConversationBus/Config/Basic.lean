/-!
# Configuration of a bus
-/

namespace ConversationBus

/-- The settings of a bus: the admission budget, the sizes of its queues and the place of its
store. -/
structure BusConfig where
  /-- The number of messages that may be admitted and not yet handled. -/
  maxInFlight : Nat
  /-- The number of error reports that are kept for the consumer. -/
  errorBuffer : Nat
  /-- The size of the ingress queue; zero stands for the admission budget. -/
  ingressBuffer : Nat
  databaseUrl : Option String
  deriving DecidableEq, Repr

namespace BusConfig

/-- The settings that hold where nothing else is said. -/
def standard : BusConfig :=
  { maxInFlight := 64, errorBuffer := 256, ingressBuffer := 0, databaseUrl := none }

instance : Inhabited BusConfig := ⟨standard⟩

def ingressCapacity (config : BusConfig) : Nat :=
  if config.ingressBuffer = 0 then max config.maxInFlight 1 else config.ingressBuffer

end BusConfig

end ConversationBus
