import SupportPlatform.Consumers.Projections
import SupportPlatform.Messaging.Broker

/-!
# IdempotencyService and ConsumerRunner

The wrapper around every projector: the row in `processed_events` and the projection in one
transaction, and after a failure the bounded retry through the consumer's own queue.
-/

namespace SupportPlatform

namespace PrismaError

/-- `error instanceof PrismaClientKnownRequestError && error.code === 'P2002'`. -/
def isUniqueViolation : PrismaError → Bool
  | .knownRequest code _ => code = "P2002"
  | .other _ => false

end PrismaError

/-! ### IdempotencyService -/

namespace IdempotencyService

/-- The row that a second run of the event for this consumer conflicts with. -/
def createProcessed (consumer : Consumer) (eventId : Uuid) : DbTx Unit := do
  let env ← Transaction.ask
  attempt .processed fun db =>
    (insertRow db.processedEvents ⟨eventId, consumer, env.now⟩ false true).map
      fun processedEvents => ((), { db with processedEvents })

/-- The transaction of `runOnce`. -/
def transaction (consumer : Consumer) (eventId : Uuid) (work : DbTx Unit) : DbTx Unit :=
  interactive do
    createProcessed consumer eventId
    work

/-- What `runOnce` makes of the error of its transaction. -/
def caught (e : PrismaError) : Except PrismaError Bool :=
  if e.isUniqueViolation then .ok false else .error e

/-- `runOnce`: `true` when the work ran now, `false` for a duplicate. -/
def runOnce (consumer : Consumer) (eventId : Uuid) (work : DbTx Unit) (env : Env) (db : Db) :
    Except PrismaError Bool × Db :=
  match (transaction consumer eventId work).commit env db with
  | (.ok _, db') => (.ok true, db')
  | (.error e, db') => (caught e, db')

end IdempotencyService

/-! ### ConsumerRunner -/

namespace ConsumerRunner

/-- A header of a message, if it has it. -/
def header? (raw : RawAmqpMessage) (name : String) : Option JsValue :=
  raw.headers.bind (·.lookup name)

/-- The spread of the headers with one of them set. -/
def setHeader (headers : List (String × JsValue)) (name : String) (v : JsValue) :
    List (String × JsValue) :=
  if headers.any (·.1 = name) then headers.map fun p => if p.1 = name then (name, v) else p
  else headers ++ [(name, v)]

/-- The retry count of a message. -/
def attempt (raw : RawAmqpMessage) : JsNumber := JsValue.toNumberOrZero (header? raw RETRY_HEADER)

/-- The message that is published back to its queue. -/
def retried (m : Message) (error : String) : Message where
  event := m.event
  raw :=
    { m.raw with
      headers := some <|
        setHeader
          (setHeader (m.raw.headers.getD []) RETRY_HEADER (.number (attempt m.raw).succ))
          LAST_ERROR_HEADER (.string error) }

/-- The message that is published to the dead-letter exchange. -/
def deadLetterOf (queue : Consumer) (m : Message) (error : String) (now : Time) : DeadLetter where
  originQueue := queue
  error
  failedAt := now
  event := m.event
  messageId := m.raw.messageId

/-- What `retryOrDeadLetter` publishes, once the broker has taken it. -/
def republish (cfg : Config) (queue : Consumer) (m : Message) (error : String) (now : Time)
    (broker : Broker) : Broker :=
  if (attempt m.raw).lt (.finite cfg.maxRetries) then broker.push queue (retried m error)
  else broker.deadLetter (deadLetterOf queue m error now)

/-- `retryOrDeadLetter`; an error of `publish` goes through to the caller. -/
def retryOrDeadLetter (cfg : Config) (queue : Consumer) (m : Message) (error : String)
    (now : Time) (publish : PublishOutcome) (broker : Broker) : Except String Unit × Broker :=
  (match publish.error? with
    | none => .ok ()
    | some e => .error e,
    if publish.taken then republish cfg queue m error now broker else broker)

/-- `handle`: it resolves or throws, and leaves a database and a broker. -/
def handle (cfg : Config) (consumer : Consumer) (m : Message) (project : DomainEvent → DbTx Unit)
    (env : Env) (publish : PublishOutcome) (db : Db) (broker : Broker) :
    Except String Unit × Db × Broker :=
  match IdempotencyService.runOnce consumer m.event.eventId (project m.event) env db with
  | (.ok _, db') => (.ok (), db', broker)
  | (.error e, db') =>
    let (result, broker') :=
      retryOrDeadLetter cfg consumer m e.message env.now publish broker
    (result, db', broker')

end ConsumerRunner

end SupportPlatform
