import CommercePlatform.Generator.Summary
import CommercePlatform.Lib.Machine

/-!
The Kafka producer (`event_generator/producer.py`) and the run of the generator
(`run_generation` and `main` in `event_generator/main.py`).

A run is a machine. A label says what the environment does next: whether the client takes a
message, which delivery callbacks one of its calls serves, and when somebody asks the run to
stop. Metrics, logging and the waiting between journeys are left out.
-/

namespace CommercePlatform.Generator

open Contract

/-! ### producer.py -/

/-- The messages that the Kafka client has accepted, in order, and what became of them. -/
structure Client where
  accepted : List PublishableMessage := []
  queued : List PublishableMessage := []
  delivered : List PublishableMessage := []
  failed : List PublishableMessage := []

/-- A `KafkaEventProducer`, with its client. -/
structure KafkaEventProducer where
  client : Client := {}
  deliveryFailures : Nat := 0
  published : Nat := 0

inductive ProducerDeliveryError where
  | queueFull
  | callbacksFailed (failures : Nat)
  | undelivered (remaining : Nat)
  deriving DecidableEq, Repr

def ProducerDeliveryError.text : ProducerDeliveryError → String
  | queueFull => "Kafka producer queue remained full after bounded polling"
  | callbacksFailed failures => toString failures ++ " Kafka delivery callback(s) failed"
  | undelivered remaining =>
    toString remaining ++ " Kafka message(s) remained undelivered after flush"

/-- A delivery callback: the place of its message in the queue, and whether it reports an
error. -/
structure Report where
  index : Nat
  error : Bool

namespace KafkaEventProducer

variable (p : KafkaEventProducer)

/-- The client takes a message. -/
def enqueue (message : PublishableMessage) : KafkaEventProducer :=
  { p with
    client := { p.client with
      accepted := p.client.accepted ++ [message]
      queued := p.client.queued ++ [message] }
    published := p.published + 1 }

/-- `callback`, called for a queued message. -/
def callback (report : Report) : Option KafkaEventProducer :=
  p.client.queued[report.index]?.map fun message =>
    let queued := p.client.queued.eraseIdx report.index
    if report.error then
      { p with
        client := { p.client with queued, failed := p.client.failed ++ [message] }
        deliveryFailures := p.deliveryFailures + 1 }
    else { p with client := { p.client with queued, delivered := p.client.delivered ++ [message] } }

/-- The callbacks that one `poll` or `flush` of the client serves. -/
def serve (reports : List Report) : Option KafkaEventProducer := reports.foldlM callback p

/-- The check of `poll`. -/
def pollError : Option ProducerDeliveryError :=
  if p.deliveryFailures ≠ 0 then some (.callbacksFailed p.deliveryFailures) else none

/-- The checks of `flush`. -/
def flushError : Option ProducerDeliveryError :=
  if p.client.queued.length ≠ 0 then some (.undelivered p.client.queued.length)
  else p.pollError

end KafkaEventProducer

/-! ### main.py -/

/-- A journey and the messages that are made of it. -/
structure Batch where
  journey : JourneyResult
  messages : List PublishableMessage

namespace Batch

variable (batch : Batch)

/-- The anomalies that are recorded. -/
def anomalyTypes : List AnomalyType := batch.messages.filterMap (·.anomalyType)

def recorded : Recorded := (batch.journey, batch.anomalyTypes)

end Batch

inductive GenerationError where
  | delivery (e : ProducerDeliveryError)
  /-- What else `produce` raises. -/
  | client
  | generator (e : GeneratorError)
  | summary (e : PyException)

/-- Where a run is: `publishing` and `full` are the calls of `publish_message` for the
message at a position, on its attempts. -/
inductive RunStage where
  | deciding
  | generating
  | publishing (batch : Batch) (position attempt : Nat)
  | full (batch : Batch) (position attempt : Nat)
  | enqueued (batch : Batch) (position : Nat)
  | polling (batch : Batch)
  | recording (batch : Batch)
  | flushing
  | returned
  | raised (e : GenerationError)

/-- The code that `main` exits with. -/
def RunStage.exitCode : RunStage → Option Nat
  | returned => some 0
  | raised _ => some 1
  | _ => none

/-- The next round of the loop over the messages, or what follows it. -/
def Batch.from (batch : Batch) (position : Nat) : RunStage :=
  if position < batch.messages.length then .publishing batch position 0 else .polling batch

/-- What a run is given. The injector has a `random.Random` of its own. -/
structure Setup where
  rt : Runtime
  source : Source
  injector : Source
  config : GeneratorConfig
  journeys : Option Nat
  context : DecimalContext

/-- A run, with the batches it has recorded. -/
structure GenerationRun where
  stage : RunStage := .deciding
  world : World := {}
  injected : World := {}
  generated : Nat := 0
  requested : Bool := false
  producer : KafkaEventProducer := {}
  summary : RunSummary := {}
  batches : List Batch := []

inductive Produced where
  | accepted
  | bufferError
  | otherError

inductive GenerationLabel where
  /-- The run goes on by itself. -/
  | step
  /-- What a call of `produce` does. -/
  | produce (outcome : Produced)
  /-- The callbacks that a call of `poll` or `flush` serves. -/
  | serve (reports : List Report)
  /-- `shutdown.request()`. -/
  | request

namespace GenerationRun

variable (setup : Setup) (run : GenerationRun)

/-- The condition of the loop. -/
def continues : Bool := !run.requested && setup.journeys.all fun target => run.generated < target

def raises (e : GenerationError) : GenerationRun := { run with stage := .raised e }

/-- `build` and `prepare`. -/
def generate : GenerationRun :=
  match build setup.rt setup.source setup.config run.world with
  | .error raised => { run with world := raised.world, stage := .raised (.generator raised.error) }
  | .ok (journey, world) =>
    match prepare setup.injector setup.config journey.events run.injected with
    | .error raised =>
      { run with world, injected := raised.world, stage := .raised (.generator raised.error) }
    | .ok (messages, injected) =>
      { run with world, injected, stage := Batch.from ⟨journey, messages⟩ 0 }

/-- The journey is recorded. -/
def record (batch : Batch) : GenerationRun :=
  match run.summary.recordJourney setup.context batch.journey batch.anomalyTypes with
  | .error e => { run with generated := run.generated + 1, stage := .raised (.summary e) }
  | .ok summary =>
    { run with
      generated := run.generated + 1
      summary
      batches := run.batches ++ [batch]
      stage := .deciding }

/-- `publish_message`, from the outcome of `produce` on. -/
def produce (batch : Batch) (position attempt : Nat) (message : PublishableMessage) :
    Produced → GenerationRun
  | .accepted =>
    { run with producer := run.producer.enqueue message, stage := .enqueued batch position }
  | .bufferError =>
    if attempt = 5 then run.raises (.delivery .queueFull)
    else { run with stage := .full batch position attempt }
  | .otherError => run.raises .client

/-- What follows a call of `poll` or `flush`. -/
def served : Option GenerationRun :=
  match run.stage with
  | .full batch position attempt =>
    some { run with stage := .publishing batch position (attempt + 1) }
  | .enqueued batch position => some { run with stage := batch.from (position + 1) }
  | .polling batch =>
    match run.producer.pollError with
    | some e => some (run.raises (.delivery e))
    | none => some { run with stage := .recording batch }
  | .flushing =>
    match run.producer.flushError with
    | some e => some (run.raises (.delivery e))
    | none => some { run with stage := .returned }
  | _ => none

/-- One step of `run_generation`. -/
def step : GenerationLabel → Option GenerationRun
  | .step =>
    match run.stage with
    | .deciding =>
      some { run with stage := if run.continues setup then .generating else .flushing }
    | .generating => some (run.generate setup)
    | .recording batch => some (run.record setup batch)
    | _ => none
  | .produce outcome =>
    match run.stage with
    | .publishing batch position attempt =>
      batch.messages[position]?.map fun message =>
        run.produce batch position attempt message outcome
    | _ => none
  | .serve reports =>
    (run.producer.serve reports).bind fun producer => { run with producer }.served
  | .request => some { run with requested := true }

end GenerationRun

/-- The runs of a setup. -/
def Setup.machine (setup : Setup) : Machine GenerationRun GenerationLabel :=
  ⟨GenerationRun.step setup⟩

end CommercePlatform.Generator
