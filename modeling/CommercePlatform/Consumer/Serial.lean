import CommercePlatform.Consumer.EventConsumer
import CommercePlatform.Persistence.Ledger
import CommercePlatform.Processor.Execution

/-!
The serial processor (`main.py`, `run_processor`): any number of processes of one
consumer group, each polling, processing one record at a time and committing offsets.

The environment decides everything else: what Redis answers, how every statement of
`persist` is interleaved with those of the other processes, which of them fail, whether
a dead-letter record is confirmed, what the broker stores of a commit, when partitions
move, and when a process dies. A partition is read from the committed offset when it is
assigned, and the broker stores nothing for a process that does not own the partition.
-/

namespace CommercePlatform.Consumer

open Contract Offset Persistence Processor

/-- What the processes of the group share. -/
structure Deployment where
  uow : UnitOfWork
  parser : Parser
  processor : Nat → MessageProcessor
  parser_eq : ∀ p, (processor p).validator.toParser = parser
  log : Log

/-- Where `run_processor` is in its loop; `closing` is its `finally` block. -/
inductive Phase where
  | polling
  | processing (job : Job)
  | closing

/-- A running process: its consumer, the next offset to be fetched of each partition it
reads, and its phase. -/
structure Running where
  consumer : EventConsumer
  positions : Dict PartitionKey Int := ∅
  phase : Phase := .polling

structure Cluster (d : Deployment) where
  service : Service d.uow
  committed : PartitionKey → Int
  owner : PartitionKey → Option Nat := fun _ => none
  dlq : List DlqEnvelope := []
  running : Dict Nat Running := ∅

inductive SerialLabel where
  /-- A process starts, with the settings and the clock of its tracker. -/
  | start (p : Nat) (batchSize : Nat) (intervalSeconds now : Rat)
  /-- The coordinator gives the partitions to other members. -/
  | rebalance (owner : PartitionKey → Option Nat)
  | assign (p : Nat) (keys : List PartitionKey)
  | revoke (p : Nat) (keys : List PartitionKey) (reply : CommitReply)
  /-- `poll` returns nothing. -/
  | idle (p : Nat) (reply : CommitReply)
  | pollFailed (p : Nat)
  /-- `poll` returns the record at this offset. -/
  | deliver (p : Nat) (key : PartitionKey) (offset : Int) (token : String)
  | reply (p : Nat) (answer : Reply)
  | commit (p : Nat) (reply : CommitReply)
  | persist (p : Nat) (now : Instant)
  | database (l : ServiceLabel)
  | resume (p : Nat)
  | finish (p : Nat)
  | shutdown (p : Nat)
  | flush (p : Nat) (reply : CommitReply)
  | exit (p : Nat)
  | crash (p : Nat)

namespace Cluster

variable {d : Deployment} (st : Cluster d)

/-- What the broker stores of a commit by `p`. -/
def store (p : Nat) (reply : CommitReply) (commits : Dict PartitionKey Int) (k : PartitionKey) :
    Int :=
  if st.owner k = some p then reply.store st.committed commits k else st.committed k

def update (p : Nat) (run : Running) : Cluster d := { st with running := st.running.set p run }

/-- A call of the consumer has committed and left `run` behind. -/
def called (p : Nat) (reply : CommitReply) (call : Call) (run : Running) : Cluster d :=
  { st with
    committed := st.store p reply call.commits
    running := st.running.set p { run with consumer := call.consumer } }

/-- What `commit_terminal` raises. -/
def commitError (run : Running) (m : ConsumedMessage) : PyException :=
  if messageKey m ∈ run.consumer.revoked then
    .raised .fatalInfrastructureError "partition was revoked before commit"
  else .kafkaException

/-- The process `p`, when it is in the `poll` of its loop. -/
def polling (p : Nat) : Option Running :=
  (st.running.get? p).filter fun run => run.phase matches .polling

/-- The process `p` and the record it is processing. -/
def working (p : Nat) : Option (Running × Job) :=
  (st.running.get? p).bind fun run =>
    match run.phase with
    | .processing job => some (run, job)
    | _ => none

def closing (p : Nat) : Option Running :=
  (st.running.get? p).filter fun run => run.phase matches .closing

def step : SerialLabel → Option (Cluster d)
  | .start p batchSize intervalSeconds now =>
    if (st.running.get? p).isNone then
      some (st.update p { consumer := { tracker := { batchSize, intervalSeconds, lastFlushAt := now } } })
    else none
  | .rebalance owner => some { st with owner }
  | .assign p keys =>
    (st.polling p).bind fun run =>
      if keys.all fun k => st.owner k = some p then
        some (st.update p { run with
          consumer := run.consumer.onAssign keys
          positions := keys.foldl (fun ps k => ps.set k (st.committed k)) run.positions })
      else none
  | .revoke p keys reply =>
    ((st.polling p).orElse fun _ => st.closing p).map fun run =>
      st.called p reply (run.consumer.onRevoke keys reply)
        { run with positions := keys.foldl Dict.erase run.positions }
  | .idle p reply =>
    (st.polling p).map fun run =>
      let call := run.consumer.maybeFlushIdle reply
      st.called p reply call { run with phase := if call.raised then .closing else .polling }
  | .pollFailed p => (st.polling p).map fun run => st.update p { run with phase := .closing }
  | .deliver p key offset token =>
    (st.polling p).bind fun run =>
      (run.positions.get? key).bind fun position =>
        (d.log.record key offset).bind fun record =>
          if d.log.next key position offset then
            let message := record.message key offset
            some (st.update p { run with
              positions := run.positions.set key (offset + 1)
              phase := .processing { message, body := (d.processor p).process message token } })
          else none
  | .reply p answer =>
    (st.working p).bind fun (run, job) =>
      match answer with
      | .committed _ => none
      | _ =>
        (job.reply answer).map fun job' =>
          { st.update p { run with phase := .processing job' } with
            dlq := (job.confirms answer).toList ++ st.dlq }
  | .commit p reply =>
    (st.working p).bind fun (run, job) =>
      match job.body with
      | .call (.commitTerminal m) _ =>
        let call := run.consumer.commitTerminal m reply
        let answer := if call.raised then .error (commitError run m) else .ok ()
        (job.reply (.committed answer)).map fun job' =>
          st.called p reply call { run with phase := .processing job' }
      | _ => none
  | .persist p now =>
    (st.working p).bind fun (run, job) =>
      (job.persistCall (d.processor p).instanceId now).map fun call =>
        { st.update p { run with phase := .processing { job with call := some st.service.started } } with
          service := st.service.begin_ call }
  | .database l => (st.service.step l).map fun service => { st with service }
  | .resume p =>
    (st.working p).bind fun (run, job) =>
      job.call.bind fun id =>
        (st.service.ended.lookup id).bind fun ending =>
          ending.answer.bind fun answer =>
            (job.resume answer).map fun job' => st.update p { run with phase := .processing job' }
  | .finish p =>
    (st.working p).bind fun (run, job) =>
      job.result.map fun
        | .ok outcome =>
          st.update p { run with phase := if outcome.terminal then .polling else .closing }
        | .error _ => st.update p { run with phase := .closing }
  | .shutdown p => (st.polling p).map fun run => st.update p { run with phase := .closing }
  | .flush p reply =>
    (st.closing p).map fun run => st.called p reply (run.consumer.flushPending reply) run
  | .exit p => (st.closing p).map fun _ => { st with running := st.running.erase p }
  | .crash p => some { st with running := st.running.erase p }

def machine (d : Deployment) : Machine (Cluster d) SerialLabel := ⟨step⟩

/-- No process runs yet, and the group is at its starting position. -/
def init (d : Deployment) (db : Db) : Cluster d where
  service := Service.init d.uow db
  committed := d.log.start

end Cluster

end CommercePlatform.Consumer
