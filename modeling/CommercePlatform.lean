import CommercePlatform.Lib.Machine
import CommercePlatform.Lib.Dict
import CommercePlatform.Lib.Prog
import CommercePlatform.Lib.ReadCommitted
import CommercePlatform.Lib.Rows
import CommercePlatform.Models
import CommercePlatform.Contract.Events
import CommercePlatform.Contract.Text
import CommercePlatform.Contract.Json
import CommercePlatform.Contract.Parsing
import CommercePlatform.Contract.Dumps
import CommercePlatform.Contract.Truncation
import CommercePlatform.Contract.Canonical
import CommercePlatform.Contract.RoundTrip
import CommercePlatform.Contract.Soundness
import CommercePlatform.Contract.Edits
import CommercePlatform.Idempotency.Store
import CommercePlatform.Idempotency.Lease
import CommercePlatform.Outbox.Repository
import CommercePlatform.Outbox.Service
import CommercePlatform.Outbox.Lease
import CommercePlatform.Outbox.Attempts
import CommercePlatform.Offset.PartitionState
import CommercePlatform.Offset.Tracker
import CommercePlatform.Offset.Exactness
import CommercePlatform.Offset.Commits
import CommercePlatform.Offset.Coverage
import CommercePlatform.Offset.Progress
import CommercePlatform.Consumer.EventConsumer
import CommercePlatform.Consumer.IdleFlush
import CommercePlatform.Consumer.Pooled
import CommercePlatform.Consumer.PooledSafety
import CommercePlatform.Consumer.PooledShutdown
import CommercePlatform.Fraud.Models
import CommercePlatform.Persistence.Tables
import CommercePlatform.Persistence.Statements
import CommercePlatform.Persistence.Repositories
import CommercePlatform.Fraud.Context
import CommercePlatform.Fraud.Engine
import CommercePlatform.Fraud.Repository
import CommercePlatform.Persistence.UnitOfWork
import CommercePlatform.Persistence.Frame
import CommercePlatform.Persistence.Raises
import CommercePlatform.Persistence.RefundSafety
import CommercePlatform.Persistence.FraudComplete
import CommercePlatform.Persistence.ExactlyOnce
import CommercePlatform.Persistence.Service
import CommercePlatform.Persistence.Ledger
import CommercePlatform.Processor.Validation
import CommercePlatform.Processor.Dlq
import CommercePlatform.Processor.MessageProcessor
import CommercePlatform.Processor.Discipline
import CommercePlatform.Processor.Execution
import CommercePlatform.Processor.Acceptance
import CommercePlatform.Processor.AttemptCount
import CommercePlatform.Processor.DlqSize
import CommercePlatform.Processor.RoundTrip
import CommercePlatform.Processor.NormalForm
import CommercePlatform.Processor.Counting
import CommercePlatform.Processor.Gauges
import CommercePlatform.Processor.Summary
import CommercePlatform.Processor.Accounting
import CommercePlatform.Processor.RunAccounts
import CommercePlatform.Consumer.Serial
import CommercePlatform.Consumer.Assignment
import CommercePlatform.Consumer.AtLeastOnce
import CommercePlatform.Persistence.CartSafety
import CommercePlatform.Persistence.CartConversion
import CommercePlatform.Persistence.OrderStatus
import CommercePlatform.Persistence.PaymentOrders
import CommercePlatform.Lib.Alone
import CommercePlatform.Lib.Rank
import CommercePlatform.Fraud.Rules
import CommercePlatform.Fraud.Evaluation
import CommercePlatform.Fraud.Accepted
import CommercePlatform.Persistence.OwnerChain
import CommercePlatform.Fraud.NearFull
import CommercePlatform.Fraud.AmountMatch
import CommercePlatform.Fraud.PaymentHistory
import CommercePlatform.Fraud.RefundHistory
import CommercePlatform.Fraud.Windows
import CommercePlatform.Fraud.Soundness
import CommercePlatform.Fraud.AlertIdentity
import CommercePlatform.Demo.Repository
import CommercePlatform.Demo.ScenarioRunner
import CommercePlatform.Demo.Ownership
import CommercePlatform.Demo.Concurrency
import CommercePlatform.Demo.Overview
import CommercePlatform.Persistence.Migrations
import CommercePlatform.Persistence.MigrationSafety
import CommercePlatform.Persistence.Registration
import CommercePlatform.Persistence.SingleRows
import CommercePlatform.Lib.Relational
import CommercePlatform.Fraud.CustomerAndOrder
import CommercePlatform.Lib.Stateful
import CommercePlatform.Lib.Counter
import CommercePlatform.Generator.Personas
import CommercePlatform.Generator.Config
import CommercePlatform.Generator.State
import CommercePlatform.Generator.Journey
import CommercePlatform.Generator.Anomalies
import CommercePlatform.Generator.Frames
import CommercePlatform.Generator.Draws
import CommercePlatform.Generator.Lifecycle
import CommercePlatform.Generator.Visits
import CommercePlatform.Generator.Causality
import CommercePlatform.Generator.Clock
import CommercePlatform.Generator.Journeys
import CommercePlatform.Generator.Populations
import CommercePlatform.Generator.Histories
import CommercePlatform.Generator.CausalValidity
import CommercePlatform.Generator.Accounts
import CommercePlatform.Generator.Stages
import CommercePlatform.Generator.Completion
import CommercePlatform.Generator.PersonaWeights
import CommercePlatform.Generator.Override
import CommercePlatform.Generator.Summary
import CommercePlatform.Generator.Producer
import CommercePlatform.Generator.Delivery
import CommercePlatform.Generator.Records
import CommercePlatform.Generator.Labels
import CommercePlatform.Generator.Seeded
import CommercePlatform.Generator.Published
import CommercePlatform.Demo.Generation
import CommercePlatform.Demo.RunCollision
import CommercePlatform.Demo.Requests
import CommercePlatform.Demo.PersonaSupport
import CommercePlatform.Demo.RunCounters
import CommercePlatform.Demo.Platform
import CommercePlatform.Demo.WaitForProcessing
import CommercePlatform.Persistence.Handling
import CommercePlatform.Persistence.JourneyTables
import CommercePlatform.Persistence.JourneyAcceptance
import CommercePlatform.Persistence.PublishedJourneys
