import BrokerLoad.Program
import BrokerLoad.Report
import BrokerLoad.Worker.Idler
import BrokerLoad.Script.Rehearsal
import BrokerLoad.Broker.Session
import BrokerLoad.Broker.Rigged
import BrokerLoad.Main
import BrokerLoad.Proofs.Ledger.Service
import BrokerLoad.Proofs.Producer.PipelinedMoves
import BrokerLoad.Proofs.Producer.Discipline
import BrokerLoad.Proofs.Producer.Window
import BrokerLoad.Proofs.Producer.Balance
import BrokerLoad.Proofs.Producer.PipelinedFates
import BrokerLoad.Proofs.Producer.BlockingMoves
import BrokerLoad.Proofs.Producer.BlockingFates
import BrokerLoad.Proofs.Producer.Orderly
import BrokerLoad.Proofs.Producer.Accounts
import BrokerLoad.Proofs.Producer.Tallies
import BrokerLoad.Proofs.Broker.Traffic
import BrokerLoad.Proofs.Envelope
import BrokerLoad.Proofs.Broker.Passage
import BrokerLoad.Proofs.Crew.Engines
import BrokerLoad.Proofs.Crew.Reach
import BrokerLoad.Proofs.Crew.Writing
import BrokerLoad.Proofs.Crew.Reading
import BrokerLoad.Proofs.Crew.NothingLost
import BrokerLoad.Proofs.Broker.Order
import BrokerLoad.Proofs.Broker.Conservation
import BrokerLoad.Proofs.Crew.Reconciling
import BrokerLoad.Proofs.Crew.Foretold
import BrokerLoad.Proofs.Worker.Lifetime
import BrokerLoad.Proofs.Worker.Tidy
import BrokerLoad.Proofs.Conductor.Success
import BrokerLoad.Proofs.Producer.Draining
import BrokerLoad.Proofs.Consumer.Moves
import BrokerLoad.Proofs.Engine.Stopping
import BrokerLoad.Proofs.Producer.Stopping
import BrokerLoad.Proofs.Consumer.Stopping
import BrokerLoad.Proofs.Engine.Promptness
import BrokerLoad.Proofs.Crew.Parity
import BrokerLoad.Proofs.Crew.Throttling
import BrokerLoad.Proofs.Broker.Redelivery
import BrokerLoad.Proofs.Engine.Receiving
import BrokerLoad.Proofs.Consumer.Sharing
import BrokerLoad.Proofs.Crew.Persevering
import BrokerLoad.Proofs.Crew.Interchange
import BrokerLoad.Proofs.Broker.Copies
import BrokerLoad.Proofs.Broker.Departure
import BrokerLoad.Proofs.Plan.Numbers
import BrokerLoad.Proofs.Plan.LastWord
import BrokerLoad.Proofs.Ledger.Percentiles
import BrokerLoad.Proofs.Envelope.WireForm
import BrokerLoad.Proofs.Ledger.Visits
import BrokerLoad.Proofs.Plan.Blame
import BrokerLoad.Proofs.Producer.Termination
