import SwapRelay.Deployment.Custodian
import SwapRelay.Deployment.Governance
import SwapRelay.Deployment.Inbound
import SwapRelay.Deployment.Inquiry
import SwapRelay.Deployment.Operation
import SwapRelay.Deployment.Outbound
import SwapRelay.Deployment.Peers
import SwapRelay.Deployment.Roles
import SwapRelay.Deployment.Router
import SwapRelay.Deployment.State
import SwapRelay.Deployment.Transfer
import SwapRelay.Error
import SwapRelay.Message.FeeRecord
import SwapRelay.Message.Governance
import SwapRelay.Message.Output
import SwapRelay.Message.Query
import SwapRelay.Message.Redeem
import SwapRelay.Message.SwapMessage
import SwapRelay.Proofs.Action
import SwapRelay.Proofs.Atomicity
import SwapRelay.Proofs.Checks
import SwapRelay.Relay.Fee
import SwapRelay.Relay.GasOverheads
import SwapRelay.Relay.Terms
import SwapRelay.Settings.Basic
import SwapRelay.Settings.Text
import SwapRelay.Table
import SwapRelay.Text.Json
import SwapRelay.Value.Address
import SwapRelay.Value.Binary64
import SwapRelay.Value.Error
import SwapRelay.Value.Gas
import SwapRelay.Value.Percentage
import SwapRelay.Wire.Batch
import SwapRelay.Wire.Codec
import SwapRelay.Wire.Error
import SwapRelay.Wire.Word
import SwapRelay.Proofs.Effects
import SwapRelay.Proofs.Histories
import SwapRelay.Proofs.Initiation
import SwapRelay.Proofs.Invariants
import SwapRelay.Proofs.Conservation
import SwapRelay.Proofs.Delivery
import SwapRelay.Proofs.Settlement
import SwapRelay.Proofs.Writing
import SwapRelay.Proofs.Canonical
import SwapRelay.Proofs.AdministrativeRecords
import SwapRelay.Proofs.Strictness
import SwapRelay.Proofs.Registry
import SwapRelay.Proofs.Refusals
import SwapRelay.Proofs.Quotes
import SwapRelay.Proofs.Staging
import SwapRelay.Proofs.Retention
import SwapRelay.Proofs.Courses
import SwapRelay.Proofs.Custodians
import SwapRelay.Proofs.Payouts
import SwapRelay.Proofs.Ownership
import SwapRelay.Proofs.Privileges
import SwapRelay.Proofs.Intents
import SwapRelay.Proofs.Independence
import SwapRelay.Proofs.Fees
import SwapRelay.Proofs.FeeOrder
import SwapRelay.Proofs.Admission
import SwapRelay.Proofs.Relays
import SwapRelay.Proofs.GovernanceBatches
import SwapRelay.Proofs.FeeUpdates
import SwapRelay.Proofs.FeeBatches
import SwapRelay.Proofs.Replays
import SwapRelay.Proofs.Answers
import SwapRelay.Proofs.Margins
import SwapRelay.Proofs.FeeReports
import SwapRelay.Proofs.ZeroAnswers
