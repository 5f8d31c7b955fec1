import LedgerNode.Main
import LedgerNode.Proofs.Bus.Deadlines
import LedgerNode.Proofs.Bus.Reconnection
import LedgerNode.Proofs.Bus.Registration
import LedgerNode.Proofs.Bus.Registry
import LedgerNode.Proofs.Bus.Senders
import LedgerNode.Proofs.Query.Addresses
import LedgerNode.Proofs.Query.Evaluation
import LedgerNode.Proofs.Query.Quantities
import LedgerNode.Proofs.Rpc.Answering
import LedgerNode.Proofs.Rpc.Channels
import LedgerNode.Proofs.Rpc.Determinacy
import LedgerNode.Proofs.Rpc.Replies
import LedgerNode.Proofs.Rpc.Respelling
import LedgerNode.Proofs.Rpc.Sending
import LedgerNode.Proofs.Rpc.WireForms
import LedgerNode.Proofs.Storage.Acceptance
import LedgerNode.Proofs.Storage.Codec
import LedgerNode.Proofs.Storage.Keys
import LedgerNode.Rpc.Http
