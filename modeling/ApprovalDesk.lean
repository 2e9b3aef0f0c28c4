import ApprovalDesk.Proofs.Concurrent.OneDecision
import ApprovalDesk.Proofs.Config.Startup
import ApprovalDesk.Proofs.Database.Rows
import ApprovalDesk.Proofs.Database.Transaction
import ApprovalDesk.Proofs.Dispatch.Independence
import ApprovalDesk.Proofs.Dispatch.Interference
import ApprovalDesk.Proofs.Errands.Expiry
import ApprovalDesk.Proofs.Errands.ReadBack
import ApprovalDesk.Proofs.Html.ProofLink
import ApprovalDesk.Proofs.Html.Renderings
import ApprovalDesk.Proofs.Http.Links
import ApprovalDesk.Proofs.Http.Negotiation
import ApprovalDesk.Proofs.Http.Reasons
import ApprovalDesk.Proofs.Http.Refusals
import ApprovalDesk.Proofs.Http.Secrecy
import ApprovalDesk.Proofs.Json.Stored
import ApprovalDesk.Proofs.Mail.Delivery
import ApprovalDesk.Proofs.Session.Validity
import ApprovalDesk.Proofs.Shift.Final
import ApprovalDesk.Proofs.Shift.Settled
import ApprovalDesk.Proofs.Store.Locality
import ApprovalDesk.Proofs.Token.Secret
import ApprovalDesk.Proofs.Token.Window
import ApprovalDesk.Proofs.Workflow.Foresight
import ApprovalDesk.Proofs.Workflow.Panel
