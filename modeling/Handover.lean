import Handover.Call
import Handover.Session.Step
import Handover.Proofs.Word.Calls
import Handover.Proofs.Race.LastUpdate
import Handover.Proofs.Race.Exchanges
import Handover.Proofs.Race.Freshness
import Handover.Proofs.Race.EmptyReads
import Handover.Proofs.Race.Refinement
import Handover.Proofs.Race.Readiness
import Handover.Proofs.Race.Drained
import Handover.Proofs.Session.Latest
import Handover.Proofs.Session.Reconnection
import Handover.Proofs.Session.Deliveries
import Handover.Proofs.Session.Resumption
import Handover.Proofs.Session.Renewal
import Handover.Proofs.Session.Alternation
