import Passbook.Api.Target
import Passbook.Log.Line
import Passbook.Main
import Passbook.Proofs.Agreement.Run
import Passbook.Proofs.Api.Amounts
import Passbook.Proofs.Api.Authorization
import Passbook.Proofs.Api.Breakdown
import Passbook.Proofs.Order.Run
import Passbook.Proofs.Payees.Run
import Passbook.Proofs.Width.Requests
import Passbook.Proofs.Number.Bounded
import Passbook.Proofs.Decision.Verdict
import Passbook.Proofs.Decision.Serving
import Passbook.Proofs.Decision.Run
import Passbook.Proofs.Balance.Exact
import Passbook.Proofs.Balance.Submitted
import Passbook.Proofs.Race.Turns
import Passbook.Proofs.Race.Stores
import Passbook.Proofs.Listing.Told
import Passbook.Proofs.Listing.Run
import Passbook.Proofs.Service.Records
import Passbook.Proofs.Store.DriverError
import Passbook.Proofs.Demo.Seed
