import Supervision.Run
import Supervision.Scenario.Play
import Supervision.Proofs.Conservation
import Supervision.Proofs.Sessions
import Supervision.Proofs.Offstage
import Supervision.Proofs.Doings
import Supervision.Proofs.Pursuit
import Supervision.Proofs.Books
import Supervision.Proofs.Attempts
import Supervision.Proofs.Bindings
import Supervision.Proofs.Disconnection
import Supervision.Proofs.Requests
import Supervision.Proofs.Enactment
import Supervision.Proofs.Listening
import Supervision.Proofs.Recounting
import Supervision.Proofs.Abandonment
import Supervision.Proofs.Flushing
import Supervision.Proofs.Intent
import Supervision.Proofs.Timekeeping
import Supervision.Proofs.Reconnects
import Supervision.Proofs.Punctuality
import Supervision.Proofs.Consistency
import Supervision.Proofs.Requeueing
import Supervision.Proofs.Resumption
import Supervision.Proofs.Touching
import Supervision.Proofs.Stirring
import Supervision.Proofs.Stopping
import Supervision.Proofs.Subscriptions
import Supervision.Proofs.Clearance
import Supervision.Proofs.Suspension
import Supervision.Proofs.Tickets
import Supervision.Proofs.Finality
import Supervision.Proofs.Refusals
import Supervision.Proofs.Bereavement
import Supervision.Proofs.Transitions
import Supervision.Proofs.Reading
import Supervision.Proofs.Transmission
import Supervision.Proofs.Thrift
import Supervision.Proofs.Exhaustion
import Supervision.Proofs.Announcements
import Supervision.Proofs.Coalescing
