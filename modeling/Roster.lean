import Roster.Actor.Manual
import Roster.Actor.Mock
import Roster.Main
import Roster.Proofs.Batch.Abbreviation
import Roster.Proofs.Batch.Budget
import Roster.Proofs.Batch.Cancellation
import Roster.Proofs.Batch.Composition
import Roster.Proofs.Batch.Rejection
import Roster.Proofs.Batch.Substitution
import Roster.Proofs.Batch.Wire
import Roster.Proofs.Server.Identifier
import Roster.Proofs.Server.Status
import Roster.Proofs.Batch.Requirement
import Roster.Proofs.Batch.Indifference
import Roster.Proofs.Batch.Location
import Roster.Proofs.Batch.PathReference
import Roster.Proofs.Directory.Updates
import Roster.Proofs.Directory.Condition
import Roster.Proofs.Server.Secret
import Roster.Proofs.Actor.Custom
import Roster.Proofs.Resource.Failure
import Roster.Proofs.Resource.Unknown
import Roster.Proofs.Actor.Mock
import Roster.Proofs.Server.Start
import Roster.Proofs.ProtocolError
