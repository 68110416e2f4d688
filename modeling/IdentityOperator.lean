import IdentityOperator.Json.Texts
import IdentityOperator.Pass.WireWorld
import IdentityOperator.Main
import IdentityOperator.Proofs.Pass.Run
import IdentityOperator.Proofs.Secret
import IdentityOperator.Proofs.Installation.Credentials
import IdentityOperator.Proofs.Store
import IdentityOperator.Proofs.Installation.Part
import IdentityOperator.Proofs.Installation.Pass
import IdentityOperator.Proofs.Installation.Convergence
import IdentityOperator.Proofs.Pass.Requests
import IdentityOperator.Proofs.Credentials
import IdentityOperator.Proofs.Installation.Careful
import IdentityOperator.Proofs.History
import IdentityOperator.Proofs.Pass.FailFast
import IdentityOperator.Proofs.RealmDeclaration.Finalizer
import IdentityOperator.Proofs.RealmDeclaration.Contact
import IdentityOperator.Proofs.Pass.AdminCalls
import IdentityOperator.Proofs.RealmDeclaration.Redirector
import IdentityOperator.Proofs.Installation.Placement
import IdentityOperator.Proofs.Installation.Replanning
import IdentityOperator.Proofs.Installation.Unserved
import IdentityOperator.Proofs.Installation.Abandoned
import IdentityOperator.Proofs.Installation.Recovery
import IdentityOperator.Proofs.Admin.Session
import IdentityOperator.Proofs.GroupSync.Server
import IdentityOperator.Proofs.GroupSync.Convergence
import IdentityOperator.Proofs.GroupSync.Completion
import IdentityOperator.Proofs.RealmDeclaration.SharedFinalizers
import IdentityOperator.Proofs.RealmDeclaration.UserSecrets
import IdentityOperator.Proofs.RealmDeclaration.HandedOut
import IdentityOperator.Proofs.Installation.References
import IdentityOperator.Proofs.Installation.Confidentiality
import IdentityOperator.Proofs.Installation.Requests
import IdentityOperator.Proofs.Installation.Flickering
import IdentityOperator.Proofs.Installation.Namespaces
import IdentityOperator.Proofs.Installation.SideBySide
import IdentityOperator.Proofs.Text
import IdentityOperator.Proofs.Installation.Environment
import IdentityOperator.Proofs.Installation.Clients
import IdentityOperator.Proofs.Installation.Connection
import IdentityOperator.Proofs.Installation.DatabaseHistory
import IdentityOperator.Proofs.RealmDeclaration.Replanning
import IdentityOperator.Proofs.ConditionHistory
import IdentityOperator.Proofs.Admin.Place
import IdentityOperator.Proofs.Representation
import IdentityOperator.Proofs.Cluster.Contract
import IdentityOperator.Proofs.Installation.Reading
import IdentityOperator.Proofs.Installation.Upkeep
import IdentityOperator.Proofs.Pass.HandsOff
import IdentityOperator.Proofs.Pass.Execution
import IdentityOperator.Proofs.Installation.Planning
import IdentityOperator.Proofs.StatusCoherence
import IdentityOperator.Proofs.Installation.Readiness
import IdentityOperator.Proofs.Installation.Target
import IdentityOperator.Proofs.Admin.Token
import IdentityOperator.Proofs.Installation.Wiring
import IdentityOperator.Proofs.Admin.Policy
import IdentityOperator.Proofs.RealmDeclaration.SecretNames
import IdentityOperator.Proofs.RealmDeclaration.Selector
import IdentityOperator.Proofs.Cluster.Probe
import IdentityOperator.Proofs.Admin.UserSearch
import IdentityOperator.Proofs.StatusRenewal
