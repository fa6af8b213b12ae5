import ClusterMembership.Cluster.History
import ClusterMembership.Simulation.Run
import ClusterMembership.Proofs.PrimaryRole
import ClusterMembership.Proofs.Bootstrap
import ClusterMembership.Proofs.PassCalls
import ClusterMembership.Proofs.Agreement.Run
import ClusterMembership.Proofs.SimulatedDeployments
import ClusterMembership.Proofs.Convergence
import ClusterMembership.Proofs.Retries
import ClusterMembership.Proofs.LandedCalls
import ClusterMembership.Proofs.Replacements
import ClusterMembership.Proofs.StagedChanges
import ClusterMembership.Proofs.Trackers
import ClusterMembership.Proofs.Watches
import ClusterMembership.Proofs.SimulatedWatches
import ClusterMembership.Proofs.Foresight
import ClusterMembership.Proofs.WakeUps
import ClusterMembership.Proofs.LateReports
import ClusterMembership.Proofs.Statuses
import ClusterMembership.Proofs.Dialogues
import ClusterMembership.Proofs.RequestScripts
import ClusterMembership.Proofs.StagedTwins
import ClusterMembership.Proofs.JsonGrammar
import ClusterMembership.Proofs.JsonTexts
import ClusterMembership.Proofs.Serializations
import ClusterMembership.Proofs.Overlays
import ClusterMembership.Proofs.Deltas
import ClusterMembership.Proofs.Successions
import ClusterMembership.Proofs.Recoveries
import ClusterMembership.Proofs.StagedRecoveries
import ClusterMembership.Proofs.Incidents
import ClusterMembership.Proofs.Populations
import ClusterMembership.Proofs.Effects
import ClusterMembership.Proofs.Injections
import ClusterMembership.Proofs.FormTexts
import ClusterMembership.Proofs.NamedNodes
import ClusterMembership.Proofs.PostedForms
import ClusterMembership.Proofs.FailureKinds
import ClusterMembership.Proofs.RequestFaults
import ClusterMembership.Proofs.Replays
import ClusterMembership.Proofs.SimulatedIncidents
import ClusterMembership.Proofs.Passwords
import ClusterMembership.Proofs.AddressTexts
