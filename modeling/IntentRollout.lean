import IntentRollout.Binary64.Basic
import IntentRollout.Binary64.Shortest
import IntentRollout.Binary64.Text
import IntentRollout.Bundle.Compilation
import IntentRollout.Bundle.Manifest
import IntentRollout.Bundle.Resource
import IntentRollout.CommandLine.Complaint
import IntentRollout.CommandLine.Host
import IntentRollout.CommandLine.Invocation
import IntentRollout.CommandLine.Options
import IntentRollout.CommandLine.Program
import IntentRollout.Config.Basic
import IntentRollout.Config.Reader
import IntentRollout.Config.Validity
import IntentRollout.Digest
import IntentRollout.Http.Address
import IntentRollout.Http.Fetch
import IntentRollout.Http.Status
import IntentRollout.Instant
import IntentRollout.Intent
import IntentRollout.Json.Basic
import IntentRollout.Json.Fault
import IntentRollout.Json.Printer
import IntentRollout.Json.Reader
import IntentRollout.Json.Schema
import IntentRollout.Main
import IntentRollout.Proofs.AcceptedIntents
import IntentRollout.Proofs.AgreedTargets
import IntentRollout.Proofs.ArtifactNames
import IntentRollout.Proofs.AttemptOpenings
import IntentRollout.Proofs.AttemptRuns
import IntentRollout.Proofs.AuditRecords
import IntentRollout.Proofs.BundleShapes
import IntentRollout.Proofs.Cancellation
import IntentRollout.Proofs.CanonicalDocuments
import IntentRollout.Proofs.CarriedChanges
import IntentRollout.Proofs.Checkpoints
import IntentRollout.Proofs.ClauseGrammar
import IntentRollout.Proofs.ClearedScopes
import IntentRollout.Proofs.ConfinedInstants
import IntentRollout.Proofs.ConfusedNames
import IntentRollout.Proofs.ConstraintGrammar
import IntentRollout.Proofs.ConvergenceWaits
import IntentRollout.Proofs.CountedDigests
import IntentRollout.Proofs.DeliveryRetries
import IntentRollout.Proofs.DeliverySteps
import IntentRollout.Proofs.DigestKeys
import IntentRollout.Proofs.DocumentPlaces
import IntentRollout.Proofs.DoublingPauses
import IntentRollout.Proofs.DriftDetection
import IntentRollout.Proofs.DryRuns
import IntentRollout.Proofs.FilledVolumes
import IntentRollout.Proofs.FiniteNumbers
import IntentRollout.Proofs.Foresight
import IntentRollout.Proofs.FreeNames
import IntentRollout.Proofs.GateVerdicts
import IntentRollout.Proofs.GatingOrder
import IntentRollout.Proofs.GroundedVolumes
import IntentRollout.Proofs.HashedBlocks
import IntentRollout.Proofs.KeptTrees
import IntentRollout.Proofs.LatencyClasses
import IntentRollout.Proofs.LeadingPaths
import IntentRollout.Proofs.ListResults
import IntentRollout.Proofs.LockStep
import IntentRollout.Proofs.LockedPhases
import IntentRollout.Proofs.LockedWork
import IntentRollout.Proofs.ManifestText
import IntentRollout.Proofs.MemberOrder
import IntentRollout.Proofs.ModeToggle
import IntentRollout.Proofs.NearestNumbers
import IntentRollout.Proofs.Operations
import IntentRollout.Proofs.PathNames
import IntentRollout.Proofs.PhaseRequests
import IntentRollout.Proofs.PhaseRuns
import IntentRollout.Proofs.Phrases
import IntentRollout.Proofs.PlainInstants
import IntentRollout.Proofs.PlanRuns
import IntentRollout.Proofs.PrintedConstraints
import IntentRollout.Proofs.PublicationSteps
import IntentRollout.Proofs.PublicationTries
import IntentRollout.Proofs.PublishedFiles
import IntentRollout.Proofs.ReadBackConfigs
import IntentRollout.Proofs.ReadBackReports
import IntentRollout.Proofs.RebuiltTables
import IntentRollout.Proofs.RehearsalRuns
import IntentRollout.Proofs.RepeatedPublications
import IntentRollout.Proofs.Replay
import IntentRollout.Proofs.ReportChanges
import IntentRollout.Proofs.ReportFiles
import IntentRollout.Proofs.ReportText
import IntentRollout.Proofs.ReportTruth
import IntentRollout.Proofs.ResourceDocuments
import IntentRollout.Proofs.RetriedCalls
import IntentRollout.Proofs.RevisedFiles
import IntentRollout.Proofs.RollbackLaw
import IntentRollout.Proofs.SafeNames
import IntentRollout.Proofs.SavedFiles
import IntentRollout.Proofs.SettledVolumes
import IntentRollout.Proofs.ShapedDocuments
import IntentRollout.Proofs.ShortestDecimals
import IntentRollout.Proofs.SiteIndependence
import IntentRollout.Proofs.SkippedFiles
import IntentRollout.Proofs.SpelledNumbers
import IntentRollout.Proofs.StaleRevisions
import IntentRollout.Proofs.StopSignals
import IntentRollout.Proofs.TableLaws
import IntentRollout.Proofs.TargetRuns
import IntentRollout.Proofs.Tokens
import IntentRollout.Proofs.TreeChanges
import IntentRollout.Proofs.TreeRestoration
import IntentRollout.Proofs.ValidConfigurations
import IntentRollout.Proofs.VerdictLaws
import IntentRollout.Proofs.VolumeChanges
import IntentRollout.Proofs.WatchedRuns
import IntentRollout.Proofs.WrittenFloats
import IntentRollout.Proofs.WrittenLeaves
import IntentRollout.Proofs.WrittenNumbers
import IntentRollout.Proofs.WrittenSettings
import IntentRollout.Proofs.WrittenTables
import IntentRollout.Proofs.WrittenTexts
import IntentRollout.Proofs.WrittenWaits
import IntentRollout.Retry
import IntentRollout.Rollout.Attempt
import IntentRollout.Rollout.Convergence
import IntentRollout.Rollout.Failure
import IntentRollout.Rollout.Options
import IntentRollout.Rollout.Phase
import IntentRollout.Rollout.Plan
import IntentRollout.Rollout.Rehearsal
import IntentRollout.Rollout.Report
import IntentRollout.Rollout.Script
import IntentRollout.Rollout.Shutdown
import IntentRollout.Service
import IntentRollout.Sla
import IntentRollout.Slo.Constraint
import IntentRollout.Slo.Gate
import IntentRollout.Table
import IntentRollout.Text.Blank
import IntentRollout.Text.CharSet
import IntentRollout.Text.Pieces
import IntentRollout.Text.Quoted
import IntentRollout.Toml.Basic
import IntentRollout.Toml.Draft
import IntentRollout.Toml.Printer
import IntentRollout.Toml.Reader
import IntentRollout.Volume.Basic
import IntentRollout.Volume.Edit
import IntentRollout.Volume.Path
import IntentRollout.Wait
import IntentRollout.WorkTree.Basic
import IntentRollout.WorkTree.Delivery
import IntentRollout.WorkTree.Ignore
import IntentRollout.Yaml.Printer
import IntentRollout.Yaml.Scalar
