import FireviewerOrchestrator.Bootstrap.Booted
import FireviewerOrchestrator.Bootstrap.Contract
import FireviewerOrchestrator.Bootstrap.Environment
import FireviewerOrchestrator.Bootstrap.Fleet
import FireviewerOrchestrator.Bootstrap.Launched
import FireviewerOrchestrator.Bootstrap.Passes
import FireviewerOrchestrator.Bootstrap.Patterns
import FireviewerOrchestrator.Bootstrap.Program
import FireviewerOrchestrator.Bootstrap.Provisioned
import FireviewerOrchestrator.Bootstrap.Provisioning
import FireviewerOrchestrator.Bootstrap.Rules
import FireviewerOrchestrator.Bootstrap.SafeDetail
import FireviewerOrchestrator.Bootstrap.Userinfo
import FireviewerOrchestrator.Consensus
import FireviewerOrchestrator.Contracts.Configuration
import FireviewerOrchestrator.Contracts.EventEvidence
import FireviewerOrchestrator.Contracts.Events
import FireviewerOrchestrator.Contracts.GeoGpu
import FireviewerOrchestrator.Contracts.GeographicHypotheses
import FireviewerOrchestrator.Contracts.Geometry
import FireviewerOrchestrator.Contracts.Identifiers
import FireviewerOrchestrator.Contracts.InputV2
import FireviewerOrchestrator.Contracts.Media
import FireviewerOrchestrator.Contracts.MediaUrls
import FireviewerOrchestrator.Contracts.Numerals
import FireviewerOrchestrator.Contracts.OutputV2
import FireviewerOrchestrator.Contracts.Python
import FireviewerOrchestrator.Contracts.Records
import FireviewerOrchestrator.Contracts.Registry
import FireviewerOrchestrator.Contracts.Research
import FireviewerOrchestrator.Contracts.Stages
import FireviewerOrchestrator.Contracts.Url
import FireviewerOrchestrator.EventPipeline.Attempts
import FireviewerOrchestrator.EventPipeline.Envelope
import FireviewerOrchestrator.EventPipeline.Identity
import FireviewerOrchestrator.EventPipeline.Run
import FireviewerOrchestrator.EventPipeline.Summary
import FireviewerOrchestrator.EvidenceMerge
import FireviewerOrchestrator.GeoGpu
import FireviewerOrchestrator.Handler.Environment
import FireviewerOrchestrator.Handler.Lock
import FireviewerOrchestrator.Handler.Perception
import FireviewerOrchestrator.Handler.Program
import FireviewerOrchestrator.Handler.Rejection
import FireviewerOrchestrator.IncidentUpdates
import FireviewerOrchestrator.Library.Dict
import FireviewerOrchestrator.Library.Fallible
import FireviewerOrchestrator.Library.Guarded
import FireviewerOrchestrator.Library.KeyedJoin
import FireviewerOrchestrator.Library.Outcomes
import FireviewerOrchestrator.Library.Procedure
import FireviewerOrchestrator.Library.Protocol
import FireviewerOrchestrator.Library.Ranking
import FireviewerOrchestrator.Library.Redaction
import FireviewerOrchestrator.Library.Regex
import FireviewerOrchestrator.Library.Residue
import FireviewerOrchestrator.Library.Sampling
import FireviewerOrchestrator.Library.Separated
import FireviewerOrchestrator.Library.Shared
import FireviewerOrchestrator.Library.Traced
import FireviewerOrchestrator.Library.Transition
import FireviewerOrchestrator.PodServer
import FireviewerOrchestrator.PodServer.Polling
import FireviewerOrchestrator.PodServer.Responses
import FireviewerOrchestrator.PodValidation.Assets
import FireviewerOrchestrator.PodValidation.Bundles
import FireviewerOrchestrator.PodValidation.Server
import FireviewerOrchestrator.PodValidation.Uploads
import FireviewerOrchestrator.PointBundles.Checks
import FireviewerOrchestrator.PointBundles.Pipeline
import FireviewerOrchestrator.SessionRunner.Adjudicator
import FireviewerOrchestrator.SessionRunner.Audit
import FireviewerOrchestrator.SessionRunner.Bookkeeping
import FireviewerOrchestrator.SessionRunner.Brackets
import FireviewerOrchestrator.SessionRunner.Candidate
import FireviewerOrchestrator.SessionRunner.Data
import FireviewerOrchestrator.SessionRunner.Environment
import FireviewerOrchestrator.SessionRunner.Faults
import FireviewerOrchestrator.SessionRunner.Gates
import FireviewerOrchestrator.SessionRunner.Program
import FireviewerOrchestrator.SessionRunner.Protocol
import FireviewerOrchestrator.SessionRunner.Results
import FireviewerOrchestrator.SessionRunner.Sampling
import FireviewerOrchestrator.SessionRunner.Scripted
import FireviewerOrchestrator.SessionRunner.Session
import FireviewerOrchestrator.SessionRunner.Stage
import FireviewerOrchestrator.SessionRunner.Verdict
import FireviewerOrchestrator.StageGates
import FireviewerOrchestrator.V2Runner.Abstentions
import FireviewerOrchestrator.V2Runner.Aggregate
import FireviewerOrchestrator.V2Runner.Conversion
import FireviewerOrchestrator.V2Runner.Coverage
import FireviewerOrchestrator.V2Runner.Hotspots
import FireviewerOrchestrator.V2Runner.Identity
import FireviewerOrchestrator.V2Runner.Report
import FireviewerOrchestrator.V2Runner.Sections
import FireviewerOrchestrator.V2Runner.Sequences
import FireviewerOrchestrator.V2Runner.Spatial
import FireviewerOrchestrator.V2Runner.Text
import FireviewerOrchestrator.Vision.EventVision
import FireviewerOrchestrator.Vision.YoloAnswered
import FireviewerOrchestrator.Vision.YoloProvider
import FireviewerOrchestrator.Vision.YoloServed
import FireviewerOrchestrator.Vision.YoloServer
import FireviewerOrchestrator.Vision.YoloService
import FireviewerOrchestrator.Vision.YoloTerms
