import ReviewSignal.Integrations.Base
import ReviewSignal.Foundations.KeyedFold
import ReviewSignal.Foundations.StampedHistory
import ReviewSignal.Repositories.Reviews
import ReviewSignal.Repositories.SyncRuns
import ReviewSignal.Services.Ingestion
import ReviewSignal.Services.IngestionFlow
import ReviewSignal.Services.IngestionWalk
import ReviewSignal.Ingestion.PageAtomicity
import ReviewSignal.Ingestion.FailureAccounting
import ReviewSignal.Ingestion.Convergence
import ReviewSignal.Ingestion.Retry
import ReviewSignal.Ingestion.SourceIsolation
import ReviewSignal.Ingestion.SyncCompleteness
import ReviewSignal.Worker.Queue
import ReviewSignal.Worker.Runner
import ReviewSignal.Worker.Lifecycle
import ReviewSignal.Foundations.Transition
import ReviewSignal.Worker.System
import ReviewSignal.Worker.Stranding
import ReviewSignal.Repositories.Credentials
import ReviewSignal.Services.GoogleConnection
import ReviewSignal.Worker.Jobs.Ingest
import ReviewSignal.Ingestion.LocationWatermark
import ReviewSignal.Repositories.ReviewStatements
import ReviewSignal.Ingestion.Interleaving
import ReviewSignal.Ingestion.NewestVersion
import ReviewSignal.Worker.Redelivery
import ReviewSignal.Worker.CrashRecovery
import ReviewSignal.Foundations.FaultyTriple
import ReviewSignal.Foundations.FaultyReturns
import ReviewSignal.Services.TaxonomyGeneration
import ReviewSignal.Worker.Jobs.Taxonomy
import ReviewSignal.Worker.GenerationCommits
import ReviewSignal.Worker.CandidateVersions
import ReviewSignal.Foundations.Pool
import ReviewSignal.Worker.Jobs.Evaluation
import ReviewSignal.Worker.RecordedOnce
import ReviewSignal.Worker.ConcurrentExecutions
import ReviewSignal.Worker.Submission
import ReviewSignal.Foundations.ColumnUpdate
import ReviewSignal.Integrations.GoogleClient
import ReviewSignal.Worker.UnrecoverableFailures
import ReviewSignal.Repositories.CredentialStatements
import ReviewSignal.Services.ConnectionRequests
import ReviewSignal.Connection.Disconnection
import ReviewSignal.Connection.StaleRefresh
import ReviewSignal.Connection.SelectedProfile
import ReviewSignal.Services.PageRequests
import ReviewSignal.Worker.TokenLifetime
import ReviewSignal.Services.TaxonomyRows
import ReviewSignal.Foundations.Listing
import ReviewSignal.Services.Taxonomy
import ReviewSignal.Services.TaxonomyRoundTrip
import ReviewSignal.Worker.GenerationOutcome
import ReviewSignal.Worker.StorableTaxonomies
import ReviewSignal.Ai.Ollama
import ReviewSignal.Worker.TaxonomyAttempt
import ReviewSignal.Foundations.FaultyRelation
import ReviewSignal.Worker.RejectedText
import ReviewSignal.Ai.Evaluation.Dataset
import ReviewSignal.Ai.Evaluation.Scores
import ReviewSignal.Worker.VersionNumbers
import ReviewSignal.Ai.Evaluation.Classification
import ReviewSignal.Ai.Evaluation.Sentiment
import ReviewSignal.Ai.Evaluation.Calibration
import ReviewSignal.Ai.Evaluation.Runner
import ReviewSignal.Ai.Evaluation.InvalidPredictions
import ReviewSignal.Foundations.Counting
import ReviewSignal.Ai.Evaluation.MetricAgreement
import ReviewSignal.Ai.Evaluation.OrderIndependence
import ReviewSignal.Foundations.Orbit
import ReviewSignal.Ingestion.Termination
import ReviewSignal.Foundations.Meets
import ReviewSignal.Integrations.DecodedBody
import ReviewSignal.Integrations.GoogleProfile
import ReviewSignal.Services.GoogleAnswers
import ReviewSignal.Connection.DocumentedErrors
import ReviewSignal.Ingestion.Conservation
import ReviewSignal.Ingestion.Idempotence
import ReviewSignal.Repositories.AnalysisStatus
import ReviewSignal.Core.Auth
import ReviewSignal.Core.SessionTokens
import ReviewSignal.Db.Dashboard
import ReviewSignal.Repositories.ReviewReader
import ReviewSignal.Services.Reviews
import ReviewSignal.Foundations.Ranking
import ReviewSignal.Repositories.Trends
import ReviewSignal.Services.Overview
import ReviewSignal.Services.Trends
import ReviewSignal.Services.TrendsSummary
import ReviewSignal.Services.TrendsRanking
import ReviewSignal.Services.TrendsDrillDown
import ReviewSignal.Services.DateWindows
import ReviewSignal.Integrations.GoogleMapping
import ReviewSignal.Repositories.ReviewConstraints
import ReviewSignal.Web.Reviews
import ReviewSignal.Foundations.Averages
import ReviewSignal.Ai.Evaluation.InventedLabels
import ReviewSignal.Ai.Evaluation.SentimentAgreement
import ReviewSignal.Ai.Evaluation.CalibrationBounds
import ReviewSignal.Services.OverviewTotals
import ReviewSignal.Connection.SelectableProfiles
import ReviewSignal.Services.TaxonomyForest
import ReviewSignal.Foundations.Regex
import ReviewSignal.Tools.CheckCitations
import ReviewSignal.Tools.CitationAttribution
import ReviewSignal.Foundations.Outline
import ReviewSignal.Tools.SectionScopes
import ReviewSignal.Services.SlugCalls
import ReviewSignal.Api.ReviewParams
import ReviewSignal.Core.Errors
import ReviewSignal.Foundations.Provenance
import ReviewSignal.Foundations.Simulation
import ReviewSignal.Web.Client
import ReviewSignal.Web.OperatorSession
import ReviewSignal.Web.ReviewLinks
import ReviewSignal.Web.SessionRefinement
import ReviewSignal.Api.GoogleOAuth
import ReviewSignal.Connection.StateBinding
import ReviewSignal.Ingestion.GoogleListing
import ReviewSignal.Web.ShownReviews
import ReviewSignal.Tools.SeedStubReviews
import ReviewSignal.Tools.CitationGate
import ReviewSignal.Foundations.JsonRecord
import ReviewSignal.Ai.Evaluation.BenchmarkFiles
import ReviewSignal.Ai.Evaluation.MetricsPayload
import ReviewSignal.Worker.EvaluationScoring
import ReviewSignal.Services.EvaluationRuns
import ReviewSignal.Services.ServedTaxonomies
import ReviewSignal.Services.SystemStatus
import ReviewSignal.Web.OverviewPages
import ReviewSignal.Services.ConnectionEvents
import ReviewSignal.Connection.ConnectionMachine
