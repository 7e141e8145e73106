import Omnitensor.ArtifactResolution
import Omnitensor.CacheQuotas
import Omnitensor.CancellationLifetimes
import Omnitensor.CollectionChurn
import Omnitensor.ControlServiceSwap
import Omnitensor.EventInjection
import Omnitensor.ExtractionWhole
import Omnitensor.ForecastFit
import Omnitensor.GgufFormat
import Omnitensor.GgufShape
import Omnitensor.GrammarProjection
import Omnitensor.GrantFreshness
import Omnitensor.GuardLimits
import Omnitensor.IndexQueries
import Omnitensor.IndexRevisions
import Omnitensor.InputAdmission
import Omnitensor.JobPrivacy
import Omnitensor.LineValidation
import Omnitensor.LlamaLease
import Omnitensor.MediaResumption
import Omnitensor.ModelStoreSafety
import Omnitensor.OrganizerPlans
import Omnitensor.PipelineDelivery
import Omnitensor.PipelineResults
import Omnitensor.PluginAdmissionConservation
import Omnitensor.PolicyBatch
import Omnitensor.PolicyRestart
import Omnitensor.PublishLoopRuns
import Omnitensor.RankedAuc
import Omnitensor.SchedulerWithdrawal
import Omnitensor.SeccompFilter
import Omnitensor.SecretCoverage
import Omnitensor.SecretRedaction
import Omnitensor.SelectionCapacity
import Omnitensor.SettingsMigrations
import Omnitensor.StorageLabels
import Omnitensor.StrideBooks
import Omnitensor.StrideStarvation
import Omnitensor.TelemetryIdentity
import Omnitensor.TensorShapes
import Omnitensor.TensorStreaming
import Omnitensor.TrainingCompensation
import Omnitensor.TriggerHistory
import Omnitensor.TruthfulScans
