import BuddyWeb.Lib.CyclicArc
import BuddyWeb.Lib.Trim
import BuddyWeb.Lib.WordRuns
import BuddyWeb.Lib.PyText
import BuddyWeb.Lib.Run
import BuddyWeb.Lib.Outcome
import BuddyWeb.Lib.Cascade
import BuddyWeb.Lib.Table
import BuddyWeb.Lib.TableHistory
import BuddyWeb.Lib.Bytes
import BuddyWeb.Lib.CanonicalBase64
import BuddyWeb.Lib.Intervals
import BuddyWeb.Lib.IntervalMeasure
import BuddyWeb.Lib.CommonShare
import BuddyWeb.Lib.KeysetPaging
import BuddyWeb.Lib.KeepFirst
import BuddyWeb.Schema
import BuddyWeb.Accounts
import BuddyWeb.Profile.Availability
import BuddyWeb.Profile.AvailabilityRoundTrip
import BuddyWeb.Profile.PreferenceIdentity
import BuddyWeb.Profile.Catalog
import BuddyWeb.Profile.Selections
import BuddyWeb.Profile.Services
import BuddyWeb.Profile.Projection
import BuddyWeb.Profile.Limits
import BuddyWeb.Profile.Projectable
import BuddyWeb.Profile.WriteRuns
import BuddyWeb.Profile.Transactions
import BuddyWeb.Profile.OptimisticConcurrency
import BuddyWeb.Semester.Cohort
import BuddyWeb.Semester.Records
import BuddyWeb.Semester.Package
import BuddyWeb.Semester.Snapshot
import BuddyWeb.Semester.ResetFunction
import BuddyWeb.Semester.ResetExecution
import BuddyWeb.Semester.ResetDeletion
import BuddyWeb.Semester.ResetExact
import BuddyWeb.Semester.ResetFailures
import BuddyWeb.Semester.AvatarRestore
import BuddyWeb.Semester.ExpiryBatch
import BuddyWeb.Semester.BackupCreation
import BuddyWeb.Semester.BackupVerification
import BuddyWeb.Semester.Management
import BuddyWeb.Semester.RestoreExecution
import BuddyWeb.Semester.System
import BuddyWeb.Semester.Invariants
import BuddyWeb.Semester.LifecycleSteps
import BuddyWeb.Semester.StorageInvariants
import BuddyWeb.Semester.LifecycleRun
import BuddyWeb.Semester.ExpiryCleanup
import BuddyWeb.Semester.LifecycleChanges
import BuddyWeb.Semester.LifecycleRules
import BuddyWeb.Semester.ManagementStatus
import BuddyWeb.Semester.RestoreCompatibility
import BuddyWeb.Semester.RestoreProgress
import BuddyWeb.Semester.BackupSurvival
import BuddyWeb.Matching.Records
import BuddyWeb.Chat.Cursor
import BuddyWeb.Chat.Messages
import BuddyWeb.Chat.MessageWorld
import BuddyWeb.Chat.MessageInvariants
import BuddyWeb.Chat.MessageRetention
import BuddyWeb.Chat.IdempotentSend
import BuddyWeb.Chat.MessageTrace
import BuddyWeb.Chat.HistoryPaging
import BuddyWeb.Chat.WireContract
import BuddyWeb.Chat.MergedHistory
import BuddyWeb.Chat.Composer
import BuddyWeb.Chat.ComposerRuns
import BuddyWeb.Matching.Completion
import BuddyWeb.Matching.Eligibility
import BuddyWeb.Matching.CustomIdentity
import BuddyWeb.Lib.SortByKey
import BuddyWeb.Profile.PreferenceReplacement
import BuddyWeb.Matching.EligibilityAgreement
import BuddyWeb.Matching.Scoring
import BuddyWeb.Matching.AvailabilitySimilarity
import BuddyWeb.Matching.RankedPages
import BuddyWeb.Matching.WeeklyRecurrence
import BuddyWeb.Matching.StudentTables
import BuddyWeb.Matching.Invitation
import BuddyWeb.Matching.MatchingTables
import BuddyWeb.Matching.InvitationSending
import BuddyWeb.Matching.InvitationAcceptance
import BuddyWeb.Matching.CompatibilityReads
import BuddyWeb.Matching.ScoredProfiles
import BuddyWeb.Matching.ScoreAgreement
import BuddyWeb.Matching.ScoreLaws
import BuddyWeb.Matching.InvitationMutations
import BuddyWeb.Matching.InvitationWorld
import BuddyWeb.Matching.InvitationSteps
import BuddyWeb.Matching.UndisturbedRequests
import BuddyWeb.Matching.PendingCapacity
import BuddyWeb.Lib.TopRanked
import BuddyWeb.Recap.RecapWorld
import BuddyWeb.Recap.Retention
import BuddyWeb.Outbox.TransactionalEmail
import BuddyWeb.Outbox.EdgeFunctions
import BuddyWeb.Outbox.WorkerAgreement
import BuddyWeb.Outbox.WorkerWorld
import BuddyWeb.Outbox.WorkerSafety
import BuddyWeb.Outbox.BoundedConcurrency
import BuddyWeb.Outbox.EmailWorkerRun
import BuddyWeb.Lib.Async
import BuddyWeb.Auth.RefreshSessions
import BuddyWeb.Auth.RefreshFamilies
import BuddyWeb.Auth.EmailVerification
import BuddyWeb.Auth.VerificationWorld
import BuddyWeb.Auth.VerificationSafety
import BuddyWeb.Auth.VerificationTargets
import BuddyWeb.Auth.SessionClient
import BuddyWeb.Auth.SessionHistory
import BuddyWeb.Auth.SessionSafety
import BuddyWeb.Matching.MessageAgreement
import BuddyWeb.Chat.CursorCanonicity
import BuddyWeb.Chat.MessageCleanup
import BuddyWeb.Lib.FlatJson
import BuddyWeb.Auth.CsrfTokens
import BuddyWeb.Auth.CsrfVerification
import BuddyWeb.Profile.ImageReplacement
import BuddyWeb.Recap.MediaCleanup
import BuddyWeb.Recap.PhotoContents
import BuddyWeb.Recap.ContentSafety
import BuddyWeb.Lib.UrlSplit
import BuddyWeb.Audit.Payloads
import BuddyWeb.Audit.Sanitation
import BuddyWeb.Lib.CivilDate
import BuddyWeb.Events.Editing
import BuddyWeb.Events.PublicQueries
import BuddyWeb.Events.Publication
import BuddyWeb.Events.ScheduleForm
import BuddyWeb.Events.ScheduleRoundTrip
import BuddyWeb.Events.WallTimeSolver
import BuddyWeb.Storage.Reconciliation
import BuddyWeb.Lib.ListSearch
import BuddyWeb.Storage.Multipart
import BuddyWeb.Auth.LoginLockout
import BuddyWeb.Lib.FixedWindow
import BuddyWeb.Chatbot.Admission
import BuddyWeb.Chatbot.AdmissionSafety
import BuddyWeb.Lib.Pattern
import BuddyWeb.Chatbot.Words
import BuddyWeb.Chatbot.Models
import BuddyWeb.Chatbot.OwnerSource
import BuddyWeb.Lib.JoinedLines
import BuddyWeb.Chatbot.SourcePartition
import BuddyWeb.Chatbot.Retrieval
import BuddyWeb.Chatbot.Service
import BuddyWeb.Chatbot.RetrievalFacts
import BuddyWeb.Chatbot.SourceFacts
import BuddyWeb.Chatbot.Replies
import BuddyWeb.Chatbot.ServiceTotality
import BuddyWeb.Chatbot.QuotedSections
import BuddyWeb.Chatbot.AnswerSchema
import BuddyWeb.Chatbot.AnswerAgreement
import BuddyWeb.Chatbot.AnswerProvenance
import BuddyWeb.Chatbot.AnswerRoundTrip
import BuddyWeb.Lib.ExpiringKeys
import BuddyWeb.Lib.Broadcast
import BuddyWeb.Chat.Realtime
import BuddyWeb.Chat.RealtimeFacts
import BuddyWeb.Chat.RealtimeSteps
import BuddyWeb.Chat.RealtimeRuns
import BuddyWeb.Chat.RealtimeReads
import BuddyWeb.Chat.RealtimeDelivery
import BuddyWeb.Matching.MatchIntegrity
import BuddyWeb.Matching.MatchSafety
import BuddyWeb.Matching.MatchRuns
