import EduPod.Admissions.AnnualFees
import EduPod.Admissions.Capacity
import EduPod.Admissions.Conversion
import EduPod.Admissions.ExpiryBatches
import EduPod.Admissions.PromotionPolicy
import EduPod.Admissions.Records
import EduPod.Admissions.RequestLaws
import EduPod.Admissions.Requests
import EduPod.Admissions.RowLaws
import EduPod.Admissions.SeatsTaken
import EduPod.Admissions.StateMachine
import EduPod.Approvals.CallbackRaces
import EduPod.Approvals.Callbacks
import EduPod.Attendance.CsvRoundTrip
import EduPod.Behaviour.Appeals
import EduPod.Behaviour.Archiving
import EduPod.Behaviour.AwardChecks
import EduPod.Behaviour.AwardTiers
import EduPod.Behaviour.HoldProtection
import EduPod.Behaviour.HousePoints
import EduPod.Behaviour.LegalHolds
import EduPod.Behaviour.Records
import EduPod.Behaviour.SanctionChanges
import EduPod.Budgeting.Drivers
import EduPod.Budgeting.Engine
import EduPod.Budgeting.EventEngine
import EduPod.Budgeting.FinancialModels
import EduPod.Budgeting.LineKeys
import EduPod.Budgeting.LineYears
import EduPod.Budgeting.LiveTotals
import EduPod.Budgeting.Restoring
import EduPod.Budgeting.ScenarioDrivers
import EduPod.Budgeting.TripFees
import EduPod.Cover.OfferRaces
import EduPod.Cover.SubstitutionCascade
import EduPod.EarlyWarning.Hysteresis
import EduPod.EarlyWarning.Scoring
import EduPod.EarlyWarning.TierChain
import EduPod.EarlyWarning.WeeklyRates
import EduPod.Engagement.BookingRaces
import EduPod.Engagement.ConferenceBookings
import EduPod.Engagement.EventCapacity
import EduPod.Finance.Commands
import EduPod.Finance.DiscountedFees
import EduPod.Finance.Effects
import EduPod.Finance.FeeGeneration
import EduPod.Finance.FeeRuns
import EduPod.Finance.Funding
import EduPod.Finance.HouseholdStatements
import EduPod.Finance.InvoiceBalance
import EduPod.Finance.InvoiceStatus
import EduPod.Finance.Invoices
import EduPod.Finance.LateFeeRaces
import EduPod.Finance.Ledger
import EduPod.Finance.MonthlyGeneration
import EduPod.Finance.OverdueDetection
import EduPod.Finance.PaymentStatus
import EduPod.Finance.Recalculation
import EduPod.Finance.RecurringInvoices
import EduPod.Finance.RefundCover
import EduPod.Finance.RefundInterleaving
import EduPod.Finance.RefundStatements
import EduPod.Finance.StatusChanges
import EduPod.Finance.Suggestions
import EduPod.Foundation.AbortingTransaction
import EduPod.Foundation.Chains
import EduPod.Foundation.CivilDate
import EduPod.Foundation.Double
import EduPod.Foundation.Fallible
import EduPod.Foundation.FirstFit
import EduPod.Foundation.GroupedCaps
import EduPod.Foundation.Grouping
import EduPod.Foundation.HeldRows
import EduPod.Foundation.LinearModel
import EduPod.Foundation.Overwriting
import EduPod.Foundation.Pouring
import EduPod.Foundation.Processes
import EduPod.Foundation.Ranks
import EduPod.Foundation.ReadCommitted
import EduPod.Foundation.Rounding
import EduPod.Foundation.Runs
import EduPod.Foundation.SessionFacts
import EduPod.Foundation.StableSort
import EduPod.Foundation.Statistics
import EduPod.Foundation.Substitution
import EduPod.Foundation.Table
import EduPod.Foundation.TableBulk
import EduPod.Foundation.ThreeValued
import EduPod.Foundation.TransactionLog
import EduPod.Foundation.UniqueIndex
import EduPod.Gdpr.RetentionEnforcement
import EduPod.Gdpr.Tokens
import EduPod.Gradebook.Aggregates
import EduPod.Gradebook.CurveOrder
import EduPod.Gradebook.CurveUndo
import EduPod.Gradebook.Gpa
import EduPod.Gradebook.GradeCurves
import EduPod.Gradebook.LegendBands
import EduPod.Gradebook.PeriodGrades
import EduPod.Gradebook.RankBadges
import EduPod.Imports.ImportProcessing
import EduPod.Imports.ImportRows
import EduPod.Imports.ImportRuns
import EduPod.Imports.ImportVerdicts
import EduPod.Imports.Redelivery
import EduPod.Inbox.AudienceComposer
import EduPod.Inbox.AudienceCycles
import EduPod.Inbox.AudienceMeaning
import EduPod.Inbox.AudienceRuns
import EduPod.Inbox.Conversations
import EduPod.Inbox.FallbackReads
import EduPod.Inbox.FallbackScan
import EduPod.Inbox.MessagingPolicy
import EduPod.Inbox.School
import EduPod.Inbox.TeacherReach
import EduPod.Leave.Requests
import EduPod.Notifications.Dispatch
import EduPod.Notifications.DoubleSends
import EduPod.Notifications.FallbackChains
import EduPod.Payroll.AttendancePay
import EduPod.Payroll.Calculation
import EduPod.Payroll.DeductionBalances
import EduPod.Payroll.Drafts
import EduPod.Payroll.Finalisation
import EduPod.Payroll.FinalisationInterleaving
import EduPod.Payroll.FinalisationSpec
import EduPod.Payroll.FinalisationStatements
import EduPod.Payroll.Overrides
import EduPod.Payroll.PathAgreement
import EduPod.Payroll.Records
import EduPod.Payroll.RunTotals
import EduPod.Payroll.Runs
import EduPod.Policy.ActionDedup
import EduPod.Policy.Actions
import EduPod.Policy.CategoryTokens
import EduPod.Policy.Incidents
import EduPod.Policy.Replay
import EduPod.Policy.RuleBook
import EduPod.Policy.RuleExchange
import EduPod.Policy.RuleVersions
import EduPod.Policy.SideBySide
import EduPod.Policy.TwoEngines
import EduPod.Reports.FilterCompiler
import EduPod.Reports.QueryEngine
import EduPod.Reports.ScheduledReports
import EduPod.Reports.WhereClauses
import EduPod.Safeguarding.Seals
import EduPod.Scheduling.ApplyConservation
import EduPod.Scheduling.ApplyRun
import EduPod.Scheduling.AssembledDemand
import EduPod.Scheduling.Assembly
import EduPod.Scheduling.Availability
import EduPod.Scheduling.DemandMet
import EduPod.Scheduling.DoublePeriods
import EduPod.Scheduling.Entries
import EduPod.Scheduling.ExamClashes
import EduPod.Scheduling.ExamSolver
import EduPod.Scheduling.GreedyFeasible
import EduPod.Scheduling.GreedySound
import EduPod.Scheduling.Hints
import EduPod.Scheduling.HintsRun
import EduPod.Scheduling.Lessons
import EduPod.Scheduling.Model
import EduPod.Scheduling.ModelFacts
import EduPod.Scheduling.Objective
import EduPod.Scheduling.ObjectiveOrder
import EduPod.Scheduling.PeriodSlots
import EduPod.Scheduling.PinRoundTrip
import EduPod.Scheduling.PinnedRows
import EduPod.Scheduling.Probe
import EduPod.Scheduling.Pruning
import EduPod.Scheduling.RoomClash
import EduPod.Scheduling.RoomSupply
import EduPod.Scheduling.RunLifecycle
import EduPod.Scheduling.RunRaces
import EduPod.Scheduling.Scene
import EduPod.Scheduling.ScheduleChecks
import EduPod.Scheduling.ScheduleSwaps
import EduPod.Scheduling.Schema
import EduPod.Scheduling.Scores
import EduPod.Scheduling.Slots
import EduPod.Scheduling.Solve
import EduPod.Scheduling.StoredRuns
import EduPod.Scheduling.SwapUndo
import EduPod.Scheduling.TeacherClash
import EduPod.Scheduling.TeacherClashExact
import EduPod.Scheduling.Validation
import EduPod.Security.BankDetails
import EduPod.Security.KeyRotation
import EduPod.Security.RotationMeaning
