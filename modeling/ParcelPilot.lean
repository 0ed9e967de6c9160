import ParcelPilot.Disclosure
import ParcelPilot.ActionLifecycle
import ParcelPilot.Confinement
import ParcelPilot.ChatConfinement
import ParcelPilot.AnswerGuarantees
import ParcelPilot.Authorization
import ParcelPilot.ModelIndependence
import ParcelPilot.ModelBudgets
import ParcelPilot.AgreementTerms
import ParcelPilot.DeprecatedEvidence
import ParcelPilot.TargetTexts
import ParcelPilot.FaultCells
import ParcelPilot.RadarRoutes
import ParcelPilot.Citations
import ParcelPilot.RunContract
import ParcelPilot.Sufficiency
import ParcelPilot.ActionResponses
import ParcelPilot.PaidAnswers
import ParcelPilot.CollectedOrders
import ParcelPilot.AlertRecords
import ParcelPilot.RadarEscalations
import ParcelPilot.RadarRequests
import ParcelPilot.RadarNarrowing
import ParcelPilot.RecurringCounts
import ParcelPilot.ResolvedWords
import ParcelPilot.CreditBounds
import ParcelPilot.QuotedEvidence
import ParcelPilot.EvidenceTexts
import ParcelPilot.PlanCoverage
import ParcelPilot.MentionedIds
import ParcelPilot.RelevanceFloor
import ParcelPilot.ModelFailures
import ParcelPilot.GatewayReports
import ParcelPilot.AttemptBudget
import ParcelPilot.WorkbookErrors
import ParcelPilot.ChunkIds
import ParcelPilot.GridTables
import ParcelPilot.TargetLookup
import ParcelPilot.Supersession
import ParcelPilot.StoredWorkbook
import ParcelPilot.Fingerprints
import ParcelPilot.ServiceGuarantees
import ParcelPilot.StoredService
import ParcelPilot.AlertsEscalate
import ParcelPilot.PinnedProposals
import ParcelPilot.IngestedData
import ParcelPilot.ErrorResponses
import ParcelPilot.ServedAlerts
import ParcelPilot.AnswerHtml
