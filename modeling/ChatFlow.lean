import ChatFlow.Main
import ChatFlow.CommandLine.Basic
import ChatFlow.Responder.Request
import ChatFlow.Proofs.LoopingWalks
import ChatFlow.Proofs.ContextRuns
import ChatFlow.Proofs.RunsInPlan
import ChatFlow.Proofs.NodeWork
import ChatFlow.Proofs.Branches
import ChatFlow.Proofs.ContextSlots
import ChatFlow.Proofs.Renaming
import ChatFlow.Proofs.AnswerOrigin
import ChatFlow.Proofs.CollaboratorCalls
import ChatFlow.Proofs.VisitBudgets
import ChatFlow.Proofs.Outlines
import ChatFlow.Proofs.ValidationReports
import ChatFlow.Proofs.ExecutionLogs
import ChatFlow.Proofs.EdgeOrigins
import ChatFlow.Proofs.LiteralOccurrences
import ChatFlow.Proofs.UnsetOptions
import ChatFlow.Proofs.TenantCorpora
import ChatFlow.Proofs.AcceptedDescriptions
import ChatFlow.Proofs.PlanShapes
import ChatFlow.Proofs.EntrySelection
import ChatFlow.Proofs.ModelRequests
import ChatFlow.Proofs.RegisteredDocuments
import ChatFlow.Proofs.Worklists
import ChatFlow.Proofs.NeighbourLists
import ChatFlow.Proofs.SettingsBudgets
import ChatFlow.Proofs.RewriteReports
import ChatFlow.Proofs.Registrations
