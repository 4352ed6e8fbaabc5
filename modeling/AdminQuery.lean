import AdminQuery.Condition.Tree
import AdminQuery.Listing.Query
import AdminQuery.Main
import AdminQuery.Proofs.Noninterference
import AdminQuery.Proofs.PatternMatching
import AdminQuery.Proofs.ReadBack
import AdminQuery.Proofs.FilterRuns
import AdminQuery.Proofs.FilterConcatenation
import AdminQuery.Proofs.ConditionTrees
import AdminQuery.Proofs.Descriptions
import AdminQuery.Proofs.RegistryRuns
import AdminQuery.Proofs.PolymorphicSides
import AdminQuery.Proofs.CatalogRegistration
import AdminQuery.Proofs.PrintedLeaves
import AdminQuery.Proofs.PrintedDocuments
import AdminQuery.Proofs.CatalogTexts
import AdminQuery.Proofs.RegistryHistory
import AdminQuery.Proofs.DeclarationChecks
import AdminQuery.Proofs.LazyDescriptions
import AdminQuery.Proofs.NamingConventions
import AdminQuery.Proofs.CalendarWindows
import AdminQuery.Proofs.WrittenDates
import AdminQuery.Proofs.RelativeDays
import AdminQuery.Proofs.FilterMapDecoding
import AdminQuery.Proofs.DottedKeys
import AdminQuery.Proofs.IntegerConditions
import AdminQuery.Proofs.NounNumber
import AdminQuery.Proofs.UnderscoredNames
import AdminQuery.Proofs.UnquotedScalars
import AdminQuery.Proofs.ListQueries
import AdminQuery.Proofs.PushedEntries
import AdminQuery.Proofs.ControlTokens
import AdminQuery.Proofs.TypeReports
import AdminQuery.Proofs.RequestReading
