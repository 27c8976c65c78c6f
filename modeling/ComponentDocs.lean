import ComponentDocs.Main
import ComponentDocs.Log.Loggers
import ComponentDocs.Service.Framework
import ComponentDocs.Proofs.FenceLayout
import ComponentDocs.Proofs.Gathering
import ComponentDocs.Proofs.MergeInStages
import ComponentDocs.Proofs.LabelShape
import ComponentDocs.Proofs.PlaceholderLine
import ComponentDocs.Proofs.Preparation
import ComponentDocs.Proofs.ShownBlocks
import ComponentDocs.Proofs.FixedPoints
import ComponentDocs.Proofs.LosslessCut
import ComponentDocs.Proofs.BlockByBlock
import ComponentDocs.Proofs.ExtractedExamples
import ComponentDocs.Proofs.CommentLayout
import ComponentDocs.Proofs.CommentMode
import ComponentDocs.Proofs.LineEnds
import ComponentDocs.Proofs.RunningDescription
import ComponentDocs.Proofs.LaggingRun
import ComponentDocs.Proofs.SameLines
import ComponentDocs.Proofs.RoutedRecords
import ComponentDocs.Proofs.FirstCategory
import ComponentDocs.Proofs.JoinedSources
import ComponentDocs.Proofs.ReportedFaults
import ComponentDocs.Proofs.FenceRanges
import ComponentDocs.Proofs.MergedGroups
import ComponentDocs.Proofs.JoinedDescriptions
import ComponentDocs.Proofs.HeaderGrammar
import ComponentDocs.Proofs.HiddenFlags
import ComponentDocs.Proofs.CollectedExamples
import ComponentDocs.Proofs.HiddenRemoval
import ComponentDocs.Proofs.PlacedPlaceholders
import ComponentDocs.Proofs.HeaderLines
import ComponentDocs.Proofs.LeftmostComments
import ComponentDocs.Proofs.PrintedHeaders
import ComponentDocs.Proofs.PlaceholderAttributes
import ComponentDocs.Proofs.DocumentLeaves
import ComponentDocs.Proofs.DocumentTrees
import ComponentDocs.Proofs.ExpandedMetadata
import ComponentDocs.Proofs.RegisteredExamples
import ComponentDocs.Proofs.OrderedSources
import ComponentDocs.Proofs.CanonicalExtensions
