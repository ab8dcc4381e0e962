import HttpScript.CommandLine
import HttpScript.Main
import HttpScript.Proofs.Placeholder
import HttpScript.Proofs.TemplateParts
import HttpScript.Proofs.TemplateStability
import HttpScript.Proofs.FieldText
import HttpScript.Proofs.RecordLaws
import HttpScript.Proofs.RecordEntries
import HttpScript.Proofs.RecordMerge
import HttpScript.Proofs.DocumentBlocks
import HttpScript.Proofs.BlockMeaning
import HttpScript.Proofs.VariablePrecedence
import HttpScript.Proofs.RedirectChain
import HttpScript.Proofs.RedirectHeaders
import HttpScript.Proofs.RedirectBodies
import HttpScript.Proofs.SessionHistory
import HttpScript.Proofs.ExecutionLaws
import HttpScript.Proofs.DocumentRun
import HttpScript.Proofs.EventProtocol
import HttpScript.Proofs.ConfigDiscovery
import HttpScript.Proofs.ContentHeaders
import HttpScript.Proofs.JsonLexemes
import HttpScript.Proofs.JsoncCleaning
import HttpScript.Proofs.JsoncLines
import HttpScript.Proofs.CommentSeams
import HttpScript.Proofs.LetterCase
import HttpScript.Proofs.NewEntries
import HttpScript.Proofs.HeaderLayers
import HttpScript.Proofs.ResponseHeaders
import HttpScript.Proofs.WrittenLines
import HttpScript.Proofs.WrittenDocument
import HttpScript.Proofs.RequestSpans
import HttpScript.Proofs.LinePadding
import HttpScript.Proofs.DocumentPadding
import HttpScript.Proofs.ExactNumbers
import HttpScript.Proofs.Selection
import HttpScript.Proofs.ReferenceText
import HttpScript.Proofs.NamedReferences
import HttpScript.Proofs.ReferenceScope
import HttpScript.Proofs.PathGrammar
import HttpScript.Proofs.BodyTrees
import HttpScript.Proofs.ChainedNumbers
import HttpScript.Proofs.CaseUniqueness
import HttpScript.Proofs.WholeNumbers
import HttpScript.Proofs.PathReading
import HttpScript.Proofs.PathAddresses
import HttpScript.Proofs.PathQueries
import HttpScript.Proofs.ChainedValues
import HttpScript.Proofs.ShownBodies
import HttpScript.Proofs.RecordWrites
import HttpScript.Proofs.RandomIntegers
import HttpScript.Proofs.FirstSignal
import HttpScript.Proofs.CommandBindings
