import CmsMarkup.Arguments
import CmsMarkup.Calendar
import CmsMarkup.CodeFence
import CmsMarkup.CommandLine
import CmsMarkup.Convention
import CmsMarkup.Convert
import CmsMarkup.Document
import CmsMarkup.Double
import CmsMarkup.FilePath
import CmsMarkup.FileTree
import CmsMarkup.FrontMatter
import CmsMarkup.Html.Node
import CmsMarkup.Html.Printer
import CmsMarkup.Html.Reference
import CmsMarkup.Html.ReferenceTable
import CmsMarkup.Html.Token
import CmsMarkup.Html.Tree
import CmsMarkup.ImageGrid
import CmsMarkup.ImageGrid.Unwrapping
import CmsMarkup.Json
import CmsMarkup.Json.Printer
import CmsMarkup.Json.Reader
import CmsMarkup.Log
import CmsMarkup.Main
import CmsMarkup.Metadata
import CmsMarkup.Pandoc
import CmsMarkup.Pandoc.FenceMark
import CmsMarkup.Pandoc.Playback
import CmsMarkup.Pandoc.Playback.Reader
import CmsMarkup.Pandoc.Syntax
import CmsMarkup.Pandoc.Title
import CmsMarkup.Pandoc.Tree
import CmsMarkup.Postprocess
import CmsMarkup.Proofs.DocumentOrder
import CmsMarkup.Proofs.FenceOrder
import CmsMarkup.Proofs.LiftOrder
import CmsMarkup.Proofs.RegularTree
import CmsMarkup.Proofs.RuleOrder
import CmsMarkup.Render
import CmsMarkup.Rule
import CmsMarkup.Rule.Single
import CmsMarkup.Slug
import CmsMarkup.Slug.Passes
import CmsMarkup.Text.Base64
import CmsMarkup.Text.Blank
import CmsMarkup.Text.Casing
import CmsMarkup.Text.CasingTable
import CmsMarkup.Text.CodeText
import CmsMarkup.Text.Percent
import CmsMarkup.Text.Printable
import CmsMarkup.Text.Quoted
import CmsMarkup.Text.Ranges
import CmsMarkup.Text.Utf8
import CmsMarkup.Toc
import CmsMarkup.Value
import CmsMarkup.Yaml.Content
import CmsMarkup.Yaml.Cursor
import CmsMarkup.Yaml.Kind
import CmsMarkup.Yaml.Node
import CmsMarkup.Yaml.Number
import CmsMarkup.Yaml.Scalar
import CmsMarkup.Yaml.TagName
import CmsMarkup.Yaml.Timestamp
import CmsMarkup.Yaml.Token
import CmsMarkup.Proofs.GridPlacement
import CmsMarkup.Proofs.MediaItems
import CmsMarkup.Proofs.TableLayers
import CmsMarkup.Proofs.VisibleText
import CmsMarkup.Proofs.FrontMatterFault
import CmsMarkup.Proofs.HeadingIds
import CmsMarkup.Proofs.DocumentShape
import CmsMarkup.Proofs.DocumentTree
import CmsMarkup.Proofs.Batch
import CmsMarkup.Proofs.BatchFaults
import CmsMarkup.Proofs.FileFrame
import CmsMarkup.Proofs.BatchDocuments
import CmsMarkup.Proofs.ConversionFrame
import CmsMarkup.Proofs.TocLinks
import CmsMarkup.Proofs.CodeLanguages
import CmsMarkup.Proofs.WrittenMarkup
import CmsMarkup.Proofs.DocumentHead
import CmsMarkup.Proofs.ElementNumbers
import CmsMarkup.Proofs.RuleWalk
import CmsMarkup.Proofs.RepeatedRules
import CmsMarkup.Proofs.RuleFrame
import CmsMarkup.Proofs.SharedSession
import CmsMarkup.Proofs.ParagraphTurns
import CmsMarkup.Proofs.ParagraphContents
import CmsMarkup.Proofs.ParagraphSplit
import CmsMarkup.Proofs.TocOutline
import CmsMarkup.Proofs.PrintedTree
import CmsMarkup.Proofs.TocLists
import CmsMarkup.Proofs.SlugShape
import CmsMarkup.Proofs.BoundaryLines
import CmsMarkup.Proofs.TreeRoundTrip
import CmsMarkup.Proofs.PercentEncoding
import CmsMarkup.Proofs.FirstHeading
import CmsMarkup.Proofs.CodeBlockMarks
import CmsMarkup.Proofs.TypedTree
