import FaultContext.Code.Excerpt
import FaultContext.Config.Load
import FaultContext.Export
import FaultContext.Files.Archive
import FaultContext.Files.Disk
import FaultContext.Files.Path
import FaultContext.Glob.Match
import FaultContext.Json.Fields
import FaultContext.Json.Reader
import FaultContext.Json.Writer
import FaultContext.Logging.Preset
import FaultContext.Lookup.Search
import FaultContext.Main
import FaultContext.Metrics.Tally
import FaultContext.Origin.Classification
import FaultContext.Origin.Resolver
import FaultContext.Proofs.AcceptedSettings
import FaultContext.Proofs.Accounts
import FaultContext.Proofs.AddedBodies
import FaultContext.Proofs.AddedFiles
import FaultContext.Proofs.AddedPackages
import FaultContext.Proofs.ArchiveMembers
import FaultContext.Proofs.BoundaryRule
import FaultContext.Proofs.Braces
import FaultContext.Proofs.CacheInclusion
import FaultContext.Proofs.ClassFiles
import FaultContext.Proofs.ClassPathOrder
import FaultContext.Proofs.Classification
import FaultContext.Proofs.Confinement
import FaultContext.Proofs.DeclarationLines
import FaultContext.Proofs.Dictionaries
import FaultContext.Proofs.DirectoryWalk
import FaultContext.Proofs.EventDetails
import FaultContext.Proofs.Excerpts
import FaultContext.Proofs.FirstEntries
import FaultContext.Proofs.ForeignMethods
import FaultContext.Proofs.FrameRecords
import FaultContext.Proofs.FunctionEnd
import FaultContext.Proofs.FunctionSearch
import FaultContext.Proofs.Independence
import FaultContext.Proofs.JsonFields
import FaultContext.Proofs.JsonLayout
import FaultContext.Proofs.JsonLines
import FaultContext.Proofs.JsonTokens
import FaultContext.Proofs.Layout
import FaultContext.Proofs.NamesAlone
import FaultContext.Proofs.Percentiles
import FaultContext.Proofs.PlainNames
import FaultContext.Proofs.Precedence
import FaultContext.Proofs.PrintedFrames
import FaultContext.Proofs.QuestionOrder
import FaultContext.Proofs.Recency
import FaultContext.Proofs.RecordWire
import FaultContext.Proofs.RecordsMade
import FaultContext.Proofs.RunTimes
import FaultContext.Proofs.SamePaths
import FaultContext.Proofs.SecondPass
import FaultContext.Proofs.SharedKeys
import FaultContext.Proofs.SourceCache
import FaultContext.Proofs.SourceRequests
import FaultContext.Proofs.SourceRoots
import FaultContext.Proofs.SpanWire
import FaultContext.Proofs.Stability
import FaultContext.Proofs.Stateless
import FaultContext.Proofs.TraceLines
import FaultContext.Proofs.Transparency
import FaultContext.Proofs.Trimming
import FaultContext.Proofs.UnreadablePlaces
import FaultContext.Text.Basic
import FaultContext.Text.CharacterClass
import FaultContext.Text.LowerCase
import FaultContext.Text.Utf8
import FaultContext.Trace.Frame
import FaultContext.Yaml.Reader
