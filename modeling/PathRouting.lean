import PathRouting.Config
import PathRouting.Pattern.Within
import PathRouting.Route.Matcher
import PathRouting.Route.Table
import PathRouting.Proofs.Fallible
import PathRouting.Proofs.Pattern.Token
import PathRouting.Proofs.Search.Basic
import PathRouting.Proofs.Pattern.Segment
import PathRouting.Proofs.Pattern.Chain
import PathRouting.Proofs.Search.Memo
import PathRouting.Proofs.Search.Rest
import PathRouting.Proofs.Search.Cut
import PathRouting.Proofs.Path.SubPath
import PathRouting.Proofs.Pattern.StartMatch
import PathRouting.Proofs.Search.Recording
import PathRouting.Proofs.Pattern.Specificity
import PathRouting.Proofs.Route.Table
import PathRouting.Proofs.Pattern.Outline
import PathRouting.Proofs.Pattern.Append
import PathRouting.Proofs.Search.Offset
import PathRouting.Proofs.Search.Recorded
import PathRouting.Proofs.Pattern.Join
import PathRouting.Proofs.Pattern.Combine
import PathRouting.Proofs.Tiling
import PathRouting.Proofs.Path.Split
import PathRouting.Proofs.Pattern.Braces
import PathRouting.Proofs.Pattern.CaptureEnd
import PathRouting.Proofs.Pattern.Written
import PathRouting.Proofs.Pattern.WellFormed
import PathRouting.Proofs.Pattern.Indices
import PathRouting.Proofs.Pattern.InRange
import PathRouting.Proofs.Percent
import PathRouting.Proofs.Config
import PathRouting.Proofs.Pattern.Expand
import PathRouting.Proofs.Path.Merge
import PathRouting.Proofs.Pattern.RestCapture
import PathRouting.Proofs.Pattern.Plain
import PathRouting.Proofs.Route.Literals
import PathRouting.Proofs.Route.Order
import PathRouting.Proofs.Route.Cache
import PathRouting.Proofs.Pattern.Complete
import PathRouting.Proofs.Path.Entries
import PathRouting.Proofs.Path.Place
import PathRouting.Proofs.Search.Place
import PathRouting.Proofs.Path.Views
import PathRouting.Proofs.Pattern.Views
import PathRouting.Proofs.Path.Escaped
import PathRouting.Proofs.Route.Escaped
import PathRouting.Proofs.Regex.Explore
import PathRouting.Proofs.Pattern.Constraint
import PathRouting.Proofs.Search.Trailing
import PathRouting.Proofs.Pattern.Layout
import PathRouting.Proofs.Pattern.Trailing
import PathRouting.Proofs.Pattern.Spelling
import PathRouting.Proofs.Pattern.Grammar
import PathRouting.Proofs.Pattern.Mixed
import PathRouting.Proofs.Pattern.AfterSeparator
import PathRouting.Proofs.Search.Traced
import PathRouting.Proofs.Search.Once
import PathRouting.Proofs.Pattern.TrailingRest
import PathRouting.Proofs.Pattern.ZeroSegments
import PathRouting.Proofs.Pattern.Parts
import PathRouting.Proofs.Pattern.Accept
import PathRouting.Proofs.Regex.Enclosed
import PathRouting.Proofs.Pattern.Constrained
import PathRouting.Proofs.Search.Bound
import PathRouting.Proofs.Percent.Scan
import PathRouting.Proofs.Path.Fragments
import PathRouting.Proofs.Path.Undecoded
import PathRouting.Proofs.Pattern.Within
import PathRouting.Proofs.Path.RoundTrip
import PathRouting.Proofs.Pattern.LiteralPrefix
import PathRouting.Proofs.Pattern.Combination
import PathRouting.Proofs.Pattern.Extension
import PathRouting.Proofs.Pattern.Directory
import PathRouting.Proofs.Route.Ties
import PathRouting.Proofs.Pattern.IgnoreCase
import PathRouting.Proofs.Pattern.Filled
import PathRouting.Proofs.Pattern.FaultPlace
import PathRouting.Proofs.Search.Stack
import PathRouting.Proofs.Regex.Property
