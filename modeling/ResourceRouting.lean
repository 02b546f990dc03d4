import ResourceRouting.Bookstore.Resources
import ResourceRouting.Bookstore.Store
import ResourceRouting.Choice
import ResourceRouting.Dispatch
import ResourceRouting.Dispatch.Error
import ResourceRouting.Dispatch.Negotiation
import ResourceRouting.Form
import ResourceRouting.Http.Counters
import ResourceRouting.Http.Headers
import ResourceRouting.Http.Method
import ResourceRouting.Http.RequestTarget
import ResourceRouting.Http.Service
import ResourceRouting.Json
import ResourceRouting.Json.Reader
import ResourceRouting.Json.Record
import ResourceRouting.LogFilter
import ResourceRouting.Main
import ResourceRouting.MediaType
import ResourceRouting.MediaType.Accept
import ResourceRouting.MediaType.Quality
import ResourceRouting.Number.Binary
import ResourceRouting.Number.Numeral
import ResourceRouting.Number.Shortest
import ResourceRouting.PathParameters
import ResourceRouting.Percent
import ResourceRouting.Proofs.Bookstore.Catalogue
import ResourceRouting.Proofs.Bookstore.Handlers
import ResourceRouting.Proofs.Bookstore.History
import ResourceRouting.Proofs.Bookstore.Links
import ResourceRouting.Proofs.Bookstore.Places
import ResourceRouting.Proofs.Bookstore.Routes
import ResourceRouting.Proofs.Bookstore.Routing
import ResourceRouting.Proofs.Bookstore.Shelves
import ResourceRouting.Proofs.Bookstore.Showing
import ResourceRouting.Proofs.Bookstore.Visits
import ResourceRouting.Proofs.Choice
import ResourceRouting.Proofs.Decimal
import ResourceRouting.Proofs.Dispatch.Allowed
import ResourceRouting.Proofs.Dispatch.Consuming
import ResourceRouting.Proofs.Dispatch.ContentType
import ResourceRouting.Proofs.Dispatch.Head
import ResourceRouting.Proofs.Dispatch.Negotiation
import ResourceRouting.Proofs.Dispatch.Refusing
import ResourceRouting.Proofs.Dispatch.Selection
import ResourceRouting.Proofs.Distinct
import ResourceRouting.Proofs.Form
import ResourceRouting.Proofs.Http.Counting
import ResourceRouting.Proofs.Http.Head
import ResourceRouting.Proofs.Http.Headers
import ResourceRouting.Proofs.MediaType.Accept
import ResourceRouting.Proofs.MediaType.Compatible
import ResourceRouting.Proofs.MediaType.Listing
import ResourceRouting.Proofs.MediaType.Preference
import ResourceRouting.Proofs.Regex.Enclosing
import ResourceRouting.Proofs.Regex.Extending
import ResourceRouting.Proofs.Regex.Extending.Bracket
import ResourceRouting.Proofs.Regex.Extending.Escape
import ResourceRouting.Proofs.Regex.Leading
import ResourceRouting.Proofs.Regex.Noting
import ResourceRouting.Proofs.Regex.Place
import ResourceRouting.Proofs.Regex.Reading
import ResourceRouting.Proofs.Regex.Renumbering
import ResourceRouting.Proofs.Regex.Running
import ResourceRouting.Proofs.Regex.Sharing
import ResourceRouting.Proofs.Registry
import ResourceRouting.Proofs.Registry.Shared
import ResourceRouting.Proofs.Resolution.Account
import ResourceRouting.Proofs.Resolution.Binding
import ResourceRouting.Proofs.Resolution.Branches
import ResourceRouting.Proofs.Resolution.Chain
import ResourceRouting.Proofs.Resolution.Descent
import ResourceRouting.Proofs.Resolution.Disguise
import ResourceRouting.Proofs.Resolution.Literal
import ResourceRouting.Proofs.Resolution.Parameters
import ResourceRouting.Proofs.Resolution.Reached
import ResourceRouting.Proofs.Resolution.Rearranging
import ResourceRouting.Proofs.Resolution.Root
import ResourceRouting.Proofs.Resolution.RoundTrip
import ResourceRouting.Proofs.Resolution.Target
import ResourceRouting.Proofs.Resolution.Trail
import ResourceRouting.Proofs.Resource.Conflicts
import ResourceRouting.Proofs.Resource.Declared
import ResourceRouting.Proofs.Shutdown
import ResourceRouting.Proofs.Text
import ResourceRouting.Proofs.Uri.Braces
import ResourceRouting.Proofs.Uri.Building
import ResourceRouting.Proofs.Uri.Building.Matching
import ResourceRouting.Proofs.Uri.Bytes
import ResourceRouting.Proofs.Uri.Checking
import ResourceRouting.Proofs.Uri.Compile
import ResourceRouting.Proofs.Uri.Decoding
import ResourceRouting.Proofs.Uri.Encoding
import ResourceRouting.Proofs.Uri.Grammar
import ResourceRouting.Proofs.Uri.Grammar.Compiling
import ResourceRouting.Proofs.Uri.Grammar.Identity
import ResourceRouting.Proofs.Uri.Legal
import ResourceRouting.Proofs.Uri.Order
import ResourceRouting.Proofs.Uri.Pieces
import ResourceRouting.Proofs.Uri.Ranking
import ResourceRouting.Proofs.Uri.Remainder
import ResourceRouting.Proofs.Uri.Scan
import ResourceRouting.Proofs.Uri.Search
import ResourceRouting.Proofs.Uri.Segments
import ResourceRouting.Proofs.Uri.Segments.Ending
import ResourceRouting.Proofs.Uri.Segments.Matching
import ResourceRouting.Proofs.Uri.Shape
import ResourceRouting.Proofs.Uri.Shape.Expression
import ResourceRouting.Proofs.Uri.Shape.Literal
import ResourceRouting.Proofs.Uri.Shape.Matching
import ResourceRouting.Proofs.Uri.Shape.Pattern
import ResourceRouting.Proofs.Uri.Shape.Template
import ResourceRouting.Proofs.Uri.Substitution
import ResourceRouting.Proofs.Uri.Token
import ResourceRouting.Proofs.Uri.Token.Capturing
import ResourceRouting.Proofs.Uri.Token.Reading
import ResourceRouting.Proofs.Uri.Writing
import ResourceRouting.Proofs.Uri.Writing.Binding
import ResourceRouting.Proofs.Uri.Writing.Drafting
import ResourceRouting.Proofs.Uri.Writing.Filling
import ResourceRouting.Proofs.Uri.Writing.Legal
import ResourceRouting.Proofs.Uri.Writing.Omitting
import ResourceRouting.Proofs.Uri.Writing.Sections
import ResourceRouting.Proofs.Uri.Writing.Splitting
import ResourceRouting.Proofs.Uri.Writing.Staging
import ResourceRouting.Regex
import ResourceRouting.Regex.Bracket
import ResourceRouting.Regex.CharSet
import ResourceRouting.Regex.Escape
import ResourceRouting.Regex.Expr
import ResourceRouting.Regex.Flags
import ResourceRouting.Regex.Matching
import ResourceRouting.Regex.Named
import ResourceRouting.Regex.Place
import ResourceRouting.Regex.Reader
import ResourceRouting.Regex.Sharing
import ResourceRouting.Registry
import ResourceRouting.Registry.Shared
import ResourceRouting.Request
import ResourceRouting.Request.Scalar
import ResourceRouting.Resolution
import ResourceRouting.Resource
import ResourceRouting.Resource.Declaration
import ResourceRouting.Response
import ResourceRouting.Settings
import ResourceRouting.Shutdown
import ResourceRouting.SocketAddress
import ResourceRouting.TemplateTool
import ResourceRouting.Text
import ResourceRouting.Text.Quoted
import ResourceRouting.Text.Scalar
import ResourceRouting.Toml
import ResourceRouting.Toml.Reader
import ResourceRouting.Toml.Scalar
import ResourceRouting.Unicode.CaseMap
import ResourceRouting.Unicode.Category
import ResourceRouting.Unicode.Property
import ResourceRouting.Unicode.Run
import ResourceRouting.Unicode.Script
import ResourceRouting.Uri.Build
import ResourceRouting.Uri.Component
import ResourceRouting.Uri.Component.Scan
import ResourceRouting.Uri.Pattern
import ResourceRouting.Uri.Search
import ResourceRouting.Uri.Template
import ResourceRouting.Utf8
