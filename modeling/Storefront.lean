import Storefront.Agenda
import Storefront.Backend
import Storefront.CategorySet
import Storefront.Console.Command
import Storefront.Console.Display
import Storefront.Console.Run
import Storefront.Fetch.Error
import Storefront.Fetch.Outcome
import Storefront.Fetch.Reply
import Storefront.Fetch.Request
import Storefront.Files
import Storefront.History
import Storefront.Http.Client
import Storefront.Http.ContentType
import Storefront.Http.Headers
import Storefront.Http.Message
import Storefront.Http.Target
import Storefront.Http.Timeout
import Storefront.Json.Basic
import Storefront.Json.Failure
import Storefront.Json.Reader
import Storefront.Json.Record
import Storefront.Json.Skipper
import Storefront.Json.Writer
import Storefront.Location
import Storefront.Metrics
import Storefront.Number.Binary64
import Storefront.Number.Numeral
import Storefront.Number.Power
import Storefront.Number.Shortest
import Storefront.Number.Text
import Storefront.Product.Basic
import Storefront.Product.Labels
import Storefront.Product.Record
import Storefront.Product.Samples
import Storefront.Proofs.Agenda
import Storefront.Proofs.Search.Canonical
import Storefront.Proofs.Session.Belonging
import Storefront.Proofs.Session.Follow
import Storefront.Proofs.Session.Invariant
import Storefront.Proofs.Session.Revisions
import Storefront.Proofs.Suggestion.Acts
import Storefront.Proofs.Suggestion.Lookups
import Storefront.Proofs.Suggestion.Moves
import Storefront.Proofs.Suggestion.Staleness
import Storefront.Proofs.Suggestion.Timers
import Storefront.Proofs.Text.Form
import Storefront.Proofs.Text.Utf8
import Storefront.SearchState
import Storefront.Session.Basic
import Storefront.Session.Run
import Storefront.Settings.Basic
import Storefront.Settings.Load
import Storefront.Settings.Read
import Storefront.Suggestion.Input
import Storefront.Suggestion.Panel
import Storefront.Suggestion.Run
import Storefront.TaskSlots
import Storefront.Text.Base64
import Storefront.Text.Blank
import Storefront.Text.CodePage
import Storefront.Text.Composed
import Storefront.Text.Decomposition
import Storefront.Text.Encoding
import Storefront.Text.Extending
import Storefront.Text.Form
import Storefront.Text.Hex
import Storefront.Text.Mark
import Storefront.Text.Multibyte.Basic
import Storefront.Text.Multibyte.Big5
import Storefront.Text.Multibyte.Big5Characters
import Storefront.Text.Multibyte.CharTable
import Storefront.Text.Multibyte.EucJp
import Storefront.Text.Multibyte.EucKr
import Storefront.Text.Multibyte.Front
import Storefront.Text.Multibyte.Gb18030
import Storefront.Text.Multibyte.Gb2312
import Storefront.Text.Multibyte.Iso2022Jp
import Storefront.Text.Multibyte.Jisx0208
import Storefront.Text.Multibyte.Jisx0212
import Storefront.Text.Multibyte.Ksx1001
import Storefront.Text.Multibyte.Pairs
import Storefront.Text.Multibyte.ShiftJis
import Storefront.Text.Percent
import Storefront.Text.Quoted
import Storefront.Text.Ranges
import Storefront.Text.Substitution
import Storefront.Text.Unprintable
import Storefront.Text.Utf16
import Storefront.Text.Utf8
import Storefront.Ticket
import Storefront.Url.Address
import Storefront.Url.Basic
import Storefront.Url.Domain
import Storefront.Url.Domain.Direction
import Storefront.Url.Domain.Joining
import Storefront.Url.Domain.Mapping
import Storefront.Url.Escaping
import Storefront.Url.Host
import Storefront.Url.Path
import Storefront.Url.Punycode
import Storefront.Url.Reader
import Storefront.Yaml.Cursor
import Storefront.Yaml.Decode
import Storefront.Yaml.Document
import Storefront.Yaml.Event.Basic
import Storefront.Yaml.Event.Grammar
import Storefront.Yaml.Failure
import Storefront.Yaml.Fault
import Storefront.Yaml.Position
import Storefront.Yaml.Scalar.Block
import Storefront.Yaml.Scalar.Content
import Storefront.Yaml.Scalar.Gap
import Storefront.Yaml.Scalar.Plain
import Storefront.Yaml.Scalar.Quoted
import Storefront.Yaml.Tag
import Storefront.Yaml.Token.Basic
import Storefront.Yaml.Token.Lexer
import Storefront.Main
import Storefront.Proofs.Suggestion.Advance
import Storefront.Proofs.Suggestion.Quiet
import Storefront.Proofs.Location
import Storefront.Proofs.Session.Reload
import Storefront.Proofs.Suggestion.Notices
import Storefront.Proofs.Search.Labels
import Storefront.Proofs.Location.Parameters
import Storefront.Proofs.Search.Applied
import Storefront.Proofs.Url.Normal
import Storefront.Proofs.Location.RoundTrip
import Storefront.Proofs.Session.Race
import Storefront.Proofs.Session.Timing
import Storefront.Proofs.Session.Settling
import Storefront.Proofs.Suggestion.Origin
import Storefront.Proofs.Suggestion.Barrier
import Storefront.Proofs.Suggestion.Punctual
import Storefront.Proofs.Suggestion.Visibility
import Storefront.Proofs.Suggestion.Balance
import Storefront.Proofs.Session.Balance
import Storefront.Proofs.Sharing
import Storefront.Proofs.Suggestion.Layout
import Storefront.Proofs.Session.Navigation
import Storefront.Proofs.TaskSlots.Deadline
import Storefront.Proofs.Product.Fields
import Storefront.Proofs.Search.Edits
import Storefront.Proofs.Http.Headers
import Storefront.Proofs.Settings.Override
import Storefront.Proofs.Product.Lists
import Storefront.Proofs.Search.Membership
import Storefront.Proofs.History.Zipper
import Storefront.Proofs.Location.Multimap
import Storefront.Proofs.Fetch.Bodies
import Storefront.Proofs.Fetch.Replies
import Storefront.Proofs.Product.Placeholder
import Storefront.Proofs.Product.RoundTrip
import Storefront.Proofs.Settings.Sources
import Storefront.Proofs.TicketDesk.Currency
import Storefront.Proofs.TaskSlots.Presence
