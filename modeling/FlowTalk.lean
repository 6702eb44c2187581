import FlowTalk.Assistant.Ask
import FlowTalk.Assistant.Client
import FlowTalk.Assistant.Prompt
import FlowTalk.Assistant.Reply
import FlowTalk.Assistant.Settings
import FlowTalk.Command
import FlowTalk.Draft.Basic
import FlowTalk.Draft.Payload
import FlowTalk.Flow.Basic
import FlowTalk.Flow.Position
import FlowTalk.Flow.Table
import FlowTalk.Intent
import FlowTalk.Interpret
import FlowTalk.Json.Display
import FlowTalk.Json.Reader
import FlowTalk.Json.Shown
import FlowTalk.Json.Value
import FlowTalk.Json.Writer
import FlowTalk.Listing.Basic
import FlowTalk.Listing.Loose
import FlowTalk.Lookup.Basic
import FlowTalk.Lookup.Keywords
import FlowTalk.Lookup.Resolve
import FlowTalk.Mention
import FlowTalk.Number.Basic
import FlowTalk.Number.Decimal
import FlowTalk.Number.Integer
import FlowTalk.Number.Shortest
import FlowTalk.Number.Style
import FlowTalk.Numeral
import FlowTalk.Pattern.Basic
import FlowTalk.Pattern.Search
import FlowTalk.Pattern.Words
import FlowTalk.Proofs.Flow.Table
import FlowTalk.Saved.Load
import FlowTalk.Saved.Write
import FlowTalk.Session.Basic
import FlowTalk.Session.Supply
import FlowTalk.Session.World
import FlowTalk.Text.Basic
import FlowTalk.Text.Blank
import FlowTalk.Text.Digit
import FlowTalk.Text.Encoding
import FlowTalk.Text.Lowercase
import FlowTalk.Text.Printable
import FlowTalk.Text.Quoted
import FlowTalk.Text.Ranges
import FlowTalk.Text.Units
import FlowTalk.Text.Word
import FlowTalk.Time
import FlowTalk.Utterance.Detector
import FlowTalk.Utterance.Ordinal
import FlowTalk.Utterance.Phrase
import FlowTalk.Utterance.Usage
import FlowTalk.Utterance.Vocabulary
import FlowTalk.Web.Address.Basic
import FlowTalk.Web.Address.Ip
import FlowTalk.Web.Address.Percent
import FlowTalk.Web.Client
import FlowTalk.Web.Host.Character
import FlowTalk.Web.Host.Composed
import FlowTalk.Web.Host.Direction
import FlowTalk.Web.Host.Joining
import FlowTalk.Web.Host.Label
import FlowTalk.Web.Host.Mark
import FlowTalk.Web.Host.Name
import FlowTalk.Web.Host.Punycode
import FlowTalk.Proofs.Flow.Valid
import FlowTalk.Proofs.Saved.Load
import FlowTalk.Proofs.Session.World
import FlowTalk.Proofs.Flow.Reachable
import FlowTalk.Proofs.Pattern.Search
import FlowTalk.Proofs.Text.Trim
import FlowTalk.Proofs.Text.Runs
import FlowTalk.Proofs.Utterance.Pieces
import FlowTalk.Proofs.Utterance.Numerals
import FlowTalk.Proofs.Lookup.Resolve
import FlowTalk.Proofs.Interpret.Total
import FlowTalk.Proofs.Pattern.Forward
import FlowTalk.Proofs.Utterance.ByNumber
import FlowTalk.Proofs.Interpret.Build
import FlowTalk.Proofs.Session.Execute
import FlowTalk.Proofs.Session.Process
import FlowTalk.Proofs.Json.Strings
import FlowTalk.Proofs.Json.Scalars
import FlowTalk.Proofs.Json.Front
import FlowTalk.Proofs.Json.Grammar
import FlowTalk.Proofs.Json.Reading
import FlowTalk.Proofs.Json.RoundTrip
import FlowTalk.Proofs.Saved.RoundTrip
import FlowTalk.Proofs.Number.Near
import FlowTalk.Proofs.Number.Rounding
import FlowTalk.Proofs.Number.Bits
import FlowTalk.Proofs.Number.Scientific
import FlowTalk.Proofs.Json.Numbers
import FlowTalk.Proofs.Pattern.Complete
import FlowTalk.Proofs.Pattern.Spelling
import FlowTalk.Proofs.Pattern.WholeWord
import FlowTalk.Proofs.Utterance.Verb
import FlowTalk.Proofs.Utterance.Marker
import FlowTalk.Proofs.Assistant.Client
import FlowTalk.Proofs.Assistant.Numerals
import FlowTalk.Proofs.Assistant.Message
import FlowTalk.Proofs.Number.Overflow
import FlowTalk.Proofs.Json.Limits
import FlowTalk.Proofs.Saved.Limits
import FlowTalk.Proofs.Lookup.Ranking
import FlowTalk.Proofs.Interpret.Numbering
import FlowTalk.Proofs.Assistant.Fallback
import FlowTalk.Proofs.Flow.Tidy
import FlowTalk.Proofs.Session.Change
import FlowTalk.Proofs.Session.Run
import FlowTalk.Proofs.Session.Autosave
import FlowTalk.Proofs.Pattern.Demands
import FlowTalk.Proofs.Utterance.Slots
import FlowTalk.Proofs.Draft.Payload
import FlowTalk.Proofs.Draft.Complete
import FlowTalk.Proofs.Interpret.Rebuild
import FlowTalk.Proofs.Utterance.Sentence
import FlowTalk.Proofs.Utterance.Framing
import FlowTalk.Proofs.Interpret.ByLabel
import FlowTalk.Proofs.Pattern.Division
import FlowTalk.Proofs.Utterance.Separators
import FlowTalk.Proofs.Utterance.InQuotes
import FlowTalk.Proofs.Utterance.QuotedSlots
import FlowTalk.Proofs.Pattern.Lowered
import FlowTalk.Proofs.Utterance.Joined
import FlowTalk.Proofs.Utterance.Unmarked
import FlowTalk.Proofs.Utterance.NodeNumber
import FlowTalk.Proofs.Utterance.NumberedSlots
import FlowTalk.Proofs.Interpret.ByPosition
import FlowTalk.Proofs.Interpret.Chatter
import FlowTalk.Proofs.Interpret.GivenLabel
import FlowTalk.Proofs.Interpret.NewLabel
import FlowTalk.Proofs.Utterance.Verbatim
import FlowTalk.Proofs.Text.LetterCase
import FlowTalk.Proofs.Pattern.LetterCase
import FlowTalk.Proofs.Utterance.LetterCase
import FlowTalk.Proofs.Pattern.Erase
import FlowTalk.Proofs.Assistant.Fence
import FlowTalk.Proofs.Assistant.Depth
import FlowTalk.Proofs.Assistant.Braces
import FlowTalk.Proofs.Assistant.Fences
import FlowTalk.Proofs.Flow.OnePass
import FlowTalk.Proofs.Session.Delete
import FlowTalk.Proofs.Session.Connect
import FlowTalk.Proofs.Interpret.ById
import FlowTalk.Proofs.Session.Refusal
import FlowTalk.Proofs.Session.Restore
import FlowTalk.Proofs.Saved.Shape
import FlowTalk.Proofs.Text.Settled
import FlowTalk.Proofs.Text.Words
import FlowTalk.Proofs.Lookup.Keywords
import FlowTalk.Proofs.Utterance.Ordinal
