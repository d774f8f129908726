import PeerPost.App
import PeerPost.Author
import PeerPost.Calendar
import PeerPost.Config.EnvFile
import PeerPost.Config.Load
import PeerPost.Config.Settings
import PeerPost.Config.SocketAddress
import PeerPost.Config.Value
import PeerPost.Config.Variables
import PeerPost.Contact
import PeerPost.Contact.AddressBook
import PeerPost.Demo
import PeerPost.Entries
import PeerPost.Error
import PeerPost.Event.Channel
import PeerPost.Event.Client
import PeerPost.Event.Hub
import PeerPost.Event.Rota
import PeerPost.Event.Settling
import PeerPost.Event.Stream
import PeerPost.Handler.Dialogue
import PeerPost.Handler.Listing
import PeerPost.Handler.Script
import PeerPost.Handler.Turns
import PeerPost.Handler.Writing
import PeerPost.Hash.Sha256
import PeerPost.Http.Context
import PeerPost.Http.Controller
import PeerPost.Http.Cors
import PeerPost.Http.Failure
import PeerPost.Http.Request
import PeerPost.Http.Response
import PeerPost.Http.Router
import PeerPost.Http.Target
import PeerPost.Identifier
import PeerPost.Json.Integer
import PeerPost.Json.Reader
import PeerPost.Json.Record
import PeerPost.Json.Scanner
import PeerPost.Json.Value
import PeerPost.Message
import PeerPost.Message.Archive
import PeerPost.Message.Draft
import PeerPost.Node
import PeerPost.Number.Binary64
import PeerPost.Number.Shortest
import PeerPost.Proofs.Addresses
import PeerPost.Proofs.Admissions
import PeerPost.Proofs.Agreement
import PeerPost.Proofs.Archive
import PeerPost.Proofs.Authors
import PeerPost.Proofs.Calendar
import PeerPost.Proofs.Collaborators
import PeerPost.Proofs.Commands
import PeerPost.Proofs.Commuting
import PeerPost.Proofs.Contacts
import PeerPost.Proofs.Conversations
import PeerPost.Proofs.Crowd
import PeerPost.Proofs.CrowdOrder
import PeerPost.Proofs.Dialogues
import PeerPost.Proofs.Drafts
import PeerPost.Proofs.Grammar
import PeerPost.Proofs.Hashing
import PeerPost.Proofs.Histories
import PeerPost.Proofs.Identities
import PeerPost.Proofs.Insertions
import PeerPost.Proofs.Legibility
import PeerPost.Proofs.Listings
import PeerPost.Proofs.Moments
import PeerPost.Proofs.Numerals
import PeerPost.Proofs.Operations
import PeerPost.Proofs.Origins
import PeerPost.Proofs.Receptions
import PeerPost.Proofs.Records
import PeerPost.Proofs.Requests
import PeerPost.Proofs.Retrievals
import PeerPost.Proofs.Scanning
import PeerPost.Proofs.Seeding
import PeerPost.Proofs.Skipping
import PeerPost.Proofs.Snapshots
import PeerPost.Proofs.Startup
import PeerPost.Proofs.Strangers
import PeerPost.Proofs.Strings
import PeerPost.Proofs.Targets
import PeerPost.Proofs.Times
import PeerPost.Text.Alphanumeric
import PeerPost.Text.Base64
import PeerPost.Text.Blank
import PeerPost.Text.CaseIgnorable
import PeerPost.Text.Cased
import PeerPost.Text.Decimal
import PeerPost.Text.Extender
import PeerPost.Text.Hexadecimal
import PeerPost.Text.Lowercase
import PeerPost.Text.Printable
import PeerPost.Text.Quoted
import PeerPost.Text.Ranges
import PeerPost.Text.Utf8
import PeerPost.Timestamp
import PeerPost.Wire
