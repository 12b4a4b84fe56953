import Unscramble.Main
import Unscramble.Pattern.Meaning
import Unscramble.Resolver
import Unscramble.Proofs.Move
import Unscramble.Proofs.Unscrambler.Run
import Unscramble.Proofs.Unscrambler.Positions
import Unscramble.Proofs.Lookup
import Unscramble.Proofs.HelperTable
import Unscramble.Proofs.Pattern.Runs
import Unscramble.Proofs.Plan
import Unscramble.Proofs.Unscrambler.Trail
import Unscramble.Proofs.Pattern.Search
import Unscramble.Proofs.Pattern.Literal
import Unscramble.Proofs.Text.Utf8
import Unscramble.Proofs.Recognizers
import Unscramble.Proofs.Pattern.Classes
import Unscramble.Proofs.PlayerScript
import Unscramble.Proofs.Text.Follows
import Unscramble.Proofs.PlayerScript.Found
import Unscramble.Proofs.Unscrambler.PlayerScript
import Unscramble.Proofs.Session
import Unscramble.Proofs.Media.Cipher
import Unscramble.Proofs.Media.Stream
import Unscramble.Proofs.Media.Response
import Unscramble.Proofs.Text.Form
import Unscramble.Proofs.Media.Fields
import Unscramble.Proofs.Plan.Written
import Unscramble.Proofs.Plan.Calls
import Unscramble.Proofs.Media.Address
import Unscramble.Proofs.HelperTable.Outcome
import Unscramble.Proofs.HelperTable.Layout
import Unscramble.Proofs.Unscrambler.Objects
import Unscramble.Proofs.Text.Balanced
import Unscramble.Proofs.Pattern.Answer
import Unscramble.Proofs.Recognizers.Table
import Unscramble.Proofs.Player.Retries
import Unscramble.Proofs.Resolver
import Unscramble.Proofs.Pattern.Captures
import Unscramble.Proofs.Recognizers.Entry
import Unscramble.Proofs.Recognizers.Plan
import Unscramble.Proofs.Unscrambler.Reasons
import Unscramble.Proofs.Json.Written
import Unscramble.Proofs.Plan.Verdict
import Unscramble.Proofs.Player.Kept
import Unscramble.Proofs.Json.Record
import Unscramble.Proofs.Media.Record
import Unscramble.Proofs.Command.Run
import Unscramble.Proofs.Lookup.Priority
import Unscramble.Proofs.Pattern.Pieces
import Unscramble.Proofs.Pattern.Occurrence
import Unscramble.Proofs.Shape.Fragments
import Unscramble.Proofs.Recognizers.Statements
import Unscramble.Proofs.Recognizers.Routine
import Unscramble.Proofs.Recognizers.Object
import Unscramble.Proofs.Lookup.Flattened
import Unscramble.Proofs.Unscrambler.Lengths
import Unscramble.Proofs.Recognizers.Identifier
import Unscramble.Proofs.HelperTable.Members
import Unscramble.Proofs.Move.Memory
import Unscramble.Proofs.Unscrambler.Backwards
import Unscramble.Proofs.Unscrambler.Compose
import Unscramble.Proofs.Unscrambler.Stages
import Unscramble.Proofs.Player.Unsent
import Unscramble.Proofs.Text.Shorter
import Unscramble.Proofs.Url.Query
import Unscramble.Proofs.Url.Parts
import Unscramble.Proofs.Video.Again
import Unscramble.Proofs.Url.Spelled
import Unscramble.Proofs.Video.Pages
import Unscramble.Proofs.Command.Input
import Unscramble.Proofs.Command.Trace
import Unscramble.Proofs.Player.Page
import Unscramble.Proofs.Player.Pauses
import Unscramble.Proofs.Pattern.Refines
import Unscramble.Proofs.Recognizers.Special
import Unscramble.Proofs.Command.Layout
import Unscramble.Proofs.Command.Sources
