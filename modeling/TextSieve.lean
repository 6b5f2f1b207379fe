import TextSieve.Main
import TextSieve.Text.Quoted
import TextSieve.Unicode.Properties
import TextSieve.Proofs.Pattern.Meaning
import TextSieve.Proofs.Pattern.Repetition
import TextSieve.Proofs.Pattern.Walk
import TextSieve.Proofs.Pattern.Search
import TextSieve.Proofs.Pattern.Leftmost
import TextSieve.Proofs.Pattern.Reading
import TextSieve.Proofs.Cache.Faithful
import TextSieve.Proofs.Session.Calls
import TextSieve.Proofs.Session.Shared
import TextSieve.Proofs.Term.Anchoring
import TextSieve.Proofs.Query.Escaping
import TextSieve.Proofs.Query.Ahead
import TextSieve.Proofs.Query.Redisplay
import TextSieve.Proofs.Query.Normal
import TextSieve.Proofs.Query.Writing
import TextSieve.Proofs.Session.History
import TextSieve.Proofs.Term.Tokens
import TextSieve.Proofs.Pattern.Lookahead
import TextSieve.Proofs.Pattern.Enclosed
import TextSieve.Proofs.Term.PatternBody
import TextSieve.Proofs.Term.Markers
import TextSieve.Proofs.Term.Wildcards
import TextSieve.Proofs.Text.Places
import TextSieve.Proofs.Pattern.Captures
import TextSieve.Proofs.Field.Values
import TextSieve.Proofs.Query.Fragments
import TextSieve.Proofs.Pattern.Outline
import TextSieve.Proofs.Pattern.Joined
import TextSieve.Proofs.Term.Delimiters
import TextSieve.Proofs.Term.Compiling
import TextSieve.Proofs.Query.Laws
import TextSieve.Proofs.Query.Agreement
import TextSieve.Proofs.Field.Tags
import TextSieve.Proofs.Field.Attributes
import TextSieve.Proofs.Json.Compact
import TextSieve.Proofs.Json.Overrides
import TextSieve.Proofs.Term.Grammar
import TextSieve.Proofs.Json.Reloading
import TextSieve.Proofs.Query.Gaps
import TextSieve.Proofs.Query.Rests
import TextSieve.Proofs.Query.Composing
import TextSieve.Proofs.Query.Completing
import TextSieve.Proofs.Cache.Accounts
import TextSieve.Proofs.Session.Temporary
import TextSieve.Proofs.Field.Soundness
import TextSieve.Proofs.Pattern.Preceded
import TextSieve.Proofs.Pattern.Steady
import TextSieve.Proofs.Term.Cores
import TextSieve.Proofs.Query.CaseModes
import TextSieve.Proofs.Term.EmptyTokens
import TextSieve.Proofs.Query.Order
import TextSieve.Proofs.Pattern.Lockstep
import TextSieve.Proofs.Unicode.Folding
import TextSieve.Proofs.Field.CaseVariants
import TextSieve.Proofs.Query.CaseVariants
import TextSieve.Proofs.Cache.Asking
import TextSieve.Proofs.Session.Leaves
import TextSieve.Proofs.Session.Filtering
import TextSieve.Proofs.Pattern.Moves
import TextSieve.Proofs.Pattern.Guarded
import TextSieve.Proofs.Term.Searching
import TextSieve.Proofs.CommandLine.Moving
