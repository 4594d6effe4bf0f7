import StarMatch.Main
import StarMatch.Matcher.Session
import StarMatch.Pattern.Language
import StarMatch.Search.OneOff
import StarMatch.Search.Room
import StarMatch.Suite.Plan
import StarMatch.Proofs.Pattern.Cut
import StarMatch.Proofs.Pattern.Parts
import StarMatch.Proofs.Pattern.Blocks
import StarMatch.Proofs.Pattern.Samples
import StarMatch.Proofs.Search.Memo
import StarMatch.Proofs.Search.Verdict
import StarMatch.Proofs.Search.Evaluation
import StarMatch.Proofs.Search.Waiting
import StarMatch.Proofs.Search.Filling
import StarMatch.Proofs.Search.Room
import StarMatch.Proofs.Search.Decision
import StarMatch.Proofs.Search.Scratch
import StarMatch.Proofs.Search.Refusal
import StarMatch.Proofs.Search.Cells
import StarMatch.Proofs.Search.Demand
import StarMatch.Proofs.Search.Chain
import StarMatch.Proofs.Search.Checks
import StarMatch.Proofs.Search.CheckedBacktrack
import StarMatch.Proofs.Search.Looks
import StarMatch.Proofs.Search.CheckedTable
import StarMatch.Proofs.Search.Safety
import StarMatch.Proofs.Search.Layers
import StarMatch.Proofs.Matcher.Prefilter
import StarMatch.Proofs.Matcher.Strategy
import StarMatch.Proofs.Matcher.Lengths
import StarMatch.Proofs.Matcher.Language
import StarMatch.Proofs.Matcher.Settings
import StarMatch.Proofs.Matcher.Scratch
import StarMatch.Proofs.Matcher.Session
import StarMatch.Proofs.Matcher.Layers
import StarMatch.Proofs.Text.Utf8
import StarMatch.Proofs.Text.Chunks
import StarMatch.Proofs.Text.Escape
import StarMatch.Proofs.Text.Blank
import StarMatch.Proofs.Text.Units
import StarMatch.Proofs.Text.Pads
import StarMatch.Proofs.Pattern.Tokens
import StarMatch.Proofs.Pattern.Spelling
import StarMatch.Proofs.Pattern.Readings
import StarMatch.Proofs.Pattern.Encoding
import StarMatch.Proofs.Matcher.OneOff
import StarMatch.Proofs.Matcher.Text
import StarMatch.Proofs.Suite.Drafts
import StarMatch.Proofs.Suite.Loads
import StarMatch.Proofs.Suite.FailedLoad
import StarMatch.Proofs.Suite.Kept
import StarMatch.Proofs.Suite.Records
import StarMatch.Proofs.Suite.Accounting
import StarMatch.Proofs.Suite.Numbers
import StarMatch.Proofs.Suite.Blame
import StarMatch.Proofs.Suite.Selection
import StarMatch.Proofs.Suite.Faithful
import StarMatch.Proofs.CommandLine.Arguments
import StarMatch.Proofs.CommandLine.Phrases
import StarMatch.Proofs.CommandLine.Reordering
import StarMatch.Proofs.CommandLine.Answers
import StarMatch.Proofs.CommandLine.Quiet
