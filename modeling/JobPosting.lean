import JobPosting.Address
import JobPosting.Agency
import JobPosting.Cache
import JobPosting.CommandLine.Arguments
import JobPosting.CommandLine.Output
import JobPosting.CommandLine.Paint
import JobPosting.Config
import JobPosting.Counters
import JobPosting.Deduction
import JobPosting.Domain.Name
import JobPosting.Domain.Punycode
import JobPosting.Extraction
import JobPosting.Fingerprint
import JobPosting.HostName
import JobPosting.Http.App
import JobPosting.Http.Client
import JobPosting.Http.MediaType
import JobPosting.Http.Message
import JobPosting.Http.RequestData
import JobPosting.JobForm
import JobPosting.Json
import JobPosting.Json.Describe
import JobPosting.Json.Shape
import JobPosting.Json.Token
import JobPosting.LogFilter
import JobPosting.Main
import JobPosting.Memo
import JobPosting.Posting.Pasted
import JobPosting.Posting.Url
import JobPosting.Provider.Known
import JobPosting.Provider.Layout
import JobPosting.Provider.Matcher
import JobPosting.Provider.Pattern
import JobPosting.Provider.Registry
import JobPosting.Record
import JobPosting.Referral
import JobPosting.Resolution
import JobPosting.Service
import JobPosting.Startup
import JobPosting.Text
import JobPosting.Text.Blank
import JobPosting.Text.Bytes
import JobPosting.Text.FormEncoded
import JobPosting.Text.Lowercase
import JobPosting.Text.Numeral
import JobPosting.Text.Percent
import JobPosting.Text.Shown
import JobPosting.Unicode.Alphanumeric
import JobPosting.Unicode.Casing
import JobPosting.Unicode.Composition
import JobPosting.Unicode.Direction
import JobPosting.Unicode.DomainMapping
import JobPosting.Unicode.Joining
import JobPosting.Unicode.Mark
import JobPosting.Unicode.Normal
import JobPosting.Unicode.Printable
import JobPosting.Unicode.Table
import JobPosting.Url.Basic
import JobPosting.Url.Host
import JobPosting.Url.Path
import JobPosting.Url.Read
import JobPosting.Vocabulary
import JobPosting.Service.Traffic
import JobPosting.Proofs.Inversion
import JobPosting.Proofs.Caching
import JobPosting.Proofs.Memoization
import JobPosting.Proofs.Recognition
import JobPosting.Proofs.Filled
import JobPosting.Proofs.Kinds
import JobPosting.Proofs.Query
import JobPosting.Proofs.Recency
import JobPosting.Service.Operations
import JobPosting.Proofs.Counting
import JobPosting.Proofs.Requests
import JobPosting.Proofs.UrlLimits
import JobPosting.Proofs.JobWords
import JobPosting.Proofs.Precedence
import JobPosting.Proofs.Prefill
import JobPosting.Proofs.Fragments
import JobPosting.Proofs.JsonText
import JobPosting.Proofs.CommandLines
import JobPosting.Proofs.FrontEnds
import JobPosting.Proofs.QueryPieces
import JobPosting.Proofs.Cleaning
import JobPosting.Proofs.Identifiers
import JobPosting.Proofs.CompanyPaths
import JobPosting.Proofs.Visible
import JobPosting.Proofs.PrefillAgain
import JobPosting.Proofs.CleanUp
import JobPosting.Proofs.Accesses
import JobPosting.Proofs.Batches
import JobPosting.Proofs.Encoding
import JobPosting.Proofs.QueryOrder
import JobPosting.Proofs.UrlParts
import JobPosting.Proofs.WwwLabels
import JobPosting.Proofs.SmallLetters
import JobPosting.Proofs.CharacterTables
import JobPosting.Proofs.DomainLetters
import JobPosting.Proofs.SourceNames
import JobPosting.Proofs.Resolved
import JobPosting.Proofs.HostTenants
import JobPosting.Proofs.Fingerprints
import JobPosting.Proofs.HostLabels
import JobPosting.Proofs.Answers
import JobPosting.Proofs.Settings
import JobPosting.Proofs.LabelBoundaries
import JobPosting.Proofs.Shapes
import JobPosting.Proofs.Forms
