import Census.Cache.Admission
import Census.Cache.Basic
import Census.Cache.Lookup
import Census.Cache.Sketch
import Census.Dashboard.Page
import Census.Dashboard.Script
import Census.Dashboard.Serve
import Census.Dashboard.Template
import Census.Dashboard.View
import Census.Failure.Basic
import Census.Failure.Fault
import Census.Failure.Kind
import Census.Failure.Search
import Census.Filters.Basic
import Census.Filters.Key
import Census.Filters.Predicate
import Census.Filters.Window
import Census.Hash.Blake2b
import Census.Hash.Sha256
import Census.Identity
import Census.Inquiry.Basic
import Census.Inquiry.Cached
import Census.Inquiry.Serving
import Census.Intake
import Census.Json.Basic
import Census.Json.Check
import Census.Json.Reader
import Census.Json.Writer
import Census.Location
import Census.Network.Address
import Census.Network.Hardware
import Census.Network.Header
import Census.Network.Locator
import Census.Network.Name.Basic
import Census.Network.Name.Direction
import Census.Network.Name.Letter
import Census.Network.Name.Mark
import Census.Network.Name.Place
import Census.Network.Name.Punycode
import Census.Network.Percent
import Census.Network.WebAddress
import Census.Number.Basic
import Census.Number.Numeral
import Census.Number.Shortest
import Census.Page
import Census.Proofs.Cache.Accounts
import Census.Proofs.Cache.Balance
import Census.Proofs.Cache.Budget
import Census.Proofs.Cache.Capacity
import Census.Proofs.Cache.Clearing
import Census.Proofs.Cache.Costs
import Census.Proofs.Cache.Demand
import Census.Proofs.Cache.Eviction
import Census.Proofs.Cache.Frequency
import Census.Proofs.Cache.LastWrite
import Census.Proofs.Cache.Operation
import Census.Proofs.Cache.Recast
import Census.Proofs.Cache.Renewal
import Census.Proofs.Cache.Representation
import Census.Proofs.Cache.Sound
import Census.Proofs.Dashboard.Contained
import Census.Proofs.Dashboard.Failing
import Census.Proofs.Dashboard.Markup
import Census.Proofs.Dashboard.Outside
import Census.Proofs.Dashboard.Provenance
import Census.Proofs.Dashboard.Session
import Census.Proofs.Filters.Key
import Census.Proofs.Filters.Window
import Census.Proofs.Json.Script
import Census.Proofs.Json.Text
import Census.Proofs.Network.Address
import Census.Proofs.Number.Double
import Census.Proofs.RateLimit.Store
import Census.Proofs.RateLimit.Window
import Census.Proofs.Record.Understood
import Census.Proofs.Store.Outside
import Census.Proofs.Store.Readback
import Census.Proofs.Store.Reading
import Census.Proofs.Store.Saving
import Census.Proofs.Text.Utf8
import Census.Proofs.Time.Calendar
import Census.Proofs.Time.Written
import Census.Proofs.Web.Gate
import Census.Proofs.Web.Privacy
import Census.Proofs.Web.Reading
import Census.Proofs.Web.Report
import Census.Random
import Census.RateLimit
import Census.Record.Basic
import Census.Record.Row
import Census.Record.Submission
import Census.Reporter
import Census.Settings.Basic
import Census.Settings.Dotenv
import Census.Settings.Reading
import Census.Settings.RedisUrl
import Census.Store.Basic
import Census.Store.Statement
import Census.Store.Trace
import Census.Summary
import Census.Table
import Census.Text.Blank
import Census.Text.Case
import Census.Text.Digit
import Census.Text.Lower
import Census.Text.Printable
import Census.Text.Quoted
import Census.Text.Utf8
import Census.Text.Within
import Census.Time.Calendar
import Census.Time.Moment
import Census.Time.Reader
import Census.Time.Rounding
import Census.Time.Written
import Census.Web.Files
import Census.Web.Gate
import Census.Web.Query
import Census.Web.Range
import Census.Web.Report
import Census.Web.Request
import Census.Web.Response
import Census.Web.Route
import Census.Web.Server
import Census.Web.Tally
import Census.Web.Target
import Census.Proofs.Reporter.Endpoints
import Census.Proofs.Reporter.Rounds
import Census.Proofs.Dashboard.Lookups
import Census.Proofs.Filters.OneBound
import Census.Proofs.Filters.NoBound
import Census.Proofs.Store.Binding
import Census.Proofs.Summary.Aggregation
import Census.Proofs.Cache.Requests
import Census.Proofs.Web.Counting
import Census.Proofs.Web.Schema
import Census.Proofs.Network.Spelling
import Census.Proofs.Location.Lookup
import Census.Proofs.Failure.Search
import Census.Proofs.Reporter.Identity
