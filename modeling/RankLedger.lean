import RankLedger.Api.Body
import RankLedger.Api.Document
import RankLedger.Api.Endpoint
import RankLedger.Api.Question
import RankLedger.Api.Reply
import RankLedger.Binary64
import RankLedger.Binary64.Shortest
import RankLedger.Calendar.Almanac
import RankLedger.Calendar.DigestCache
import RankLedger.Calendar.Entry
import RankLedger.Digest.Sha256
import RankLedger.Event.Kind
import RankLedger.Event.Phase
import RankLedger.Event.RemainingLabel
import RankLedger.Event.Snapshot
import RankLedger.Failure
import RankLedger.FeedClient
import RankLedger.FirstOffer
import RankLedger.Fleet
import RankLedger.Http.Address
import RankLedger.Http.Message
import RankLedger.Http.Status
import RankLedger.Http.Target
import RankLedger.Json.Number
import RankLedger.Json.Read
import RankLedger.Json.Render
import RankLedger.Json.Text
import RankLedger.Json.Token
import RankLedger.Json.Tree
import RankLedger.Json.Value
import RankLedger.Keyed
import RankLedger.Launch
import RankLedger.Main
import RankLedger.Net.SocketAddress
import RankLedger.Ranking.Board
import RankLedger.Ranking.Payload
import RankLedger.Region
import RankLedger.ResponseCache
import RankLedger.Settings
import RankLedger.Settings.File
import RankLedger.Store.Basic
import RankLedger.Store.Database
import RankLedger.Store.FileName
import RankLedger.Store.Location
import RankLedger.Store.ReadPlan
import RankLedger.Store.Rows
import RankLedger.Store.Schema
import RankLedger.Text.Alphanumeric
import RankLedger.Text.Basic
import RankLedger.Text.Bytes
import RankLedger.Text.Hidden
import RankLedger.Text.Numeral
import RankLedger.Text.Utf8
import RankLedger.Time
import RankLedger.Tracking.Border
import RankLedger.Tracking.Daemon
import RankLedger.Tracking.Tracker
import RankLedger.Word
import RankLedger.Proofs.Store.TableName
import RankLedger.Proofs.Store.Tables
import RankLedger.Proofs.Tracking.Course
import RankLedger.Proofs.Tracking.Lifecycle
import RankLedger.Proofs.Answers.History
import RankLedger.Proofs.Answers.Interleaving
import RankLedger.Proofs.Tracking.Retry
import RankLedger.Proofs.Store.Writing
import RankLedger.Proofs.Calendar.Chapters
import RankLedger.Proofs.Calendar.Fixed
import RankLedger.Proofs.Tracking.Provision
import RankLedger.Proofs.Tracking.Written
import RankLedger.Proofs.Tracking.Chapters
import RankLedger.Proofs.Tracking.LastRows
import RankLedger.Proofs.Tracking.Border
import RankLedger.Proofs.Tracking.Plan
import RankLedger.Proofs.Tracking.Suppression
import RankLedger.Proofs.Store.Contents
import RankLedger.Proofs.Store.Calls
import RankLedger.Proofs.Store.Holders
import RankLedger.Proofs.Tracking.Recording
import RankLedger.Proofs.Fleet.Shift
import RankLedger.Proofs.Fleet.Isolation
import RankLedger.Proofs.Store.Apart
import RankLedger.Proofs.Store.Transaction
import RankLedger.Proofs.Tracking.BorderCalls
import RankLedger.Proofs.Store.Projection
import RankLedger.Proofs.Calendar.Windows
import RankLedger.Proofs.Calendar.Cache
import RankLedger.Proofs.Calendar.Live
import RankLedger.Proofs.Answers.CacheCalls
import RankLedger.Proofs.Calendar.Remaining
import RankLedger.Proofs.Store.Reads
import RankLedger.Proofs.Store.Growth
import RankLedger.Proofs.Store.GrowthSeconds
import RankLedger.Proofs.Ranking.Shown
import RankLedger.Proofs.Tracking.ChapterRows
import RankLedger.Proofs.Settings.Regions
import RankLedger.Proofs.Fleet.Launching
import RankLedger.Proofs.Event.RemainingLabel
