import Camcorder.AnnexB
import Camcorder.Blank
import Camcorder.Bytes
import Camcorder.Capture.Counters
import Camcorder.Capture.Recorder
import Camcorder.Capture.Settings
import Camcorder.Capture.Throughput
import Camcorder.Capture.TrackWriter
import Camcorder.CommandLine.Arguments
import Camcorder.CommandLine.Dump
import Camcorder.CommandLine.Failure
import Camcorder.CommandLine.Program
import Camcorder.CommandLine.Report
import Camcorder.Decimal.Numeral
import Camcorder.Decimal.Shortest
import Camcorder.Decimal.Text
import Camcorder.Encoding.Avc
import Camcorder.Encoding.Coder
import Camcorder.Encoding.Compressor
import Camcorder.Encoding.Format
import Camcorder.Encoding.Loopback
import Camcorder.Encoding.Sample
import Camcorder.Encoding.Scripted
import Camcorder.Encoding.Session
import Camcorder.Error
import Camcorder.FileTree
import Camcorder.Frame.Format
import Camcorder.Frame.Geometry
import Camcorder.Frame.Pattern
import Camcorder.Invisible
import Camcorder.Jpeg.Block
import Camcorder.Jpeg.Code
import Camcorder.Jpeg.Flat
import Camcorder.Jpeg.Header
import Camcorder.Jpeg.Image
import Camcorder.Json.Decode
import Camcorder.Json.Reader
import Camcorder.Json.Records
import Camcorder.Json.Value
import Camcorder.Main
import Camcorder.Mp4.Container
import Camcorder.Mp4.Document
import Camcorder.Mp4.Outline
import Camcorder.Mp4.Track
import Camcorder.Notice
import Camcorder.Picture.Colour
import Camcorder.Picture.Converter
import Camcorder.Picture.Layout
import Camcorder.Picture.Planes
import Camcorder.Product
import Camcorder.Proofs.Capture.Accounting
import Camcorder.Proofs.Capture.Frames
import Camcorder.Proofs.Capture.Handover
import Camcorder.Proofs.Capture.Writing
import Camcorder.Proofs.Encoding.AvcOrder
import Camcorder.Proofs.Encoding.AvcRuns
import Camcorder.Proofs.Encoding.Backlog
import Camcorder.Proofs.Encoding.Delivery
import Camcorder.Proofs.Encoding.Ledger
import Camcorder.Proofs.Encoding.LoopbackOrder
import Camcorder.Proofs.Encoding.LoopbackPace
import Camcorder.Proofs.Encoding.LoopbackRuns
import Camcorder.Proofs.Encoding.Requests
import Camcorder.Proofs.Encoding.Shelf
import Camcorder.Proofs.Picture.Filling
import Camcorder.Settings.Document
import Camcorder.Settings.Preferences
import Camcorder.Surroundings
import Camcorder.Timestamp
import Camcorder.Toml.Quoted
import Camcorder.Toml.Reader
import Camcorder.Toml.Scalar
import Camcorder.Toml.Value
import Camcorder.Word
import Camcorder.Proofs.Picture.Contents
import Camcorder.Proofs.Picture.Arena
import Camcorder.Proofs.Picture.Layouts
import Camcorder.Proofs.Capture.Calls
import Camcorder.Proofs.Capture.Life
import Camcorder.Proofs.Capture.Dropping
import Camcorder.Proofs.Capture.Lifecycle
import Camcorder.Proofs.Files
import Camcorder.Proofs.Capture.FailedStart
import Camcorder.Proofs.Capture.OutputFile
import Camcorder.Proofs.Capture.Ticks
import Camcorder.Proofs.Picture.Recognition
import Camcorder.Proofs.Encoding.Readiness
import Camcorder.Proofs.Capture.Fitting
import Camcorder.Proofs.Encoding.OutputRoom
import Camcorder.Proofs.Capture.SoundPreferences
import Camcorder.Proofs.Encoding.Metering
import Camcorder.Proofs.Encoding.SessionLife
import Camcorder.Proofs.Toml.Quoting
import Camcorder.Proofs.Toml.Words
import Camcorder.Proofs.Toml.Documents
import Camcorder.Proofs.Settings.RoundTrip
import Camcorder.Proofs.Picture.Conversions
import Camcorder.Proofs.Picture.Colours
import Camcorder.Proofs.Encoding.ParameterSets
import Camcorder.Proofs.Encoding.Pushing
import Camcorder.Proofs.Encoding.SlotPools
import Camcorder.Proofs.Encoding.StartCodes
import Camcorder.Proofs.Encoding.Likeness
import Camcorder.Proofs.Encoding.Polling
import Camcorder.Proofs.Capture.Reported
import Camcorder.Proofs.Double.Rounding
import Camcorder.Proofs.Double.Model
import Camcorder.Proofs.Double.Arithmetic
import Camcorder.Proofs.Double.Gap
import Camcorder.Proofs.Picture.Interleaving
import Camcorder.Proofs.Capture.Stamps
import Camcorder.Proofs.Encoding.ExactSizes
import Camcorder.Proofs.Capture.KeptFrames
import Camcorder.Proofs.Capture.Windows
import Camcorder.Proofs.Picture.TestPatterns
import Camcorder.Proofs.CommandLine.Grouping
import Camcorder.Proofs.Encoding.AvcPace
import Camcorder.Proofs.Capture.Unfailing
import Camcorder.Proofs.CommandLine.Pieces
import Camcorder.Proofs.CommandLine.Playing
import Camcorder.Proofs.CommandLine.ReadBack
import Camcorder.Proofs.Encoding.Arrivals
