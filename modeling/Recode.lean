import Recode.Cancellation
import Recode.Container.Demuxer
import Recode.Container.Library
import Recode.Container.Metadata
import Recode.Container.Muxer
import Recode.Container.Path
import Recode.Container.Source
import Recode.Data.Record
import Recode.Data.Value
import Recode.Device.Codec
import Recode.Device.Platform
import Recode.Device.Resolver
import Recode.Device.Vendor
import Recode.Disk
import Recode.Error
import Recode.Job.Compression
import Recode.Job.Config
import Recode.Job.Options
import Recode.Job.Parameters
import Recode.Job.Probe
import Recode.Job.Stored
import Recode.Job.Worker
import Recode.Media.Color
import Recode.Media.Format
import Recode.Media.Rotation
import Recode.Media.Sample
import Recode.Picture.Draw
import Recode.Picture.DrawInPlace
import Recode.Picture.Image
import Recode.Picture.InPlace
import Recode.Picture.Transform
import Recode.Picture.Yuv
import Recode.Progress.Event
import Recode.Progress.Reporter
import Recode.Session.Copy
import Recode.Session.Machine
import Recode.Session.ParameterSets
import Recode.Session.Settings
import Recode.Session.Transcode
import Recode.Session.Window
import Recode.Session.World
import Recode.Simulation.Bench
import Recode.Simulation.Catalog
import Recode.Simulation.Client
import Recode.Simulation.Decoder
import Recode.Simulation.Encoder
import Recode.Simulation.Log
import Recode.Simulation.Movie
import Recode.Simulation.Rack
import Recode.Simulation.Rig
import Recode.Simulation.Scripted
import Recode.Simulation.Slots
import Recode.Simulation.Storage
import Recode.Simulation.Trial
import Recode.Text.Blank
import Recode.Text.CaseTable
import Recode.Text.Lowercase
import Recode.Toml.Document
import Recode.Toml.Number
import Recode.Toml.Scan
import Recode.Toml.Table
import Recode.Toml.Text
import Recode.Version
import Recode.Proofs.Agreement
import Recode.Proofs.AlignedLayouts
import Recode.Proofs.Announcements
import Recode.Proofs.Cancelling
import Recode.Proofs.Conduct
import Recode.Proofs.Containers
import Recode.Proofs.Copying
import Recode.Proofs.CopyingCompression
import Recode.Proofs.Course
import Recode.Proofs.CourseDecoded
import Recode.Proofs.CourseEncoded
import Recode.Proofs.CourseRun
import Recode.Proofs.CourseSteps
import Recode.Proofs.Custody
import Recode.Proofs.DemuxerViews
import Recode.Proofs.Disturbances
import Recode.Proofs.EncodedStream
import Recode.Proofs.EncoderChoice
import Recode.Proofs.EndOfStream
import Recode.Proofs.EndingTranscode
import Recode.Proofs.Finalizing
import Recode.Proofs.FrameAccount
import Recode.Proofs.FramePlaces
import Recode.Proofs.FreshCodecs
import Recode.Proofs.Histories
import Recode.Proofs.IdleCodecs
import Recode.Proofs.IdlePolls
import Recode.Proofs.InPlaceConversion
import Recode.Proofs.InTransit
import Recode.Proofs.InterruptedCompression
import Recode.Proofs.InterruptedRig
import Recode.Proofs.Interruption
import Recode.Proofs.JobConduct
import Recode.Proofs.KeptFrames
import Recode.Proofs.Lasting
import Recode.Proofs.LatePictures
import Recode.Proofs.LeakingCompression
import Recode.Proofs.LeakingCopy
import Recode.Proofs.LeakingFeed
import Recode.Proofs.LeakingRig
import Recode.Proofs.LeakingTranscode
import Recode.Proofs.Ledgers
import Recode.Proofs.LivelyDecoding
import Recode.Proofs.LivelyRun
import Recode.Proofs.LivelySession
import Recode.Proofs.MergedSources
import Recode.Proofs.MirroredSessions
import Recode.Proofs.Mirroring
import Recode.Proofs.MovieGrowth
import Recode.Proofs.MovieLog
import Recode.Proofs.MovieUnderWay
import Recode.Proofs.Opening
import Recode.Proofs.Orientation
import Recode.Proofs.Painting
import Recode.Proofs.ParameterSetSplits
import Recode.Proofs.PictureTurns
import Recode.Proofs.PollOrder
import Recode.Proofs.Probing
import Recode.Proofs.PromptCancelling
import Recode.Proofs.RawExecution
import Recode.Proofs.RawFrames
import Recode.Proofs.RawSubmission
import Recode.Proofs.Reel
import Recode.Proofs.ReportedEvents
import Recode.Proofs.ReportedProgress
import Recode.Proofs.ReportedTracks
import Recode.Proofs.RunningCodecs
import Recode.Proofs.Runs
import Recode.Proofs.SampleCounts
import Recode.Proofs.Seeking
import Recode.Proofs.Selecting
import Recode.Proofs.SessionConduct
import Recode.Proofs.SessionSteps
import Recode.Proofs.SimulatedCompression
import Recode.Proofs.SimulatedTranscode
import Recode.Proofs.Stage
import Recode.Proofs.StandardSizes
import Recode.Proofs.SuitedSlots
import Recode.Proofs.SyncSeeking
import Recode.Proofs.Trimming
import Recode.Proofs.TurnedPictures
import Recode.Proofs.TwinDemuxers
import Recode.Proofs.WholeCopies
import Recode.Proofs.WindowedCompression
import Recode.Proofs.WindowedCopy
import Recode.Proofs.WorkingRig
