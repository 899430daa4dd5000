import VirtualNpu.Allocation.Environment
import VirtualNpu.Allocation.Grant
import VirtualNpu.Cluster.Annotation
import VirtualNpu.Cluster.Client
import VirtualNpu.Cluster.Keeping
import VirtualNpu.Cluster.Kubeconfig
import VirtualNpu.Cluster.Ledger
import VirtualNpu.Cluster.Object
import VirtualNpu.Cluster.Pod
import VirtualNpu.Cluster.Remote
import VirtualNpu.Cluster.Reply
import VirtualNpu.Cluster.Request
import VirtualNpu.CommandLine.Flag
import VirtualNpu.CommandLine.Invocation
import VirtualNpu.CommandLine.Settings
import VirtualNpu.Config.Document
import VirtualNpu.Config.Family
import VirtualNpu.Config.Validation
import VirtualNpu.Daemon.Outcome
import VirtualNpu.Daemon.Run
import VirtualNpu.Daemon.Service
import VirtualNpu.Daemon.Setup
import VirtualNpu.Inventory.Listing
import VirtualNpu.Inventory.Provider
import VirtualNpu.Inventory.Report
import VirtualNpu.Inventory.Scripted
import VirtualNpu.Inventory.Snapshot
import VirtualNpu.Json.Field
import VirtualNpu.Json.Grammar
import VirtualNpu.Json.Merge
import VirtualNpu.Json.Reader
import VirtualNpu.Json.Token
import VirtualNpu.Json.Value
import VirtualNpu.Json.Writer
import VirtualNpu.Kubelet.Allocate
import VirtualNpu.Kubelet.Device
import VirtualNpu.Kubelet.Watch
import VirtualNpu.Machine.Basic
import VirtualNpu.Machine.FileTree
import VirtualNpu.Machine.LogFile
import VirtualNpu.Main
import VirtualNpu.Node
import VirtualNpu.Node.Answers
import VirtualNpu.Node.Chronicle
import VirtualNpu.Node.Course
import VirtualNpu.Node.Likeness
import VirtualNpu.Node.Tally
import VirtualNpu.Node.Timetable
import VirtualNpu.Plugin.Course
import VirtualNpu.Plugin.CrashBudget
import VirtualNpu.Plugin.Diary
import VirtualNpu.Plugin.Host
import VirtualNpu.Plugin.Ledger
import VirtualNpu.Plugin.Likeness
import VirtualNpu.Plugin.Serving
import VirtualNpu.Plugin.ServingLoop
import VirtualNpu.Plugin.Trial
import VirtualNpu.Proofs.AllocationAnswers
import VirtualNpu.Proofs.AllocationCalls
import VirtualNpu.Proofs.AnnotationKeys
import VirtualNpu.Proofs.Blanks
import VirtualNpu.Proofs.CallFootprints
import VirtualNpu.Proofs.ConfigDocuments
import VirtualNpu.Proofs.ConfigRules
import VirtualNpu.Proofs.CrashBursts
import VirtualNpu.Proofs.CrashCounts
import VirtualNpu.Proofs.DaemonArguments
import VirtualNpu.Proofs.Decimals
import VirtualNpu.Proofs.FatalReports
import VirtualNpu.Proofs.FileListings
import VirtualNpu.Proofs.FileNames
import VirtualNpu.Proofs.GivenFlags
import VirtualNpu.Proofs.GrantGrammar
import VirtualNpu.Proofs.GrantRoundTrip
import VirtualNpu.Proofs.GregorianCalendar
import VirtualNpu.Proofs.HandshakeTimes
import VirtualNpu.Proofs.HealthConvergence
import VirtualNpu.Proofs.JsonNumbers
import VirtualNpu.Proofs.JsonNumerals
import VirtualNpu.Proofs.JsonRecords
import VirtualNpu.Proofs.JsonStrings
import VirtualNpu.Proofs.JsonTexts
import VirtualNpu.Proofs.JsonTokens
import VirtualNpu.Proofs.JsonWriting
import VirtualNpu.Proofs.KubeletRequests
import VirtualNpu.Proofs.KubeletSocket
import VirtualNpu.Proofs.MachineLikeness
import VirtualNpu.Proofs.NodeUpdates
import VirtualNpu.Proofs.ObjectPatches
import VirtualNpu.Proofs.OfferedDevices
import VirtualNpu.Proofs.PaddedNumerals
import VirtualNpu.Proofs.PendingSelection
import VirtualNpu.Proofs.PublishedIds
import VirtualNpu.Proofs.RegistrationGrammar
import VirtualNpu.Proofs.RegistrationView
import VirtualNpu.Proofs.ReportEffects
import VirtualNpu.Proofs.ReportOrder
import VirtualNpu.Proofs.ReportStages
import VirtualNpu.Proofs.ReportTimes
import VirtualNpu.Proofs.ReporterSurvival
import VirtualNpu.Proofs.RestartIndependence
import VirtualNpu.Proofs.ServedPods
import VirtualNpu.Proofs.ServingLoops
import VirtualNpu.Proofs.ServingPeriods
import VirtualNpu.Proofs.ServingSocket
import VirtualNpu.Proofs.ShownConfig
import VirtualNpu.Proofs.SignedNumerals
import VirtualNpu.Proofs.SlotCounts
import VirtualNpu.Proofs.SlowReaders
import VirtualNpu.Proofs.SnapshotListings
import VirtualNpu.Proofs.SocketPath
import VirtualNpu.Proofs.StartOrder
import VirtualNpu.Proofs.StartStages
import VirtualNpu.Proofs.StoppedWatches
import VirtualNpu.Proofs.SupervisedPlugin
import VirtualNpu.Proofs.SupervisorCalls
import VirtualNpu.Proofs.TaskTurns
import VirtualNpu.Proofs.TemplateOrder
import VirtualNpu.Proofs.UnsignedNumerals
import VirtualNpu.Proofs.VisibleDevices
import VirtualNpu.Proofs.WatchEndings
import VirtualNpu.Proofs.WatchNotifications
import VirtualNpu.Proofs.WatchSteps
import VirtualNpu.Proofs.WatchUpdates
import VirtualNpu.Proofs.WithdrawnDevices
import VirtualNpu.Proofs.YamlCollections
import VirtualNpu.Proofs.YamlLines
import VirtualNpu.Proofs.YamlLiteralScalars
import VirtualNpu.Proofs.YamlNodes
import VirtualNpu.Proofs.YamlPlainScalars
import VirtualNpu.Proofs.YamlQuotedScalars
import VirtualNpu.Proofs.YamlRecords
import VirtualNpu.Proofs.YamlScanning
import VirtualNpu.Proofs.YamlValues
import VirtualNpu.Registration.Entry
import VirtualNpu.Registration.Handshake
import VirtualNpu.Registration.Reporter
import VirtualNpu.Registration.Underway
import VirtualNpu.Supervisor.DirectoryWatch
import VirtualNpu.Supervisor.Lifecycle
import VirtualNpu.Supervisor.Run
import VirtualNpu.Text.Basic
import VirtualNpu.Text.Digits
import VirtualNpu.Text.Quoted
import VirtualNpu.Text.Uri
import VirtualNpu.Yaml.Content
import VirtualNpu.Yaml.Decode
import VirtualNpu.Yaml.Event
import VirtualNpu.Yaml.Lexeme.Block
import VirtualNpu.Yaml.Lexeme.Gap
import VirtualNpu.Yaml.Lexeme.Name
import VirtualNpu.Yaml.Lexeme.Plain
import VirtualNpu.Yaml.Lexeme.Quoted
import VirtualNpu.Yaml.Node
import VirtualNpu.Yaml.Scalar
import VirtualNpu.Yaml.Scanner
import VirtualNpu.Yaml.Spot
import VirtualNpu.Yaml.Token
import VirtualNpu.Yaml.Written
