import PluginDescriptor.Main
import PluginDescriptor.Proofs.FileTree.Locations
import PluginDescriptor.Proofs.FileTree.Changes
import PluginDescriptor.Proofs.Descriptors
import PluginDescriptor.Proofs.Plan
import PluginDescriptor.Proofs.Executed
import PluginDescriptor.Proofs.LastWriter
import PluginDescriptor.Proofs.LeftBehind
import PluginDescriptor.Proofs.Confinement
import PluginDescriptor.Proofs.ExitStatus
import PluginDescriptor.Proofs.Course
import PluginDescriptor.Proofs.Siblings
import PluginDescriptor.Proofs.FileTree.Shape
import PluginDescriptor.Proofs.Timestamp
import PluginDescriptor.Proofs.AllOrNothing
import PluginDescriptor.Proofs.StagedPass
import PluginDescriptor.Proofs.Completion
import PluginDescriptor.Proofs.Rerun
import PluginDescriptor.Proofs.Order
import PluginDescriptor.Proofs.Manifest.Records
import PluginDescriptor.Proofs.Manifest.Schema
import PluginDescriptor.Proofs.Toml.Keys
import PluginDescriptor.Proofs.Toml.Entries
import PluginDescriptor.Proofs.Toml.Values
import PluginDescriptor.Proofs.Toml.Lines
import PluginDescriptor.Proofs.Manifest.Written
import PluginDescriptor.Proofs.Toml.Writer
import PluginDescriptor.Proofs.Manifest.RoundTrip
import PluginDescriptor.Proofs.Charset.Decoding
import PluginDescriptor.Proofs.DescriptorPaths
import PluginDescriptor.Proofs.PluginId.Grammar
import PluginDescriptor.Proofs.Text.Trim
import PluginDescriptor.Proofs.Values
import PluginDescriptor.Proofs.UnknownCharset
import PluginDescriptor.Proofs.DescriptorLines
import PluginDescriptor.Proofs.Warnings
import PluginDescriptor.Proofs.Overwritten
import PluginDescriptor.Proofs.Trace
import PluginDescriptor.Proofs.Tally
import PluginDescriptor.Proofs.Charset.Names
import PluginDescriptor.Proofs.Arguments
import PluginDescriptor.Proofs.Calendar
import PluginDescriptor.Proofs.LocalTime
import PluginDescriptor.Proofs.DateTime
import PluginDescriptor.Proofs.TimeLine
