import Hotplug.Run
import Hotplug.Word
import Hotplug.Binary64.Text
import Hotplug.Text.Blank
import Hotplug.Text.Hex
import Hotplug.Text.Letter
import Hotplug.Device.View
import Hotplug.Descriptor
import Hotplug.DeviceEvent
import Hotplug.Predicate.Error
import Hotplug.Predicate.Selection
import Hotplug.Predicate.Grammar
import Hotplug.Predicate.Canonical
import Hotplug.Json.Reader
import Hotplug.Json.Writer
import Hotplug.Value.Untagged
import Hotplug.Config.Document
import Hotplug.Service.Rehearsed
import Hotplug.Cache.Fetch
import Hotplug.Cache.RemovableMedia
import Hotplug.Cache.Signals
import Hotplug.Backend.Table
import Hotplug.Backend.Service
import Hotplug.Hub.Lifetime
import Hotplug.Hub.Delivery
import Hotplug.FileTree
import Hotplug.LogMode
import Hotplug.Proofs.Cache.Snapshot
import Hotplug.Proofs.Yields
import Hotplug.Proofs.Determined
import Hotplug.Proofs.Cache.MemoryContent
import Hotplug.Proofs.Cache.Coherence
import Hotplug.Proofs.Cache.Upkeep
import Hotplug.Proofs.Cache.Transparency
import Hotplug.Proofs.Hub.Slots
import Hotplug.Proofs.Predicate.Evaluation
import Hotplug.Proofs.Predicate.Shape
import Hotplug.Proofs.Predicate.Derivation
import Hotplug.Proofs.Predicate.Spelling
import Hotplug.Proofs.Predicate.Rendering
import Hotplug.Proofs.Hub.Steps
import Hotplug.Proofs.Hub.Census
import Hotplug.Proofs.Hub.Query
import Hotplug.Proofs.Backend.Table
import Hotplug.Proofs.Hub.Account
import Hotplug.Proofs.Hub.Deeds
import Hotplug.Proofs.Hub.Counting
import Hotplug.Proofs.Cache.Tracking
import Hotplug.Proofs.Cache.EventStream
import Hotplug.Proofs.Backend.Numbering
import Hotplug.Proofs.Backend.Service
import Hotplug.Proofs.Hub.Agreement
import Hotplug.Proofs.Hub.InStep
import Hotplug.Proofs.Hub.Calm
import Hotplug.Proofs.Hub.Anchored
import Hotplug.Proofs.Hub.Delivered
import Hotplug.Proofs.Hub.Surveyed
import Hotplug.Proofs.Hub.Validity
import Hotplug.Proofs.Hub.Resync
import Hotplug.Proofs.Hub.Errands
import Hotplug.Proofs.Hub.UpToDate
import Hotplug.Proofs.Hub.Streams
import Hotplug.Proofs.Hub.Chronicle
import Hotplug.Proofs.Cache.Outline
import Hotplug.Proofs.Cache.Foreseen
import Hotplug.Proofs.Cache.Completeness
import Hotplug.Proofs.Backend.Absence
import Hotplug.Proofs.Backend.Foreseen
import Hotplug.Proofs.Hub.Foreseen
import Hotplug.Proofs.Hub.Repeatable
import Hotplug.Proofs.Cache.Locality
import Hotplug.Proofs.Cache.Glance
import Hotplug.Proofs.Cache.SharedFetch
import Hotplug.Proofs.Cache.Reachable
import Hotplug.Proofs.Backend.Reading
import Hotplug.Proofs.Backend.Objects
import Hotplug.Proofs.Cache.Arrival
import Hotplug.Proofs.Script
import Hotplug.Proofs.Hub.Journal
import Hotplug.Proofs.Hub.Subscribers
import Hotplug.Proofs.Hub.Charter
import Hotplug.Proofs.Hub.Idle
import Hotplug.Proofs.Hub.Custody
import Hotplug.Proofs.Binary64.Magnitude
import Hotplug.Proofs.Binary64.Rounding
import Hotplug.Proofs.Binary64.Shortest
import Hotplug.Proofs.Predicate.Phrases
import Hotplug.Proofs.Predicate.Brackets
import Hotplug.Proofs.Predicate.Doubles
import Hotplug.Proofs.Predicate.Parsed
import Hotplug.Proofs.Predicate.Neighbours
import Hotplug.Proofs.Predicate.Reparsing
import Hotplug.Proofs.Cache.Entrance
import Hotplug.Proofs.Cache.Filters
import Hotplug.Proofs.Cache.Namespace
import Hotplug.Proofs.Hub.Listening
import Hotplug.Proofs.Hub.Tended
import Hotplug.Proofs.Hub.Disposal
import Hotplug.Proofs.Cache.Merging
import Hotplug.Proofs.Backend.Composition
import Hotplug.Proofs.Cache.Hollow
import Hotplug.Proofs.Cache.Search
import Hotplug.Proofs.Cache.Changes
import Hotplug.Proofs.Cache.Crashes
import Hotplug.Proofs.Cache.Media
import Hotplug.Proofs.Cache.Scope
import Hotplug.Proofs.Numbers
import Hotplug.Proofs.Predicate.Comparison
import Hotplug.Proofs.Predicate.Scanning
import Hotplug.Proofs.Predicate.Partition
import Hotplug.Proofs.Predicate.Quoting
import Hotplug.Proofs.Hub.Mounts
import Hotplug.Proofs.Hub.Repetitions
import Hotplug.Proofs.Predicate.Reads
import Hotplug.Proofs.Backend.Enumeration
import Hotplug.Proofs.Backend.MountPoints
import Hotplug.Proofs.Predicate.Grounds
import Hotplug.Proofs.Json.Tokens
import Hotplug.Proofs.Json.Spelling
import Hotplug.Proofs.Json.Reading
import Hotplug.Proofs.Json.Number
import Hotplug.Proofs.Untagged
import Hotplug.Proofs.Documents
