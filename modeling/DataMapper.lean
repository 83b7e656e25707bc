import DataMapper.System
import DataMapper.Value.Json
import DataMapper.Proofs.Region.Contents
import DataMapper.Proofs.Staging.Views
import DataMapper.Proofs.Staging.Interleaving
import DataMapper.Proofs.Executor.Answers
import DataMapper.Proofs.Executor.Calls
import DataMapper.Proofs.Executor.Alike
import DataMapper.Proofs.Executor.Restaged
import DataMapper.Proofs.Session.Requests
import DataMapper.Proofs.Session.Publication
import DataMapper.Proofs.System.Privacy
import DataMapper.Proofs.Executor.Lookup
import DataMapper.Proofs.Executor.Transparency
import DataMapper.Proofs.Executor.Holds
import DataMapper.Proofs.System.Readers
import DataMapper.Proofs.System.Freshness
import DataMapper.Proofs.Json.RoundTrip
import DataMapper.Proofs.Json.Nesting
import DataMapper.Proofs.Value.Path
import DataMapper.Proofs.Key.Equality
import DataMapper.Proofs.Value.Binary
import DataMapper.Proofs.Value.Json
import DataMapper.Proofs.Region.Batches
import DataMapper.Proofs.Staging.Batches
import DataMapper.Proofs.Executor.Units
import DataMapper.Proofs.Session.Units
import DataMapper.Proofs.System.Units
import DataMapper.Proofs.System.Events
import DataMapper.Proofs.System.OpenWrites
import DataMapper.Proofs.System.Invalidation
import DataMapper.Proofs.Region.Persistence
import DataMapper.Proofs.Executor.Persistence
import DataMapper.Proofs.System.Persistence
import DataMapper.Proofs.Region.Requests
import DataMapper.Proofs.Region.Answers
import DataMapper.Proofs.Region.Application
import DataMapper.Proofs.Staging.Ownership
import DataMapper.Proofs.Executor.Selects
import DataMapper.Proofs.Executor.Closing
import DataMapper.Proofs.Session.Closing
import DataMapper.Proofs.System.Closing
import DataMapper.Proofs.Region.Entries
import DataMapper.Proofs.Executor.Requests
import DataMapper.Proofs.Executor.Custody
import DataMapper.Proofs.Executor.Provenance
import DataMapper.Proofs.Executor.Closed
import DataMapper.Proofs.Mapper.WellFormed
import DataMapper.Proofs.Mapper.Registry
import DataMapper.Proofs.Executor.Errors
import DataMapper.Proofs.Session.Errors
import DataMapper.Proofs.Mapper.Dispatch
import DataMapper.Proofs.Configuration
import DataMapper.Proofs.System.Mappers
import DataMapper.Proofs.System.Regions
import DataMapper.Proofs.Mapper.Resolution
import DataMapper.Proofs.System.Resolution
import DataMapper.Proofs.System.BindingFailures
import DataMapper.Proofs.Executor.Remembered
import DataMapper.Proofs.Mapper.Lockstep
import DataMapper.Proofs.System.FailedCommits
import DataMapper.Proofs.Mapper.Binding
import DataMapper.Proofs.Session.Uncached
import DataMapper.Proofs.Mapper.Bounds
import DataMapper.Proofs.Mapper.Parameters
import DataMapper.Proofs.Mapper.Calls
import DataMapper.Proofs.Session.Reads
import DataMapper.Proofs.Executor.Recollection
import DataMapper.Proofs.System.Recollection
import DataMapper.Proofs.Session.Sealing
import DataMapper.Proofs.System.Sealing
import DataMapper.Proofs.Value.Descent
import DataMapper.Proofs.Key.Nested
