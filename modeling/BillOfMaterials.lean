import BillOfMaterials.Engine.Command
import BillOfMaterials.Graph.Command
import BillOfMaterials.Json.Reader
import BillOfMaterials.Api.Model
import BillOfMaterials.Config
import BillOfMaterials.Log.Level
import BillOfMaterials.Main
import BillOfMaterials.Proofs.Graph.Edge
import BillOfMaterials.Proofs.Graph.IndexedSet
import BillOfMaterials.Proofs.Graph.WellFormed
import BillOfMaterials.Proofs.Graph.Search
import BillOfMaterials.Proofs.Graph.FindCycle
import BillOfMaterials.Proofs.Graph.Check
import BillOfMaterials.Proofs.Graph.Operations
import BillOfMaterials.Proofs.Graph.Restore
import BillOfMaterials.Proofs.Graph.Closure
import BillOfMaterials.Proofs.Engine.Calls
import BillOfMaterials.Proofs.Engine.Invariant
import BillOfMaterials.Proofs.Engine.Atomic
import BillOfMaterials.Proofs.Graph.Alike
import BillOfMaterials.Proofs.Engine.Alike
import BillOfMaterials.Proofs.Engine.CycleCheck
import BillOfMaterials.Proofs.Api.Handlers
import BillOfMaterials.Proofs.Client.Redirect
import BillOfMaterials.Store.Saver
import BillOfMaterials.Proofs.Store.Saver
import BillOfMaterials.Proofs.Json.RoundTrip
import BillOfMaterials.Proofs.Part.Id
import BillOfMaterials.Proofs.Store.Codec
import BillOfMaterials.Proofs.Store.Graph
import BillOfMaterials.Proofs.Store.RoundTrip
import BillOfMaterials.Proofs.Graph.Relink
import BillOfMaterials.Proofs.Engine.Effects
import BillOfMaterials.Proofs.Graph.Accept
import BillOfMaterials.Proofs.Graph.Breadth
import BillOfMaterials.Proofs.Api.PartRoutes
import BillOfMaterials.Proofs.Http.Escape
import BillOfMaterials.Proofs.Client.Wire
import BillOfMaterials.Proofs.Client.Calls
import BillOfMaterials.Proofs.Graph.Intact
import BillOfMaterials.Proofs.Engine.Stats
import BillOfMaterials.Proofs.Engine.Order
import BillOfMaterials.Proofs.Engine.Create
import BillOfMaterials.Proofs.Config.Durations
import BillOfMaterials.Proofs.Seed.Build
