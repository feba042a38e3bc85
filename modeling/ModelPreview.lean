import ModelPreview.Bridge.Ends
import ModelPreview.Bridge.Host
import ModelPreview.Bridge.Link
import ModelPreview.Bridge.Message
import ModelPreview.Bridge.Surface
import ModelPreview.Files.Path
import ModelPreview.Files.System
import ModelPreview.Files.Tree
import ModelPreview.Geometry.Bounds
import ModelPreview.Geometry.Camera
import ModelPreview.Geometry.UvRect
import ModelPreview.Geometry.Vector
import ModelPreview.Gpu.Backend
import ModelPreview.Gpu.Call
import ModelPreview.Gpu.Device
import ModelPreview.Gpu.Program
import ModelPreview.Json.Decode
import ModelPreview.Json.Literal
import ModelPreview.Json.Render
import ModelPreview.Json.Token
import ModelPreview.Json.Tree
import ModelPreview.Log
import ModelPreview.Main
import ModelPreview.Mesh.Basic
import ModelPreview.Mesh.Transform
import ModelPreview.Model.Basic
import ModelPreview.Model.Json
import ModelPreview.Model.Validation
import ModelPreview.Number.Binary
import ModelPreview.Number.Shortest
import ModelPreview.Preview.Backend
import ModelPreview.Preview.Controller
import ModelPreview.Preview.Registry
import ModelPreview.Preview.Session
import ModelPreview.Preview.Workbench
import ModelPreview.Render.Backend
import ModelPreview.Render.Color
import ModelPreview.Render.Recorder
import ModelPreview.Render.Session
import ModelPreview.SortedMap
import ModelPreview.Text.Quoted
import ModelPreview.Texture.Atlas
import ModelPreview.Texture.Image
import ModelPreview.Texture.Png
import ModelPreview.Texture.Png.Chunk
import ModelPreview.Texture.Png.Color
import ModelPreview.Texture.Png.Fault
import ModelPreview.Texture.Png.Metadata
import ModelPreview.Texture.Png.Row
import ModelPreview.Texture.Png.RowReader
import ModelPreview.Texture.Png.Stream
import ModelPreview.Texture.Reference
import ModelPreview.Texture.Resolution
import ModelPreview.Texture.Source
import ModelPreview.Trace.Fingerprint
import ModelPreview.Trace.Calls
import ModelPreview.Viewer.App
import ModelPreview.Viewer.CommandLine
import ModelPreview.Viewer.Config
import ModelPreview.Viewer.Startup
import ModelPreview.Viewer.Tour
import ModelPreview.Viewer.Window
import ModelPreview.Proofs.Preview.Run
import ModelPreview.Proofs.Preview.Bookkeeping
import ModelPreview.Proofs.Preview.AnswerOrder
import ModelPreview.Proofs.Preview.Operation
import ModelPreview.Proofs.Preview.Provenance
import ModelPreview.Proofs.Preview.PanelStep
import ModelPreview.Proofs.Preview.FailedSurface
import ModelPreview.Proofs.Preview.QuietPanel
import ModelPreview.Proofs.Preview.PanelView
import ModelPreview.Proofs.Preview.Independence
import ModelPreview.Proofs.Preview.Consistency
import ModelPreview.Proofs.Number.Rounding
import ModelPreview.Proofs.Number.Shortest
import ModelPreview.Proofs.Number.NearMiss
import ModelPreview.Proofs.Number.RoundTrip
import ModelPreview.Proofs.Json.Literal
import ModelPreview.Proofs.Json.Spelling
import ModelPreview.Proofs.Json.Recognition
import ModelPreview.Proofs.Json.Writing
import ModelPreview.Proofs.Json.Strictness
import ModelPreview.Proofs.Json.Rewriting
import ModelPreview.Proofs.Json.Lexing
import ModelPreview.Proofs.Json.Reading
import ModelPreview.Proofs.Model.RoundTrip
import ModelPreview.Proofs.Model.Rewriting
import ModelPreview.Proofs.Bridge.WireRoundTrip
import ModelPreview.Proofs.Bridge.Transit
import ModelPreview.Proofs.Bridge.Validity
import ModelPreview.Proofs.Bridge.Rewriting
import ModelPreview.Proofs.Preview.Delivery
import ModelPreview.Proofs.Collections
import ModelPreview.Proofs.Bridge.Hearing
import ModelPreview.Proofs.Bridge.Exchange
import ModelPreview.Proofs.Bridge.Pumping
import ModelPreview.Proofs.Bridge.Handshake
import ModelPreview.Proofs.Render.Calls
import ModelPreview.Proofs.Render.Lifecycle
import ModelPreview.Proofs.Render.FailedRender
import ModelPreview.Proofs.Render.Accounting
import ModelPreview.Proofs.Texture.Layout
import ModelPreview.Proofs.Texture.Copying
import ModelPreview.Proofs.Texture.Packing
import ModelPreview.Proofs.Texture.SizeCheck
import ModelPreview.Proofs.Mesh.Ownership
import ModelPreview.Proofs.Render.FaceTextures
import ModelPreview.Proofs.Gpu.Emission
import ModelPreview.Proofs.Gpu.History
import ModelPreview.Proofs.Mesh.Buffers
import ModelPreview.Proofs.Texture.Resolving
import ModelPreview.Proofs.Texture.Variables
import ModelPreview.Proofs.Gpu.Consistency
import ModelPreview.Proofs.Viewer.Life
import ModelPreview.Proofs.Viewer.Settling
import ModelPreview.Proofs.Texture.Canonical
import ModelPreview.Proofs.Viewer.CommandLine
import ModelPreview.Proofs.Geometry.Rotation
import ModelPreview.Proofs.Mesh.Winding
import ModelPreview.Proofs.Number.Nearest
import ModelPreview.Proofs.Number.Unpacked
import ModelPreview.Proofs.Number.Arithmetic
import ModelPreview.Proofs.Geometry.UvRect
import ModelPreview.Proofs.Render.FaceRects
import ModelPreview.Proofs.Geometry.Bounds
import ModelPreview.Proofs.Number.Order
import ModelPreview.Proofs.Number.Agreement
import ModelPreview.Proofs.Geometry.Agreement
import ModelPreview.Proofs.Mesh.Corners
import ModelPreview.Proofs.Render.Framing
