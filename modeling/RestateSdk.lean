import RestateSdk.Effects
import RestateSdk.Promises.Native
import RestateSdk.Promises.Utils
import RestateSdk.Promises.TransformIt
import RestateSdk.Promises.ListenOnThen
import RestateSdk.Context
import RestateSdk.Endpoint.Handler
import RestateSdk.Endpoint.Gates
import RestateSdk.Endpoint.Routing
import RestateSdk.Endpoint.Soundness
import RestateSdk.Endpoint.Settlement
import RestateSdk.Endpoint.Isolation
