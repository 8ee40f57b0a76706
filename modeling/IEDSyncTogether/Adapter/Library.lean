import IEDSyncTogether.Adapter.Adapter

/-!
# The messaging library

STRPM is a library in the game's process. A plugin asks its exports for interfaces of a
version; what it gets may have another version or functions that are not set.
-/

namespace IEDSyncTogether

namespace STRPM

/-- The expected version of the STRPM interface. -/
def kInterfaceVersion : UInt32 := 2

/-- The expected version of the diagnostics interface. -/
def kDiagnosticsVersion : UInt32 := 2

/-- The expected version of the resolver interface. -/
def kProxyResolverVersion : UInt32 := 1

/-- The backend STRPM runs on. -/
inductive RuntimeBackend where
  | kNone
  | kUdp
  | kStrBridge
deriving DecidableEq

/-- The status of the diagnostics, as far as it decides anything. -/
structure RuntimeStatus where
  version : UInt32
  activeBackend : RuntimeBackend
  strBridgeActive : UInt32

/-- An interface by its version and by which of its functions are set. -/
structure Interface where
  version : UInt32
  unregisterChannel : Bool
  send : Bool
  getLocalConnectionID : Bool

/-- A diagnostics interface by its version and by whether its function is set. -/
structure DiagnosticsInterface where
  version : UInt32
  getRuntimeStatus : Bool

/-- A resolver interface by its version and by which of its functions are set. -/
structure ProxyResolverInterface where
  version : UInt32
  resolve : Bool
  registerListener : Bool
  unregisterListener : Bool

/-- A loaded library; an export that exists answers with a result and an interface. -/
structure Library where
  queryInterface : Option (Result × Option Interface)
  queryDiagnostics : Option (Result × Option DiagnosticsInterface)
  queryProxyResolver : Option (Result × Option ProxyResolverInterface)

/-- The interface an export hands out, if it can be used. -/
def handedOut {α : Type} (answer : Option (Result × Option α)) (usable : α → Bool) : Option α :=
  match answer with
  | some (.kOk, some found) => if usable found then some found else none
  | _ => none

namespace Library

variable (library : Library)

/-- The first query of every `LoadApi`. -/
def loadInterface : Option Interface :=
  handedOut library.queryInterface fun api => api.version = kInterfaceVersion

/-- The interface `LoadDiagnostics` takes: one of the right version with its function. -/
def loadDiagnostics : Option DiagnosticsInterface :=
  handedOut library.queryDiagnostics fun diagnostics =>
    diagnostics.version = kDiagnosticsVersion ∧ diagnostics.getRuntimeStatus

/-- The resolver the adapter takes: one of the right version that can resolve; its listener
functions are optional. -/
def loadProxyResolver : Option ProxyResolverInterface :=
  handedOut library.queryProxyResolver fun resolver =>
    resolver.version = kProxyResolverVersion ∧ resolver.resolve

end Library

end STRPM

end IEDSyncTogether
