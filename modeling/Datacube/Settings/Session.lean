import Datacube.Catalog.Registry
import Datacube.Settings.Basic

/-!
# Sessions

A session is what the settings set up: the root logger, a registry with the cache and, where catalog
files are named, a catalog, and the type that joins get.
-/

namespace Datacube

/-- A session. -/
structure Session where
  logger : Logger
  registry : LiveRegistry
  joinType : Value

namespace Session

/-- The catalog that settings name, if they name one. -/
def catalog? (s : Settings) : Option Catalog :=
  if s.catalogPaths.isEmpty then none
  else some (.unscanned s.catalogName s.catalogPaths (.ofText? s.catalogConnection))

def ofSettings (s : Settings) (files : Files) (now : Int) : Outcome Session := do
  let (configured, logger) := Logger.bare.configure s.logLevel s.logFormat
  configured
  let start := LiveRegistry.empty (← s.cache) files now
  let (registered, registry) := start.registerAll ((catalog? s).toList.map .catalog)
  registered
  return ⟨logger, registry, s.joinType⟩

end Session
end Datacube
