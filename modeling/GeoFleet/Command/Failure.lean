import GeoFleet.Disk.Basic
import GeoFleet.Engine.Settings

/-! Why a command fails, and what it says then. -/
namespace GeoFleet

inductive Failure where
  | file (e : FileError)
  /-- The text of a configuration is no TOML, or does not describe one. -/
  | malformed
  | definition (e : DefinitionError)
  | engine (e : EngineError)
  | invalidInterval (text : String)
  | invalidDuration (key text : String)
  | overwrite (path : String)
  /-- A number of a configuration has no TOML form. -/
  | unwritable
  deriving DecidableEq, Repr

def Failure.message : Failure → String
  | .file e => e.message
  | .malformed => "malformed configuration"
  | .definition e => e.message
  | .engine e => e.message
  | .invalidInterval text => "invalid evaluation interval: " ++ text
  | .invalidDuration key text => "invalid " ++ key ++ ": " ++ text ++ " (expected a positive duration)"
  | .overwrite path => path ++ " already exists (use --force to overwrite)"
  | .unwritable => "unwritable configuration"

end GeoFleet
