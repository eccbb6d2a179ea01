import DiagramForge.Config.Decode
import DiagramForge.Data.Toml
import DiagramForge.Disk

/-!
# Loading a configuration file

A configuration file is a table in one of two notations, told apart by the suffix of its name. In
the notation for tables the configuration may lie in a table of its own. A file that does not exist
stands for the default configuration.
-/

namespace DiagramForge

/-- Why a configuration cannot be loaded. -/
inductive ConfigFault where
  /-- The file cannot be read. -/
  | unreadable (file : Path) (fault : DiskFault)
  /-- The file is not encoded as it should be. -/
  | notUtf8 (file : Path) (fault : Text.Utf8Fault)
  /-- The file is not written in its notation. -/
  | malformed (file : Path)
  /-- The file holds an integer of too many digits. -/
  | oversized (digits : Nat)
  /-- Nothing can be said about the path of the file. -/
  | unknowable (c : Crash)
  /-- The file holds something that is no table. -/
  | notTable (file : Path)
  /-- Settings have values they cannot have. -/
  | invalid (issues : List Issue)

namespace ConfigFault

/-- The diagnostic about a file. -/
def about (file : Path) (message : String) : Failure :=
  .diagnostic
    { kind := .config, message
      place := { phase := some "configuring", file := some file } }

/-- The failure that a fault is reported as. What is wrong with the encoding of a file, with the
size of its numbers or with its path is no failure of the configuration. -/
def failure : ConfigFault → Failure
  | unreadable file fault =>
    about file ("Cannot read config: " ++ fault.message (Text.quoted file.toString))
  | notUtf8 _ fault => .crash ⟨"UnicodeDecodeError", fault.message⟩
  | malformed file => about file "Cannot read config"
  | oversized digits => .crash (Crash.oversized digits)
  | unknowable c => .crash c
  | notTable file => about file "Config root must be a table"
  | invalid _ =>
    .diagnostic
      { kind := .config, message := "Invalid configuration"
        place := { phase := some "configuring" } }

end ConfigFault

namespace Config

/-- The name of the table that a configuration may lie in. -/
def tableName : String := "glspgen"

/-- Reads the text of a configuration file. -/
def decode (file : Path) (text : List Char) : Data.Read Data :=
  if file.suffix == ".json" then Data.Json.read text
  else do
    match ← Data.Toml.read text with
    | .object entries => return (Entries.get? entries tableName).getD (.object entries)
    | other => return other

/-- The configuration in the bytes of a file. -/
def ofBytes (file : Path) (bytes : List UInt8) : Except ConfigFault Config :=
  match Text.decodeUtf8 bytes with
  | .error fault => .error (.notUtf8 file fault)
  | .ok text =>
    match decode file text with
    | .error .malformed => .error (.malformed file)
    | .error (.oversized digits) => .error (.oversized digits)
    | .ok (.object entries) => (ofData (.object entries)).mapError .invalid
    | .ok _ => .error (.notTable file)

/-- Loads the configuration from a file, if one is given and exists. -/
def load (disk : Disk) : Option Path → Except ConfigFault Config
  | none => .ok {}
  | some file => do
    if !(← (disk.holds file).mapError .unknowable) then return {}
    match disk.read file with
    | .error fault => throw (.unreadable file fault)
    | .ok bytes => ofBytes file bytes

end Config

end DiagramForge
