import Advisory.Json.Fields
import Advisory.Package.Basic
import Advisory.Package.Module

/-!
# Identifiers and modules as JSON
-/

namespace Advisory

def Evr.toJson (e : Evr) : Json :=
  .object [("epoch", .integer e.epoch), ("version", .text e.version), ("release", .text e.release)]

def Nevra.toJson (n : Nevra) : Json :=
  .object [("name", .text n.name), ("epoch", .integer n.epoch), ("version", .text n.version),
    ("release", .text n.release), ("arch", .text n.arch)]

namespace ModuleStream

def toJson (s : ModuleStream) : Json :=
  .object [("module_name", .text s.module), ("module_stream", .text s.stream)]

def ofJson? (json : Json) : Option ModuleStream := do
  let f ← json.record? ["module_name", "module_stream"] 2
  return {
    module := ← f.required "module_name" Json.asText?
    stream := ← f.required "module_stream" Json.asText? }

end ModuleStream

namespace ModuleBuild

def toJson (b : ModuleBuild) : Json :=
  .object [("module_name", .text b.name), ("module_stream", .text b.stream),
    ("module_version", .text b.version), ("module_context", .text b.context)]

def ofJson? (json : Json) : Option ModuleBuild := do
  let f ← json.record? ["module_name", "module_stream", "module_version", "module_context"] 4
  return {
    name := ← f.required "module_name" Json.asText?
    stream := ← f.required "module_stream" Json.asText?
    version := ← f.required "module_version" Json.asText?
    context := ← f.required "module_context" Json.asText? }

end ModuleBuild

end Advisory
