import Piste.Text.Blank

/-!
# Compiler flags
-/

namespace Piste.Firmware

/-- The framework that needs relaxed warnings. -/
def espIdf : String := "espidf"

/-- Warnings in the headers of that framework that must not fail a build. -/
def espIdfCxxFlags : List String :=
  ["-Wno-error=switch", "-Wno-error=unused-parameter", "-Wno-error=return-type"]

/-- The C++ flags to add for the frameworks of a build. Blanks around a name do not count. -/
def extraCxxFlags (frameworks : List String) : List String :=
  if frameworks.any fun name => Text.trim name.toList = espIdf.toList then espIdfCxxFlags else []

end Piste.Firmware
