import GrowthGrammar.Error

/-!
# Reserved names

Fields of settings are told apart by their names, and names that no field has are
passed over.  One name is reserved for the settings themselves: it cannot be
given together with fields, whatever its value is.
-/

namespace GrowthGrammar.Settings

/-- The name of the settings themselves. -/
def reservedName : String := "self"

/-- Refuse fields one of which has the reserved name. -/
def refuseReserved (names : List String) : Except Error Unit :=
  if names.contains reservedName then .error .wrongType else .ok ()

end GrowthGrammar.Settings
