import PredicateLang.Fields
import PredicateLang.Value

/-!
# Dialects

A tree is lowered either for objects in memory, where navigation through something absent is safe
and values can be cast, or for a query backend, which propagates nulls on its own and knows no
casts.
-/

namespace PredicateLang

/-- What a tree is lowered for. -/
inductive Dialect where
  | objects | backend
deriving DecidableEq, Repr

namespace Dialect

/-- The name of the dialect. -/
def name : Dialect → String
  | objects => "objects"
  | backend => "backend"

/-- The dialect with a name, in any letter case; otherwise what is wrong with the name. -/
def ofName (name : String) : Except String Dialect :=
  match String.ofList (name.toList.map Char.toLower) with
  | "objects" | "object" | "memory" => .ok objects
  | "backend" | "sql" => .ok backend
  | other => .error ("unknown dialect '" ++ other ++ "' (expected objects or backend)")

end Dialect

/-- What lowering depends on besides the tree. -/
structure Settings where
  dialect : Dialect
  /-- Does the backend ignore the case of letters when it compares strings? -/
  caseInsensitiveCollation : Bool
  /-- The values of external variables, named without a dollar sign. -/
  externals : Fields Value

namespace Settings

/-- The settings of a dialect without anything else. -/
def ofDialect (dialect : Dialect) : Settings := ⟨dialect, false, []⟩

/-- Do comparisons that ignore the case of letters have to fold it first? -/
def foldsCase (s : Settings) : Bool := !(s.dialect = .backend && s.caseInsensitiveCollation)

end Settings

end PredicateLang
