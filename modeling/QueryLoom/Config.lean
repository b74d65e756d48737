import QueryLoom.Dialect
import QueryLoom.Error

/-!
# Settings

What a caller chooses once for all statements: the dialect, which empty values are left out, how
many records go into one statement, the layout of compiled SQL and how much of it is logged.
-/

namespace QueryLoom

/-- Which values of a record are left out: absent ones, nulls, and texts of blanks. -/
structure SkipPolicy where
  skipUndefined : Bool
  skipNull : Bool
  skipEmptyString : Bool
  deriving DecidableEq

/-- The policy that leaves out everything empty. -/
def SkipPolicy.standard : SkipPolicy := ⟨true, true, true⟩

/-- The layout of compiled SQL: one line, or a line for each major clause. -/
inductive FormatStyle where
  | compact
  | pretty
  deriving DecidableEq

/-- The settings. -/
structure Config where
  dialect : Dialect
  skip : SkipPolicy
  /-- How many records go into one statement. -/
  maxDeal : Nat
  format : FormatStyle
  /-- How many bytes of compiled SQL are logged. -/
  logSqlMaxLen : Nat

/-- The settings where nothing is chosen. -/
def Config.standard : Config := ⟨.mysql, .standard, 500, .compact, 512⟩

/-- Refuse settings that no batch can be made with. -/
def Config.validate (c : Config) : SqlResult Unit :=
  if c.maxDeal = 0 then .error (.config .zeroMaxDeal) else .ok ()

end QueryLoom
