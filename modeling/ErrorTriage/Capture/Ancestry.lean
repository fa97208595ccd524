import ErrorTriage.Text.Blank

/-!
# Capture.Ancestry — what a captured error's type is assignable to

Errors are known by the name of their type alone, so the base types of the usual ones are listed
here.  A type that is not listed derives from `Exception` directly.  Name spaces do not count: a
type is looked up by the part of its name after the last point.
-/

namespace ErrorTriage
namespace Ancestry

/-- The base types of the listed types, most derived first, without the common root. -/
def knownBases : List (String × List String) := [
  ("HttpException", ["ExternalException", "SystemException"]),
  ("HttpUnhandledException", ["HttpException", "ExternalException", "SystemException"]),
  ("HttpRequestValidationException", ["HttpException", "ExternalException", "SystemException"]),
  ("ExternalException", ["SystemException"]),
  ("SqlException", ["DbException", "ExternalException", "SystemException"]),
  ("DbException", ["ExternalException", "SystemException"]),
  ("ArgumentNullException", ["ArgumentException", "SystemException"]),
  ("ArgumentOutOfRangeException", ["ArgumentException", "SystemException"]),
  ("ObjectDisposedException", ["InvalidOperationException", "SystemException"]),
  ("FileNotFoundException", ["IOException", "SystemException"]),
  ("DirectoryNotFoundException", ["IOException", "SystemException"]),
  ("ArgumentException", ["SystemException"]),
  ("InvalidOperationException", ["SystemException"]),
  ("NullReferenceException", ["SystemException"]),
  ("IndexOutOfRangeException", ["SystemException"]),
  ("InvalidCastException", ["SystemException"]),
  ("FormatException", ["SystemException"]),
  ("NotSupportedException", ["SystemException"]),
  ("NotImplementedException", ["SystemException"]),
  ("UnauthorizedAccessException", ["SystemException"]),
  ("ThreadAbortException", ["SystemException"]),
  ("TimeoutException", ["SystemException"]),
  ("IOException", ["SystemException"])]

/-- The names that every captured error is assignable to. -/
def commonRoots : List String := ["Exception", "ISerializable", "Object"]

def afterLastPoint (cs : List Char) : List Char :=
  (cs.reverse.takeWhile (· ≠ '.')).reverse

/-- The name of a type without its name space. -/
def shortName (typeName : String) : String :=
  String.ofList (Text.trimList (afterLastPoint typeName.toList))

def basesOf (short : String) : List String :=
  ((knownBases.find? fun row => row.1 == short).map (·.2)).getD []

/-- All names that errors of a type are assignable to, most derived first. -/
def of (typeName : String) : List String :=
  basesOf (shortName typeName) ++ commonRoots

end Ancestry
end ErrorTriage
