/-
Errors of catalog calls, from the URL to the server's answer, each with its wording, and the errors that
end an acceptance run before its first check. What went wrong on the way to the server or in reading its
answer is carried as the text in which the transport reports it.
-/
import SeriesCatalog.ServerUrl
import SeriesCatalog.Settings.Variable

namespace SeriesCatalog

/-- Why a catalog call failed. -/
inductive CatalogError
  | invalidUrl (fault : ServerUrl.Fault)
  | unknownScheme (scheme : String)
  | invalidIdentifier (name : String)
  | transport (reason : String)
  | timeout (milliseconds : Nat)
  | server (code : Int) (message : String) (sql : String)
  | decode (reason : String)
  | settings (fault : Settings.Fault)
  | disposed
  deriving DecidableEq, Repr

namespace CatalogError

/-- The error in words. -/
def message : CatalogError → String
  | invalidUrl fault => "Invalid connection URL '" ++ fault.url ++ "': " ++ fault.reason.message
  | unknownScheme scheme => "No driver registered for scheme '" ++ scheme ++ "'"
  | invalidIdentifier name => "Invalid identifier '" ++ name ++ "'"
  | transport reason => "Transport error: " ++ reason
  | timeout milliseconds => "Request timeout after " ++ toString milliseconds ++ " ms"
  | server code message sql =>
    "Server error " ++ toString code ++ " for '" ++ sql ++ "': " ++ message
  | decode reason => "Decode error: " ++ reason
  | settings fault => "Configuration error: " ++ fault.message
  | disposed => "Engine has been disposed"

end CatalogError

/-- Why no check could run: the settings of the run are turned down, or a catalog call failed. -/
inductive CheckError
  | settings (fault : Settings.Fault)
  | catalog (error : CatalogError)
  deriving DecidableEq, Repr

/-- The error in words. -/
def CheckError.message : CheckError → String
  | settings fault => "Configuration error: " ++ fault.message
  | catalog error => error.message

end SeriesCatalog
