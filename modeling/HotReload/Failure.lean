import HotReload.Identity
import HotReload.Path

/-! # Failures

Only broken preconditions and refusals of the image surface as failures; everything a reload
treats as best effort is counted in its report. A failure is a cause; `message` words it.
-/

namespace HotReload

/-- The selector table of a class: for its instances, or for the class itself. -/
inductive SelectorTable where
  | onInstances
  | onClass
deriving DecidableEq, Inhabited

def SelectorTable.name : SelectorTable → String
  | .onInstances => "Instance"
  | .onClass => "Meta"

/-- Why a mapped library could not be loaded. -/
inductive LibraryFailure where
  | notFound (path : String)
  | symbolNotFound (symbol library : String)
  | invalidManifest (library reason : String)
  | platform (reason : String)
  | invalidPath (path : String)
deriving DecidableEq, Inhabited

def LibraryFailure.message : LibraryFailure → String
  | .notFound path => "Library not found: " ++ path
  | .symbolNotFound symbol library => "Symbol not found: " ++ symbol ++ " in " ++ library
  | .invalidManifest library reason => "Invalid manifest in " ++ library ++ ": " ++ reason
  | .platform reason => "Platform error: " ++ reason
  | .invalidPath path => "Invalid UTF-8 in path: " ++ path

def LibraryFailure.label : LibraryFailure → String
  | .notFound _ => "NotFound"
  | .symbolNotFound _ _ => "SymbolNotFound"
  | .invalidManifest _ _ => "InvalidManifest"
  | .platform _ => "PlatformError"
  | .invalidPath _ => "InvalidPath"

inductive SettingsFailure where
  /-- The file could not be read, for a reason of the file system. -/
  | unreadable (path : Path) (reason : String)
  | malformed
  /-- An environment variable holds a value that its setting does not take. -/
  | invalidVariable (variableName value : String)
deriving DecidableEq, Inhabited

def SettingsFailure.message : SettingsFailure → String
  | .unreadable path reason => "Failed to read " ++ path.shown ++ ": " ++ reason
  | .malformed => "Invalid configuration"
  | .invalidVariable name value => "Invalid value " ++ Text.quote value ++ " for " ++ name

def SettingsFailure.label : SettingsFailure → String
  | .unreadable _ _ => "Io"
  | .malformed => "Toml"
  | .invalidVariable _ _ => "InvalidEnv"

/-- What the image and the reloader report to their callers. -/
inductive Failure where
  | emptyModulePath
  | emptyRootSet
  | moduleNotFound (path : Path)
  | library (cause : LibraryFailure)
  | unresolvedSymbol (name module : String)
  | unknownModule (module : ModuleId)
  | unknownType (name : String)
  | unknownAddress (address : Address)
  | unknownClass (cls : ClassId)
  | slotOutOfBounds (cls : ClassId) (index length : Nat)
  | unknownSelector (cls : ClassId) (table : SelectorTable) (selector : String)
  | unknownMethod (className method : String)
  | hookUnavailable
  | imageReleased
  | queueClosed
  | settings (cause : SettingsFailure)
  /-- Calls nest deeper than the image allows. -/
  | callTooDeep
deriving DecidableEq, Inhabited

namespace Failure

def message : Failure → String
  | emptyModulePath => "Module path is empty"
  | emptyRootSet => "Sweep requires at least one root"
  | moduleNotFound path => "No module found at " ++ path.shown
  | library cause => cause.message
  | unresolvedSymbol name module =>
    "Unresolved symbol " ++ name ++ " referenced by module " ++ module
  | unknownModule module => "Unknown module " ++ module.text
  | unknownType name => "Unknown type " ++ name
  | unknownAddress address => "No function at address " ++ address.text
  | unknownClass cls => "Unknown class " ++ cls.text
  | slotOutOfBounds cls index length =>
    "Slot " ++ toString index ++ " out of bounds for class " ++ cls.text ++ " (" ++
      toString length ++ " slots)"
  | unknownSelector cls table selector =>
    "Selector " ++ selector ++ " not found in " ++ table.name ++ " table of class " ++ cls.text
  | unknownMethod className method => "Method " ++ method ++ " not found on " ++ className
  | hookUnavailable => "Generic metadata allocation hook is unavailable"
  | imageReleased => "Image has been released"
  | queueClosed => "Injection queue is closed"
  | settings cause => cause.message
  | callTooDeep => "Calls nest too deeply"

/-- The name of the cause, as code that runs in the image sees it. -/
def label : Failure → String
  | emptyModulePath => "EmptyModulePath"
  | emptyRootSet => "EmptyRootSet"
  | moduleNotFound _ => "ModuleNotFound"
  | library cause => "Load." ++ cause.label
  | unresolvedSymbol _ _ => "UnresolvedSymbol"
  | unknownModule _ => "UnknownModule"
  | unknownType _ => "UnknownType"
  | unknownAddress _ => "UnknownAddress"
  | unknownClass _ => "UnknownClass"
  | slotOutOfBounds _ _ _ => "SlotOutOfBounds"
  | unknownSelector _ _ _ => "UnknownSelector"
  | unknownMethod _ _ => "UnknownMethod"
  | hookUnavailable => "HookUnavailable"
  | imageReleased => "ImageReleased"
  | queueClosed => "QueueClosed"
  | settings cause => "Config." ++ cause.label
  | callTooDeep => "CallTooDeep"

end Failure

end HotReload
