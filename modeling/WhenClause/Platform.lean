/-
**Platform facts.**

The keys `isMac`, `isLinux` and `isWindows` tell the host's platform and not the current context.
`Facts` is the platform where it is known; `Facts.constant?` is then the value of each of these
keys. Every operation that builds an expression takes the facts as an argument and replaces a test
of such a key by its constant.
-/

namespace WhenClause

/-- A platform that a host can report. -/
inductive Platform where
  | mac
  | linux
  | windows
  deriving DecidableEq, Repr

namespace Platform

def name : Platform → String
  | .mac => "mac"
  | .linux => "linux"
  | .windows => "windows"

/-- The platform of a name, in lower or upper case. -/
def ofName? (name : String) : Option Platform :=
  match name.map Char.toLower with
  | "mac" | "macos" | "darwin" => some .mac
  | "linux" => some .linux
  | "windows" | "win32" => some .windows
  | _ => none

/-- The message about a name that no platform has. -/
def unknownMessage (name : String) : String :=
  "Unknown platform '" ++ name.map Char.toLower ++ "' (expected mac, linux or windows)"

def isMacKey : String := "isMac"

def isLinuxKey : String := "isLinux"

def isWindowsKey : String := "isWindows"

/-- The keys that tell the platform. -/
def keys : List String := [isMacKey, isLinuxKey, isWindowsKey]

/-- The value of a key that tells the platform. -/
def fact? (platform : Platform) (key : String) : Option Bool :=
  if key = isMacKey then some (platform = .mac)
  else if key = isLinuxKey then some (platform = .linux)
  else if key = isWindowsKey then some (platform = .windows)
  else none

end Platform

/-- The platform, where it is known. -/
abbrev Facts := Option Platform

namespace Facts

/-- No platform is known. -/
def unresolved : Facts := none

/-- The value of a key that the facts fix. -/
def constant? (facts : Facts) (key : String) : Option Bool := facts.bind (·.fact? key)

@[simp] theorem constant?_unresolved (key : String) : unresolved.constant? key = none := rfl

end Facts

end WhenClause
