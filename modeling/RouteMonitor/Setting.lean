import RouteMonitor.ConfigError
import RouteMonitor.Integer
import RouteMonitor.Settings

/-!
# Typed settings

A setting knows where it is kept, how its text is read, and what stands in when there is no usable
text. Only a setting with a default can be lenient: a bare key or a rejected text may then count as
absent, and a rejected text leaves a debug record. A setting that some modes require is the only one
that can end up unset.
-/

namespace RouteMonitor

/-- What an absent key means. -/
inductive Fallback (α : Type)
  | mandatory
  | default (value : α)
  | byMode (required : Bool)
deriving DecidableEq

inductive Lenience
  | fail
  | useDefault
deriving DecidableEq, Repr

structure Setting (α : Type) where
  sectionName : Bytes
  key : Bytes
  read : Bytes → Except Bytes α
  fallback : Fallback α := .mandatory
  onBare : Lenience := .fail
  onReject : Lenience := .fail

namespace Setting

variable {α : Type}

def substitutionText (setting : Setting α) (text cause : Bytes) : Bytes :=
  utf8 "[" ++ setting.sectionName ++ utf8 "] " ++ setting.key ++ utf8 " = " ++ quoted text ++
    utf8 " ignored (" ++ cause ++ utf8 "), using default"

def resolveAbsent (setting : Setting α) : LoadM (Option α) :=
  match setting.fallback with
  | .mandatory => throw (.missingKey setting.sectionName setting.key)
  | .default value => pure (some value)
  | .byMode true => throw (.requiredByMode setting.sectionName setting.key)
  | .byMode false => pure none

def resolveBare (setting : Setting α) : LoadM (Option α) :=
  match setting.onBare, setting.fallback with
  | .useDefault, .default value => pure (some value)
  | _, _ => throw (.missingValue setting.sectionName setting.key)

def resolveRejected (setting : Setting α) (text cause : Bytes) : LoadM (Option α) :=
  match setting.onReject, setting.fallback with
  | .useDefault, .default value => do
    Logged.write .debug (setting.substitutionText text cause)
    pure (some value)
  | _, _ => throw (.invalidValue setting.sectionName setting.key cause)

def resolve (setting : Setting α) (settings : Settings) : LoadM (Option α) :=
  match settings.find? setting.sectionName setting.key with
  | none => setting.resolveAbsent
  | some .bare => setting.resolveBare
  | some (.value text) =>
    match setting.read text with
    | .ok value => pure (some value)
    | .error cause => setting.resolveRejected text cause

/-- The value of a setting that may not stay unset. -/
def require (setting : Setting α) (settings : Settings) : LoadM α := do
  match ← setting.resolve settings with
  | some value => pure value
  | none => throw (.missingKey setting.sectionName setting.key)

/-! ## Readers -/

def readText (text : Bytes) : Except Bytes Bytes := .ok text

def readInteger (width : Integer.Width) (text : Bytes) : Except Bytes (Integer width) :=
  (Integer.read width text).mapError Integer.Fault.message

end Setting

end RouteMonitor
