import TenantSync.Store.Program

/-! # Saved contexts

The operations on saved contexts.  One setting names the current context; the first
context that is saved becomes current, and deleting the current one leaves none. -/

namespace TenantSync.Store

/-- The setting that names the current context. -/
def currentKey : String := "current_context"

/-- Creates the tables that are missing. -/
def applySchema : Program Unit := do
  Program.ask .applyingSchema (.createTable .contexts)
  Program.ask .applyingSchema (.createTable .settings)

/-- The saved contexts in ascending order of their names. -/
def listContexts : Program (List SavedContext) := Program.ask .listingContexts .listContexts

/-- A saved context, if it is there. -/
def getContext (name : String) : Program (Option SavedContext) :=
  Program.ask (.readingContext name) (.getContext name)

/-- A saved context that must be there. -/
def requireContext (name : String) : Program SavedContext := do
  match ← getContext name with
  | some c => return c
  | none => Program.fail (.missingContext name)

/-- The value of a setting, if it has one. -/
def getSetting (key : String) : Program (Option String) :=
  Program.ask (.readingSetting key) (.getSetting key)

/-- Gives a setting a value. -/
def setSetting (key value : String) : Program Unit :=
  Program.ask (.writingSetting key) (.putSetting key value)

/-- Takes the value of a setting away. -/
def removeSetting (key : String) : Program Unit :=
  Program.ask (.deletingSetting key) (.removeSetting key)

/-- The name of the current context. -/
def current : Program (Option String) := getSetting currentKey

/-- Makes a saved context the current one. -/
def useContext (name : String) : Program Unit := do
  match ← getContext name with
  | some _ => setSetting currentKey name
  | none => Program.fail (.unknownContext name)

/-- Saves a context.  It becomes current if no context is. -/
def saveContext (name url clientId : String) (clientSecret : Secret.Location) (now : Int) :
    Program Unit := do
  if isBlankText name then Program.fail .blankName
  else
    match clientSecret.validate with
    | .error f =>
      Program.done (Failure.during .checkingSecret (.error (f.map .secret)))
    | .ok () => do
      Program.ask (.savingContext name) (.putContext name url clientId clientSecret now)
      match ← current with
      | some _ => return ()
      | none => useContext name

/-- Deletes a context.  If it was current, no context is. -/
def deleteContext (name : String) : Program Unit := do
  if ← Program.ask (.deletingContext name) (.removeContext name) then
    if (← current) = some name then removeSetting currentKey
  else Program.fail (.unknownContext name)

end TenantSync.Store
