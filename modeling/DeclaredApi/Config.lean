import DeclaredApi.Name
import DeclaredApi.Number.IntegerText

/-
  Configuration.

  Three settings decide how signatures are read: the root
  object type, which a bare wildcard is bounded by, the limit
  on the nesting of type arguments, and whether references
  are interned.  `Config.ofSettings` reads them from texts and
  reports one fault for each bad setting.

  Key definitions include:
    * `Config`
    * `Config.Settings`
    * `Config.Fault`
    * `Config.flag?`
    * `Config.ofSettings`
-/

------------------------------------------------------------
-- Settings
------------------------------------------------------------

namespace DeclaredApi

/- A valid configuration; the defaults are the usual one. -/
structure Config where
  rootObject : String := "java.lang.Object"
  depthLimit : Nat := 64
  interns : Bool := true
  rootObject_isDotted :
    Name.isDotted rootObject = true := by decide
  one_le_depthLimit : 1 ≤ depthLimit := by decide
  depthLimit_le : depthLimit ≤ 128 := by decide

namespace Config

/- The settings that a user gives, each as a text. -/
structure Settings where
  rootObject : Option String := none
  depthLimit : Option String := none
  interns : Option String := none
deriving DecidableEq, Repr

/- The setting that a fault is about. -/
inductive Field where
| rootObject
| depthLimit
| interns
deriving DecidableEq, Repr

/- What is wrong with a setting. -/
inductive Problem where
| notADottedName
| notAnInteger
| tooLong
| tooSmall
| tooLarge
| notAFlag
deriving DecidableEq, Repr

/- A bad setting. -/
structure Fault where
  field : Field
  problem : Problem
deriving DecidableEq, Repr

end Config

end DeclaredApi

------------------------------------------------------------
-- Texts of Settings
------------------------------------------------------------

namespace DeclaredApi

namespace Config

/- The words for yes and no, in any case. -/
def flag? (text : String) : Option Bool :=
  let word := text.toLower
  if ["1", "true", "t", "yes", "y", "on"].contains word then
    some true
  else if
      ["0", "false", "f", "no", "n", "off"].contains word then
    some false
  else
    none

end Config

end DeclaredApi

------------------------------------------------------------
-- Reading Settings
------------------------------------------------------------

namespace DeclaredApi

namespace Config

/- A root object type that is a dotted name. -/
def readRootObject
    (text : Option String) :
    Except Problem
      { name : String // Name.isDotted name = true } :=
  match text with
  | none => .ok ⟨({} : Config).rootObject, by decide⟩
  | some name =>
      if h : Name.isDotted name = true then
        .ok ⟨name, h⟩
      else
        .error .notADottedName

/- A limit between 1 and 128. -/
def readDepthLimit
    (text : Option String) :
    Except Problem { limit : Nat // 1 ≤ limit ∧ limit ≤ 128 } :=
  match text with
  | none => .ok ⟨({} : Config).depthLimit, by decide⟩
  | some text =>
      match Number.readInteger text with
      | .error .malformed => .error .notAnInteger
      | .error .tooLong => .error .tooLong
      | .ok value =>
          if hLow : value < 1 then
            .error .tooSmall
          else if hHigh : 128 < value then
            .error .tooLarge
          else
            .ok ⟨value.toNat, by omega⟩

/- Whether to intern. -/
def readInterns
    (text : Option String) : Except Problem Bool :=
  match text with
  | none => .ok ({} : Config).interns
  | some text =>
      match flag? text with
      | none => .error .notAFlag
      | some value => .ok value

/- The fault of a setting that could not be read. -/
def faultOf
    {α : Type}
    (field : Field) :
    Except Problem α → List Fault
| .ok _ => []
| .error problem => [⟨field, problem⟩]

/- The configuration of some settings, or all their faults. -/
def ofSettings
    (settings : Settings) : Except (List Fault) Config :=
  match readRootObject settings.rootObject,
    readDepthLimit settings.depthLimit,
    readInterns settings.interns with
  | .ok root, .ok limit, .ok interns =>
      .ok
        { rootObject := root.1
          depthLimit := limit.1
          interns := interns
          rootObject_isDotted := root.2
          one_le_depthLimit := limit.2.1
          depthLimit_le := limit.2.2 }
  | root, limit, interns =>
      .error
        (faultOf .rootObject root ++
          faultOf .depthLimit limit ++
          faultOf .interns interns)

end Config

end DeclaredApi
