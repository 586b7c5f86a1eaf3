import DeclaredApi.ClassSignature.Describe
import DeclaredApi.ClassSignature.Document
import DeclaredApi.Structured.Refusal

/-
  Sessions.

  A session holds what one operation leaves for the next: the
  configuration, the interned references, the classifier with
  its probe and decisions, and the registered class scopes.
  An operation that fails keeps what it did before it failed.

  Key definitions include:
    * `Session`
    * `Session.parse`
    * `Session.isConcrete`
    * `Session.project`
    * `Session.readStructured`
    * `Session.resolve`
    * `Session.describe`
    * `Session.document`
    * `Session.reset`
-/

------------------------------------------------------------
-- Sessions
------------------------------------------------------------

namespace DeclaredApi

/- The state that operations share. -/
structure Session where
  config : Config := {}
  interner : Interner := {}
  classifier : Classifier := {}
  registry : Registry := []

namespace Session

/- An operation that may fail. -/
abbrev Action (ε α : Type) :=
  ExceptT ε (StateM Session) α

/- Run an operation on the interned references. -/
def onInterner
    {ε α : Type}
    (run : Config → ExceptT ε (StateM Interner) α) :
    Action ε α :=
  fun s =>
    let (result, interner) := run s.config s.interner
    (result, { s with interner := interner })

/- Run an operation on the classifier. -/
def onClassifier
    {α : Type}
    (run : StateM Classifier α) : StateM Session α :=
  fun s =>
    let (result, classifier) := run s.classifier
    (result, { s with classifier := classifier })

end Session

end DeclaredApi

------------------------------------------------------------
-- Settings
------------------------------------------------------------

namespace DeclaredApi

namespace Session

/- Change the configuration; nothing is forgotten. -/
def configure (config : Config) : StateM Session Unit :=
  fun s => ((), { s with config := config })

/- Install a probe; all decisions are forgotten. -/
def install (probe : Probe) : StateM Session Unit :=
  fun s =>
    ((), { s with classifier := s.classifier.install probe })

/-
  Forget references, decisions and scopes, but neither the
  configuration nor the probe.
-/
def reset : StateM Session Unit :=
  fun s =>
    ((), { s with
      interner := {}
      classifier := s.classifier.forget
      registry := [] })

/- The root object type. -/
def root (s : Session) : String :=
  s.config.rootObject

end Session

end DeclaredApi

------------------------------------------------------------
-- Signatures
------------------------------------------------------------

namespace DeclaredApi

namespace Session

/- Parse a textual signature. -/
def parse (text : String) : Action ParseError TypeRef :=
  onInterner (fun config => Interner.parse config text)

/- Parse a value that may be no text. -/
def parseValue (value : Json) : Action ParseError TypeRef :=
  onInterner (fun config => Interner.parseValue config value)

/- Read a structured form; `path` names it in reports. -/
def readStructured
    (path : String)
    (node : Json) : Action StructuredError TypeRef :=
  onInterner (fun config => Structured.read config path node)

/- The structured form of a reference. -/
def project
    (declared : Structured.Declared)
    (reference : TypeRef) : StateM Session Json :=
  fun s =>
    onClassifier
      (Structured.project s.root declared reference) s

/- A base is concrete. -/
def isConcrete (base : String) : StateM Session Bool :=
  onClassifier (Classifier.isConcrete base)

/- A base is taken for a type variable. -/
def isVariable (base : String) : StateM Session Bool :=
  onClassifier (Classifier.isVariable base)

/- A reference is a bare name taken for a type variable. -/
def isVariableRef : TypeRef → StateM Session Bool
| .simple element dimensions [] =>
    isVariable (element ++ Name.brackets dimensions)
| _ => pure false

end Session

end DeclaredApi

------------------------------------------------------------
-- Classes
------------------------------------------------------------

namespace DeclaredApi

namespace Session

/- Register a class; the first of a name is kept. -/
def register (c : ClassDecl) : StateM Session ClassScope :=
  fun s =>
    let (scope, registry) := s.registry.register c
    (scope, { s with registry := registry })

/- Resolve a declared type in a class or member. -/
def resolve
    (scope : ClassScope)
    (member : Option MemberDecl)
    (erases : Bool)
    (t : DeclaredType) : Action ResolveError TypeRef :=
  fun s =>
    onInterner (fun config =>
      Resolution.resolve
        { config := config
          registry := s.registry
          scope := scope
          member := member
          erases := erases } t) s

/- Register a class and resolve all its declared types. -/
def describe
    (erases : Bool)
    (c : ClassDecl) : Action DescribeError ClassSignature :=
  fun s =>
    let (scope, s) := register c s
    onInterner (fun config =>
      Description.describe
        { config := config
          registry := s.registry
          scope := scope
          owner := c.name
          erases := erases } c) s

/- Describe classes one after the other. -/
def describeAll
    (erases : Bool) :
    List ClassDecl →
    Action DescribeError (List ClassSignature)
| [] => pure []
| c :: cs => do
    let signature ← describe erases c
    let signatures ← describeAll erases cs
    pure (signature :: signatures)

/- The document of a class. -/
def classDocument
    (signature : ClassSignature) : StateM Session Json :=
  fun s =>
    onClassifier
      (ClassDocument.ofSignature s.root s.registry signature) s

/- The document of some classes. -/
def document
    (version : String)
    (signatures : List ClassSignature) :
    StateM Session Json :=
  fun s =>
    onClassifier
      (ApiDocument.build s.root s.registry version signatures)
      s

end Session

end DeclaredApi
