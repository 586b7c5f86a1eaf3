import DeclaredApi.Proofs.Name.Identifiers
import DeclaredApi.Source.Types
import DeclaredApi.TypeRef.Basic

/-
  Types as source files write them.

  A type is a primitive name, a name, a class applied to
  arguments, an array, or an annotated type.  A syntax tree
  writes a type when its parts, which are its children but
  for punctuation, annotations and comments, write the parts
  of the type.

  The spelling of a type keeps the simple names in scope and
  qualifies all the others.

  Main declarations:
    * `WrittenName`
    * `WrittenType`
    * `WrittenType.inductionOnParts`
    * `SyntaxTree.parts`
    * `SourceFile.WritesName`
    * `SourceFile.Writes`
    * `WrittenType.Qualifies`
    * `WrittenType.spelling`
    * `WrittenType.nesting`
    * `WrittenType.declared`
-/

------------------------------------------------------------
-- Names
------------------------------------------------------------

namespace DeclaredApi

/- A name in a source file: simple, or inside another one. -/
inductive WrittenName where
| simple (word : Identifier)
| inside (outer : WrittenName) (word : Identifier)

namespace WrittenName

/- The first word of a name. -/
def head : WrittenName → String
| .simple word => word.text
| .inside outer _ => head outer

/- The words after the first one. -/
def tail : WrittenName → List String
| .simple _ => []
| .inside outer word => tail outer ++ [word.text]

/- A simple name that is in scope. -/
def isVariable
    (scope : List String) : WrittenName → Bool
| .simple word => scope.contains word.text
| .inside _ _ => false

/-
  The qualified form of a name: of a name with dots the head
  is qualified if it is known, and the other words follow.
-/
def qualified
    (f : SourceFile) : WrittenName → String
| .simple word => f.qualify word.text
| .inside outer word =>
    ".".intercalate
      ((f.lookup outer.head).getD outer.head ::
        (outer.tail ++ [word.text]))

/- A name in scope is kept, every other one is qualified. -/
def spelling
    (f : SourceFile)
    (scope : List String)
    (name : WrittenName) : String :=
  if name.isVariable scope then
    name.head
  else
    name.qualified f

/- The name stands for a class. -/
def IsClass
    (f : SourceFile)
    (name : WrittenName) : Prop :=
  Name.isDotted (name.qualified f) = true ∧
    Name.isPrimitive (name.qualified f) = false

instance
    (f : SourceFile)
    (name : WrittenName) :
    Decidable (name.IsClass f) :=
  inferInstanceAs (Decidable (_ ∧ _))

end WrittenName

end DeclaredApi

------------------------------------------------------------
-- Types
------------------------------------------------------------

namespace DeclaredApi

mutual

/- A type in a source file. -/
inductive WrittenType where
| primitive
    (name : String)
    (known : Name.isPrimitive name = true)
| named (name : WrittenName)
| applied
    (name : WrittenName)
    (first : WrittenArgument)
    (rest : List WrittenArgument)
| array (element : WrittenType) (dimensions : Nat)
| annotated (type : WrittenType)

/- An argument of a type: a type, or a wildcard. -/
inductive WrittenArgument where
| type (t : WrittenType)
| anything
| bounded (relation : BoundRelation) (bound : WrittenType)

end

namespace WrittenType

/- Induction over types together with their arguments. -/
theorem inductionOnParts
    {motive : WrittenType → Prop}
    {argument : WrittenArgument → Prop}
    (primitive : ∀ name known, motive (.primitive name known))
    (named : ∀ name, motive (.named name))
    (applied :
      ∀ name first rest,
        (∀ a ∈ first :: rest, argument a) →
          motive (.applied name first rest))
    (array :
      ∀ element dimensions,
        motive element → motive (.array element dimensions))
    (annotated : ∀ e, motive e → motive (.annotated e))
    (type : ∀ e, motive e → argument (.type e))
    (anything : argument .anything)
    (bounded :
      ∀ relation bound,
        motive bound → argument (.bounded relation bound)) :
    (∀ e, motive e) ∧ ∀ a, argument a := by
  have hArguments :
      ∀ first rest,
        argument first →
          (∀ a ∈ rest, argument a) →
            ∀ a ∈ first :: rest, argument a :=
    fun _ _ hFirst hRest =>
      List.forall_mem_cons.mpr ⟨hFirst, hRest⟩
  refine ⟨fun e => ?_, fun a => ?_⟩
  · exact @WrittenType.rec motive argument
      (fun rest => ∀ a ∈ rest, argument a)
      primitive named
      (fun name first rest hFirst hRest =>
        applied name first rest
          (hArguments first rest hFirst hRest))
      array annotated type anything bounded
      (fun _ h => absurd h List.not_mem_nil)
      hArguments e
  · exact @WrittenArgument.rec motive argument
      (fun rest => ∀ a ∈ rest, argument a)
      primitive named
      (fun name first rest hFirst hRest =>
        applied name first rest
          (hArguments first rest hFirst hRest))
      array annotated type anything bounded
      (fun _ h => absurd h List.not_mem_nil)
      hArguments a

end WrittenType

end DeclaredApi

------------------------------------------------------------
-- Parts of Nodes
------------------------------------------------------------

namespace DeclaredApi

namespace SyntaxTree

/- The kinds of nodes that types are made of. -/
def partKinds : List String :=
  Outline.typeKinds ++
    ["type_arguments", "wildcard", "extends", "super"]

/- A node that says something about a type. -/
def isPart (t : SyntaxTree) : Bool :=
  partKinds.contains t.kind

/- The children of a node that types are made of. -/
def parts (t : SyntaxTree) : List SyntaxTree :=
  t.children.filter isPart

/- A named node of a kind. -/
def IsA
    (t : SyntaxTree)
    (kind : String) : Prop :=
  t.isNamed = true ∧ t.kind = kind

/- A node that applies a name to arguments. -/
def Applies
    (t name arguments : SyntaxTree) : Prop :=
  t.IsA "generic_type" ∧
    arguments.kind = "type_arguments" ∧
      t.parts = [name, arguments]

end SyntaxTree

end DeclaredApi

------------------------------------------------------------
-- Writing
------------------------------------------------------------

namespace DeclaredApi

namespace SourceFile

/- A node writes an identifier. -/
def WritesWord
    (f : SourceFile)
    (word : Identifier)
    (t : SyntaxTree) : Prop :=
  t.IsA "type_identifier" ∧ f.read t = .ok word.text

/-
  A node writes a name.  The outer name may be applied to
  arguments, which are no part of the name.
-/
def WritesName
    (f : SourceFile) : WrittenName → SyntaxTree → Prop
| .simple word, t => f.WritesWord word t
| .inside outer word, t =>
    t.IsA "scoped_type_identifier" ∧
      ∃ holder last,
        t.parts = [holder, last] ∧
          f.WritesWord word last ∧
            ∃ name,
              WritesName f outer name ∧
                (holder = name ∨
                  ∃ arguments, holder.Applies name arguments)

/- But for blanks a text has a bracket pair per dimension. -/
def IsBrackets
    (dimensions : Nat)
    (text : String) : Prop :=
  text.toList.filter (fun c => !Text.isBlank c) =
    (Name.brackets dimensions).toList

instance
    (dimensions : Nat)
    (text : String) :
    Decidable (IsBrackets dimensions text) :=
  inferInstanceAs (Decidable (_ = _))

mutual

/- A node writes a type. -/
def Writes
    (f : SourceFile) : WrittenType → SyntaxTree → Prop
| .primitive name _, t =>
    (∃ kind ∈ Outline.primitiveKinds, t.IsA kind) ∧
      f.read t = .ok name
| .named name, t => f.WritesName name t
| .applied name first rest, t =>
    ∃ raw list u us,
      t.Applies raw list ∧
        f.WritesName name raw ∧
          list.parts = u :: us ∧
            WritesArgument f first u ∧ WritesAll f rest us
| .array element dimensions, t =>
    t.IsA "array_type" ∧
      ∃ inner marks text,
        t.childAt? "element" = some inner ∧
          Writes f element inner ∧
            t.childAt? "dimensions" = some marks ∧
              f.read marks = .ok text ∧
                IsBrackets dimensions text
| .annotated type, t =>
    t.IsA "annotated_type" ∧
      ∃ inner, t.parts = [inner] ∧ Writes f type inner

/- A node writes an argument. -/
def WritesArgument
    (f : SourceFile) : WrittenArgument → SyntaxTree → Prop
| .type type, t => Writes f type t
| .anything, t => t.IsA "wildcard" ∧ t.parts = []
| .bounded relation bound, t =>
    t.IsA "wildcard" ∧
      ∃ keyword inner,
        t.parts = [keyword, inner] ∧
          keyword.kind = relation.word ∧ Writes f bound inner

/- Nodes write arguments, one each. -/
def WritesAll
    (f : SourceFile) :
    List WrittenArgument → List SyntaxTree → Prop
| [], ts => ts = []
| a :: rest, ts =>
    ∃ u us,
      ts = u :: us ∧
        WritesArgument f a u ∧ WritesAll f rest us

end

end SourceFile

end DeclaredApi

------------------------------------------------------------
-- Names of Types
------------------------------------------------------------

namespace DeclaredApi

mutual

/-
  The names in a type that are no variables stand for
  classes, and no variable is applied to arguments.
-/
def WrittenType.Qualifies
    (f : SourceFile)
    (scope : List String) : WrittenType → Prop
| .primitive _ _ => True
| .named name =>
    name.isVariable scope = false → name.IsClass f
| .applied name first rest =>
    name.isVariable scope = false ∧ name.IsClass f ∧
      WrittenArgument.Qualifies f scope first ∧
        WrittenArgument.AllQualify f scope rest
| .array element _ => WrittenType.Qualifies f scope element
| .annotated type => WrittenType.Qualifies f scope type

/- The names in an argument stand for classes. -/
def WrittenArgument.Qualifies
    (f : SourceFile)
    (scope : List String) : WrittenArgument → Prop
| .type t => WrittenType.Qualifies f scope t
| .anything => True
| .bounded _ bound => WrittenType.Qualifies f scope bound

/- The names in a list of arguments stand for classes. -/
def WrittenArgument.AllQualify
    (f : SourceFile)
    (scope : List String) : List WrittenArgument → Prop
| [] => True
| a :: rest =>
    WrittenArgument.Qualifies f scope a ∧
      WrittenArgument.AllQualify f scope rest

end

end DeclaredApi

------------------------------------------------------------
-- Spellings
------------------------------------------------------------

namespace DeclaredApi

mutual

/- A type with its names kept or qualified. -/
def WrittenType.spelling
    (f : SourceFile)
    (scope : List String) : WrittenType → String
| .primitive name _ => name
| .named name => name.spelling f scope
| .applied name first rest =>
    name.spelling f scope ++ "<" ++
      ", ".intercalate
        (WrittenArgument.spelling f scope first ::
          WrittenArgument.spellingAll f scope rest) ++ ">"
| .array element dimensions =>
    WrittenType.spelling f scope element ++
      Name.brackets dimensions
| .annotated type => WrittenType.spelling f scope type

/- An argument with its names kept or qualified. -/
def WrittenArgument.spelling
    (f : SourceFile)
    (scope : List String) : WrittenArgument → String
| .type t => WrittenType.spelling f scope t
| .anything => "?"
| .bounded relation bound =>
    "? " ++ relation.word ++ " " ++
      WrittenType.spelling f scope bound

/- The spellings of a list of arguments. -/
def WrittenArgument.spellingAll
    (f : SourceFile)
    (scope : List String) : List WrittenArgument → List String
| [] => []
| a :: rest =>
    WrittenArgument.spelling f scope a ::
      WrittenArgument.spellingAll f scope rest

end

mutual

/- How deep type arguments are nested in a type. -/
def WrittenType.nesting : WrittenType → Nat
| .primitive _ _ => 0
| .named _ => 0
| .applied _ first rest =>
    1 + max first.nesting (WrittenArgument.nestingAll rest)
| .array element _ => WrittenType.nesting element
| .annotated type => WrittenType.nesting type

/- How deep type arguments are nested in an argument. -/
def WrittenArgument.nesting : WrittenArgument → Nat
| .type t => t.nesting
| .anything => 0
| .bounded _ bound => bound.nesting

/- The deepest nesting in a list of arguments. -/
def WrittenArgument.nestingAll : List WrittenArgument → Nat
| [] => 0
| a :: rest => max a.nesting (WrittenArgument.nestingAll rest)

end

end DeclaredApi

------------------------------------------------------------
-- Declared Types
------------------------------------------------------------

namespace DeclaredApi

/- A wildcard with one bound. -/
def DeclaredType.boundedBy
    (bound : DeclaredType) : BoundRelation → DeclaredType
| .upper => .wildcard [bound] []
| .lower => .wildcard [] [bound]

mutual

/- The declared type that a type is read as. -/
def WrittenType.declared
    (f : SourceFile)
    (scope : List String) : WrittenType → DeclaredType
| .primitive name _ => .ofName name
| .named name =>
    if name.isVariable scope then
      .typeVariable name.head
    else
      .ofName (name.qualified f)
| .applied name first rest =>
    .applied (name.qualified f) 0 []
      (WrittenArgument.declared f scope first ::
        WrittenArgument.declaredAll f scope rest)
| .array element dimensions =>
    (WrittenType.declared f scope element).addDimensions
      dimensions
| .annotated type => WrittenType.declared f scope type

/- The declared type that an argument is read as. -/
def WrittenArgument.declared
    (f : SourceFile)
    (scope : List String) : WrittenArgument → DeclaredType
| .type t => WrittenType.declared f scope t
| .anything => .wildcard [] []
| .bounded relation bound =>
    (WrittenType.declared f scope bound).boundedBy relation

/- The declared types of a list of arguments. -/
def WrittenArgument.declaredAll
    (f : SourceFile)
    (scope : List String) :
    List WrittenArgument → List DeclaredType
| [] => []
| a :: rest =>
    WrittenArgument.declared f scope a ::
      WrittenArgument.declaredAll f scope rest

end

end DeclaredApi
