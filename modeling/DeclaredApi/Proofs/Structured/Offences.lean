import DeclaredApi.Proofs.Structured.Forms
import DeclaredApi.Proofs.TypeRef.Validation

/-
  The offence that a structured form is refused for.

  A form that is not read has a part that is at fault, which
  steps through lists of arguments and bounds lead to.  All
  items before the steps were accepted, in the order in which
  they are read, so the part is the leftmost one.  The path in
  the report is that of the part, or of a key of the part.
  Validation is never what fails: the keys of a form are
  checked for all that it asks of what they describe.

  Main declarations:
    * `Structured.Step`
    * `Structured.Passes`
    * `Structured.Reaches`
    * `Structured.BadValue`
    * `Structured.Offends`
    * `Structured.Blamed`
    * `Structured.blamed_of_readItems`
    * `Structured.blamed_of_readNode`
-/

------------------------------------------------------------
-- Parts of Forms
------------------------------------------------------------

namespace DeclaredApi

namespace Structured

/- The lists of an object that hold forms. -/
inductive Container where
| parameters
| bounds
deriving DecidableEq, Repr

namespace Container

/- The key of a list. -/
def key : Container → String
| .parameters => parametersKey
| .bounds => boundsKey

/- The items of a list must not be wildcards. -/
def isPlain : Container → Bool
| .parameters => false
| .bounds => true

end Container

/- An item of one of the lists of an object. -/
structure Step where
  container : Container
  index : Nat
deriving DecidableEq, Repr

/- The path of an item of the object at a path. -/
def Step.pathFrom
    (path : String)
    (step : Step) : String :=
  itemPath (keyPath path step.container.key) step.index

/- The path that some steps lead to. -/
def pathAlong
    (path : String)
    (steps : List Step) : String :=
  steps.foldl Step.pathFrom path

/- The list in which the part stands that they lead to. -/
def placeAlong
    (place : Option Container)
    (steps : List Step) : Option Container :=
  steps.foldl (fun _ step => some step.container) place

/-
  Items are accepted one after the other, each with what the
  ones before have left in the interner.  Plain ones are not
  read as wildcards.
-/
inductive Passes
    (config : Config)
    (path : String)
    (plain : Bool) :
    (index : Nat) →
      Interner → List Json → Interner → Prop where
| nil
    (index : Nat)
    (interner : Interner) :
    Passes config path plain index interner [] interner
| cons
    {index : Nat}
    {before between after : Interner}
    {item : Json}
    {rest : List Json}
    {r : TypeRef} :
    readNode config (itemPath path index) item before =
        (.ok r, between) →
      (plain = true → r.isWildcard = false) →
        Passes config path plain (index + 1) between rest
            after →
          Passes config path plain index before (item :: rest)
            after

/-
  Steps lead from a form to one of its parts.  Each of them
  goes to an item of a list under a key of an object, and the
  items before it are accepted.
-/
inductive Reaches
    (config : Config) :
    Interner → String → Json →
      List Step → Interner → Json → Prop where
| here
    (interner : Interner)
    (path : String)
    (node : Json) :
    Reaches config interner path node [] interner node
| step
    {interner between after : Interner}
    {path : String}
    {fields : List (String × Json)}
    {earlier later : List Json}
    {item part : Json}
    {steps : List Step}
    (container : Container) :
    fields.lookup container.key =
        some (.list (earlier ++ item :: later)) →
      Passes config (keyPath path container.key)
          container.isPlain 0 interner earlier between →
        Reaches config between
            (Step.pathFrom path ⟨container, earlier.length⟩)
            item steps after part →
          Reaches config interner path (.object fields)
            (⟨container, earlier.length⟩ :: steps) after part

end Structured

end DeclaredApi

------------------------------------------------------------
-- Offences
------------------------------------------------------------

namespace DeclaredApi

namespace Structured

/-
  The keys that an object must not have when it is read in a
  way, each with what is expected of it instead.
-/
def Reading.forbidden : Reading → List (String × String)
| .signature => []
| .wildcard => [(parametersKey, "absent for wildcards")]
| .named =>
    [ (genericKey, "absent for non-wildcard types"),
      (relationKey, "absent for non-wildcard types"),
      (boundsKey, "absent for non-wildcard types") ]

/-
  The value under a key of an object with a base is bad: it
  is of the wrong kind or under a forbidden key, or it is no
  direction, no name or no list that a primitive type takes.
  The base is shown as it is compared, without its spaces.
-/
inductive BadValue
    (fields : List (String × Json))
    (base : String) :
    (key expected : String) → (actual : Json) → Prop where
| flag
    {value : Json} :
    fields.lookup genericKey = some value →
      (∀ flag, value ≠ .bool flag) →
        BadValue fields base genericKey "bool" value
| forbidden
    {key expected : String}
    {value : Json} :
    (key, expected) ∈ (readingOf fields base).forbidden →
      fields.lookup key = some value →
        BadValue fields base key expected value
| relation
    {value : Json} :
    readingOf fields base = .wildcard →
      fields.lookup relationKey = some value →
        (∀ word, value ≠ .str word) →
          BadValue fields base relationKey "str" value
| direction
    {word : String} :
    readingOf fields base = .wildcard →
      fields.lookup relationKey = some (.str word) →
        BoundRelation.ofWord? word = none →
          BadValue fields base relationKey
            "'extends' | 'super'" (.str word)
| bounds
    {value : Json} :
    readingOf fields base = .wildcard →
      present? boundsKey fields = some value →
        (∀ item rest, value ≠ .list (item :: rest)) →
          BadValue fields base boundsKey "non-empty list" value
| name :
    readingOf fields base = .named →
      Name.isBase (Text.withoutSpaces base) = false →
        BadValue fields base baseKey "dotted type name"
          (.str (Text.withoutSpaces base))
| parameters
    {value : Json} :
    readingOf fields base = .named →
      present? parametersKey fields = some value →
        (∀ items, value ≠ .list items) →
          BadValue fields base parametersKey "list" value
| primitive
    {items : List Json} :
    readingOf fields base = .named →
      present? parametersKey fields = some (.list items) →
        items ≠ [] →
          Name.isPrimitiveFamily (Text.withoutSpaces base) =
              true →
            BadValue fields base parametersKey
              "absent for primitive types" (.list items)

/-
  The fault of a part at a path, which stands in a list if it
  is not the whole form: a text that is not parsed, a value
  that is no form, a wildcard among bounds, no base or no
  bounds where they are needed, or a bad value.
-/
inductive Offends
    (config : Config)
    (interner : Interner)
    (path : String)
    (place : Option Container) :
    Json → StructuredError → Prop where
| text
    {text : String}
    {e : ParseError} :
    (Interner.parse config text interner).1 = .error e →
      Offends config interner path place (.str text)
        (.signature e)
| otherKind
    {value : Json} :
    (∀ text, value ≠ .str text) →
      (∀ fields, value ≠ .object fields) →
        Offends config interner path place value
          (.wrongValue path "str | dict" value none)
| wildcard
    {value : Json}
    {r : TypeRef} :
    place = some .bounds →
      (readNode config path value interner).1 = .ok r →
        r.isWildcard = true →
          Offends config interner path place value
            (.wrongValue path "non-wildcard type" value none)
| missingBase
    {fields : List (String × Json)} :
    fields.lookup baseKey = none →
      Offends config interner path place (.object fields)
        (.missingKey path baseKey)
| base
    {fields : List (String × Json)}
    {value : Json} :
    fields.lookup baseKey = some value →
      (∀ base, value ≠ .str base) →
        Offends config interner path place (.object fields)
          (.wrongValue (keyPath path baseKey) "str" value none)
| signature
    {fields : List (String × Json)}
    {base : String}
    {e : ParseError} :
    fields.lookup baseKey = some (.str base) →
      readingOf fields base = .signature →
        (Interner.parse config base interner).1 = .error e →
          Offends config interner path place (.object fields)
            (.wrongValue (keyPath path baseKey)
              "type signature" (.str base) (some e))
| missingBounds
    {fields : List (String × Json)}
    {base : String} :
    fields.lookup baseKey = some (.str base) →
      readingOf fields base = .wildcard →
        fields.lookup relationKey =
            some (.str BoundRelation.lower.word) →
          present? boundsKey fields = none →
            Offends config interner path place (.object fields)
              (.missingKey path boundsKey)
| badValue
    {fields : List (String × Json)}
    {base key expected : String}
    {actual : Json} :
    fields.lookup baseKey = some (.str base) →
      BadValue fields base key expected actual →
        Offends config interner path place (.object fields)
          (.wrongValue (keyPath path key) expected actual none)

/-
  A failure is the fault of a part that steps lead to, and no
  failure of validation.
-/
def Blamed
    (config : Config)
    (interner : Interner)
    (path : String)
    (place : Option Container)
    (node : Json) : Failure → Prop
| .refused e =>
    ∃ steps after part,
      Reaches config interner path node steps after part ∧
        Offends config after (pathAlong path steps)
          (placeAlong place steps) part e
| .invalid _ => False

variable {config : Config}
variable {interner : Interner}
variable {path : String}
variable {place : Option Container}

/- The form may be at fault itself. -/
theorem Offends.blamed
    {node : Json}
    {e : StructuredError}
    (hOffends : Offends config interner path place node e) :
    Blamed config interner path place node (.refused e) :=
  ⟨[], interner, node, Reaches.here interner path node, hOffends⟩

/- What an item is blamed for, the object is blamed for. -/
theorem Blamed.step
    {fields : List (String × Json)}
    {earlier later : List Json}
    {item : Json}
    {between : Interner}
    {e : Failure}
    (container : Container)
    (hLookup :
      fields.lookup container.key =
        some (.list (earlier ++ item :: later)))
    (hPasses :
      Passes config (keyPath path container.key)
        container.isPlain 0 interner earlier between)
    (hBlamed :
      Blamed config between
        (Step.pathFrom path ⟨container, earlier.length⟩)
        (some container) item e) :
    Blamed config interner path place (.object fields) e := by
  cases e with
  | refused e =>
      rcases hBlamed with
        ⟨steps, after, part, hReaches, hOffends⟩
      exact ⟨⟨container, earlier.length⟩ :: steps, after, part,
        Reaches.step container hLookup hPasses hReaches,
        hOffends⟩
  | invalid e => exact hBlamed

end Structured

end DeclaredApi

------------------------------------------------------------
-- Failures of Steps
------------------------------------------------------------

namespace DeclaredApi

namespace Structured

variable {config : Config}
variable {interner : Interner}
variable {path : String}
variable {place : Option Container}
variable {node : Json}

/- Whatever a computation fails with is a fault of a form. -/
def Blames
    {α : Type}
    (config : Config)
    (interner : Interner)
    (path : String)
    (place : Option Container)
    (node : Json)
    (x : Reader α) : Prop :=
  ∀ e,
    (x interner).1 = .error e →
      Blamed config interner path place node e

/- A check blames a form as well, and stores nothing. -/
structure Checks
    {α : Type}
    (config : Config)
    (interner : Interner)
    (path : String)
    (place : Option Container)
    (node : Json)
    (x : Reader α) : Prop where
  blames : Blames config interner path place node x
  keeps : (x interner).2 = interner

variable {α β : Type}

theorem checks_pure
    (a : α) :
    Checks config interner path place node
      (pure a : Reader α) where
  blames := fun e hError => by cases hError
  keeps := rfl

theorem checks_throw
    {e : StructuredError}
    (hOffends : Offends config interner path place node e) :
    Checks config interner path place node
      (throw (.refused e) : Reader α) where
  blames := fun d hError => by
    cases hError
    exact hOffends.blamed
  keeps := rfl

/- What follows a check starts with the same interner. -/
theorem Checks.blames_bind
    {x : Reader α}
    {f : α → Reader β}
    (hFirst : Checks config interner path place node x)
    (hNext :
      ∀ a,
        (x interner).1 = .ok a →
          Blames config interner path place node (f a)) :
    Blames config interner path place node (x >>= f) := by
  intro e hError
  rcases Action.run_bind_error_cases hError with
    hHere | ⟨a, hOk, hLater⟩
  · exact hFirst.blames e hHere
  · rw [hFirst.keeps] at hLater
    exact hNext a hOk e hLater

theorem Checks.bind
    {x : Reader α}
    {f : α → Reader β}
    (hFirst : Checks config interner path place node x)
    (hNext :
      ∀ a, Checks config interner path place node (f a)) :
    Checks config interner path place node (x >>= f) where
  blames := hFirst.blames_bind fun a _ => (hNext a).blames
  keeps := by
    have hKeeps := hFirst.keeps
    rw [Action.run_bind]
    revert hKeeps
    rcases x interner with ⟨result, after⟩
    rintro rfl
    cases result with
    | ok a => exact (hNext a).keeps
    | error e => rfl

/- What passes validation is interned without failing. -/
theorem blames_internRead
    {built : Except TypeRef.BuildError TypeRef}
    (hBuilt : ∃ r, built = .ok r) :
    Blames config interner path place node
      (internRead config built) := by
  rcases hBuilt with ⟨r, rfl⟩
  intro e hError
  cases hError

/- So it is when it is put together from what was read. -/
theorem Blames.bind_internRead
    {x : Reader α}
    {build : α → Except TypeRef.BuildError TypeRef}
    (hFirst : Blames config interner path place node x)
    (hBuilds :
      ∀ a, (x interner).1 = .ok a → ∃ r, build a = .ok r) :
    Blames config interner path place node
      (x >>= fun a => internRead config (build a)) := by
  intro e hError
  rcases Action.run_bind_error_cases hError with
    hHere | ⟨a, hOk, hLater⟩
  · exact hFirst e hHere
  · rcases hBuilds a hOk with ⟨r, hBuilt⟩
    rw [hBuilt] at hLater
    cases hLater

end Structured

end DeclaredApi

------------------------------------------------------------
-- Checks of Keys
------------------------------------------------------------

namespace DeclaredApi

namespace Structured

variable {config : Config}
variable {interner : Interner}
variable {path base : String}
variable {place : Option Container}
variable {fields : List (String × Json)}

/- The value under a key is refused. -/
theorem checks_refuse
    {α : Type}
    {key expected : String}
    {actual : Json}
    (hBase : fields.lookup baseKey = some (.str base))
    (hBad : BadValue fields base key expected actual) :
    Checks config interner path place (.object fields)
      (refuse path key expected actual : Reader α) :=
  checks_throw (Offends.badValue hBase hBad)

theorem checks_refuseKey
    {key expected : String}
    (hBase : fields.lookup baseKey = some (.str base))
    (hKey :
      (key, expected) ∈ (readingOf fields base).forbidden) :
    Checks config interner path place (.object fields)
      (refuseKey path key expected fields) := by
  unfold refuseKey
  split
  · exact checks_pure ()
  · next value hLookup =>
      exact checks_refuse hBase (.forbidden hKey hLookup)

theorem checks_refuseWildcardKeys
    (hBase : fields.lookup baseKey = some (.str base))
    (hReading : readingOf fields base = .named) :
    Checks config interner path place (.object fields)
      (refuseWildcardKeys path fields) := by
  unfold refuseWildcardKeys
  apply (checks_refuseKey hBase (by simp [hReading,
    Reading.forbidden])).bind
  intro _
  apply (checks_refuseKey hBase (by simp [hReading,
    Reading.forbidden])).bind
  intro _
  exact checks_refuseKey hBase (by simp [hReading,
    Reading.forbidden])

theorem checks_checkGeneric
    (hBase : fields.lookup baseKey = some (.str base)) :
    Checks config interner path place (.object fields)
      (checkGeneric path fields) := by
  unfold checkGeneric
  split
  · exact checks_pure ()
  · exact checks_pure ()
  · next value hKind hLookup =>
      apply checks_refuse hBase
      exact .flag hLookup fun flag hEq => hKind flag hEq

theorem checks_readRelation
    (hBase : fields.lookup baseKey = some (.str base))
    (hReading : readingOf fields base = .wildcard) :
    Checks config interner path place (.object fields)
      (readRelation path fields) := by
  unfold readRelation
  split
  · exact checks_pure _
  · next word hLookup =>
      split
      · exact checks_pure _
      · next hWord =>
          exact checks_refuse hBase
            (.direction hReading hLookup hWord)
  · next value hKind hLookup =>
      apply checks_refuse hBase
      exact .relation hReading hLookup
        fun word hEq => hKind word hEq

/- A direction is that of the word under the key. -/
theorem lookup_of_readRelation
    {relation : BoundRelation}
    (hRead :
      (readRelation path fields interner).1 = .ok relation) :
    fields.lookup relationKey = none ∧ relation = .upper ∨
      fields.lookup relationKey = some (.str relation.word) := by
  unfold readRelation at hRead
  cases hLookup : fields.lookup relationKey with
  | none =>
      rw [hLookup] at hRead
      cases hRead
      exact Or.inl ⟨rfl, rfl⟩
  | some value =>
      rw [hLookup] at hRead
      cases value with
      | str word =>
          cases hWord : BoundRelation.ofWord? word with
          | none =>
              simp only [hWord] at hRead
              cases hRead
          | some found =>
              simp only [hWord] at hRead
              cases hRead
              rw [BoundRelation.eq_word_of_ofWord? hWord]
              exact Or.inr rfl
      | null | bool _ | int _ | float _ | list _ | object _
      | foreign _ _ => cases hRead

theorem checks_readBase
    (hBase : fields.lookup baseKey = some (.str base))
    (hReading : readingOf fields base = .named) :
    Checks config interner path place (.object fields)
      (readBase path base) := by
  unfold readBase
  simp only
  split
  · exact checks_pure _
  · next hName =>
      apply checks_refuse hBase
      exact .name hReading (Bool.eq_false_iff.mpr hName)

/- A base is read as a name without spaces. -/
theorem eq_of_readBase
    {name : String}
    (hRead : (readBase path base interner).1 = .ok name) :
    name = Text.withoutSpaces base ∧
      Name.isBase name = true := by
  by_cases hName : Name.isBase (Text.withoutSpaces base) = true
  · rw [readBase, if_pos hName] at hRead
    cases hRead
    exact ⟨rfl, hName⟩
  · rw [readBase, if_neg hName] at hRead
    cases hRead

end Structured

end DeclaredApi

------------------------------------------------------------
-- Items
------------------------------------------------------------

namespace DeclaredApi

namespace Structured

variable {config : Config}
variable {interner : Interner}

/- A form is blamed for its failures wherever it stands. -/
def Blameable
    (config : Config)
    (node : Json) : Prop :=
  ∀ interner path place,
    Blames config interner path place node
      (readNode config path node)

/-
  Items that are not read have a first one that is blamed,
  and the items before it are accepted.
-/
theorem blamed_of_readItems
    {items : List Json}
    {index : Nat}
    {path : String}
    {e : Failure}
    (container : Container)
    (hItems : ∀ item ∈ items, Blameable config item)
    (hError :
      (readItems config path container.isPlain index items
        interner).1 = .error e) :
    ∃ earlier item later between,
      items = earlier ++ item :: later ∧
        Passes config path container.isPlain index interner
            earlier between ∧
          Blamed config between
            (itemPath path (index + earlier.length))
            (some container) item e := by
  induction items generalizing index interner with
  | nil =>
      rw [readItems] at hError
      cases hError
  | cons item rest ih =>
      rw [List.forall_mem_cons] at hItems
      rw [readItems] at hError
      rcases Action.run_bind_error_cases hError with
        hHere | ⟨r, hRead, hLater⟩
      · exact ⟨[], item, rest, interner, rfl,
          Passes.nil index interner, hItems.1 _ _ _ e hHere⟩
      · split at hLater
        · next hWildcard =>
            -- the item was read, but not as a plain one
            cases hLater
            rw [Bool.and_eq_true] at hWildcard
            have hBounds : some container = some .bounds := by
              cases container with
              | parameters => cases hWildcard.1
              | bounds => rfl
            exact ⟨[], item, rest, interner, rfl,
              Passes.nil index interner,
              (Offends.wildcard hBounds hRead
                hWildcard.2).blamed⟩
        · next hPlain =>
            rcases Action.run_bind_error_cases hLater with
              hRest | ⟨rs, _, hPure⟩
            · rcases ih hItems.2 hRest with
                ⟨earlier, other, later, between, rfl, hPasses,
                  hBlamed⟩
              refine ⟨item :: earlier, other, later, between,
                rfl, ?_, ?_⟩
              · apply Passes.cons (Prod.ext hRead rfl) _ hPasses
                intro hTrue
                simpa [hTrue] using hPlain
              · rw [List.length_cons, Nat.add_comm earlier.length,
                  ← Nat.add_assoc]
                exact hBlamed
            · cases hPure

variable {path : String}
variable {place : Option Container}
variable {fields : List (String × Json)}

/- The object is blamed for the items of its lists. -/
theorem blames_readListAt
    {items : List Json}
    (container : Container)
    (hItems : ∀ item ∈ items, Blameable config item)
    (hPresent :
      present? container.key fields = some (.list items)) :
    Blames config interner path place (.object fields)
      (readListAt config path container.key container.isPlain
        fields) := by
  intro e hError
  rw [readListAt_of_present path _ hPresent] at hError
  rcases blamed_of_readItems container hItems hError with
    ⟨earlier, item, later, between, rfl, hPasses, hBlamed⟩
  rw [Nat.zero_add] at hBlamed
  exact hBlamed.step container (lookup_of_present hPresent)
    hPasses

end Structured

end DeclaredApi

------------------------------------------------------------
-- Objects and Nodes
------------------------------------------------------------

namespace DeclaredApi

namespace Structured

variable {config : Config}
variable {interner : Interner}
variable {path base : String}
variable {place : Option Container}
variable {fields : List (String × Json)}

/- Items that are read as bounds make a wildcard. -/
theorem exists_ofBounds
    {item : Json}
    {rest : List Json}
    {rs : List TypeRef}
    (relation : BoundRelation)
    (hPresent :
      present? boundsKey fields = some (.list (item :: rest)))
    (hRead :
      (readListAt config path boundsKey true fields
        interner).1 = .ok rs) :
    ∃ r, TypeRef.ofBounds relation rs = .ok r := by
  rw [readListAt_of_present path true hPresent] at hRead
  refine ⟨.wildcard relation rs,
    TypeRef.ofBounds_eq_ok_iff.mpr ⟨?_, ?_, rfl⟩⟩
  · rintro rfl
    cases length_of_readItems hRead
  · exact isWildcard_of_readItems hRead

/- Items that are read as arguments make a named type. -/
theorem exists_ofBase
    {items : List Json}
    {rs : List TypeRef}
    (hName : Name.isBase base = true)
    (hPresent :
      present? parametersKey fields = some (.list items))
    (hAllowed :
      ¬ (!items.isEmpty && Name.isPrimitiveFamily base) = true)
    (hRead :
      (readListAt config path parametersKey false fields
        interner).1 = .ok rs) :
    ∃ r, TypeRef.ofBase base rs = .ok r := by
  rw [readListAt_of_present path false hPresent] at hRead
  refine ⟨_, TypeRef.ofBase_eq_ok_iff.mpr ⟨hName, ?_, rfl⟩⟩
  intro hPrimitive
  have hItems : items = [] := by
    simpa [Name.isPrimitiveFamily, hPrimitive] using hAllowed
  have hLength := length_of_readItems hRead
  rw [hItems] at hLength
  exact List.eq_nil_of_length_eq_zero hLength

theorem blames_wildcardOf
    (hBase : fields.lookup baseKey = some (.str base))
    (hReading : readingOf fields base = .wildcard)
    (hBounds :
      ∀ items,
        present? boundsKey fields = some (.list items) →
          Blames config interner path place (.object fields)
            (readListAt config path boundsKey true fields)) :
    Blames config interner path place (.object fields)
      (wildcardOf config path fields
        (readListAt config path boundsKey true fields)) := by
  unfold wildcardOf
  apply (checks_refuseKey hBase (by simp [hReading,
    Reading.forbidden])).blames_bind
  intro _ _
  apply (checks_readRelation hBase hReading).blames_bind
  intro relation hRelation
  split
  · next hNone =>
      split
      · next hLower =>
          -- only a word makes the direction a lower one
          subst hLower
          have hWord :=
            (lookup_of_readRelation hRelation).resolve_left
              (fun hUpper => by cases hUpper.2)
          exact (checks_throw (Offends.missingBounds hBase
            hReading hWord hNone)).blames
      · next hUpper =>
          apply blames_internRead
          cases relation with
          | upper =>
              exact ⟨_, TypeRef.ofBounds_root
                config.rootObject_isDotted⟩
          | lower => exact absurd rfl hUpper
  · next item rest hPresent =>
      apply (hBounds _ hPresent).bind_internRead
      exact fun rs => exists_ofBounds relation hPresent
  · next value hKind hPresent =>
      apply (checks_refuse hBase _).blames
      exact .bounds hReading hPresent
        fun item rest hEq => hKind item rest hEq

theorem blames_namedOf
    (hBase : fields.lookup baseKey = some (.str base))
    (hReading : readingOf fields base = .named)
    (hArguments :
      ∀ items,
        present? parametersKey fields = some (.list items) →
          Blames config interner path place (.object fields)
            (readListAt config path parametersKey false
              fields)) :
    Blames config interner path place (.object fields)
      (namedOf config path base fields
        (readListAt config path parametersKey false fields)) := by
  unfold namedOf
  apply (checks_readBase hBase hReading).blames_bind
  intro name hRead
  rcases eq_of_readBase hRead with ⟨rfl, hName⟩
  apply (checks_refuseWildcardKeys hBase hReading).blames_bind
  intro _ _
  split
  · apply blames_internRead
    exact ⟨_, TypeRef.ofBase_eq_ok_iff.mpr
      ⟨hName, fun _ => rfl, rfl⟩⟩
  · next items hPresent =>
      split
      · next hPrimitive =>
          rw [Bool.and_eq_true] at hPrimitive
          apply (checks_refuse hBase _).blames
          exact .primitive hReading hPresent
            (by simpa using hPrimitive.1) hPrimitive.2
      · next hAllowed =>
          apply (hArguments items hPresent).bind_internRead
          exact fun rs => exists_ofBase hName hPresent hAllowed
  · next value hKind hPresent =>
      apply (checks_refuse hBase _).blames
      exact .parameters hReading hPresent
        fun items hEq => hKind items hEq

/- A text is blamed for what parsing it fails with. -/
theorem blames_readSignature
    (text : String) :
    Blames config interner path place (.str text)
      (readSignature config text) := by
  intro e hError
  unfold readSignature at hError
  split at hError
  · cases hError
  · next error after hParse =>
      cases hError
      exact (Offends.text (congrArg Prod.fst hParse)).blamed

/- A base that stands for a whole form is blamed for it. -/
theorem blames_readLoneBase
    (hBase : fields.lookup baseKey = some (.str base))
    (hReading : readingOf fields base = .signature) :
    Blames config interner path place (.object fields)
      (readLoneBase config path base) := by
  intro e hError
  unfold readLoneBase at hError
  split at hError
  · cases hError
  · next error after hParse =>
      cases hError
      exact (Offends.signature hBase hReading
        (congrArg Prod.fst hParse)).blamed

/-
  A form that is not read is refused for the fault of a part.
  The items below an object are parts of its fields, as the
  forms in which they are read are.
-/
theorem blamed_of_readNode
    (node : Json) :
    Blameable config node := by
  induction node using inductionOnForms with
  | text text =>
      intro interner path place
      rw [readNode]
      exact blames_readSignature text
  | object fields ih =>
      intro interner path place
      have hItems :
          ∀ container items,
            present? (Container.key container) fields =
                some (.list items) →
              Blames config interner path place
                (.object fields)
                (readListAt config path container.key
                  container.isPlain fields) :=
        fun container items hPresent =>
          blames_readListAt container
            (ih container.key items hPresent) hPresent
      cases hLookup : fields.lookup baseKey with
      | none =>
          rw [readNode, hLookup]
          exact (checks_throw
            (Offends.missingBase hLookup)).blames
      | some value =>
          by_cases hText : ∃ base, value = .str base
          · rcases hText with ⟨base, rfl⟩
            rw [readNode_of_base path hLookup]
            apply (checks_checkGeneric hLookup).blames_bind
            intro _ _
            cases hReading : readingOf fields base with
            | signature =>
                exact blames_readLoneBase hLookup hReading
            | wildcard =>
                exact blames_wildcardOf hLookup hReading
                  (hItems .bounds)
            | named =>
                exact blames_namedOf hLookup hReading
                  (hItems .parameters)
          · have hKind : ∀ base, value ≠ .str base :=
              fun base hEq => hText ⟨base, hEq⟩
            rw [readNode_of_badBase path hLookup hKind]
            exact (checks_throw
              (Offends.base hLookup hKind)).blames
  | other value hText hObject =>
      intro interner path place
      rw [readNode_of_other path hText hObject]
      exact (checks_throw
        (Offends.otherKind hText hObject)).blames

end Structured

end DeclaredApi
