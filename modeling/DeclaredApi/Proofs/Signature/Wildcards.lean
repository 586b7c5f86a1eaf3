import Mathlib.Data.List.Forall2
import DeclaredApi.Proofs.Signature.Interning

/-
  Wildcards by their positions.

  A path leads to a part of a reference: each step takes one
  of the type arguments or of the bounds.  A bare question
  mark of a text becomes the unbounded wildcard of the root
  object type, at the same position.

  Main declarations:
    * `TypeRef.part?`
    * `TypeRef.UnboundedAt`
    * `TypeRef.UnboundedAt.ofParts`
    * `Phrase.BareAt`
    * `Phrase.unboundedAt_tree`
    * `Signature.UnconstrainedAt`
    * `Signature.Means.unboundedAt`
-/

------------------------------------------------------------
-- Parts of References
------------------------------------------------------------

namespace DeclaredApi

namespace TypeRef

/- The type arguments or the bounds of a reference. -/
def parts : TypeRef → List TypeRef
| .simple _ _ arguments => arguments
| .wildcard _ bounds => bounds

/- The part at the end of a path. -/
def part? : List Nat → TypeRef → Option TypeRef
| [], r => some r
| i :: path, r => r.parts[i]?.bind (part? path)

/-
  The unbounded wildcard of the root stands at each of some
  positions.
-/
def UnboundedAt
    (root : String)
    (positions : List Nat → Prop)
    (r : TypeRef) : Prop :=
  ∀ path,
    positions path → r.part? path = some (.unbounded root)

variable {root : String}
variable {positions : List Nat → Prop}

/- The unbounded wildcard itself is at the start. -/
theorem unboundedAt_unbounded
    (hStart : ∀ path, positions path → path = []) :
    (unbounded root).UnboundedAt root positions := by
  intro path hPath
  rw [hStart path hPath]
  rfl

/- The part of an index is made from the source there. -/
theorem part?_cons_of_parts
    {α : Type}
    {r : TypeRef}
    {sources : List α}
    {inside : α → List Nat → Prop}
    {i : Nat}
    {source : α}
    {path : List Nat}
    (hParts :
      List.Forall₂
        (fun source part => part.UnboundedAt root (inside source))
        sources r.parts)
    (hSource : sources[i]? = some source)
    (hInside : inside source path) :
    r.part? (i :: path) = some (.unbounded root) := by
  rcases List.getElem?_eq_some_iff.mp hSource with
    ⟨hLess, rfl⟩
  have hLess' : i < r.parts.length :=
    hParts.length_eq ▸ hLess
  rw [part?, List.getElem?_eq_getElem hLess', Option.bind_some]
  exact hParts.get hLess hLess' path hInside

/- Positions in a part follow the index of the part. -/
theorem UnboundedAt.ofParts
    {α : Type}
    {r : TypeRef}
    {sources : List α}
    {inside : α → List Nat → Prop}
    (hParts :
      List.Forall₂
        (fun source part => part.UnboundedAt root (inside source))
        sources r.parts)
    (hPositions :
      ∀ path,
        positions path →
          ∃ i rest source,
            path = i :: rest ∧
              sources[i]? = some source ∧ inside source rest) :
    r.UnboundedAt root positions := by
  intro path hPath
  rcases hPositions path hPath with
    ⟨i, rest, source, rfl, hSource, hInside⟩
  exact part?_cons_of_parts hParts hSource hInside

end TypeRef

end DeclaredApi

------------------------------------------------------------
-- Phrases
------------------------------------------------------------

namespace DeclaredApi

namespace Phrase

/- A bare question mark stands at a position of a phrase. -/
inductive BareAt : Phrase → List Nat → Prop
| bare : BareAt .bare []
| bound
    {relation : BoundRelation}
    {bound p : Phrase}
    {bounds : List Phrase}
    {i : Nat}
    {path : List Nat}
    (hBound : (bound :: bounds)[i]? = some p)
    (hInside : BareAt p path) :
    BareAt (.bounded relation bound bounds) (i :: path)
| argument
    {word : String}
    {words : List String}
    {arguments : List Phrase}
    {dimensions i : Nat}
    {p : Phrase}
    {path : List Nat}
    (hArgument : arguments[i]? = some p)
    (hInside : BareAt p path) :
    BareAt (.named word words arguments dimensions) (i :: path)

/- Every bare question mark stands for the root. -/
theorem unboundedAt_tree
    (root : String)
    (p : Phrase) :
    (p.tree root).UnboundedAt root p.BareAt := by
  have hAll :
      ∀ ps : List Phrase,
        (∀ p ∈ ps, (p.tree root).UnboundedAt root p.BareAt) →
          List.Forall₂
            (fun p r => r.UnboundedAt root p.BareAt) ps
            (treeAll root ps) := by
    intro ps
    induction ps with
    | nil => exact fun _ => .nil
    | cons p ps ih =>
        intro hEach
        rw [List.forall_mem_cons] at hEach
        exact .cons hEach.1 (ih hEach.2)
  induction p with
  | bare =>
      apply TypeRef.unboundedAt_unbounded
      rintro path ⟨⟩
      rfl
  | bounded relation bound bounds ihBound ihBounds =>
      apply TypeRef.UnboundedAt.ofParts
        (hAll (bound :: bounds)
          (List.forall_mem_cons.mpr ⟨ihBound, ihBounds⟩))
      rintro path ⟨⟩
      exact ⟨_, _, _, rfl, ‹_›, ‹_›⟩
  | named word words arguments dimensions ih =>
      apply TypeRef.UnboundedAt.ofParts (hAll arguments ih)
      rintro path ⟨⟩
      exact ⟨_, _, _, rfl, ‹_›, ‹_›⟩

end Phrase

end DeclaredApi

------------------------------------------------------------
-- Texts
------------------------------------------------------------

namespace DeclaredApi

namespace Signature

/-
  A text that the grammar derives has a bare question mark at
  a position.
-/
def UnconstrainedAt
    (text : String)
    (path : List Nat) : Prop :=
  ∃ (p : Phrase) (limit : Nat),
    p.Derives limit text ∧ p.BareAt path

/- What a text means has the root at these positions. -/
theorem Means.unboundedAt
    {root text : String}
    {r : TypeRef}
    (hMeans : Means root text r) :
    r.UnboundedAt root (UnconstrainedAt text) := by
  rintro path ⟨p, limit, hDerives, hBare⟩
  have hTree : Means root text (p.tree root) :=
    ⟨limit, read_eq_ok_iff.mpr ⟨p, hDerives, rfl⟩⟩
  rw [hMeans.unique hTree]
  exact p.unboundedAt_tree root path hBare

end Signature

end DeclaredApi
