import DeclaredApi.Proofs.Declaration.Variables
import DeclaredApi.Proofs.Signature.Scanning

/-
  Declared types as source code spells them.

  A spelling has array brackets after the arguments and only
  shows the bounds of a wildcard that are read, which are the
  lower ones if there are any.  The spelling of a type is the
  text of a phrase, so the grammar has one tree for it.

  Main declarations:
    * `DeclaredType.spelling`
    * `DeclaredType.Spellable`
    * `DeclaredType.nesting`
    * `DeclaredType.readVariables`
    * `DeclaredType.spelling_addDimensions`
    * `DeclaredType.mem_spelling_of_mem_readVariables`
    * `DeclaredType.phrase`
    * `DeclaredType.text_phrase`
    * `DeclaredType.grammatical_phrase`
    * `DeclaredType.read_spelling`
-/

------------------------------------------------------------
-- Spellings
------------------------------------------------------------

namespace DeclaredApi

namespace DeclaredType

/- A declared type that is a wildcard. -/
def isWildcard : DeclaredType → Bool
| .wildcard _ _ => true
| _ => false

mutual

/- A declared type as source code writes it. -/
def spelling : DeclaredType → String
| .named name dimensions _ =>
    name ++ Name.brackets dimensions
| .applied name dimensions _ arguments =>
    name ++ "<" ++ ", ".intercalate (spellingAll arguments) ++
      ">" ++ Name.brackets dimensions
| .arrayOf component => spelling component ++ "[]"
| .wildcard [] [] => "?"
| .wildcard (t :: ts) [] =>
    "? extends " ++ " & ".intercalate (spellingAll (t :: ts))
| .wildcard _ (t :: ts) =>
    "? super " ++ " & ".intercalate (spellingAll (t :: ts))
| .typeVariable name => name
| .unsupported => ""

/- The spellings of a list of declared types. -/
def spellingAll : List DeclaredType → List String
| [] => []
| t :: ts => spelling t :: spellingAll ts

end

mutual

/-
  What source code can write: names are dotted, an argument
  list has arguments and no primitive name in front of it,
  and neither a component nor a bound is a wildcard.
-/
def Spellable : DeclaredType → Prop
| .named name _ _ => Name.isDotted name = true
| .applied name _ _ arguments =>
    Name.isDotted name = true ∧
      Name.isPrimitive name = false ∧
      arguments ≠ [] ∧ AllSpellable arguments
| .arrayOf component =>
    component.isWildcard = false ∧ Spellable component
| .wildcard [] [] => True
| .wildcard (t :: ts) [] =>
    (∀ b ∈ t :: ts, b.isWildcard = false) ∧
      AllSpellable (t :: ts)
| .wildcard _ (t :: ts) =>
    (∀ b ∈ t :: ts, b.isWildcard = false) ∧
      AllSpellable (t :: ts)
| .typeVariable _ => True
| .unsupported => False

/- Every declared type of a list can be written. -/
def AllSpellable : List DeclaredType → Prop
| [] => True
| t :: ts => Spellable t ∧ AllSpellable ts

end

mutual

/- How deep type arguments are nested in a declared type. -/
def nesting : DeclaredType → Nat
| .named _ _ _ => 0
| .applied _ _ _ arguments => 1 + nestingAll arguments
| .arrayOf component => nesting component
| .wildcard [] [] => 0
| .wildcard (t :: ts) [] => nestingAll (t :: ts)
| .wildcard _ (t :: ts) => nestingAll (t :: ts)
| .typeVariable _ => 0
| .unsupported => 0

/- The deepest nesting in a list of declared types. -/
def nestingAll : List DeclaredType → Nat
| [] => 0
| t :: ts => max (nesting t) (nestingAll ts)

end

mutual

/-
  The variables that a spelling shows, from left to right.
  Unlike `mentions` it leaves out carried parameters and
  upper bounds that stand beside lower ones.
-/
def readVariables : DeclaredType → List String
| .named _ _ _ => []
| .applied _ _ _ arguments => readVariablesAll arguments
| .arrayOf component => readVariables component
| .wildcard [] [] => []
| .wildcard (t :: ts) [] => readVariablesAll (t :: ts)
| .wildcard _ (t :: ts) => readVariablesAll (t :: ts)
| .typeVariable name => [name]
| .unsupported => []

/- The variables of a list of spellings. -/
def readVariablesAll : List DeclaredType → List String
| [] => []
| t :: ts => readVariables t ++ readVariablesAll ts

end

theorem spellingAll_eq_map
    (ts : List DeclaredType) :
    spellingAll ts = ts.map spelling := by
  induction ts with
  | nil => rfl
  | cons t ts ih => simp [spellingAll, ih]

theorem allSpellable_iff
    (ts : List DeclaredType) :
    AllSpellable ts ↔ ∀ t ∈ ts, Spellable t := by
  induction ts with
  | nil => simp [AllSpellable]
  | cons t ts ih => simp [AllSpellable, ih]

theorem nestingAll_le_iff
    (ts : List DeclaredType)
    (depth : Nat) :
    nestingAll ts ≤ depth ↔ ∀ t ∈ ts, nesting t ≤ depth := by
  induction ts with
  | nil => simp [nestingAll]
  | cons t ts ih =>
      rw [nestingAll, Nat.max_le, ih, List.forall_mem_cons]

theorem mem_readVariablesAll
    {ts : List DeclaredType}
    {v : String} :
    v ∈ readVariablesAll ts ↔ ∃ t ∈ ts, v ∈ readVariables t := by
  induction ts with
  | nil => simp [readVariablesAll]
  | cons t ts ih => simp [readVariablesAll, ih]

end DeclaredType

end DeclaredApi

------------------------------------------------------------
-- Bounds of Spellings
------------------------------------------------------------

namespace DeclaredApi

namespace DeclaredType

variable {upper lower ts : List DeclaredType}
variable {relation : BoundRelation}
variable {t : DeclaredType}

/- A wildcard shows the bounds that are read, and no others. -/
theorem ReadsBounds.spelling_eq
    (hReads : ReadsBounds upper lower relation t ts) :
    (wildcard upper lower).spelling =
      "? " ++ relation.word ++ " " ++
        " & ".intercalate (spellingAll (t :: ts)) := by
  cases hReads <;> rw [spelling] <;> rfl

theorem ReadsBounds.spellable_iff
    (hReads : ReadsBounds upper lower relation t ts) :
    (wildcard upper lower).Spellable ↔
      (∀ b ∈ t :: ts, b.isWildcard = false) ∧
        AllSpellable (t :: ts) := by
  cases hReads <;> rw [Spellable]

theorem ReadsBounds.nesting_eq
    (hReads : ReadsBounds upper lower relation t ts) :
    (wildcard upper lower).nesting = nestingAll (t :: ts) := by
  cases hReads <;> rw [nesting]

theorem ReadsBounds.readVariables_eq
    (hReads : ReadsBounds upper lower relation t ts) :
    (wildcard upper lower).readVariables =
      readVariablesAll (t :: ts) := by
  cases hReads <;> rw [readVariables]

end DeclaredType

end DeclaredApi

------------------------------------------------------------
-- Dimensions of Spellings
------------------------------------------------------------

namespace DeclaredApi

namespace DeclaredType

/- Array layers are spelled as brackets after the type. -/
theorem spelling_layered
    (count : Nat)
    (t : DeclaredType) :
    (layered count t).spelling =
      t.spelling ++ Name.brackets count := by
  induction count generalizing t with
  | zero => rw [layered, Name.brackets, String.append_empty]
  | succ count ih =>
      rw [layered, ih, spelling, Name.brackets,
        String.append_assoc]

/- So are the dimensions of a bare class. -/
theorem spelling_addDimensions
    (count : Nat)
    (t : DeclaredType) :
    (t.addDimensions count).spelling =
      t.spelling ++ Name.brackets count := by
  rcases addDimensions_cases count t with
    ⟨name, dimensions, parameters, rfl, hNamed⟩ | hLayered
  · rw [hNamed, spelling, spelling, Name.brackets_add,
      String.append_assoc]
  · rw [hLayered, spelling_layered]

/- Dimensions are put on what is no wildcard. -/
theorem Spellable.addDimensions
    {t : DeclaredType}
    (count : Nat)
    (hSpellable : t.Spellable)
    (hPlain : t.isWildcard = false) :
    (t.addDimensions count).Spellable ∧
      (t.addDimensions count).isWildcard = false := by
  have hLayers :
      ∀ u : DeclaredType, u.Spellable → u.isWildcard = false →
        (layered count u).Spellable ∧
          (layered count u).isWildcard = false := by
    induction count with
    | zero => exact fun u hU hPlain => ⟨hU, hPlain⟩
    | succ count ih =>
        intro u hU hPlain
        exact ih (.arrayOf u)
          (by rw [Spellable]; exact ⟨hPlain, hU⟩) rfl
  rcases addDimensions_cases count t with
    ⟨name, dimensions, parameters, rfl, hNamed⟩ | hLayered
  · rw [Spellable] at hSpellable
    rw [hNamed, Spellable]
    exact ⟨hSpellable, rfl⟩
  · rw [hLayered]
    exact hLayers t hSpellable hPlain

theorem nesting_addDimensions
    (count : Nat)
    (t : DeclaredType) :
    (t.addDimensions count).nesting = t.nesting := by
  have hLayers :
      ∀ u : DeclaredType, (layered count u).nesting = u.nesting := by
    induction count with
    | zero => exact fun u => rfl
    | succ count ih => exact fun u => ih (.arrayOf u)
  rcases addDimensions_cases count t with
    ⟨name, dimensions, parameters, rfl, hNamed⟩ | hLayered
  · rw [hNamed, nesting, nesting]
  · rw [hLayered, hLayers]

theorem readVariables_addDimensions
    (count : Nat)
    (t : DeclaredType) :
    (t.addDimensions count).readVariables = t.readVariables := by
  have hLayers :
      ∀ u : DeclaredType,
        (layered count u).readVariables = u.readVariables := by
    induction count with
    | zero => exact fun u => rfl
    | succ count ih => exact fun u => ih (.arrayOf u)
  rcases addDimensions_cases count t with
    ⟨name, dimensions, parameters, rfl, hNamed⟩ | hLayered
  · rw [hNamed, readVariables, readVariables]
  · rw [hLayered, hLayers]

end DeclaredType

end DeclaredApi

------------------------------------------------------------
-- Characters of Spellings
------------------------------------------------------------

namespace DeclaredApi

namespace DeclaredType

/- The variables of a spelling stand in it. -/
theorem mem_spelling_of_mem_readVariables
    {t : DeclaredType}
    {v : String}
    {c : Char}
    (hVariable : v ∈ t.readVariables)
    (hMem : c ∈ v.toList) :
    c ∈ t.spelling.toList := by
  have hJoined :
      ∀ ts : List DeclaredType, ∀ separator : String,
        (∀ u ∈ ts, v ∈ u.readVariables →
          c ∈ u.spelling.toList) →
          v ∈ readVariablesAll ts →
            c ∈ (separator.intercalate
              (spellingAll ts)).toList := by
    intro ts separator hEach hV
    rcases mem_readVariablesAll.mp hV with ⟨u, hu, hV⟩
    rw [spellingAll_eq_map]
    exact Name.mem_toList_intercalate (List.mem_map_of_mem hu)
      (hEach u hu hV)
  induction t using inductionOnRead with
  | named name dimensions parameters =>
      rw [readVariables] at hVariable
      cases hVariable
  | applied name dimensions parameters arguments ih =>
      rw [readVariables] at hVariable
      have hInside := hJoined arguments ", " ih hVariable
      rw [spelling]
      simp only [String.toList_append, List.mem_append, hInside,
        true_or, or_true]
  | arrayOf component ih =>
      rw [readVariables] at hVariable
      rw [spelling, String.toList_append]
      exact List.mem_append_left _ (ih hVariable)
  | unbounded =>
      rw [readVariables] at hVariable
      cases hVariable
  | @bounded _ _ _ u us hReads ih =>
      rw [hReads.readVariables_eq] at hVariable
      rw [hReads.spelling_eq, String.toList_append]
      exact List.mem_append_right _
        (hJoined (u :: us) " & " ih hVariable)
  | typeVariable name =>
      rw [readVariables, List.mem_singleton] at hVariable
      rw [spelling, ← hVariable]
      exact hMem
  | unsupported =>
      rw [readVariables] at hVariable
      cases hVariable

end DeclaredType

end DeclaredApi

------------------------------------------------------------
-- Phrases of Declared Types
------------------------------------------------------------

namespace DeclaredApi

namespace DeclaredType

mutual

/-
  The phrase that a declared type is spelled as.  A variable
  may have brackets in its name.
-/
def phrase : DeclaredType → Phrase
| .named name dimensions _ => .ofName name [] dimensions
| .applied name dimensions _ arguments =>
    .ofName name (phraseAll arguments) dimensions
| .arrayOf component => (phrase component).addDimensions 1
| .wildcard [] [] => .bare
| .wildcard (t :: ts) [] =>
    .bounded .upper (phrase t) (phraseAll ts)
| .wildcard _ (t :: ts) =>
    .bounded .lower (phrase t) (phraseAll ts)
| .typeVariable name =>
    .ofName (Name.splitDimensions name).1 []
      (Name.splitDimensions name).2
| .unsupported => .bare

/- The phrases that a list of declared types is spelled as. -/
def phraseAll : List DeclaredType → List Phrase
| [] => []
| t :: ts => phrase t :: phraseAll ts

end

theorem ReadsBounds.phrase_eq
    {upper lower ts : List DeclaredType}
    {relation : BoundRelation}
    {t : DeclaredType}
    (hReads : ReadsBounds upper lower relation t ts) :
    (wildcard upper lower).phrase =
      .bounded relation t.phrase (phraseAll ts) := by
  cases hReads <;> rw [phrase]

theorem phraseAll_eq_map
    (ts : List DeclaredType) :
    phraseAll ts = ts.map phrase := by
  induction ts with
  | nil => rfl
  | cons t ts ih => simp [phraseAll, ih]

/- Only a wildcard is spelled as one. -/
theorem isNamed_phrase
    {t : DeclaredType}
    (hSpellable : t.Spellable)
    (hPlain : t.isWildcard = false) :
    t.phrase.isNamed = true := by
  induction t with
  | named name dimensions parameters =>
      rw [phrase, Phrase.isNamed_ofName]
  | applied name dimensions parameters arguments =>
      rw [phrase, Phrase.isNamed_ofName]
  | arrayOf component ih =>
      rw [Spellable] at hSpellable
      rw [phrase, Phrase.isNamed_addDimensions]
      exact ih hSpellable.2 hSpellable.1
  | wildcard upper lower => simp [isWildcard] at hPlain
  | typeVariable name => rw [phrase, Phrase.isNamed_ofName]
  | unsupported => simp [Spellable] at hSpellable

/- The phrases of plain types are named. -/
theorem isNamed_of_mem_map_phrase
    {ts : List DeclaredType}
    (hSpellable : AllSpellable ts)
    (hPlain : ∀ t ∈ ts, t.isWildcard = false) :
    ∀ p ∈ ts.map phrase, p.isNamed = true := by
  rw [allSpellable_iff] at hSpellable
  intro p hp
  rcases List.mem_map.mp hp with ⟨t, ht, rfl⟩
  exact isNamed_phrase (hSpellable t ht) (hPlain t ht)

end DeclaredType

end DeclaredApi

------------------------------------------------------------
-- Texts of Spellings
------------------------------------------------------------

namespace DeclaredApi

namespace DeclaredType

/- The texts of phrases are spellings when each of them is. -/
theorem map_text_phrase
    {ts : List DeclaredType}
    (hText :
      ∀ t ∈ ts, t.Spellable → t.phrase.text = t.spelling)
    (hSpellable : AllSpellable ts) :
    (ts.map phrase).map Phrase.text = ts.map spelling := by
  rw [allSpellable_iff] at hSpellable
  rw [List.map_map]
  apply List.map_congr_left
  intro t ht
  exact hText t ht (hSpellable t ht)

/- Bounds are spelled between ampersands. -/
theorem text_bounded_phrase
    {relation : BoundRelation}
    {t : DeclaredType}
    {ts : List DeclaredType}
    (hText :
      ∀ u ∈ t :: ts, u.Spellable → u.phrase.text = u.spelling)
    (hSpellable : AllSpellable (t :: ts)) :
    (Phrase.bounded relation t.phrase (phraseAll ts)).text =
      "? " ++ relation.word ++ " " ++
        " & ".intercalate (spellingAll (t :: ts)) := by
  have hTexts := map_text_phrase hText hSpellable
  rw [List.map_cons, List.map_cons] at hTexts
  rw [Phrase.text, Phrase.textAll_eq_map, phraseAll_eq_map,
    spellingAll_eq_map, hTexts]

/- A spelling is the text of the phrase. -/
theorem text_phrase
    {t : DeclaredType}
    (hSpellable : t.Spellable) :
    t.phrase.text = t.spelling := by
  induction t using inductionOnRead with
  | named name dimensions parameters =>
      rw [phrase, Phrase.text_ofName_nil, spelling]
  | applied name dimensions parameters arguments ih =>
      rw [Spellable] at hSpellable
      rcases hSpellable with ⟨_, _, hSome, hArguments⟩
      have hTexts := map_text_phrase ih hArguments
      rw [phrase, phraseAll_eq_map, spelling, spellingAll_eq_map,
        ← hTexts]
      cases arguments with
      | nil => exact absurd rfl hSome
      | cons a as =>
          rw [List.map_cons, Phrase.text_ofName_cons]
  | arrayOf component ih =>
      rw [Spellable] at hSpellable
      have hNamed := isNamed_phrase hSpellable.2 hSpellable.1
      rw [phrase, Phrase.text_addDimensions 1 hNamed,
        ih hSpellable.2, spelling]
      rfl
  | unbounded => rw [phrase, Phrase.text, spelling]
  | bounded hReads ih =>
      rw [hReads.spellable_iff] at hSpellable
      rw [hReads.phrase_eq, hReads.spelling_eq,
        text_bounded_phrase ih hSpellable.2]
  | typeVariable name =>
      rw [phrase, Phrase.text_ofName_nil, spelling,
        Name.append_brackets_splitDimensions]
  | unsupported => simp [Spellable] at hSpellable

end DeclaredType

end DeclaredApi

------------------------------------------------------------
-- Grammatical Spellings
------------------------------------------------------------

namespace DeclaredApi

namespace DeclaredType

/- The phrases of a list are grammatical when each is. -/
theorem grammatical_of_mem_map_phrase
    {ts : List DeclaredType}
    (hEach :
      ∀ t ∈ ts, t.Spellable →
        (∀ v ∈ t.readVariables, Name.isBase v = true) →
          t.phrase.Grammatical)
    (hSpellable : AllSpellable ts)
    (hBase :
      ∀ v ∈ readVariablesAll ts, Name.isBase v = true) :
    ∀ p ∈ ts.map phrase, p.Grammatical := by
  rw [allSpellable_iff] at hSpellable
  intro p hp
  rcases List.mem_map.mp hp with ⟨t, ht, rfl⟩
  apply hEach t ht (hSpellable t ht)
  intro v hv
  exact hBase v (mem_readVariablesAll.mpr ⟨t, ht, hv⟩)

/- Plain types are the bounds of a grammatical phrase. -/
theorem grammatical_bounded_phrase
    {relation : BoundRelation}
    {t : DeclaredType}
    {ts : List DeclaredType}
    (hSpellable : AllSpellable (t :: ts))
    (hPlain : ∀ b ∈ t :: ts, b.isWildcard = false)
    (hEach : ∀ p ∈ (t :: ts).map phrase, p.Grammatical) :
    (Phrase.bounded relation t.phrase
      (phraseAll ts)).Grammatical := by
  have hNamed := isNamed_of_mem_map_phrase hSpellable hPlain
  rw [List.map_cons] at hNamed hEach
  rw [Phrase.Grammatical, Phrase.allGrammatical_iff,
    phraseAll_eq_map]
  exact ⟨hNamed, hEach _ List.mem_cons_self,
    fun p hp => hEach p (List.mem_cons_of_mem _ hp)⟩

/-
  A phrase is grammatical when the variables in it have
  names that a reference may have.
-/
theorem grammatical_phrase
    {t : DeclaredType}
    (hSpellable : t.Spellable)
    (hBase : ∀ v ∈ t.readVariables, Name.isBase v = true) :
    t.phrase.Grammatical := by
  induction t using inductionOnRead with
  | named name dimensions parameters =>
      rw [Spellable] at hSpellable
      rw [phrase]
      exact Phrase.grammatical_ofName dimensions hSpellable
        (fun _ => rfl) (fun p hp => absurd hp List.not_mem_nil)
  | applied name dimensions parameters arguments ih =>
      rw [Spellable] at hSpellable
      rw [readVariables] at hBase
      rcases hSpellable with
        ⟨hDotted, hReference, _, hArguments⟩
      rw [phrase, phraseAll_eq_map]
      apply Phrase.grammatical_ofName dimensions hDotted
      · intro hPrimitive
        rw [hReference] at hPrimitive
        cases hPrimitive
      · exact grammatical_of_mem_map_phrase ih hArguments hBase
  | arrayOf component ih =>
      rw [Spellable] at hSpellable
      rw [readVariables] at hBase
      rw [phrase]
      exact (ih hSpellable.2 hBase).addDimensions 1
  | unbounded =>
      rw [phrase, Phrase.Grammatical]
      trivial
  | bounded hReads ih =>
      rw [hReads.spellable_iff] at hSpellable
      rw [hReads.readVariables_eq] at hBase
      rcases hSpellable with ⟨hPlain, hBounds⟩
      rw [hReads.phrase_eq]
      apply grammatical_bounded_phrase hBounds hPlain
      exact grammatical_of_mem_map_phrase ih hBounds hBase
  | typeVariable name =>
      have hName : Name.isBase name = true :=
        hBase name (by rw [readVariables]; simp)
      rw [phrase]
      exact Phrase.grammatical_ofName _ hName (fun _ => rfl)
        (fun p hp => absurd hp List.not_mem_nil)
  | unsupported => simp [Spellable] at hSpellable

end DeclaredType

end DeclaredApi

------------------------------------------------------------
-- Nesting of Spellings
------------------------------------------------------------

namespace DeclaredApi

namespace DeclaredType

/- Phrases of a list nest no deeper than the types. -/
theorem nestingAll_map_phrase_le
    {ts : List DeclaredType}
    (hNesting : ∀ t ∈ ts, t.phrase.nesting ≤ t.nesting) :
    Phrase.nestingAll (ts.map phrase) ≤ nestingAll ts := by
  rw [Phrase.nestingAll_le_iff]
  intro p hp
  rcases List.mem_map.mp hp with ⟨t, ht, rfl⟩
  have hLe : t.nesting ≤ nestingAll ts :=
    (nestingAll_le_iff ts _).mp (Nat.le_refl _) t ht
  exact Nat.le_trans (hNesting t ht) hLe

/- The phrase of a declared type nests no deeper. -/
theorem nesting_phrase_le
    (t : DeclaredType) :
    t.phrase.nesting ≤ t.nesting := by
  induction t using inductionOnRead with
  | named name dimensions parameters =>
      simp [phrase, Phrase.ofName, Phrase.nesting]
  | applied name dimensions parameters arguments ih =>
      have hArguments := nestingAll_map_phrase_le ih
      rw [phrase, phraseAll_eq_map, nesting]
      cases arguments with
      | nil => simp [Phrase.ofName, Phrase.nesting]
      | cons a as =>
          rw [List.map_cons] at hArguments
          rw [List.map_cons, Phrase.ofName, Phrase.nesting]
          omega
  | arrayOf component ih =>
      rw [phrase, Phrase.nesting_addDimensions, nesting]
      exact ih
  | unbounded => simp [phrase, Phrase.nesting]
  | bounded hReads ih =>
      rw [hReads.phrase_eq, phraseAll_eq_map, Phrase.nesting,
        hReads.nesting_eq]
      exact nestingAll_map_phrase_le ih
  | typeVariable name =>
      simp [phrase, Phrase.ofName, Phrase.nesting]
  | unsupported => simp [phrase, Phrase.nesting]

/-
  The grammar reads the spelling of a type as the tree of
  its phrase wherever the limit allows for its nesting.
-/
theorem read_spelling
    {root : String}
    {limit : Nat}
    {t : DeclaredType}
    (hSpellable : t.Spellable)
    (hBase : ∀ v ∈ t.readVariables, Name.isBase v = true)
    (hNesting : t.nesting ≤ limit) :
    Signature.read root limit t.spelling =
      .ok (t.phrase.tree root) := by
  have hLimit : t.phrase.nesting ≤ limit :=
    Nat.le_trans (nesting_phrase_le t) hNesting
  rw [← text_phrase hSpellable]
  exact Signature.read_text
    (grammatical_phrase hSpellable hBase) hLimit

end DeclaredType

end DeclaredApi
