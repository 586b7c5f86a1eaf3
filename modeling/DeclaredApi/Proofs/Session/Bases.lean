import DeclaredApi.Proofs.Session.History
import DeclaredApi.Proofs.Signature.Applied
import DeclaredApi.Proofs.Structured.Bases

/-
  The two readers of bases.

  The base of an object loses its spaces before it is taken
  for a name, and the base of a text is split into tokens.  A
  base with blanks is read alike by both only if its blanks
  are all spaces and none of them divides a word.  Otherwise
  one of the two may read it where the other does not.

  Main declarations:
    * `Session.base_readers_agree_iff`
    * `Session.base_readers_differ`
-/

------------------------------------------------------------
-- Texts within the Limit
------------------------------------------------------------

namespace DeclaredApi

namespace Signature

variable {root : String}
variable {limit : Nat}

/- A meaning within the limit is derived by a phrase. -/
theorem Means.exists_derives
    {text : String}
    {r : TypeRef}
    (hMeans : Means root text r)
    (hNesting : r.nesting ≤ limit) :
    ∃ p : Phrase, p.Derives limit text ∧ p.tree root = r := by
  rcases hMeans with ⟨higher, hRead⟩
  rcases read_eq_ok_iff.mp hRead with ⟨p, hDerives, rfl⟩
  rw [Phrase.nesting_tree] at hNesting
  exact ⟨p, ⟨hDerives.lexemes_eq, hDerives.grammatical, hNesting⟩,
    rfl⟩

/- So are the meanings of several texts. -/
theorem exists_derivesAll
    {texts : List String}
    {rs : List TypeRef}
    (hMeans :
      List.Forall₂
        (fun text r => Means root text r ∧ r.nesting ≤ limit)
        texts rs) :
    ∃ ps : List Phrase,
      List.Forall₂ (fun text p => Phrase.Derives p limit text)
          texts ps ∧
        ps.map (Phrase.tree root) = rs := by
  induction hMeans with
  | nil => exact ⟨[], .nil, rfl⟩
  | cons hHere _ ih =>
      rcases hHere.1.exists_derives hHere.2 with
        ⟨p, hDerives, rfl⟩
      rcases ih with ⟨ps, hOthers, rfl⟩
      exact ⟨p :: ps, .cons hDerives hOthers, rfl⟩

end Signature

end DeclaredApi

------------------------------------------------------------
-- The Two Readers
------------------------------------------------------------

namespace DeclaredApi

namespace Session

variable {s : Session}
variable {base : String}
variable {texts : List String}
variable {rs : List TypeRef}

/-
  Texts are parsed as references that may become arguments
  of one more type.
-/
def AreArguments
    (s : Session)
    (texts : List String)
    (rs : List TypeRef) : Prop :=
  List.Forall₂
    (fun text r =>
      (parse text s).1 = .ok r ∧
        r.nesting < s.config.depthLimit)
    texts rs

/- They mean what they are parsed as. -/
theorem AreArguments.means
    (hReset : s.FollowsReset)
    (hTexts : s.AreArguments texts rs) :
    List.Forall₂
      (fun text r =>
        Signature.Means s.config.rootObject text r ∧
          r.nesting ≤ s.config.depthLimit - 1)
      texts rs := by
  have hKept := Interner.kept_sound s.config.rootObject
  apply hTexts.imp
  rintro text r ⟨hParse, hNesting⟩
  have hReturns :=
    Interner.returns_parse text hKept s.interner
      hReset.sound.interner
  exact ⟨hReturns.2 r hParse, Nat.le_sub_one_of_lt hNesting⟩

/- They are read alike at any time. -/
theorem AreArguments.readText
    (hReset : s.FollowsReset)
    (hTexts : s.AreArguments texts rs) :
    List.Forall₂
      (fun text r => Interner.readText s.config text = .ok r)
      texts rs := by
  apply (hTexts.means hReset).imp
  rintro text r ⟨hMeans, hNesting⟩
  rcases hMeans.exists_derives
      (Nat.le_trans hNesting (Nat.sub_le _ 1)) with
    ⟨p, hDerives, rfl⟩
  rw [Interner.readText, Signature.read_of_derives _ hDerives]

/- What an object with a base and texts is read as. -/
theorem readStructured_applied_eq_ok_iff
    {r : TypeRef}
    (path : String)
    (hReset : s.FollowsReset)
    (hQuestion : '?' ∉ base.toList)
    (hBracket : '[' ∉ base.toList)
    (hSome : texts ≠ [])
    (hTexts : s.AreArguments texts rs) :
    (readStructured path (Structured.applied base texts) s).1 =
        .ok r ↔
      Name.takesArguments (Text.withoutBlanks base) = true ∧
        Text.hasOnlySpaces base = true ∧
        r = .simple (Text.withoutBlanks base) 0 rs := by
  rw [readStructured, fst_onInterner, Structured.read_eq_ok_iff,
    Structured.readNode_applied_eq_ok_iff path s.interner
      hReset.sound.interner hQuestion hBracket hSome
      (hTexts.readText hReset),
    Name.takesArguments_withoutSpaces_iff, and_assoc]
  apply and_congr_right
  intro _
  apply and_congr_right
  intro hSpaces
  rw [Text.withoutSpaces_of_hasOnlySpaces hSpaces]

/- What the text of a base and texts is parsed as. -/
theorem parse_applied_eq_ok_iff
    {r : TypeRef}
    (hReset : s.FollowsReset)
    (hQuestion : '?' ∉ base.toList)
    (hLess : '<' ∉ base.toList)
    (hSome : texts ≠ [])
    (hTexts : s.AreArguments texts rs) :
    (parse (Signature.applied base texts) s).1 = .ok r ↔
      Name.takesArguments (Text.withoutBlanks base) = true ∧
        Name.isUndivided base = true ∧
        r = .simple (Text.withoutBlanks base) 0 rs := by
  have hRoom :
      s.config.depthLimit - 1 < s.config.depthLimit := by
    cases hTexts with
    | nil => exact absurd rfl hSome
    | cons hHere _ =>
        have hNesting := hHere.2
        omega
  rcases Signature.exists_derivesAll (hTexts.means hReset) with
    ⟨ps, hDerives, rfl⟩
  have hSomePhrase : ps ≠ [] := by
    rintro rfl
    cases hDerives
    exact hSome rfl
  rw [parse, fst_onInterner]
  exact Interner.parse_applied_eq_ok_iff
    hReset.sound.interner hQuestion hLess hSomePhrase hRoom
    hDerives

end Session

end DeclaredApi

------------------------------------------------------------
-- Agreement
------------------------------------------------------------

namespace DeclaredApi

namespace Session

/-
  Let a base have no marks of wildcards, arguments or arrays,
  and let some texts be parsed with room for one more level.
  An object with the base and the texts is read exactly if the
  base, without its blanks, names a type that takes arguments
  and its blanks are all spaces.  The text put together from
  them is parsed exactly if no blank divides a word instead.
  So the two agree exactly if, for a base that names such a
  type, the two conditions do.
-/
theorem base_readers_agree_iff
    {s : Session}
    {base : String}
    {texts : List String}
    {rs : List TypeRef}
    (path : String)
    (hReset : s.FollowsReset)
    (hQuestion : '?' ∉ base.toList)
    (hLess : '<' ∉ base.toList)
    (hBracket : '[' ∉ base.toList)
    (hSome : texts ≠ [])
    (hTexts : s.AreArguments texts rs) :
    let name := Text.withoutBlanks base
    let form := Structured.applied base texts
    let text := Signature.applied base texts
    (∀ r,
      (readStructured path form s).1 = .ok r ↔
        Name.takesArguments name = true ∧
          Text.hasOnlySpaces base = true ∧
          r = .simple name 0 rs) ∧
      (∀ r,
        (parse text s).1 = .ok r ↔
          Name.takesArguments name = true ∧
            Name.isUndivided base = true ∧
            r = .simple name 0 rs) ∧
      ((∀ r,
        (readStructured path form s).1 = .ok r ↔
          (parse text s).1 = .ok r) ↔
        (Name.takesArguments name = true →
          Text.hasOnlySpaces base = Name.isUndivided base)) := by
  intro name form text
  have hForm :
      ∀ r, (readStructured path form s).1 = .ok r ↔ _ := fun r =>
    readStructured_applied_eq_ok_iff (r := r) path hReset
      hQuestion hBracket hSome hTexts
  have hText : ∀ r, (parse text s).1 = .ok r ↔ _ := fun r =>
    parse_applied_eq_ok_iff (r := r) hReset hQuestion hLess
      hSome hTexts
  refine ⟨hForm, hText, ?_⟩
  constructor
  · intro hAgree hTakes
    have hHere := hAgree (.simple name 0 rs)
    rw [hForm, hText] at hHere
    rw [Bool.eq_iff_iff]
    simpa [name, hTakes] using hHere
  · intro hSame r
    rw [hForm, hText]
    apply and_congr_right
    intro hTakes
    rw [hSame hTakes]

/- Spaces at the ends of words are read over by both. -/
theorem base_readers_agree_iff_spaced :
    let s := (reset {}).2
    let base : String := " a . B"
    let texts := ["T", "? super a.C<T>"]
    let r : TypeRef :=
      .simple "a.B" 0
        [.named "T",
          .wildcard .lower [.simple "a.C" 0 [.named "T"]]]
    (readStructured "type" (Structured.applied base texts) s).1 =
        .ok r ∧
      (parse (Signature.applied base texts) s).1 = .ok r := by
  intro s base texts r
  have hTexts :
      s.AreArguments texts
        [.named "T",
          .wildcard .lower [.simple "a.C" 0 [.named "T"]]] := by
    have hFirst : (parse "T" s).1 = .ok (.named "T") :=
      Result.eq_ok_of_toOption (by decide +kernel)
    have hSecond :
        (parse "? super a.C<T>" s).1 =
          .ok (.wildcard .lower
            [.simple "a.C" 0 [.named "T"]]) :=
      Result.eq_ok_of_toOption (by decide +kernel)
    exact List.Forall₂.cons ⟨hFirst, by decide +kernel⟩
      (List.Forall₂.cons ⟨hSecond, by decide +kernel⟩
        List.Forall₂.nil)
  have hQuestion : '?' ∉ base.toList := by decide +kernel
  have hLess : '<' ∉ base.toList := by decide +kernel
  have hBracket : '[' ∉ base.toList := by decide +kernel
  have hReaders :=
    base_readers_agree_iff (s := s) "type"
      (followsReset_reset {}) hQuestion hLess hBracket
      (List.cons_ne_nil _ _) hTexts
  have hName : Text.withoutBlanks base = "a.B" := by
    decide +kernel
  rw [hName] at hReaders
  exact ⟨(hReaders.1 r).mpr
      ⟨by decide +kernel, by decide +kernel, rfl⟩,
    (hReaders.2.1 r).mpr
      ⟨by decide +kernel, by decide +kernel, rfl⟩⟩

/-
  A tab behind a dot is read over in a text and not in an
  object, and a space inside a word the other way round.
-/
theorem base_readers_differ :
    let s := (reset {}).2
    let tabbed : String := "a.\tB"
    let divided : String := "a b"
    ('?' ∉ tabbed.toList ∧
        '<' ∉ tabbed.toList ∧ '[' ∉ tabbed.toList) ∧
      ('?' ∉ divided.toList ∧
        '<' ∉ divided.toList ∧ '[' ∉ divided.toList) ∧
      s.FollowsReset ∧
      s.AreArguments ["T"] [.named "T"] ∧
      ((parse (Signature.applied tabbed ["T"]) s).1 =
          .ok (.simple "a.B" 0 [.named "T"]) ∧
        ¬ ∃ r,
          (readStructured "type"
            (Structured.applied tabbed ["T"]) s).1 = .ok r) ∧
      (readStructured "type"
          (Structured.applied divided ["T"]) s).1 =
        .ok (.simple "ab" 0 [.named "T"]) ∧
      ¬ ∃ r,
        (parse (Signature.applied divided ["T"]) s).1 =
          .ok r := by
  intro s tabbed divided
  have hTexts : s.AreArguments ["T"] [.named "T"] := by
    have hParsed : (parse "T" s).1 = .ok (.named "T") :=
      Result.eq_ok_of_toOption (by decide +kernel)
    exact List.Forall₂.cons ⟨hParsed, by decide +kernel⟩
      List.Forall₂.nil
  refine ⟨by decide +kernel, by decide +kernel,
    followsReset_reset {}, hTexts, ⟨?_, ?_⟩, ?_, ?_⟩
  · exact Result.eq_ok_of_toOption (by decide +kernel)
  · exact Result.not_exists_of_isOk (by decide +kernel)
  · exact Result.eq_ok_of_toOption (by decide +kernel)
  · exact Result.not_exists_of_isOk (by decide +kernel)

end Session

end DeclaredApi
