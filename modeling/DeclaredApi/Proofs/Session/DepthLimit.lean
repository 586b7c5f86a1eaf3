import DeclaredApi.Proofs.Session.History
import DeclaredApi.Proofs.Signature.Nesting

/-
  The depth limit of sessions.

  The grammar enforces the limit that is configured when it
  reads a text.  A text that is stored is not read again, so
  what was stored under a higher limit, or built without the
  grammar, may nest deeper.  It nests as deep as its text in
  any case.

  Main declarations:
    * `Session.Operation.StoresWithin`
    * `Session.depth_limit_unless_stored`
    * `Session.stored_text_exceeds_limit`
-/

------------------------------------------------------------
-- Depths after a History
------------------------------------------------------------

namespace DeclaredApi

namespace Session

/- Whatever is stored nests as deep as its text. -/
theorem levelled_run
    (start : Session)
    (ops : List Operation) :
    Interner.Levelled (fun _ => True)
      (run ops (reset start).2).interner :=
  interner_run start ops Interner.stores_levelled
    (Interner.levelled_empty _)

namespace Operation

/-
  An operation configures no higher limit, and stores what
  the grammar reads at most.
-/
def StoresWithin
    (limit : Nat) : Operation → Prop
| .configure config => config.depthLimit ≤ limit
| .intern _ _ => False
| .readStructured _ _ => False
| .resolve _ _ _ _ => False
| .describe _ _ => False
| .analyze _ _ _ => False
| _ => True

/- The limit that a session and all its references keep to. -/
abbrev Shallow (limit : Nat) : Session → Prop :=
  Satisfies
    (fun config => config.depthLimit ≤ limit)
    (Interner.Levelled (fun depth => depth ≤ limit))

/- Such an operation stores nothing that nests deeper. -/
theorem shallow_step
    {op : Operation}
    {limit : Nat}
    {s : Session}
    (hWithin : op.StoresWithin limit)
    (hShallow : Shallow limit s) :
    Shallow limit (op.step s) := by
  have hParse :
      ∀ text, Shallow limit (Session.parse text s).2 := by
    intro text
    have hRun :=
      Interner.parse_levelled s.config text hShallow.interner
        (fun _ hDepth => Nat.le_trans hDepth hShallow.config)
    exact ⟨hShallow.config, hRun.1⟩
  have hFresh :
      op = .reset →
        Interner.Levelled (fun depth => depth ≤ limit) {} :=
    fun _ => Interner.levelled_empty _
  cases op with
  | parse text => exact hParse text
  | parseValue value =>
      cases value with
      | str text => exact hParse text
      | null | bool _ | int _ | float _ | list _ | object _
      | foreign _ _ => exact ⟨hShallow.config, hShallow.interner⟩
  | intern _ _ | readStructured _ _ | resolve _ _ _ _
  | describe _ _ | analyze _ _ _ => exact hWithin.elim
  | configure config =>
      exact hShallow.step_of_not_mayStore nofun hFresh hWithin
  | _ => exact hShallow.step_of_not_mayStore nofun hFresh trivial

end Operation

theorem shallow_run
    {ops : List Operation}
    {limit : Nat}
    {s : Session}
    (hWithin : ∀ op ∈ ops, op.StoresWithin limit)
    (hShallow : Operation.Shallow limit s) :
    Operation.Shallow limit (run ops s) := by
  induction ops generalizing s with
  | nil => exact hShallow
  | cons op ops ih =>
      rw [run]
      apply ih fun other hOther =>
        hWithin other (List.mem_cons_of_mem op hOther)
      exact Operation.shallow_step
        (hWithin op List.mem_cons_self) hShallow

end Session

end DeclaredApi

------------------------------------------------------------
-- The Limit of Parsing
------------------------------------------------------------

namespace DeclaredApi

namespace Session

/-
  After any history, what is parsed nests as deep as its text
  and within the limit, unless the text is stored.  A deeper
  text that is not stored is refused.  No text is an
  exception if, since the reset, only parsing stored anything
  and the limit was never higher.
-/
theorem depth_limit_unless_stored
    (start : Session)
    (ops : List Operation) :
    let s := run ops (reset start).2
    let limit := s.config.depthLimit
    (∀ text r,
      (parse text s).1 = .ok r →
        Signature.Nests text r.nesting ∧
          (r.nesting ≤ limit ∨
            s.config.interns = true ∧
              s.interner.find? text = some r)) ∧
      (∀ text depth,
        Signature.Nests text depth →
          limit < depth →
            (s.config.interns = true →
              s.interner.find? text = none) →
              ∃ e, (parse text s).1 = .error e) ∧
      (start.config.depthLimit ≤ limit →
        (∀ op ∈ ops, op.StoresWithin limit) →
          ∀ text r,
            (parse text s).1 = .ok r → r.nesting ≤ limit) := by
  intro s limit
  have hParsed :
      ∀ text r,
        (parse text s).1 = .ok r →
          (r.WellFormed ∧ Signature.Nests text r.nesting) ∧
            (r.nesting ≤ limit ∨
              s.config.interns = true ∧
                s.interner.find? text = some r) := by
    intro text
    exact (Interner.parse_levelled _ text
      (levelled_run start ops) (fun _ _ => trivial)).2
  refine ⟨?_, ?_, ?_⟩
  · intro text r hOk
    exact ⟨(hParsed text r hOk).1.2, (hParsed text r hOk).2⟩
  · intro text depth hNests hDeep hMissing
    cases hRun : (parse text s).1 with
    | error e => exact ⟨e, rfl⟩
    | ok r =>
        rcases hParsed text r hRun with ⟨⟨_, hDepth⟩, hCases⟩
        have hSame := hDepth.unique hNests
        rcases hCases with hWithin | ⟨hInterns, hFind⟩
        · omega
        · rw [hMissing hInterns] at hFind
          cases hFind
  · intro hStart hWithin text r hOk
    have hShallow : Operation.Shallow limit s :=
      shallow_run hWithin ⟨hStart, Interner.levelled_empty _⟩
    rcases (hParsed text r hOk).2 with hLimit | ⟨_, hFind⟩
    · exact hLimit
    · exact (hShallow.interner.find? hFind).2.2

/- A reference with two levels of arguments, and its text. -/
def nestedReference : TypeRef :=
  .simple "a.A" 0 [.simple "a.B" 0 [.named "a.C"]]

def nestedText : String :=
  "a.A<a.B<a.C>>"

/- Parsing leaves the configuration as it is. -/
theorem config_parse
    (text : String)
    (s : Session) :
    (parse text s).2.config = s.config :=
  rfl

/- The limit is lowered after the text was parsed. -/
def loweredHistory (low : Config) : List Operation :=
  [.parse nestedText, .configure low]

/- A session whose limit is low from the start. -/
def lowSession (low : Config) : Session :=
  { config := low }

/- The stored text is an exception, another one is not. -/
theorem depth_limit_unless_stored_lowered :
    let low : Config := { depthLimit := 1 }
    let s := run (loweredHistory low) (reset {}).2
    let other : String := "a.A<a.B<a.D>>"
    (Signature.Nests nestedText nestedReference.nesting ∧
        (nestedReference.nesting ≤ s.config.depthLimit ∨
          s.config.interns = true ∧
            s.interner.find? nestedText =
              some nestedReference)) ∧
      (∃ e, (parse other s).1 = .error e) ∧
      ∀ text r,
        (parse text (run [.parse "a.A<a.B>"]
            (reset (lowSession low)).2)).1 = .ok r →
          r.nesting ≤ (run [.parse "a.A<a.B>"]
            (reset (lowSession low)).2).config.depthLimit := by
  intro low s other
  have hLowered :=
    depth_limit_unless_stored {} (loweredHistory low)
  have hParsed : (parse nestedText s).1 = .ok nestedReference :=
    Result.eq_ok_of_toOption (by decide +kernel)
  have hRead :
      Signature.read "java.lang.Object" 2 other =
        .ok (.simple "a.A" 0 [.simple "a.B" 0 [.named "a.D"]]) :=
    Result.eq_ok_of_toOption (by decide +kernel)
  have hOther : Signature.Nests other 2 :=
    (Signature.nests_of_read hRead).1
  refine ⟨hLowered.1 nestedText nestedReference hParsed, ?_, ?_⟩
  · exact hLowered.2.1 other 2 hOther (by decide +kernel)
      (fun _ => by decide +kernel)
  · have hLow :=
      depth_limit_unless_stored (lowSession low)
        [.parse "a.A<a.B>"]
    apply hLow.2.2
    · rw [run, run, Operation.step, config_parse]
      exact Nat.le_refl 1
    · simp [Operation.StoresWithin]

/- The form of the reference, which is read without a limit. -/
def nestedForm : Json :=
  .object
    [("base", .str "a.A"),
      ("parameters",
        .list
          [.object
            [("base", .str "a.B"),
              ("parameters", .list [.str "a.C"])]])]

/- A type that is resolved without a limit. -/
def nestedUse : DeclaredType :=
  .applied "a.A" 0 [] [.applied "a.B" 0 [] [.named "a.C" 0 []]]

/-
  A text that was parsed under a higher limit is parsed under
  a lower one, and so is the text of a reference that was
  read from a form or resolved.
-/
theorem stored_text_exceeds_limit :
    let low : Config := { depthLimit := 1 }
    let exceeds (s : Session) : Prop :=
      (parse nestedText s).1 = .ok nestedReference ∧
        s.config.depthLimit < nestedReference.nesting
    exceeds (run (loweredHistory low) (reset {}).2) ∧
      exceeds
        (run [.configure low, .readStructured "type" nestedForm]
          (reset {}).2) ∧
      exceeds
        (run
          [.configure low,
            .resolve { name := "a.X" } none false nestedUse]
          (reset {}).2) ∧
      ¬ ∃ r,
        (parse nestedText
          (run [.configure low] (reset {}).2)).1 =
          .ok r := by
  intro low exceeds
  refine ⟨⟨?_, by decide +kernel⟩, ⟨?_, by decide +kernel⟩,
    ⟨?_, by decide +kernel⟩, ?_⟩
  · exact Result.eq_ok_of_toOption (by decide +kernel)
  · exact Result.eq_ok_of_toOption (by decide +kernel)
  · exact Result.eq_ok_of_toOption (by decide +kernel)
  · rintro ⟨r, hOk⟩
    have hRefused :
        (parse nestedText
          (run [.configure low] (reset {}).2)).1.isOk =
          false := by
      decide +kernel
    rw [hOk] at hRefused
    cases hRefused

end Session

end DeclaredApi
