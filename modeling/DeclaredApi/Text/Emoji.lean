import DeclaredApi.Text.Blank
import DeclaredApi.Text.Case
import DeclaredApi.Text.Emoji.Flags
import DeclaredApi.Text.Emoji.Pictographs

/-
  Emoji that are written by name.

  A name between colons stands for the emoji of that name, in
  any case.  `-emoji` or `-text` after the name asks for one
  of its two presentations.  A code whose name is unknown is
  kept as it is, and its closing colon opens no other code.

  Key definitions include:
    * `Text.EmojiName`
    * `Text.emojiNames`
    * `Text.emoji?`
    * `Text.EmojiCode`
    * `Text.emojiCode?`
    * `Text.withEmoji`
-/

------------------------------------------------------------
-- Names
------------------------------------------------------------

namespace DeclaredApi

namespace Text

/- A name of an emoji; one with tones comes in skin tones. -/
structure EmojiName where
  name : String
  emoji : List Char
  hasTones : Bool
deriving DecidableEq, Repr

/- The number that upper-case hexadecimal digits write. -/
def codePoint (digits : List Char) : Nat :=
  digits.foldl
    (fun n c =>
      if c.isDigit then
        n * 16 + (c.toNat - '0'.toNat)
      else
        n * 16 + (c.toNat - 'A'.toNat + 10))
    0

/- The characters of code points that dashes join. -/
def pictograph (codes : String) : List Char :=
  (codes.splitOn "-").map (fun code =>
    Char.ofNat (codePoint code.toList))

/- The flag of a region, which is written by two symbols. -/
def flag (region : String) : List Char :=
  region.toList.map (fun c =>
    Char.ofNat (0x1F1E6 + (c.toNat - 'A'.toNat)))

/-
  The names in a list of entries, where `emoji` belongs to
  the entry that has been begun.
-/
def namesOf
    (emojiOf : String → List Char)
    (emoji : List Char) : List String → List EmojiName
| [] => []
| word :: rest =>
    match word.toList.reverse with
    | ':' :: code =>
        namesOf emojiOf
          (emojiOf (String.ofList code.reverse)) rest
    | '~' :: name =>
        ⟨String.ofList name.reverse, emoji, true⟩ ::
          namesOf emojiOf emoji rest
    | _ => ⟨word, emoji, false⟩ :: namesOf emojiOf emoji rest

/- The words of a text of lines. -/
def wordsOf (s : String) : List String :=
  (s.splitOn "\n").flatMap (fun line => line.splitOn " ")

/- The long form of the name of a flag. -/
def longFlagName (entry : EmojiName) : EmojiName :=
  { entry with name := "flag_for_" ++ entry.name }

/- All names. -/
def emojiNames : List EmojiName :=
  let flags := namesOf flag [] (wordsOf flagNames)
  namesOf pictograph [] (wordsOf pictographNames) ++
    flags ++ flags.map longFlagName

end Text

end DeclaredApi

------------------------------------------------------------
-- Skin Tones
------------------------------------------------------------

namespace DeclaredApi

namespace Text

/- The ends of names with a skin tone, and their modifiers. -/
def skinTones : List (String × Char) :=
  [("_light_skin_tone", Char.ofNat 0x1F3FB),
    ("_medium-light_skin_tone", Char.ofNat 0x1F3FC),
    ("_medium_skin_tone", Char.ofNat 0x1F3FD),
    ("_medium-dark_skin_tone", Char.ofNat 0x1F3FE),
    ("_dark_skin_tone", Char.ofNat 0x1F3FF)]

/- A modifier follows the first character of an emoji. -/
def withTone
    (tone : Char) : List Char → List Char
| c :: '\ufe0f' :: rest => c :: tone :: rest
| c :: rest => c :: tone :: rest
| [] => []

/- A name before an ending. -/
def before?
    (ending : String)
    (name : String) : Option String :=
  if ending.toList.isSuffixOf name.toList then
    some (String.ofList
      (name.toList.take (name.length - ending.length)))
  else
    none

/- The emoji of a name with a skin tone. -/
def tonedEmoji? (name : String) : Option (List Char) :=
  skinTones.findSome? (fun tone => do
    let plain ← before? tone.1 name
    let entry ← emojiNames.find? (fun entry =>
      entry.hasTones && entry.name = plain)
    pure (withTone tone.2 entry.emoji))

/- The emoji of a name. -/
def emoji? (name : String) : Option (List Char) :=
  match emojiNames.find? (fun entry => entry.name = name) with
  | some entry => some entry.emoji
  | none => tonedEmoji? name

end Text

end DeclaredApi

------------------------------------------------------------
-- Codes
------------------------------------------------------------

namespace DeclaredApi

namespace Text

/-
  A code for an emoji: its name, the selector of its
  presentation, and the characters after its first colon.
-/
structure EmojiCode where
  name : List Char
  selector : List Char
  size : Nat
deriving DecidableEq, Repr

/- The code that an opening colon before characters starts. -/
def emojiCode? : List Char → Option EmojiCode
| [] => none
| c :: rest =>
    if c = ':' then
      some ⟨[], [], 1⟩
    else if "-emoji:".toList.isPrefixOf (c :: rest) then
      some ⟨[], ['\ufe0f'], 7⟩
    else if "-text:".toList.isPrefixOf (c :: rest) then
      some ⟨[], ['\ufe0e'], 6⟩
    else if isBlank c then
      none
    else
      (emojiCode? rest).map (fun code =>
        { code with
          name := c :: code.name
          size := code.size + 1 })

/- The characters that a code stands for. -/
def EmojiCode.shown? (code : EmojiCode) : Option (List Char) :=
  (emoji? (lowerCase (String.ofList code.name))).map
    (fun emoji => emoji ++ code.selector)

/- A text with emoji in the place of their codes. -/
def withEmoji (chars : List Char) : List Char :=
  match chars with
  | [] => []
  | ':' :: rest =>
      match emojiCode? rest with
      | none => ':' :: withEmoji rest
      | some code =>
          code.shown?.getD (':' :: rest.take code.size) ++
            withEmoji (rest.drop code.size)
  | c :: rest => c :: withEmoji rest
termination_by chars.length
decreasing_by
  all_goals simp only [List.length_cons, List.length_drop]
  all_goals omega

end Text

end DeclaredApi
